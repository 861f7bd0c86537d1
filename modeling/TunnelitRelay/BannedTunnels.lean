import TunnelitRelay.Lockout
import TunnelitRelay.Ownership

namespace TunnelitRelay

open Concurrent

/-! # The tunnels of banned users

A ban stops the listeners it finds.  Nothing that starts a listener later asks
whether the owner of the row is banned.
-/

section Rows

variable [Externals] {portRange : UInt16 × UInt16} {allowed : Condition relay}

/-! ## A row keeps its identifier and its owner -/

/-- A row of the table after a call was there before under the same owner, or
has been created under a new identifier. -/
theorem Change.row_origin {choice : Choice} {db after : Database} {query : Query}
    (change : Change choice db query after) {row : TunnelRecord} (listed : row ∈ after.tunnels) :
    (∃ old ∈ db.tunnels, old.id = row.id ∧ old.userId = row.userId) ∨
      row.id = uuidToString choice.id ∧ choice.id ∈ query.draws choice := by
  cases change with
  | detached | deleted | closed => exact .inl ⟨row, (List.mem_filter.mp listed).1, rfl, rfl⟩
  | switched | edited =>
      obtain ⟨old, member, rfl⟩ := List.mem_map.mp listed
      refine .inl ⟨old, member, ?_⟩
      split <;> exact ⟨rfl, rfl⟩
  | opened named =>
      rcases List.mem_append.mp listed with old | new
      · exact .inl ⟨row, old, rfl, rfl⟩
      · rw [List.mem_singleton.mp new]
        exact .inr ⟨named, List.mem_singleton.mpr rfl⟩
  | _ => exact .inl ⟨row, listed, rfl, rfl⟩

/-- The rows a task has seen bear identifiers that have been drawn, and so does
every tunnel it has begun to start. -/
structure SawDrawn (drawn : List Uuid) (past : Past) : Prop where
  rows : ∀ row, SawRow past row → ∃ id ∈ drawn, row.id = uuidToString id
  tunnels : ∀ tunnel sender, Did past (.enterStartTunnelListener tunnel sender) () → tunnel.id ∈ drawn

omit [Externals] in
theorem SawRow.origin {op : Op} {result : op.Result} {past : Past} {row : TunnelRecord}
    (saw : SawRow (⟨op, result⟩ :: past) row) : SawRow past row ∨ SawRow [⟨op, result⟩] row := by
  rcases saw with ⟨id, rows, did, member⟩ | ⟨id, did⟩ | ⟨_, _, _, _, _, _, _, did⟩
  · rcases List.mem_cons.mp did with new | old
    · exact .inr (.inl ⟨id, rows, List.mem_singleton.mpr new, member⟩)
    · exact .inl (.inl ⟨id, rows, old, member⟩)
  · rcases List.mem_cons.mp did with new | old
    · exact .inr (.inr (.inl ⟨id, List.mem_singleton.mpr new⟩))
    · exact .inl (.inr (.inl ⟨id, old⟩))
  · rcases List.mem_cons.mp did with new | old
    · exact .inr (.inr (.inr ⟨_, _, _, _, _, _, _, List.mem_singleton.mpr new⟩))
    · exact .inl (.inr (.inr ⟨_, _, _, _, _, _, _, old⟩))

/-- A row returned by a query is in the table, or has just been drawn. -/
theorem SawRow.drawn {world after : World} {choice : Choice} {op : Op} {result : op.Result}
    {row : TunnelRecord} (executed : exec world choice op = some (after, result))
    (consistent : Consistent world.db world.drawn) (saw : SawRow [⟨op, result⟩] row) :
    ∃ id ∈ after.drawn, row.id = uuidToString id := by
  have stored (listed : row ∈ world.db.tunnels) : ∃ id ∈ after.drawn, row.id = uuidToString id := by
    obtain ⟨id, known, named⟩ := consistent.tunnelDrawn row listed
    exact ⟨id, exec_drawn executed known, named⟩
  rcases saw with ⟨id, rows, did, member⟩ | ⟨id, did⟩ | ⟨_, _, _, _, _, _, _, did⟩
  · cases List.mem_singleton.mp did
    obtain ⟨_, answer, _⟩ := exec_db executed
    have listed := Except.ok.inj (Choice.statement_ok answer.symm)
    rw [← listed, Db.oldestFirst, List.mem_insertionSort] at member
    exact stored (List.mem_filter.mp member).1
  · cases List.mem_singleton.mp did
    obtain ⟨_, answer, _⟩ := exec_db executed
    exact stored (List.mem_of_find?_eq_some (Except.ok.inj (Choice.statement_ok answer.symm)))
  · cases List.mem_singleton.mp did
    obtain ⟨rfl, answer, _⟩ := exec_db executed
    refine ⟨choice.id, List.mem_append_left _ (List.mem_singleton.mpr rfl), ?_⟩
    simp only [Query.run, Db.createTunnel, Database.write] at answer
    split at answer
    · rw [Except.ok.inj answer]
    · contradiction

theorem SawDrawn.more {drawn later : List Uuid} {past : Past} (saw : SawDrawn drawn past)
    (grows : drawn ⊆ later) : SawDrawn later past where
  rows := fun row seen => (saw.rows row seen).imp fun _ found => ⟨grows found.1, found.2⟩
  tunnels := fun tunnel sender did => grows (saw.tunnels tunnel sender did)

/-- Every listener is that of a tunnel whose identifier has been drawn. -/
theorem Reached.tasksDrawn {config : Config relay} (reached : Reached allowed portRange config) :
    ∀ tunnelId handle, config.state.tunnelTasks tunnelId = some handle → tunnelId ∈ config.state.drawn := by
  refine (@Reachable.maintain _ relay allowed
    (fun world => ∀ tunnelId handle, world.tunnelTasks tunnelId = some handle → tunnelId ∈ world.drawn)
    (fun world _ past => SawDrawn world.drawn past) _ _ ?_ ?_ ?_ ?_ reached).1
  · exact fun _ _ running => by simp [World.initial] at running
  · intro world job admitted holds accepted
    obtain ⟨sessions, rfl⟩ := accept_same accepted
    refine ⟨holds, ⟨fun row seen => ?_, fun _ _ did => absurd did did_nil⟩, fun _ _ saw => saw⟩
    rcases seen with ⟨_, _, did, _⟩ | ⟨_, did⟩ | ⟨_, _, _, _, _, _, _, did⟩ <;> exact absurd did did_nil
  · intro before task thread op next choice state result earlier holds each found head _ executed
    have grows := exec_drawn executed
    have own := each thread (List.mem_of_getElem? found)
    have permitted := (Reached.lawful earlier).call (List.mem_of_getElem? found) head
    refine ⟨fun tunnelId handle running => ?_, ⟨fun row seen => ?_, fun tunnel sender did => ?_⟩,
      fun _ _ saw => saw.more grows⟩
    · rcases tunnelTasks_origin executed running with ⟨old, _⟩ | rfl
      · exact grows (holds tunnelId handle old)
      · obtain ⟨tunnel, sender, entered, rfl, _⟩ := (permitted.2.2.general fun _ => id).1
        exact grows (own.tunnels tunnel sender entered)
    · rcases seen.origin with old | new
      · exact (own.rows row old).imp fun _ found => ⟨grows found.1, found.2⟩
      · exact new.drawn executed (Reached.consistent earlier)
    · rcases List.mem_cons.mp did with new | old
      · cases new
        obtain ⟨_, row, seen, parsed⟩ := (permitted.2.2.general fun _ => id).1
        obtain ⟨id, known, named⟩ := own.rows row seen
        rw [named, parseUuid_uuidToString, Option.some.injEq] at parsed
        exact grows (parsed ▸ known)
      · exact grows (own.tunnels tunnel sender old)
  · exact fun _ _ _ running => by simp [World.reboot, World.initial] at running

end Rows

section Bans

variable [Externals] {portRange : UInt16 × UInt16} {userId : String}

/-- A listener of one of the user's tunnels is running. -/
def Up (userId : String) (world : World) (tunnelId : Uuid) : Prop :=
  ∃ row ∈ world.db.tunnels, row.userId = some userId ∧ parseUuid row.id = some tunnelId ∧
    (world.tunnelTasks tunnelId).isSome = true

/-- No listener of any of the user's tunnels is running. -/
def Down (userId : String) (world : World) : Prop :=
  ∀ row ∈ world.db.tunnels, row.userId = some userId → ∀ tunnelId, parseUuid row.id = some tunnelId →
    world.tunnelTasks tunnelId = none

/-- Nobody lifts the ban. -/
def staysBanned (userId : String) : Check relay := fun _ _ _ op =>
  decide (op ≠ .db (.toggleUserBan userId false))

/-- No listener is put into the map for a row of a banned user, and a ban does
not fail to list the user's tunnels while one of them is running. -/
def startsUnbanned : Check relay := fun config _ (choice : Choice) op =>
  match op with
  | .insertTunnelTask tunnelId _ => config.state.db.tunnels.all fun row =>
      parseUuid row.id != some tunnelId || config.state.db.users.all fun user =>
        row.userId != some user.id || !user.isBanned
  | .db (.listTunnelsForUser userId) => (choice.refuses 0).isNone ||
      config.state.db.tunnels.all fun row => row.userId != some userId ||
        (parseUuid row.id).all fun tunnelId => (config.state.tunnelTasks tunnelId).isNone
  | _ => true

/-! ## One step -/

theorem down_iff {world : World} : Down userId world ↔ ∀ tunnelId, ¬ Up userId world tunnelId := by
  constructor
  · rintro down tunnelId ⟨row, listed, owner, parsed, running⟩
    rw [down row listed owner tunnelId parsed] at running
    contradiction
  · intro never row listed owner tunnelId parsed
    by_contra running
    exact never tunnelId ⟨row, listed, owner, parsed, Option.isSome_iff_ne_none.mpr running⟩

theorem Banned.kept {world after : World} {choice : Choice} {op : Op} {result : op.Result}
    (banned : Banned world.db userId) (executed : exec world choice op = some (after, result))
    (stays : op ≠ .db (.toggleUserBan userId false)) : Banned after.db userId := by
  obtain ⟨user, listed, named, isBanned⟩ := banned
  rcases exec_change executed with ⟨query, rfl, change, _⟩ | ⟨same, _⟩
  · generalize after.db = tables at change
    cases change with
    | registered => exact ⟨user, List.mem_append_left _ listed, named, isBanned⟩
    | @banned id switched =>
        refine ⟨_, List.mem_map_of_mem listed, ?_⟩
        by_cases hit : user.id = id
        · simp only [hit, beq_self_eq_true, if_true]
          refine ⟨hit ▸ named, ?_⟩
          cases switched with
          | true => rfl
          | false => exact absurd (by rw [← hit, named]) stays
        · simp only [beq_iff_eq, hit, if_false]
          exact ⟨named, isBanned⟩
    | _ => exact ⟨user, listed, named, isBanned⟩
  · exact ⟨user, same ▸ listed, named, isBanned⟩

/-- A listener of a banned user's tunnel was there before the step. -/
theorem Up.origin {config : Config relay} {thread : Thread relay} {after : World} {choice : Choice}
    {op : Op} {result : op.Result} {tunnelId : Uuid} (up : Up userId after tunnelId)
    (executed : exec config.state choice op = some (after, result))
    (drawn : ∀ tunnelId handle, config.state.tunnelTasks tunnelId = some handle →
      tunnelId ∈ config.state.drawn)
    (banned : Banned config.state.db userId)
    (checked : startsUnbanned config thread choice op = true) :
    Up userId config.state tunnelId ∧ op ≠ .removeTunnelTask tunnelId := by
  obtain ⟨row, listed, owner, parsed, running⟩ := up
  obtain ⟨handle, there⟩ := Option.isSome_iff_exists.mp running
  rcases tunnelTasks_origin executed there with ⟨old, kept⟩ | rfl
  · have runs : (config.state.tunnelTasks tunnelId).isSome = true := by rw [old]; rfl
    refine ⟨?_, kept⟩
    rcases exec_change executed with ⟨query, rfl, change, _, fresh⟩ | ⟨same, _⟩
    · rcases change.row_origin listed with ⟨earlier, member, named, owned⟩ | ⟨named, new⟩
      · exact ⟨earlier, member, owned.trans owner, named ▸ parsed, runs⟩
      · -- A row just created has an identifier under which nothing runs.
        rw [named, parseUuid_uuidToString, Option.some.injEq] at parsed
        exact absurd (parsed ▸ drawn tunnelId handle old) (fresh choice.id new)
    · exact ⟨row, same ▸ listed, owner, parsed, runs⟩
  · cases executed
    obtain ⟨user, known, rfl, isBanned⟩ := banned
    have asked := List.all_eq_true.mp checked row listed
    simp only [parsed, bne_self_eq_false, Bool.false_or] at asked
    have free := List.all_eq_true.mp asked user known
    simp [owner, isBanned] at free

/-! ## The ban and what follows it -/

/-- What the ban has listed covers every listener of the user's that is still
running, and the ban has yet to stop it. -/
def Clearing (userId : String) (world : World) (past : Past) : Prop :=
  ∀ rows, Did past (.db (.listTunnelsForUser userId)) rows → ∀ tunnelId, Up userId world tunnelId →
    (∃ row ∈ rowsOrNone rows, parseUuid row.id = some tunnelId) ∧ ¬ Did past (.removeTunnelTask tunnelId) ()

/-- The user's listeners are down, or the ban is still taking them down. -/
def Falling (userId : String) (task : Nat) (config : Config relay) : Prop :=
  Down userId config.state ∨ ∃ thread, config.threads[task]? = some thread ∧
    (∃ headers, thread.job = .adminBanUser userId headers) ∧
    (∃ result, Did thread.past (.db (.toggleUserBan userId true)) result) ∧
    Clearing userId config.state thread.past

/-- The ban itself performs its next operation. -/
theorem Clearing.own {before : Config relay} {thread : Thread relay} {after : World}
    {choice : Choice} {op : Op} {result : op.Result} (clearing : Clearing userId before.state thread.past)
    (permitted : Permitted thread.job thread.past thread.held op)
    (executed : exec before.state choice op = some (after, result))
    (origin : ∀ tunnelId, Up userId after tunnelId →
      Up userId before.state tunnelId ∧ op ≠ .removeTunnelTask tunnelId)
    (checked : startsUnbanned before thread choice op = true) :
    Clearing userId after (⟨op, result⟩ :: thread.past) := by
  intro rows did tunnelId up
  obtain ⟨was, kept⟩ := origin tunnelId up
  have unstopped (old : ¬ Did thread.past (.removeTunnelTask tunnelId) ()) :
      ¬ Did (⟨op, result⟩ :: thread.past) (.removeTunnelTask tunnelId) () := by
    intro did
    rcases List.mem_cons.mp did with new | earlier
    · exact kept (congrArg Sigma.fst new).symm
    · exact old earlier
  rcases List.mem_cons.mp did with new | old
  · cases new
    have law := (permitted.general fun _ => id).1
    obtain ⟨_, answer, _⟩ := exec_db executed
    refine ⟨?_, unstopped (law.2 tunnelId)⟩
    obtain ⟨row, listed, owner, parsed, running⟩ := was
    rcases Bool.or_eq_true _ _ |>.mp checked with accepted | down
    · refine ⟨row, ?_, parsed⟩
      rw [answer]
      simp only [Query.run, Db.listTunnelsForUser, Choice.statement, Option.isNone_iff_eq_none.mp accepted,
        rowsOrNone, Db.oldestFirst, List.mem_insertionSort, List.mem_filter]
      exact ⟨listed, by simp [owner]⟩
    · have idle := List.all_eq_true.mp down row listed
      simp only [owner, bne_self_eq_false, Bool.false_or, parsed, Option.all_some,
        Option.isNone_iff_eq_none] at idle
      rw [idle] at running
      contradiction
  · obtain ⟨found, pending⟩ := clearing rows old tunnelId was
    exact ⟨found, unstopped pending⟩

theorem Falling.call {task other : Nat} {before after : Config relay} {thread : Thread relay}
    {choice : Choice} {op : Op} {result : op.Result} (falling : Falling userId task before)
    (reached : Reached anyStep portRange before) (banned : Banned before.state.db userId)
    (checked : startsUnbanned before thread choice op = true)
    (called : Called before other thread choice op result after) : Falling userId task after := by
  have executed : exec before.state choice op = some (after.state, result) := called.executed
  have origin (tunnelId : Uuid) (up : Up userId after.state tunnelId) :=
    up.origin executed reached.tasksDrawn banned checked
  rcases falling with down | ⟨banner, there, ⟨headers, request⟩, ⟨answer, did⟩, clearing⟩
  · exact .inl (down_iff.mpr fun tunnelId up => down_iff.mp down tunnelId (origin tunnelId up).1)
  · right
    by_cases here : task = other
    · subst here
      rw [called.found, Option.some.injEq] at there
      subst there
      obtain ⟨later, found, job, _, past⟩ := called.self
      refine ⟨later, found, ⟨headers, job.trans request⟩, ⟨answer, past ▸ List.mem_cons_of_mem _ did⟩, ?_⟩
      rw [past]
      exact clearing.own (called.law reached.lawful).2.2 executed origin checked
    · refine ⟨banner, called.other there here, ⟨headers, request⟩, ⟨answer, did⟩, ?_⟩
      exact fun rows listed tunnelId up => clearing rows listed tunnelId (origin tunnelId up).1

theorem Falling.step {task : Nat} {before after : Config relay} {action : Action relay}
    (falling : Falling userId task before) (reached : Reached anyStep portRange before)
    (banned : Banned before.state.db userId) (starts : startsUnbanned.condition before action)
    (step : Step before action after) : Falling userId task after := by
  -- A step that is no operation leaves the tables, the listeners and the pasts alone.
  have still {after : Config relay} (same : before.SameTasks after)
      (tables : after.state.db = before.state.db)
      (listeners : after.state.tunnelTasks = before.state.tunnelTasks) : Falling userId task after := by
    have up {tunnelId : Uuid} : Up userId after.state tunnelId ↔ Up userId before.state tunnelId := by
      rw [Up, Up, tables, listeners]
    rcases falling with down | ⟨banner, there, ⟨headers, request⟩, ⟨answer, did⟩, clearing⟩
    · exact .inl (down_iff.mpr fun tunnelId => up.not.mpr (down_iff.mp down tunnelId))
    · obtain ⟨later, found, job, past⟩ := same.kept task banner there
      refine .inr ⟨later, found, ⟨headers, job.trans request⟩, ⟨answer, past ▸ did⟩, ?_⟩
      rw [past]
      exact fun rows listed tunnelId rises => clearing rows listed tunnelId (up.mp rises)
  cases step with
  | start admitted =>
      obtain ⟨sessions, rfl⟩ := accept_same admitted
      exact still .start rfl rfl
  | @call other thread op next choice state result found head executed =>
      exact falling.call reached banned (starts thread op next found head) ⟨found, executed, _, head, rfl⟩
  | acquire found head free => exact still (.replace found) rfl rfl
  | release found head => exact still (.replace found) rfl rfl
  | reboot => exact .inl fun _ _ _ _ _ => rfl

/-- Nothing of a banned user's comes up in a step. -/
theorem Up.before {before after : Config relay} {action : Action relay} {tunnelId : Uuid}
    (up : Up userId after.state tunnelId) (reached : Reached anyStep portRange before)
    (banned : Banned before.state.db userId) (starts : startsUnbanned.condition before action)
    (step : Step before action after) : Up userId before.state tunnelId := by
  cases step with
  | start admitted =>
      obtain ⟨sessions, rfl⟩ := accept_same admitted
      exact up
  | @call other thread op next choice state result found head executed =>
      exact (up.origin executed reached.tasksDrawn banned (starts thread op next found head)).1
  | acquire | release => exact up
  | reboot =>
      obtain ⟨_, _, _, _, running⟩ := up
      contradiction

theorem Banned.step {before after : Config relay} {action : Action relay}
    (banned : Banned before.state.db userId) (stays : (staysBanned userId).condition before action)
    (step : Step before action after) :
    Banned after.state.db userId := by
  cases step with
  | start admitted =>
      obtain ⟨sessions, rfl⟩ := accept_same admitted
      exact banned
  | @call other thread op next choice state result found head executed =>
      exact banned.kept executed (of_decide_eq_true (stays thread op next found head))
  | acquire | release => exact banned
  | reboot => exact banned

theorem Falling.steps {task : Nat} {first last : Config relay}
    (falling : Falling userId task first) (reached : Reached anyStep portRange first)
    (banned : Banned first.state.db userId)
    (steps : Steps (fun config action => (staysBanned userId).condition config action ∧
      startsUnbanned.condition config action) first last) :
    Falling userId task last ∧ Reached anyStep portRange last ∧ Banned last.state.db userId := by
  induction steps with
  | refl => exact ⟨falling, reached, banned⟩
  | tail _ next ih =>
      obtain ⟨action, ⟨stays, starts⟩, step⟩ := next
      exact ⟨ih.1.step ih.2.1 ih.2.2 starts step, ih.2.1.tail ⟨action, trivial, step⟩,
        ih.2.2.step stays step⟩

/-- A ban that has been answered has taken the user's listeners down. -/
theorem Falling.completed {task : Nat} {config : Config relay} {thread : Thread relay}
    (falling : Falling userId task config) (reached : Reached anyStep portRange config)
    (there : config.threads[task]? = some thread) (finished : thread.finished) : Down userId config.state := by
  rcases falling with down | ⟨banner, found, ⟨headers, request⟩, ⟨answer, did⟩, clearing⟩
  · exact down
  · obtain rfl : thread = banner := Option.some.inj (there.symm.trans found)
    obtain ⟨reply, returned⟩ := finished
    have obeys := reached.lawful thread (List.mem_of_getElem? there)
    rw [returned] at obeys
    obtain ⟨_, _, _, stopped⟩ := obeys
    obtain ⟨rows, listed, all⟩ := stopped userId headers request answer did
    refine down_iff.mpr fun tunnelId up => ?_
    obtain ⟨⟨row, member, parsed⟩, pending⟩ := clearing rows listed tunnelId up
    exact pending (all row member tunnelId parsed)

/-- From the moment a ban of a registered user takes effect, in every run in
which it does not fail to list the user's tunnels and no listener is started for
a banned user, no listener of the user's runs in any state between the ban's
answer and the end of the ban. -/
theorem banned_stay_down {before flagged first last : Config relay} {task : Nat}
    {thread banner : Thread relay} {choice : Choice} {headers : HeaderMap}
    (reached : Reached anyStep portRange before)
    (registered : ∃ user ∈ before.state.db.users, user.id = userId)
    (request : thread.job = .adminBanUser userId headers)
    (bans : Called before task thread choice (.db (.toggleUserBan userId true)) (.ok ()) flagged)
    (meanwhile : Steps (fun config action => (staysBanned userId).condition config action ∧
      startsUnbanned.condition config action) flagged first)
    (there : first.threads[task]? = some banner) (completed : banner.finished)
    (afterwards : Steps (fun config action => (staysBanned userId).condition config action ∧
      startsUnbanned.condition config action) first last) : Down userId last.state := by
  have executed : exec before.state choice (.db (.toggleUserBan userId true)) =
      some (flagged.state, .ok ()) := bans.executed
  have later : Reached anyStep portRange flagged := reached.tail ⟨_, trivial, bans.step⟩
  have banned : Banned flagged.state.db userId := by
    obtain ⟨user, listed, named⟩ := registered
    obtain ⟨effect, answer, _⟩ := exec_db executed
    rw [effect]
    simp only [Query.run, Db.toggleUserBan, Database.write] at answer ⊢
    split at answer
    · rename_i tables written
      cases Choice.statement_ok written
      exact ⟨_, List.mem_map_of_mem listed, by simp [named], by simp [named]⟩
    · contradiction
  have falling : Falling userId task flagged := by
    obtain ⟨thread', found, job, _, past⟩ := bans.self
    have law := (bans.law reached.lawful).2.2.general fun _ => id
    refine .inr ⟨thread', found, ⟨headers, job.trans request⟩, ⟨.ok (), past ▸ List.mem_cons_self⟩, ?_⟩
    intro rows did
    rw [past] at did
    rcases List.mem_cons.mp did with new | old
    · cases new
    · exact absurd old (law.1 rfl rows)
  obtain ⟨falling, reached, banned⟩ := falling.steps later banned meanwhile
  -- Once the listeners are down, there is nothing left for the ban to take down.
  have down := falling.completed reached there completed
  have idle : Down userId last.state ∧ Reached anyStep portRange last ∧ Banned last.state.db userId := by
    induction afterwards with
    | refl => exact ⟨down, reached, banned⟩
    | tail _ next ih =>
        obtain ⟨action, ⟨stays, starts⟩, step⟩ := next
        refine ⟨down_iff.mpr fun tunnelId up => ?_, ih.2.1.tail ⟨action, trivial, step⟩, ih.2.2.step stays step⟩
        exact down_iff.mp ih.1 tunnelId (up.before ih.2.1 ih.2.2 starts step)
  exact idle.1

end Bans

/-- Alice's agent is connected and her tunnel runs; the administrator signs in. -/
def aliceOnline : List (Job × Choice) :=
  [(.register { username := "alice", password := "secret" }, answer 1 0),
    (.generateAgentToken (signedIn 1), answer 2 0),
    (.connect 0, answer 3 0),
    (.frame 0 (.message (.auth (Db.agentToken (answer 2 0)) "laptop")), answer 4 0),
    (.createTunnel (signedIn 1) (webTunnel 4), answer 5 0),
    (.adminLogin adminPassword, answer 6 0)]

/-- The administrator bans Alice. -/
def banAlice : Job :=
  .adminBanUser (uuidToString 2) [("x-session-token", some (adminToken 13))]

/-- The next move of the task is the operation. -/
def isAbout (op : Op) (thread : Thread relay) : Bool :=
  match thread.rest with
  | .call next _ => decide (next = op)
  | _ => false

theorem head_of_isAbout {op : Op} {thread : Thread relay} (about : isAbout op thread = true) :
    ∃ next, thread.rest = .call op next := by
  unfold isAbout at about
  split at about
  · rename_i next head
    obtain rfl := of_decide_eq_true about
    exact ⟨_, head⟩
  · contradiction

/-- After the turns the task stands before the operation, and performs it. -/
theorem newRelay_called {check : Check relay} {turns : List (Turn relay)} {task : Nat} {choice : Choice} {op : Op}
    {facts : Config relay → Thread relay → Config relay → Bool}
    (passed : (relay.follow check 200 turns ⟨newRelay, []⟩).any (fun before =>
      (before.threads[task]?).any fun thread =>
        isAbout op thread && (before.move check task choice).any (facts before thread)) = true) :
    ∃ (before after : Config relay) (thread : Thread relay) (result : op.Result),
      Reached check.condition (10000, 60000) before ∧ check.condition before (.call task choice) ∧
      Called before task thread choice op result after ∧ facts before thread after = true := by
  obtain ⟨before, reached, stands⟩ := newRelay_follow passed
  obtain ⟨thread, there, stands⟩ := (Option.any_eq_true _ _).mp stands
  obtain ⟨about, moves⟩ := (Bool.and_eq_true _ _).mp stands
  obtain ⟨after, moved, tested⟩ := (Option.any_eq_true _ _).mp moves
  obtain ⟨next, head⟩ := head_of_isAbout about
  obtain ⟨permitted, result, called⟩ := Config.move_called moved there head
  exact ⟨before, after, thread, result, reached, permitted, called, tested⟩

/-- Alice is banned by the task 6, which then runs to its end, and more happens
after that. -/
theorem aliceBanned {check : Check relay} {late : List (Turn relay)} {test : World → Bool}
    (passed : (relay.follow (fun _ _ _ _ => true) 200 (inOrder aliceOnline ++ [.start banAlice,
        .move 6 (answer 7 0), .move 6 (answer 7 0), .move 6 (answer 7 0), .move 6 (answer 7 0)])
      ⟨newRelay, []⟩).any (fun before => (before.threads[6]?).any fun thread =>
        isAbout (.db (.toggleUserBan (uuidToString 2) true)) thread &&
          (before.move (fun _ _ _ _ => true) 6 (answer 7 0)).any fun flagged => decide (thread.job = banAlice) &&
            before.state.db.users.any (·.id == uuidToString 2) &&
            (relay.follow check 200 [.finish 6 (answer 7 0)] flagged).any fun first =>
              ((first.threads[6]?).any fun banner => banner.isFinished) &&
              (relay.follow check 200 late first).any fun last => test last.state) = true) :
    ∃ before flagged first last : Config relay, ∃ thread banner : Thread relay,
      ∃ headers, Reached anyStep (10000, 60000) before ∧
      (∃ user ∈ before.state.db.users, user.id = uuidToString 2) ∧
      thread.job = .adminBanUser (uuidToString 2) headers ∧
      Called before 6 thread (answer 7 0) (.db (.toggleUserBan (uuidToString 2) true)) (.ok ()) flagged ∧
      Steps check.condition flagged first ∧ first.threads[6]? = some banner ∧ banner.finished ∧
      Steps check.condition first last ∧ test last.state = true := by
  obtain ⟨before, flagged, thread, result, reached, _, called, facts⟩ := newRelay_called passed
  simp only [Bool.and_eq_true, decide_eq_true_eq] at facts
  obtain ⟨⟨asks, registered⟩, later⟩ := facts
  obtain ⟨first, meanwhile, later⟩ := (Option.any_eq_true _ _).mp later
  obtain ⟨ended, later⟩ := (Bool.and_eq_true _ _).mp later
  obtain ⟨banner, found, finished⟩ := (Option.any_eq_true _ _).mp ended
  obtain ⟨last, afterwards, tested⟩ := (Option.any_eq_true _ _).mp later
  obtain ⟨user, listed, named⟩ := List.any_eq_true.mp registered
  have executed : exec before.state (answer 7 0) (.db (.toggleUserBan (uuidToString 2) true)) =
      some (flagged.state, result) := called.executed
  have accepted : result = .ok () := (exec_db executed).2.1
  subst accepted
  exact ⟨before, flagged, first, last, thread, banner, _, reached.weaken fun _ _ _ => trivial,
    ⟨user, listed, eq_of_beq named⟩, asks, called, System.follow_steps meanwhile, found,
    Thread.isFinished_iff.mp finished,
    System.follow_steps afterwards, tested⟩

/-- Alice is banned while her tunnel runs, and does nothing more. -/
theorem banned_stay_down_idle :
    ∃ world : World, (Banned world.db (uuidToString 2) ∧ world.db.tunnels.length = 1) ∧
      Down (uuidToString 2) world := by
  obtain ⟨before, flagged, first, last, thread, banner, headers, reached, registered, request, bans, meanwhile,
      there, completed, afterwards, tested⟩ := @aliceBanned (fun config thread choice op =>
        staysBanned (uuidToString 2) config thread choice op && startsUnbanned config thread choice op)
    [.start (.connect 1)] (fun world => decide ((∃ user ∈ world.db.users, user.id = uuidToString 2 ∧
      user.isBanned = true) ∧ world.db.tunnels.length = 1)) (by decide +kernel)
  have banned : (∃ user ∈ last.state.db.users, user.id = uuidToString 2 ∧ user.isBanned = true) ∧
      last.state.db.tunnels.length = 1 := of_decide_eq_true tested
  exact ⟨last.state, banned, banned_stay_down reached registered request bans
    (Steps.weaken meanwhile fun _ _ both => Check.condition_and both) there completed
    (Steps.weaken afterwards fun _ _ both => Check.condition_and both)⟩

/-- After the ban somebody switches Alice's tunnel off and on again. -/
theorem banned_comes_up :
    ¬ ∀ (before flagged first last : Config relay) (task : Nat) (thread banner : Thread relay) (choice : Choice)
      (headers : HeaderMap) (userId : String), Reached anyStep (10000, 60000) before →
      (∃ user ∈ before.state.db.users, user.id = userId) → thread.job = .adminBanUser userId headers →
      Called before task thread choice (.db (.toggleUserBan userId true)) (.ok ()) flagged →
      Steps (staysBanned userId).condition flagged first → first.threads[task]? = some banner →
      banner.finished → Steps (staysBanned userId).condition first last → Down userId last.state := by
  obtain ⟨before, flagged, first, last, thread, banner, headers, reached, registered, request, bans, meanwhile,
      there, completed, afterwards, tested⟩ := @aliceBanned (staysBanned (uuidToString 2))
    [.start (.toggleTunnel (uuidToString 10)), .finish 7 (answer 0 0),
      .start (.toggleTunnel (uuidToString 10)), .finish 8 (answer 0 0)]
    (fun world => decide (∃ row ∈ world.db.tunnels, row.userId = some (uuidToString 2) ∧
      parseUuid row.id = some 10 ∧ (world.tunnelTasks 10).isSome = true)) (by decide +kernel)
  obtain ⟨row, listed, owner, parsed, running⟩ := of_decide_eq_true tested
  intro always
  have down := always before flagged first last 6 thread banner _ headers _ reached registered request bans
    meanwhile there completed afterwards row listed owner 10 parsed
  exact Option.isSome_iff_ne_none.mp running down

end TunnelitRelay
