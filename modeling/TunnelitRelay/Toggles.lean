import TunnelitRelay.Concurrent.History
import TunnelitRelay.Ownership
import TunnelitRelay.Results
import TunnelitRelay.Standard

namespace TunnelitRelay

open Concurrent Program

/-! # Requests that toggle one tunnel

A toggle reads the row, writes the negation of the flag it has read and then
starts or stops the listener.  Where no toggle reads the row while another one
is at work, each negates the flag once and leaves the listener as the flag says.
-/

section Runs

variable [Externals] {id : String} {row : TunnelRecord} {tunnelId agentId : Uuid} {sender : Option Channel}
  {past : Past}

/-! ## What the text of the handler does -/

/-- The toggle has read the row, written the negated flag and looked up the agent. -/
structure Begun (id : String) (past : Past) (row : TunnelRecord) (tunnelId agentId : Uuid)
    (sender : Option Channel) : Prop where
  named : parseUuid row.id = some tunnelId
  owned : parseUuid row.agentId = some agentId
  order : ∃ more result, past = more ++ [⟨.agentSender agentId, sender⟩,
    ⟨.db (.setTunnelEnabled id (!row.enabled)), result⟩, ⟨.db (.getTunnelById id), .ok (some row)⟩] ∧
      (∀ event ∈ more, ∀ query, event.1 ≠ Op.db query) ∧
      ∀ agentId sender, ¬ Did more (.agentSender agentId) sender

/-- The listener has been stopped or started as the flag written says, unless
there is no agent or the port could not be bound. -/
def Switched (past : Past) (row : TunnelRecord) (tunnelId : Uuid) (sender : Option Channel) : Prop :=
  if row.enabled then Did past (.removeTunnelTask tunnelId) ()
  else ∀ channel, sender = some channel → (∃ handle, Did past (.insertTunnelTask tunnelId handle) ()) ∨
    ∃ transport port error, Did past (.bind transport port) (.error error)

/-- The toggle has done all it does to the tunnel. -/
def Toggled (id : String) (past : Past) : Prop :=
  ∃ row tunnelId agentId sender, Begun id past row tunnelId agentId sender ∧ Switched past row tunnelId sender

def toggling (id : String) : Law relaySignature := fun past _ move =>
  match move with
  | .call (.db (.getTunnelById other)) => other = id ∧ past = []
  | .call (.db (.setTunnelEnabled other enabled)) => other = id ∧ ∃ row,
      past = [⟨.db (.getTunnelById id), .ok (some row)⟩] ∧ enabled = !row.enabled
  | .call (.db _) => False
  | .call (.agentSender agentId) => ∃ row tunnelId result, parseUuid row.id = some tunnelId ∧
      parseUuid row.agentId = some agentId ∧ past = [⟨.db (.setTunnelEnabled id (!row.enabled)), result⟩,
        ⟨.db (.getTunnelById id), .ok (some row)⟩]
  | .call (.removeTunnelTask tunnelId) =>
      (∃ row agentId sender, Begun id past row tunnelId agentId sender) ∧ ¬ Toggled id past
  | .call (.insertTunnelTask tunnelId _) =>
      (∃ row agentId sender, Begun id past row tunnelId agentId sender ∧ row.enabled = false) ∧
        ¬ Toggled id past
  | .call (.insertAgentSender ..) => False
  | .call (.removeAgentSender _) => False
  | .call _ => ∃ row tunnelId agentId sender, Begun id past row tunnelId agentId sender
  | _ => True

/-- How a toggle ends: it has found no row with proper identifiers, or has done its work. -/
def TogglesOrFails (id : String) (past : Past) : Prop :=
  Toggled id past ∨ ∃ result, past = [⟨.db (.getTunnelById id), result⟩] ∧ ∀ row tunnelId agentId,
    result = .ok (some row) → parseUuid row.id = some tunnelId → parseUuid row.agentId ≠ some agentId

def toggleContract (id : String) : Contract relay where
  law := fun job past held move => job = .toggleTunnel id → toggling id past held move
  answer := fun job past _ _ => job = .toggleTunnel id → TogglesOrFails id past

theorem Begun.more (begun : Begun id past row tunnelId agentId sender) {op : Op} {result : op.Result}
    (outside : ∀ query, op ≠ .db query) (other : ∀ agentId, op ≠ .agentSender agentId) :
    Begun id (⟨op, result⟩ :: past) row tunnelId agentId sender := by
  obtain ⟨more, written, rfl, clean, once⟩ := begun.order
  refine ⟨begun.named, begun.owned, ⟨op, result⟩ :: more, written, rfl, ?_, ?_⟩
  · intro event member
    rcases List.mem_cons.mp member with rfl | old
    · exact outside
    · exact clean event old
  · intro agent found did
    rcases List.mem_cons.mp did with same | old
    · cases same
      exact other agent rfl
    · exact once agent found old

/-- What a toggle has read and found is one row and one channel. -/
theorem Begun.same {later : TunnelRecord} {other other' : Uuid} {found : Option Channel}
    (begun : Begun id past row tunnelId agentId sender) (again : Begun id past later other other' found) :
    row = later ∧ tunnelId = other ∧ agentId = other' ∧ sender = found := by
  obtain ⟨_, _, first, _⟩ := begun.order
  obtain ⟨_, _, second, _⟩ := again.order
  have tails := (List.append_inj' (first.symm.trans second) rfl).2
  simp only [List.cons.injEq, Sigma.mk.injEq, Op.agentSender.injEq, and_true] at tails
  obtain ⟨⟨rfl, found⟩, _, _, read⟩ := tails
  cases found
  cases read
  exact ⟨rfl, Option.some.inj (begun.named.symm.trans again.named), rfl, rfl⟩

theorem Begun.unfinished (begun : Begun id past row tunnelId agentId sender)
    (idle : ¬ Switched past row tunnelId sender) : ¬ Toggled id past := by
  rintro ⟨_, _, _, _, again, switched⟩
  obtain ⟨rfl, rfl, rfl, rfl⟩ := begun.same again
  exact idle switched

theorem toggleTunnel_toggles :
    (toggleTunnel id).Obeys (toggling id) (fun past _ _ => TogglesOrFails id past) [] [] := by
  simp only [toggleTunnel, query, bind_eq, obeys_bind, obeys_guarded]
  refine ⟨trivial, ⟨rfl, rfl⟩, fun found => ⟨trivial, ?_⟩⟩
  rcases found with failure | _ | row
  · exact .inr ⟨_, rfl, fun _ _ _ same => by cases same⟩
  · exact .inr ⟨_, rfl, fun _ _ _ same => by cases same⟩
  · simp only []
    split
    · rename_i unnamed
      refine .inr ⟨_, rfl, ?_⟩
      rintro _ tunnelId agentId ⟨⟩ named
      rw [named] at unnamed
      contradiction
    · rename_i unowned
      refine .inr ⟨_, rfl, ?_⟩
      rintro _ tunnelId agentId ⟨⟩ _ owned
      rw [owned] at unowned
      contradiction
    · rename_i tunnelId agentId named owned
      simp only [obeys_bind, obeys_guarded, switchTunnel, bind_eq]
      refine ⟨trivial, ⟨rfl, row, rfl, rfl⟩, fun written => ⟨trivial, trivial,
        ⟨row, tunnelId, written, named, owned, rfl⟩, fun sender => ?_⟩⟩
      have begun : Begun id [⟨.agentSender agentId, sender⟩, ⟨.db (.setTunnelEnabled id (!row.enabled)), written⟩,
          ⟨.db (.getTunnelById id), .ok (some row)⟩] row tunnelId agentId sender :=
        ⟨named, owned, [], written, rfl, fun _ member => by simp at member, fun _ _ did => did_nil did⟩
      cases enabled : row.enabled with
      | false =>
          rw [enabled] at begun
          simp only [Bool.not_false, if_true, obeys_guarded, obeys_bind] at begun ⊢
          refine ⟨trivial, ⟨row, tunnelId, agentId, sender, begun⟩, fun reserved => ?_⟩
          replace begun := @Begun.more _ _ _ _ _ _ _ begun (.insertAllocatedPort row.publicPort) reserved
            (by simp) (by simp)
          cases sender with
          | none =>
              refine ⟨trivial, trivial, .inl ⟨row, tunnelId, agentId, none, begun, ?_⟩⟩
              simp [Switched, enabled]
          | some channel =>
              simp only [ifSome, obeys_bind, startTunnelListener, stopTunnelListener, bind_eq, obeys_guarded]
              refine ⟨⟨row, tunnelId, agentId, _, begun⟩, fun entered => ?_⟩
              replace begun := @Begun.more _ _ _ _ _ _ _ begun (.enterStartTunnelListener
                { tunnelConfig tunnelId agentId row with enabled := true } channel) entered (by simp) (by simp)
              refine ⟨trivial, ⟨⟨row, agentId, _, begun⟩, begun.unfinished (by simp [Switched, enabled, Did])⟩,
                fun stopped => ⟨trivial, ?_⟩⟩
              replace begun := @Begun.more _ _ _ _ _ _ _ begun (.removeTunnelTask tunnelId) stopped
                (by simp) (by simp)
              refine ⟨⟨row, tunnelId, agentId, _, begun⟩, fun bound => ?_⟩
              replace begun := @Begun.more _ _ _ _ _ _ _ begun (.bind (transportOf row.protocol) row.publicPort)
                bound (by simp) (by simp)
              rcases bound with error | _
              · refine ⟨⟨row, tunnelId, agentId, _, begun⟩, fun told => ⟨trivial, trivial, .inl ?_⟩⟩
                replace begun := @Begun.more _ _ _ _ _ _ _ begun (.send channel (.startTunnel
                  { tunnelConfig tunnelId agentId row with enabled := true })) told (by simp) (by simp)
                refine ⟨row, tunnelId, agentId, _, begun, ?_⟩
                rw [Switched, if_neg (by simp [enabled])]
                exact fun _ _ => .inr ⟨transportOf row.protocol, row.publicPort, error,
                  List.mem_cons_of_mem _ List.mem_cons_self⟩
              · refine ⟨⟨row, tunnelId, agentId, _, begun⟩, fun handle => ?_⟩
                replace begun := @Begun.more _ _ _ _ _ _ _ begun (.spawnProxy (transportOf row.protocol)
                  row.publicPort tunnelId agentId channel) handle (by simp) (by simp)
                refine ⟨trivial, ⟨⟨row, agentId, _, begun, enabled⟩,
                  begun.unfinished (by simp [Switched, enabled, Did])⟩, fun stored => ⟨trivial, ?_⟩⟩
                replace begun := @Begun.more _ _ _ _ _ _ _ begun (.insertTunnelTask tunnelId handle) stored
                  (by simp) (by simp)
                refine ⟨⟨row, tunnelId, agentId, _, begun⟩, fun told => ⟨trivial, trivial, .inl ?_⟩⟩
                replace begun := @Begun.more _ _ _ _ _ _ _ begun (.send channel (.startTunnel
                  { tunnelConfig tunnelId agentId row with enabled := true })) told (by simp) (by simp)
                refine ⟨row, tunnelId, agentId, _, begun, ?_⟩
                rw [Switched, if_neg (by simp [enabled])]
                exact fun _ _ => .inl ⟨handle, List.mem_cons_of_mem _ List.mem_cons_self⟩
      | true =>
          rw [enabled] at begun
          simp only [Bool.not_true, Bool.false_eq_true, if_false, obeys_bind, stopTunnelListener,
            obeys_guarded] at begun ⊢
          refine ⟨trivial, ⟨⟨row, agentId, sender, begun⟩, begun.unfinished (by simp [Switched, enabled, Did])⟩,
            fun stopped => ⟨trivial, trivial, ?_⟩⟩
          replace begun := @Begun.more _ _ _ _ _ _ _ begun (.removeTunnelTask tunnelId) stopped (by simp) (by simp)
          refine ⟨⟨row, tunnelId, agentId, sender, begun⟩, fun freed => ⟨trivial, ?_⟩⟩
          replace begun := @Begun.more _ _ _ _ _ _ _ begun (.freePort row.publicPort) freed (by simp) (by simp)
          cases sender with
          | none => exact ⟨trivial, .inl ⟨row, tunnelId, agentId, none, begun, by simp [Switched, enabled, Did]⟩⟩
          | some channel =>
              refine ⟨⟨row, tunnelId, agentId, _, begun⟩, fun told => ⟨trivial, .inl ?_⟩⟩
              replace begun := @Begun.more _ _ _ _ _ _ _ begun (.send channel (.stopTunnel tunnelId)) told
                (by simp) (by simp)
              exact ⟨row, tunnelId, agentId, _, begun, by simp [Switched, enabled, Did]⟩

theorem toggleContract_lawful : relay.Lawful (toggleContract id) := by
  intro job
  by_cases here : job = .toggleTunnel id
  · subst here
    exact toggleTunnel_toggles.mono (fun _ _ _ lawful _ => lawful) fun _ _ _ ends _ => ends
  · exact Program.obeys_free (fun _ _ _ same => absurd same here) fun _ _ _ same => absurd same here

/-! ## The condition -/

/-- An operation on the tunnel, or on the channel of its agent. -/
def concerns (row : TunnelRecord) : Op → Bool
  | .db (.setTunnelEnabled other _) | .db (.deleteTunnel other) => other == row.id
  | .db (.updateTunnel other ..) => other == row.id
  | .db (.deleteAgent other) => other == row.agentId
  | .removeTunnelTask tunnelId | .insertTunnelTask tunnelId _ => parseUuid row.id == some tunnelId
  | .insertAgentSender agentId _ | .removeAgentSender agentId => parseUuid row.agentId == some agentId
  | _ => false

/-- Nothing but toggles of the tunnel concerns it. -/
def othersAside (row : TunnelRecord) : Check relay := fun _ thread _ op =>
  thread.job == .toggleTunnel row.id || !concerns row op

/-- A toggle reads the row only when no other one is at work, and its statements
are not refused. -/
def togglesApart (id : String) : Check relay := fun config thread choice op =>
  thread.job != .toggleTunnel id || match op with
    | .db (.getTunnelById _) => choice.fault.isNone && config.threads.all fun other =>
        other.job != .toggleTunnel id || other.past.isEmpty || other.isFinished
    | .db (.setTunnelEnabled ..) => choice.fault.isNone
    | _ => true

def onlyToggled (row : TunnelRecord) : Condition relay := fun config action =>
  noReboot config action ∧ (othersAside row).condition config action ∧
    (togglesApart row.id).condition config action

/-- Every listener that is to be started finds its port free. -/
def bindsSucceed : Check relay := fun _ _ (choice : Choice) op =>
  match op with
  | .bind .. => choice.bindError.isNone
  | _ => true

def Config.toggles (id : String) (config : Config relay) : Nat :=
  config.threads.countP fun thread => thread.job == .toggleTunnel id

/-- A write of the flag. -/
def writesFlag (id : String) : Event relaySignature → Bool
  | ⟨.db (.setTunnelEnabled other _), _⟩ => other == id
  | _ => false

/-! ## The flag -/

theorem Begun.length (begun : Begun id past row tunnelId agentId sender) : 3 ≤ past.length := by
  obtain ⟨more, _, rfl, _⟩ := begun.order
  simp

theorem Toggled.length (toggled : Toggled id past) : 3 ≤ past.length := by
  obtain ⟨_, _, _, _, begun, _⟩ := toggled
  exact begun.length

omit [Externals] in
theorem Switched.later {op : Op} {result : op.Result} (switched : Switched past row tunnelId sender) :
    Switched (⟨op, result⟩ :: past) row tunnelId sender := by
  unfold Switched at switched ⊢
  split
  · rename_i enabled
    rw [if_pos enabled] at switched
    exact List.mem_cons_of_mem _ switched
  · rename_i disabled
    rw [if_neg disabled] at switched
    intro channel found
    rcases switched channel found with ⟨handle, did⟩ | ⟨transport, port, error, did⟩
    · exact .inl ⟨handle, List.mem_cons_of_mem _ did⟩
    · exact .inr ⟨transport, port, error, List.mem_cons_of_mem _ did⟩

/-- What a toggle still does once it has looked up the agent. -/
theorem Begun.next {op : Op} {result : op.Result} {held : Held}
    (begun : Begun id past row tunnelId agentId sender) (lawful : toggling id past held (.call op)) :
    Begun id (⟨op, result⟩ :: past) row tunnelId agentId sender := by
  have long := begun.length
  cases op with
  | db query =>
      cases query with
      | getTunnelById =>
          rw [lawful.2] at long
          contradiction
      | setTunnelEnabled =>
          obtain ⟨_, _, same, _⟩ := lawful
          rw [same] at long
          simp at long
      | _ => exact lawful.elim
  | agentSender =>
      obtain ⟨_, _, _, _, _, same⟩ := lawful
      rw [same] at long
      simp at long
  | _ => exact begun.more (by simp) (by simp)

theorem Toggled.later {op : Op} {result : op.Result} {held : Held} (toggled : Toggled id past)
    (lawful : toggling id past held (.call op)) : Toggled id (⟨op, result⟩ :: past) := by
  obtain ⟨row, tunnelId, agentId, sender, begun, switched⟩ := toggled
  exact ⟨row, tunnelId, agentId, sender, begun.next lawful, switched.later⟩

/-- A toggle that is through has written the flag once. -/
theorem Begun.count (begun : Begun id past row tunnelId agentId sender) :
    past.countP (writesFlag id) = 1 := by
  obtain ⟨more, _, rfl, clean, _⟩ := begun.order
  have none : more.countP (writesFlag id) = 0 := by
    refine List.countP_eq_zero.mpr fun event member writes => ?_
    unfold writesFlag at writes
    split at writes
    · exact clean _ member _ rfl
    · contradiction
  simp [List.countP_append, none, writesFlag]

/-- The row of the tunnel in the database. -/
def World.tunnel (world : World) (id : String) : Option TunnelRecord := world.db.tunnels.find? (·.id == id)

omit [Externals] in
theorem find?_filter_kept {α : Type} {items : List α} {selects keeps : α → Bool} {item : α}
    (found : items.find? selects = some item) (kept : keeps item = true) :
    (items.filter keeps).find? selects = some item := by
  induction items with
  | nil => contradiction
  | cons first rest ih =>
      cases selected : selects first with
      | true =>
          rw [List.find?_cons, selected] at found
          cases found
          simp [kept, selected]
      | false =>
          rw [List.find?_cons, selected] at found
          cases kept' : keeps first <;> simp [kept', selected, ih found]

omit [Externals] in
/-- A map that keeps the keys changes the row found as it changes all. -/
theorem find?_map_kept {tunnels : List TunnelRecord} {change : TunnelRecord → TunnelRecord} {now : TunnelRecord}
    (found : tunnels.find? (·.id == id) = some now) (keys : ∀ row, (change row).id = row.id) :
    (tunnels.map change).find? (·.id == id) = some (change now) := by
  rw [List.find?_map]
  have same : ((fun row : TunnelRecord => row.id == id) ∘ change) = fun row => row.id == id := by
    funext row
    simp [keys]
  rw [same, found]
  rfl

theorem tunnel_kept {world after : World} {choice : Choice} {op : Op} {result : op.Result} {now : TunnelRecord}
    (executed : exec world choice op = some (after, result)) (aside : concerns row op = false)
    (there : world.tunnel row.id = some now) (owned : now.agentId = row.agentId) :
    after.tunnel row.id = some now := by
  have named : now.id = row.id := by simpa using List.find?_some there
  rcases exec_change executed with ⟨query, rfl, change, _⟩ | ⟨same, _⟩
  · unfold World.tunnel at there ⊢
    generalize after.db = later at change
    cases change with
    | detached | deleted =>
        refine find?_filter_kept there ?_
        simp only [concerns, beq_eq_false_iff_ne] at aside
        simpa [owned] using Ne.symm aside
    | closed =>
        refine find?_filter_kept there ?_
        simp only [concerns, beq_eq_false_iff_ne] at aside
        simpa [named] using Ne.symm aside
    | opened => simp [List.find?_append, there]
    | switched =>
        simp only [concerns, beq_eq_false_iff_ne] at aside
        refine (find?_map_kept there fun row => by split <;> rfl).trans ?_
        simp [named, Ne.symm aside]
    | edited =>
        simp only [concerns, beq_eq_false_iff_ne] at aside
        refine (find?_map_kept there fun row => by split <;> rfl).trans ?_
        simp [named, Ne.symm aside]
    | _ => exact there
  · unfold World.tunnel at there ⊢
    rwa [same]

/-- After `count` writes of the flag. -/
structure Counting (row : TunnelRecord) (count : Nat) (config : Config relay) : Prop where
  flag : ∃ now, config.state.tunnel row.id = some now ∧ now.agentId = row.agentId ∧
    now.enabled = not^[count] row.enabled
  apart : ∀ (i j : Nat) (left right : Thread relay),
    config.threads[i]? = some left → config.threads[j]? = some right →
    left.job = .toggleTunnel row.id → right.job = .toggleTunnel row.id → left.past ≠ [] → right.past ≠ [] →
      Toggled row.id left.past ∨ Toggled row.id right.past ∨ i = j
  reading : ∀ thread ∈ config.threads, thread.job = .toggleTunnel row.id → ∀ result,
    thread.past = [⟨.db (.getTunnelById row.id), result⟩] → result = .ok (config.state.tunnel row.id)
  read : ∀ thread ∈ config.threads, thread.job = .toggleTunnel row.id → ∀ found,
    Did thread.past (.db (.getTunnelById row.id)) (.ok (some found)) → found.agentId = row.agentId ∧ found.id = row.id
  wrote : ∀ thread ∈ config.threads, thread.job = .toggleTunnel row.id → ¬ Toggled row.id thread.past →
    ∀ enabled result, Did thread.past (.db (.setTunnelEnabled row.id enabled)) result →
      ∀ now, config.state.tunnel row.id = some now → now.enabled = enabled
  others : ∀ thread ∈ config.threads, thread.job ≠ .toggleTunnel row.id →
    thread.past.countP (writesFlag row.id) = 0

theorem Counting.initial {state : World} (there : state.tunnel row.id = some row) :
    Counting row 0 (⟨state, []⟩ : Config relay) :=
  ⟨⟨row, there, rfl, rfl⟩, fun _ _ _ _ found => by simp at found, fun _ member => by simp at member,
    fun _ member => by simp at member, fun _ member => by simp at member, fun _ member => by simp at member⟩

theorem Counting.quiet {before after : Config relay} {count : Nat} (counting : Counting row count before)
    (same : before.SameTasks after)
    (state : after.state = before.state ∨ ∃ job, accept before.state job = some after.state) :
    Counting row count after := by
  have tunnel : after.state.tunnel row.id = before.state.tunnel row.id := by
    rcases state with same | ⟨job, accepted⟩
    · rw [same]
    · obtain ⟨sessions, later⟩ := accept_same accepted
      rw [later]
      rfl
  have back {thread : Thread relay} (member : thread ∈ after.threads) : thread.past = [] ∨
      ∃ other ∈ before.threads, other.job = thread.job ∧ other.past = thread.past := by
    obtain ⟨index, there⟩ := List.mem_iff_getElem?.mp member
    exact (same.old index thread there).imp_right fun ⟨other, found, alike⟩ =>
      ⟨other, List.mem_of_getElem? found, alike⟩
  refine ⟨tunnel ▸ counting.flag, ?_, ?_, ?_, ?_, ?_⟩
  · intro i j left right first second toggles toggles' moved moved'
    obtain ⟨left', found, job, past⟩ := (same.old i left first).resolve_left moved
    obtain ⟨right', found', job', past'⟩ := (same.old j right second).resolve_left moved'
    rw [← past] at moved ⊢
    rw [← past'] at moved' ⊢
    exact counting.apart i j left' right' found found' (job.trans toggles) (job'.trans toggles') moved moved'
  · intro thread member toggles result past
    rcases back member with none | ⟨other, old, job, alike⟩
    · rw [none] at past
      contradiction
    · rw [tunnel]
      exact counting.reading other old (job.trans toggles) result (alike.trans past)
  · intro thread member toggles found did
    rcases back member with none | ⟨other, old, job, alike⟩
    · rw [none] at did
      exact absurd did did_nil
    · exact counting.read other old (job.trans toggles) found (alike ▸ did)
  · intro thread member toggles unfinished enabled result did now there
    rcases back member with none | ⟨other, old, job, alike⟩
    · rw [none] at did
      exact absurd did did_nil
    · rw [← alike] at unfinished did
      exact counting.wrote other old (job.trans toggles) unfinished enabled result did now (tunnel ▸ there)
  · intro thread member other
    rcases back member with none | ⟨found, old, job, alike⟩
    · rw [none]
      rfl
    · rw [← alike]
      exact counting.others found old (job ▸ other)

section Call

variable {before after : Config relay} {task : Nat} {thread : Thread relay} {choice : Choice} {op : Op}
  {result : op.Result} {count : Nat}

/-- A step of a task that is no toggle of the tunnel. -/
theorem Counting.aside (counting : Counting row count before)
    (called : Called before task thread choice op result after) (other : thread.job ≠ .toggleTunnel row.id)
    (aside : concerns row op = false) :
    Counting row (count + (writesFlag row.id ⟨op, result⟩).toNat) after := by
  obtain ⟨now, there, owned, flag⟩ := counting.flag
  have kept := tunnel_kept called.executed aside there owned
  have silent : writesFlag row.id ⟨op, result⟩ = false := by
    cases op with
    | db query =>
        cases query with
        | setTunnelEnabled => exact aside
        | _ => rfl
    | _ => rfl
  have back {index : Nat} {moved : Thread relay} (found : after.threads[index]? = some moved)
      (toggles : moved.job = .toggleTunnel row.id) : before.threads[index]? = some moved := by
    rcases called.origin found with ⟨_, job, _⟩ | ⟨_, old⟩
    · exact absurd (job ▸ toggles) other
    · exact old
  have back' {moved : Thread relay} (member : moved ∈ after.threads)
      (toggles : moved.job = .toggleTunnel row.id) : moved ∈ before.threads := by
    obtain ⟨index, found⟩ := List.mem_iff_getElem?.mp member
    exact List.mem_of_getElem? (back found toggles)
  rw [silent, Bool.toNat_false, Nat.add_zero]
  refine ⟨⟨now, kept, owned, flag⟩, ?_, ?_, ?_, ?_, ?_⟩
  · intro i j left right first second toggles toggles'
    exact counting.apart i j left right (back first toggles) (back second toggles') toggles toggles'
  · intro moved member toggles found past
    rw [kept, ← there]
    exact counting.reading moved (back' member toggles) toggles found past
  · exact fun moved member toggles => counting.read moved (back' member toggles) toggles
  · intro moved member toggles unfinished enabled written did later found
    rw [kept, ← there] at found
    exact counting.wrote moved (back' member toggles) toggles unfinished enabled written did later found
  · intro moved member unlike
    obtain ⟨index, found⟩ := List.mem_iff_getElem?.mp member
    rcases called.origin found with ⟨_, _, _, past⟩ | ⟨_, old⟩
    · rw [past, List.countP_cons, silent]
      simpa using counting.others thread called.member other
    · exact counting.others moved (List.mem_of_getElem? old) unlike

/-- The number of the task that is at work, if its toggle is not through. -/
theorem Counting.alone (counting : Counting row count before) {i j : Nat} {left right : Thread relay}
    (first : before.threads[i]? = some left) (second : before.threads[j]? = some right)
    (toggles : left.job = .toggleTunnel row.id) (toggles' : right.job = .toggleTunnel row.id)
    (moved : left.past ≠ []) (unfinished : ¬ Toggled row.id left.past)
    (moved' : right.past ≠ []) (unfinished' : ¬ Toggled row.id right.past) : i = j :=
  ((counting.apart i j left right first second toggles toggles' moved moved').resolve_left
    unfinished).resolve_left unfinished'

/-- What the tasks other than the moving toggle still show. -/
theorem Counting.others_moved (counting : Counting row count before)
    (called : Called before task thread choice op result after) (toggles : thread.job = .toggleTunnel row.id) :
    ∀ moved ∈ after.threads, moved.job ≠ .toggleTunnel row.id →
      moved.past.countP (writesFlag row.id) = 0 := by
  intro moved member other
  rcases called.split member with ⟨job, _⟩ | old
  · exact absurd (job.trans toggles) other
  · exact counting.others moved old other

/-- A toggle reads the row. -/
theorem Counting.reads {found : Except Failure (Option TunnelRecord)} (counting : Counting row count before)
    (called : Called before task thread choice (.db (.getTunnelById row.id)) found after)
    (toggles : thread.job = .toggleTunnel row.id) (first : thread.past = [])
    (through : ∀ other ∈ before.threads, other.job = .toggleTunnel row.id → other.past ≠ [] →
      Toggled row.id other.past)
    (unrefused : choice.fault = none) : Counting row count after := by
  have executed : exec before.state choice (.db (.getTunnelById row.id)) = some (after.state, found) :=
    called.executed
  obtain ⟨later, answer, _⟩ := exec_db executed
  have tunnel : after.state.tunnel row.id = before.state.tunnel row.id := by rw [later]; rfl
  have answered : found = .ok (before.state.tunnel row.id) := by
    rw [answer]
    simp [Query.run, Db.getTunnelById, Choice.statement, Choice.refuses, unrefused, World.tunnel]
  obtain ⟨now, there, owned, flag⟩ := counting.flag
  refine ⟨⟨now, tunnel ▸ there, owned, flag⟩, ?_, ?_, ?_, ?_, counting.others_moved called toggles⟩
  · intro i j left right one two job job' moved moved'
    rcases called.origin one with ⟨rfl, _, _, _⟩ | ⟨_, old⟩
    · rcases called.origin two with ⟨rfl, _, _, _⟩ | ⟨_, old'⟩
      · exact .inr (.inr rfl)
      · exact .inr (.inl (through right (List.mem_of_getElem? old') job' moved'))
    · exact .inl (through left (List.mem_of_getElem? old) job moved)
  · intro moved member job result past
    rw [tunnel]
    rcases called.split member with ⟨_, mine⟩ | old
    · rw [mine, first] at past
      cases past
      exact answered
    · exact counting.reading moved old job result past
  · intro moved member job seen did
    rcases called.split member with ⟨_, mine⟩ | old
    · rw [mine, first, answered] at did
      have same := List.mem_singleton.mp did
      rw [there] at same
      cases same
      exact ⟨owned, by simpa using List.find?_some there⟩
    · exact counting.read moved old job seen did
  · intro moved member job unfinished enabled result did later found'
    rcases called.split member with ⟨_, mine⟩ | old
    · rw [mine, first] at did
      simp [Did] at did
    · exact counting.wrote moved old job unfinished enabled result did later (tunnel ▸ found')

/-- A toggle writes the flag. -/
theorem Counting.writes {enabled : Bool} {written : Except Failure Unit} (counting : Counting row count before)
    (called : Called before task thread choice (.db (.setTunnelEnabled row.id enabled)) written after)
    (toggles : thread.job = .toggleTunnel row.id) {found : TunnelRecord}
    (past : thread.past = [⟨.db (.getTunnelById row.id), .ok (some found)⟩]) (negated : enabled = !found.enabled)
    (unrefused : choice.fault = none) : Counting row (count + 1) after := by
  have executed : exec before.state choice (.db (.setTunnelEnabled row.id enabled)) =
    some (after.state, written) := called.executed
  obtain ⟨later, answer, _⟩ := exec_db executed
  obtain ⟨now, there, owned, flag⟩ := counting.flag
  have named : now.id = row.id := by simpa using List.find?_some there
  have same : found = now := by
    have read := counting.reading thread called.member toggles _ past
    rw [there] at read
    cases read
    rfl
  subst same
  have tunnel : after.state.tunnel row.id = some { found with enabled } := by
    rw [later]
    simp only [World.tunnel, Query.run, Db.setTunnelEnabled, Choice.statement, Choice.refuses, unrefused,
      Database.write]
    refine (find?_map_kept there fun row => by split <;> rfl).trans ?_
    simp [named]
  have short : ¬ Toggled row.id thread.past := fun toggled => by
    have long := toggled.length
    rw [past] at long
    simp at long
  have alone {index : Nat} {moved : Thread relay} (old : before.threads[index]? = some moved)
      (elsewhere : index ≠ task) (job : moved.job = .toggleTunnel row.id) (started : moved.past ≠ []) :
      Toggled row.id moved.past := by
    by_contra unfinished
    exact elsewhere (counting.alone old called.found job toggles started unfinished (by simp [past]) short)
  refine ⟨⟨_, tunnel, owned, ?_⟩, ?_, ?_, ?_, ?_, counting.others_moved called toggles⟩
  · rw [Function.iterate_succ_apply', ← flag, negated]
  · intro i j left right one two job job' moved moved'
    rcases called.origin one with ⟨rfl, _, _, _⟩ | ⟨elsewhere, old⟩
    · rcases called.origin two with ⟨rfl, _, _, _⟩ | ⟨elsewhere, old⟩
      · exact .inr (.inr rfl)
      · exact .inr (.inl (alone old elsewhere job' moved'))
    · exact .inl (alone old elsewhere job moved)
  · intro moved member job result read
    obtain ⟨index, there'⟩ := List.mem_iff_getElem?.mp member
    rcases called.origin there' with ⟨_, _, _, mine⟩ | ⟨elsewhere, old⟩
    · rw [mine, past] at read
      simp at read
    · have long := (alone old elsewhere job (by simp [read])).length
      rw [read] at long
      simp at long
  · intro moved member job seen did
    rcases called.split member with ⟨_, mine⟩ | old
    · rw [mine] at did
      refine counting.read thread called.member toggles seen ?_
      simpa [Did] using did
    · exact counting.read moved old job seen did
  · intro moved member job unfinished flag' result did later' found'
    rw [tunnel, Option.some.injEq] at found'
    subst found'
    obtain ⟨index, there'⟩ := List.mem_iff_getElem?.mp member
    rcases called.origin there' with ⟨_, _, _, mine⟩ | ⟨elsewhere, old⟩
    · rw [mine, past] at did
      simp [Did] at did
      exact did.1.symm
    · have started : moved.past ≠ [] := fun none => by
        rw [none] at did
        exact did_nil did
      exact absurd (alone old elsewhere job started) unfinished

theorem toggling_begun {held : Held} (outside : ∀ query, op ≠ .db query) (other : ∀ agentId, op ≠ .agentSender agentId)
    (lawful : toggling id past held (.call op)) :
    ∃ row tunnelId agentId sender, Begun id past row tunnelId agentId sender := by
  cases op with
  | db query => exact absurd rfl (outside query)
  | agentSender agentId => exact absurd rfl (other agentId)
  | removeTunnelTask tunnelId =>
      obtain ⟨⟨row, agentId, sender, begun⟩, _⟩ := lawful
      exact ⟨row, tunnelId, agentId, sender, begun⟩
  | insertTunnelTask tunnelId =>
      obtain ⟨⟨row, agentId, sender, begun, _⟩, _⟩ := lawful
      exact ⟨row, tunnelId, agentId, sender, begun⟩
  | insertAgentSender | removeAgentSender => exact lawful.elim
  | _ => exact lawful

theorem toggling_started {held : Held} (outside : ∀ query, op ≠ .db query)
    (lawful : toggling id past held (.call op)) : past ≠ [] := by
  rintro rfl
  by_cases other : ∃ agentId, op = .agentSender agentId
  · obtain ⟨agentId, rfl⟩ := other
    obtain ⟨_, _, _, _, _, same⟩ := lawful
    contradiction
  · obtain ⟨_, _, _, _, begun⟩ := toggling_begun outside (not_exists.mp other) lawful
    have long := begun.length
    contradiction

/-- A toggle does anything else. -/
theorem Counting.moves (counting : Counting row count before)
    (called : Called before task thread choice op result after) (toggles : thread.job = .toggleTunnel row.id)
    (outside : ∀ query, op ≠ .db query) (lawful : toggling row.id thread.past thread.held (.call op)) :
    Counting row count after := by
  obtain ⟨now, there, owned, flag⟩ := counting.flag
  have database : after.state.db = before.state.db := by
    rcases exec_change called.executed with ⟨query, same, _⟩ | ⟨same, _⟩
    · exact absurd same (outside query)
    · exact same
  have tunnel : after.state.tunnel row.id = before.state.tunnel row.id := by
    simp only [World.tunnel, database]
  have started := toggling_started outside lawful
  refine ⟨⟨now, tunnel ▸ there, owned, flag⟩, ?_, ?_, ?_, ?_, counting.others_moved called toggles⟩
  · intro i j left right one two job job' moved moved'
    rcases called.origin one with ⟨rfl, _, _, mine⟩ | ⟨_, old⟩
    · rcases called.origin two with ⟨rfl, _, _, _⟩ | ⟨_, old'⟩
      · exact .inr (.inr rfl)
      · rcases counting.apart _ j _ right called.found old' toggles job' started moved' with mine' | other | same
        · exact .inl (mine ▸ mine'.later lawful)
        · exact .inr (.inl other)
        · exact .inr (.inr same)
    · rcases called.origin two with ⟨rfl, _, _, mine⟩ | ⟨_, old'⟩
      · rcases counting.apart i _ left _ old called.found job toggles moved started with other | mine' | same
        · exact .inl other
        · exact .inr (.inl (mine ▸ mine'.later lawful))
        · exact .inr (.inr same)
      · exact counting.apart i j left right old old' job job' moved moved'
  · intro moved member job result read
    rw [tunnel]
    rcases called.split member with ⟨_, mine⟩ | old
    · rw [mine] at read
      exact absurd (List.cons.inj read).2 started
    · exact counting.reading moved old job result read
  · intro moved member job seen did
    rcases called.split member with ⟨_, mine⟩ | old
    · rw [mine] at did
      rcases List.mem_cons.mp did with same | earlier
      · cases same
        exact absurd rfl (outside _)
      · exact counting.read thread called.member toggles seen earlier
    · exact counting.read moved old job seen did
  · intro moved member job unfinished enabled written did later found
    rw [tunnel] at found
    rcases called.split member with ⟨_, mine⟩ | old
    · rw [mine] at did unfinished
      rcases List.mem_cons.mp did with same | earlier
      · cases same
        exact absurd rfl (outside _)
      · exact counting.wrote thread called.member toggles (fun toggled => unfinished (toggled.later lawful))
          enabled written earlier later found
    · exact counting.wrote moved old job unfinished enabled written did later found

/-- A toggle that has returned has done its work: it has found the row. -/
theorem Counting.returned (counting : Counting row count before) (lawful : before.Lawful (toggleContract row.id))
    (named : parseUuid row.id = some tunnelId) (owned : parseUuid row.agentId = some agentId)
    (member : thread ∈ before.threads) (toggles : thread.job = .toggleTunnel row.id)
    (returned : thread.finished) : Toggled row.id thread.past := by
  obtain ⟨reply, done⟩ := returned
  have obeys := lawful thread member
  rw [done] at obeys
  refine (obeys toggles : TogglesOrFails row.id thread.past).resolve_right ?_
  rintro ⟨result, past, fails⟩
  have read := counting.reading thread member toggles result past
  obtain ⟨now, there, kept, _⟩ := counting.flag
  have id : now.id = row.id := by simpa using List.find?_some there
  rw [there] at read
  exact fails now tunnelId agentId read (id ▸ named) (kept ▸ owned)

theorem Counting.call (counting : Counting row count before) (lawful : before.Lawful (toggleContract row.id))
    (named : parseUuid row.id = some tunnelId) (owned : parseUuid row.agentId = some agentId)
    (called : Called before task thread choice op result after)
    (permitted : onlyToggled row before (.call task choice)) :
    Counting row (count + (writesFlag row.id ⟨op, result⟩).toNat) after := by
  obtain ⟨_, aside, apart⟩ := permitted
  replace aside := Check.holds aside called
  replace apart := Check.holds apart called
  by_cases toggles : thread.job = .toggleTunnel row.id
  · have law := called.law lawful toggles
    simp only [togglesApart, toggles, bne_self_eq_false, Bool.false_or] at apart
    cases op with
    | db query =>
        cases query with
        | getTunnelById other =>
            obtain ⟨rfl, first⟩ := law
            simp only [Bool.and_eq_true, Option.isNone_iff_eq_none, List.all_eq_true] at apart
            refine counting.reads called toggles first (fun other member job started => ?_) apart.1
            have through := apart.2 other member
            simp only [job, bne_self_eq_false, Bool.false_or, Bool.or_eq_true, List.isEmpty_iff, started,
              false_or] at through
            exact counting.returned lawful named owned member job (Thread.isFinished_iff.mp through)
        | setTunnelEnabled other enabled =>
            obtain ⟨rfl, found, past, negated⟩ := law
            have next := counting.writes called toggles past negated (Option.isNone_iff_eq_none.mp apart)
            simpa [writesFlag] using next
        | _ => exact law.elim
    | _ => exact counting.moves called toggles (by simp) law
  · refine counting.aside called toggles ?_
    simpa [othersAside, toggles] using aside

/-! ## The listener -/

/-- Where the agent is connected and no port is in use, the listener is as the
flag says unless a toggle is at work or none has been; then it may have been so
before. -/
structure Following (row : TunnelRecord) (tunnelId agentId : Uuid) (agreed : Prop) (count : Nat)
    (config : Config relay) : Prop where
  connected : (config.state.agentSenders agentId).isSome
  sender : ∀ thread ∈ config.threads, thread.job = .toggleTunnel row.id → ∀ agentId found,
    Did thread.past (.agentSender agentId) found → found.isSome
  bound : ∀ thread ∈ config.threads, thread.job = .toggleTunnel row.id → ∀ transport port error,
    ¬ Did thread.past (.bind transport port) (.error error)
  listening : 0 < count ∨ agreed → (∀ thread ∈ config.threads, thread.job = .toggleTunnel row.id → thread.past ≠ [] →
    Toggled row.id thread.past) → (config.state.tunnelTasks tunnelId).isSome = not^[count] row.enabled

theorem Following.initial {state : World} (connected : (state.agentSenders agentId).isSome) :
    Following row tunnelId agentId ((state.tunnelTasks tunnelId).isSome = row.enabled) 0
      (⟨state, []⟩ : Config relay) :=
  ⟨connected, fun _ member => by simp at member, fun _ member => by simp at member,
    fun agreed _ => agreed.resolve_left (Nat.lt_irrefl 0)⟩

theorem Following.quiet {agreed : Prop} {count : Nat} (following : Following row tunnelId agentId agreed count before)
    (same : before.SameTasks after)
    (state : after.state = before.state ∨ ∃ job, accept before.state job = some after.state) :
    Following row tunnelId agentId agreed count after := by
  have alike : after.state.agentSenders = before.state.agentSenders ∧
      after.state.tunnelTasks = before.state.tunnelTasks := by
    rcases state with same | ⟨job, accepted⟩
    · exact same ▸ ⟨rfl, rfl⟩
    · obtain ⟨sessions, later⟩ := accept_same accepted
      rw [later]
      exact ⟨rfl, rfl⟩
  refine ⟨alike.1 ▸ following.connected, ?_, ?_, ?_⟩
  · intro thread member toggles agent found did
    obtain ⟨other, old, job, past⟩ := same.of_mem member did
    exact following.sender other old (job.trans toggles) agent found (past ▸ did)
  · intro thread member toggles transport port error did
    obtain ⟨other, old, job, past⟩ := same.of_mem member did
    exact following.bound other old (job.trans toggles) transport port error (past ▸ did)
  · intro positive through
    rw [alike.2]
    refine following.listening positive fun thread member toggles started => ?_
    obtain ⟨other, new, job, past⟩ := same.mem member
    rw [← past] at started ⊢
    exact through other new (job.trans toggles) started

/-- A toggle performs the operation with which its work is done. -/
theorem Toggled.completed {op : Op} {result : op.Result} {held : Held}
    (toggled : Toggled id (⟨op, result⟩ :: past)) (unfinished : ¬ Toggled id past)
    (lawful : toggling id past held (.call op))
    (sent : ∀ agentId found, Did (⟨op, result⟩ :: past) (.agentSender agentId) found → found.isSome)
    (bound : ∀ transport port error, ¬ Did (⟨op, result⟩ :: past) (.bind transport port) (.error error)) :
    ∃ row tunnelId agentId sender, Begun id past row tunnelId agentId sender ∧
      ((row.enabled = true ∧ op = .removeTunnelTask tunnelId) ∨
        (row.enabled = false ∧ ∃ handle, op = .insertTunnelTask tunnelId handle)) := by
  have outside : ∀ query, op ≠ .db query := by
    rintro query rfl
    have long := toggled.length
    cases query with
    | getTunnelById =>
        rw [lawful.2] at long
        simp at long
    | setTunnelEnabled =>
        obtain ⟨_, _, same, _⟩ := lawful
        rw [same] at long
        simp at long
    | _ => exact lawful
  obtain ⟨row, tunnelId, agentId, sender, begun, switched⟩ := toggled
  obtain ⟨channel, rfl⟩ : ∃ channel, sender = some channel := by
    obtain ⟨more, written, order, _⟩ := begun.order
    exact Option.isSome_iff_exists.mp (sent agentId sender (by rw [order]; simp [Did]))
  -- what has been done last is the removal or the insertion
  have last : (row.enabled = true ∧ Did (⟨op, result⟩ :: past) (.removeTunnelTask tunnelId) ()) ∨
      (row.enabled = false ∧ ∃ handle, Did (⟨op, result⟩ :: past) (.insertTunnelTask tunnelId handle) ()) := by
    unfold Switched at switched
    split at switched
    · rename_i enabled
      exact .inl ⟨enabled, switched⟩
    · rename_i disabled
      refine .inr ⟨Bool.not_eq_true _ ▸ disabled, ?_⟩
      rcases switched channel rfl with did | ⟨transport, port, error, did⟩
      · exact did
      · exact absurd did (bound transport port error)
  have other : ∀ agentId, op ≠ .agentSender agentId := by
    rintro agent rfl
    obtain ⟨_, _, _, _, _, same⟩ := lawful
    rw [same] at last
    simp [Did] at last
  obtain ⟨found, named, owner, channel', begun'⟩ := toggling_begun outside other lawful
  obtain ⟨rfl, rfl, rfl, rfl⟩ := begun.same (begun'.next lawful)
  refine ⟨_, _, _, _, begun', last.imp ?_ ?_⟩
  · rintro ⟨enabled, did⟩
    refine ⟨enabled, ?_⟩
    rcases List.mem_cons.mp did with same | old
    · cases same
      rfl
    · exact absurd ⟨_, _, _, _, begun', by rwa [Switched, if_pos enabled]⟩ unfinished
  · rintro ⟨disabled, handle, did⟩
    refine ⟨disabled, handle, ?_⟩
    rcases List.mem_cons.mp did with same | old
    · cases same
      rfl
    · refine absurd ⟨_, _, _, _, begun', ?_⟩ unfinished
      rw [Switched, if_neg (by simp [disabled])]
      exact fun _ _ => .inl ⟨handle, old⟩

/-- An operation that neither starts nor stops the listener, nor writes the flag. -/
def leaves (row : TunnelRecord) (tunnelId : Uuid) (op : Op) : Prop :=
  op ≠ .removeTunnelTask tunnelId ∧ (∀ handle, op ≠ .insertTunnelTask tunnelId handle) ∧
    ∀ result, writesFlag row.id ⟨op, result⟩ = false

theorem tunnelTasks_left {world later : World} {result : op.Result} (left : leaves row tunnelId op)
    (executed : exec world choice op = some (later, result)) :
    later.tunnelTasks tunnelId = world.tunnelTasks tunnelId := by
  rw [exec_tunnelTasks executed]
  cases op with
  | removeTunnelTask other =>
      have apart : tunnelId ≠ other := fun same => left.1 (same ▸ rfl)
      exact Function.update_of_ne apart _ _
  | insertTunnelTask other handle =>
      have apart : tunnelId ≠ other := fun same => left.2.1 handle (same ▸ rfl)
      exact Function.update_of_ne apart _ _
  | _ => rfl

theorem leaves_aside (aside : concerns row op = false) (named : parseUuid row.id = some tunnelId) :
    leaves row tunnelId op := by
  refine ⟨?_, ?_, ?_⟩
  · rintro rfl
    simp [concerns, named] at aside
  · rintro handle rfl
    simp [concerns, named] at aside
  · intro result
    unfold writesFlag
    split
    · rename_i same
      cases same
      exact aside
    · rfl

theorem leaves_toggled {held : Held} (toggled : Toggled row.id past)
    (lawful : toggling row.id past held (.call op)) : leaves row tunnelId op := by
  refine ⟨?_, ?_, ?_⟩
  · rintro rfl
    exact lawful.2 toggled
  · rintro handle rfl
    exact lawful.2 toggled
  · intro result
    unfold writesFlag
    split
    · rename_i same
      cases same
      obtain ⟨_, _, short, _⟩ := lawful
      have long := toggled.length
      rw [short] at long
      simp at long
    · rfl

theorem Following.call {agreed : Prop} (following : Following row tunnelId agentId agreed count before)
    (counting : Counting row count before)
    (lawful : before.Lawful (toggleContract row.id))
    (named : parseUuid row.id = some tunnelId) (owned : parseUuid row.agentId = some agentId)
    (called : Called before task thread choice op result after)
    (permitted : onlyToggled row before (.call task choice))
    (binds : (bindsSucceed : Check relay).condition before (.call task choice)) :
    Following row tunnelId agentId agreed (count + (writesFlag row.id ⟨op, result⟩).toNat) after := by
  have executed : exec before.state choice op = some (after.state, result) := called.executed
  have aside := Check.holds permitted.2.1 called
  have law := fun toggles => called.law lawful toggles
  replace binds := Check.holds binds called
  have sent : ∀ thread ∈ after.threads, thread.job = .toggleTunnel row.id → ∀ agent found,
      Did thread.past (.agentSender agent) found → found.isSome := by
    intro moved member toggles agent found did
    rcases called.split member with ⟨job, past⟩ | old
    · rw [past] at did
      rcases List.mem_cons.mp did with new | earlier
      · cases new
        obtain ⟨read, _, _, _, owner, order⟩ := law (job ▸ toggles)
        have same := (counting.read thread called.member (job ▸ toggles) read (by rw [order]; simp [Did])).1
        rw [same, owned] at owner
        cases owner
        simp only [exec, Option.some.injEq, Prod.mk.injEq] at executed
        exact executed.2 ▸ following.connected
      · exact following.sender thread called.member (job ▸ toggles) agent found earlier
    · exact following.sender moved old toggles agent found did
  have bound : ∀ thread ∈ after.threads, thread.job = .toggleTunnel row.id → ∀ transport port error,
      ¬ Did thread.past (.bind transport port) (.error error) := by
    intro moved member toggles transport port error did
    rcases called.split member with ⟨job, past⟩ | old
    · rw [past] at did
      rcases List.mem_cons.mp did with new | earlier
      · cases new
        simp only [bindsSucceed, Option.isNone_iff_eq_none] at binds
        simp [exec, binds] at executed
      · exact following.bound thread called.member (job ▸ toggles) transport port error earlier
    · exact following.bound moved old toggles transport port error did
  refine ⟨?_, sent, bound, fun positive through => ?_⟩
  · rw [exec_agentSenders executed]
    cases op with
    | insertAgentSender other channel =>
        by_cases same : agentId = other
        · simp [same]
        · simpa [Function.update_of_ne same] using following.connected
    | removeAgentSender other =>
        have apart : agentId ≠ other := by
          rintro rfl
          simp only [othersAside, concerns, owned, beq_self_eq_true, Bool.not_true, Bool.or_false, beq_iff_eq] at aside
          exact law aside
        simpa [Function.update_of_ne apart] using following.connected
    | _ => exact following.connected
  · -- nothing has changed, or the toggle that moves is through with this operation
    have unmoved (left : leaves row tunnelId op)
        (own : thread.job = .toggleTunnel row.id → Toggled row.id thread.past) :
        (after.state.tunnelTasks tunnelId).isSome = not^[count + (writesFlag row.id ⟨op, result⟩).toNat] row.enabled := by
      rw [left.2.2, Bool.toNat_false, Nat.add_zero] at positive ⊢
      rw [tunnelTasks_left left executed]
      refine following.listening positive fun other member toggles started => ?_
      obtain ⟨index, there⟩ := List.mem_iff_getElem?.mp member
      by_cases here : index = task
      · subst here
        rw [called.found, Option.some.injEq] at there
        exact there ▸ own (there ▸ toggles)
      · exact through other (List.mem_of_getElem? (called.other there here)) toggles started
    by_cases toggles : thread.job = .toggleTunnel row.id
    · by_cases finished : Toggled row.id thread.past
      · exact unmoved (leaves_toggled finished (law toggles)) fun _ => finished
      · obtain ⟨self, found, job, _, past⟩ := called.self
        have member := List.mem_of_getElem? found
        have toggled := through self member (job.trans toggles) (by simp [past])
        have sent := sent self member (job.trans toggles)
        have bound := bound self member (job.trans toggles)
        rw [past] at toggled sent bound
        obtain ⟨read, tunnel, agent, sender, begun, done⟩ := toggled.completed finished (law toggles) sent bound
        obtain ⟨more, written, order, _⟩ := begun.order
        have same := counting.read thread called.member toggles read (by rw [order]; simp [Did])
        have here := begun.named
        rw [same.2, named, Option.some.injEq] at here
        subst here
        obtain ⟨now, there, _, flag⟩ := counting.flag
        have wrote := counting.wrote thread called.member toggles finished (!read.enabled) written
          (by rw [order]; simp [Did]) now there
        rw [exec_tunnelTasks executed]
        rcases done with ⟨enabled, rfl⟩ | ⟨disabled, handle, rfl⟩
        · simp [writesFlag, ← flag, wrote, enabled]
        · simp [writesFlag, ← flag, wrote, disabled]
    · refine unmoved (leaves_aside ?_ named) fun same => absurd same toggles
      simpa [othersAside, toggles] using aside

end Call

/-- The identifiers of a row and of its agent are texts of identifiers. -/
theorem Consistent.parsed {db : Database} {drawn : List Uuid} (consistent : Consistent db drawn)
    (listed : row ∈ db.tunnels) :
    (∃ tunnelId, parseUuid row.id = some tunnelId) ∧ ∃ agentId, parseUuid row.agentId = some agentId := by
  obtain ⟨tunnelId, _, named⟩ := consistent.tunnelDrawn row listed
  obtain ⟨agent, there, owner⟩ := consistent.attached row listed
  obtain ⟨agentId, _, named'⟩ := consistent.agentDrawn agent there
  exact ⟨⟨tunnelId, by rw [named, parseUuid_uuidToString]⟩, agentId, by rw [← owner, named', parseUuid_uuidToString]⟩

theorem Consistent.tunnel {world : World} (consistent : Consistent world.db world.drawn)
    (listed : row ∈ world.db.tunnels) : world.tunnel row.id = some row := by
  cases found : world.tunnel row.id with
  | none => exact absurd (List.find?_eq_none.mp found row listed) (by simp)
  | some other =>
      have same : other.id = row.id := by simpa using List.find?_some found
      rw [List.inj_on_of_nodup_map consistent.tunnelIds (List.mem_of_find?_eq_some found) listed same]

theorem Counting.run {state : World} {last : Config relay} (there : state.tunnel row.id = some row)
    (named : parseUuid row.id = some tunnelId) (owned : parseUuid row.agentId = some agentId)
    (run : Reachable (onlyToggled row) state last) :
    Counting row (last.occurrences (writesFlag row.id)) last :=
  Reachable.tally (Counting.initial there)
    (fun earlier counting permitted called =>
      counting.call (earlier.lawful toggleContract_lawful) named owned called permitted)
    (fun counting same state => counting.quiet same state) (fun _ permitted => permitted.1) run

theorem Following.run {state : World} {last : Config relay} (there : state.tunnel row.id = some row)
    (named : parseUuid row.id = some tunnelId) (owned : parseUuid row.agentId = some agentId)
    (connected : (state.agentSenders agentId).isSome)
    (run : Reachable (fun config action => onlyToggled row config action ∧
      (bindsSucceed : Check relay).condition config action) state last) :
    Following row tunnelId agentId ((state.tunnelTasks tunnelId).isSome = row.enabled)
      (last.occurrences (writesFlag row.id)) last :=
  Reachable.tally (Following.initial connected)
    (fun earlier following permitted called =>
      following.call (Counting.run there named owned (earlier.weaken fun _ _ both => both.1))
        (earlier.lawful toggleContract_lawful) named owned called permitted.1 permitted.2)
    (fun following same state => following.quiet same state) (fun _ permitted => permitted.1.1) run


theorem Counting.occurrences {count : Nat} {last : Config relay} (counting : Counting row count last)
    (through : ∀ thread ∈ last.threads, thread.job = .toggleTunnel row.id → Toggled row.id thread.past) :
    last.occurrences (writesFlag row.id) = Config.toggles row.id last := by
  refine Config.occurrences_eq fun thread member => ?_
  by_cases toggles : thread.job = .toggleTunnel row.id
  · obtain ⟨_, _, _, _, begun, _⟩ := through thread member toggles
    simp [begun.count, toggles]
  · rw [counting.others thread member toggles, beq_eq_false_iff_ne.mpr toggles, Bool.toNat_false]

/-- From any state that can be reached, requests that toggle one tunnel are not
lost where each reads the row only while no other is at work: when all have
returned, the flag has been negated as often as there were requests, and where
the agent is connected and no port is in use the listener is as the flag says. -/
theorem toggles_counted {portRange : UInt16 × UInt16} {state : World} {threads : List (Thread relay)}
    {last : Config relay} (reached : Reached anyStep portRange ⟨state, threads⟩)
    (listed : row ∈ state.db.tunnels) (run : Reachable (onlyToggled row) state last)
    (completed : ∀ thread ∈ last.threads, thread.job = .toggleTunnel row.id → thread.finished) :
    (∃ later ∈ last.state.db.tunnels, later.id = row.id ∧
      later.enabled = not^[Config.toggles row.id last] row.enabled) ∧
    ∀ tunnelId agentId, parseUuid row.id = some tunnelId → parseUuid row.agentId = some agentId →
      (state.agentSenders agentId).isSome →
      0 < Config.toggles row.id last ∨ (state.tunnelTasks tunnelId).isSome = row.enabled →
      Reachable (fun config action => onlyToggled row config action ∧
        (bindsSucceed : Check relay).condition config action) state last →
      (last.state.tunnelTasks tunnelId).isSome = not^[Config.toggles row.id last] row.enabled := by
  have consistent := reached.consistent
  have there := consistent.tunnel listed
  obtain ⟨⟨tunnelId, named⟩, agentId, owned⟩ := consistent.parsed listed
  have counting := Counting.run there named owned run
  have through : ∀ thread ∈ last.threads, thread.job = .toggleTunnel row.id → Toggled row.id thread.past :=
    fun thread member toggles => counting.returned (run.lawful toggleContract_lawful) named owned member toggles
      (completed thread member toggles)
  have count := counting.occurrences through
  constructor
  · obtain ⟨later, found, _, flag⟩ := counting.flag
    rw [count] at flag
    exact ⟨later, List.mem_of_find?_eq_some found, by simpa using List.find?_some found, flag⟩
  · intro tunnelId agentId named owned connected agreed run
    have following := Following.run there named owned connected run
    rw [count] at following
    exact following.listening agreed fun thread member toggles _ => through thread member toggles

end Runs

/-- Alice's tunnel is open. -/
def aliceOpened : List (Job × Choice) :=
  [(.register { username := "alice", password := "secret" }, answer 1 0),
    (.generateAgentToken (signedIn 1), answer 2 0),
    (.connect 0, answer 0 0),
    (.frame 0 (.message (.auth (Db.agentToken (answer 2 0)) "laptop")), answer 0 0),
    (.createTunnel (signedIn 1) (webTunnel 4), answer 3 0)]

/-- A test passed by Alice's tunnel and the configuration at the end of a schedule
that starts from there. -/
theorem aliceOpened_follow {check : TunnelRecord → Check relay} {turns : List (Turn relay)}
    {test : World → TunnelRecord → Config relay → Bool}
    (passed : (relay.performAll aliceOpened newRelay).any (fun world : World => world.db.tunnels.any fun row =>
      (relay.follow (check row) 200 turns ⟨world, []⟩).any (test world row)) = true) :
    ∃ state threads row last, Reached anyStep (10000, 60000) ⟨state, threads⟩ ∧ row ∈ state.db.tunnels ∧
      relay.follow (check row) 200 turns ⟨state, []⟩ = some last ∧ test state row last = true := by
  obtain ⟨⟨state, threads⟩, reached, _, checked⟩ := newRelay_check passed
  obtain ⟨row, listed, later⟩ := List.any_eq_true.mp checked
  obtain ⟨last, followed, tested⟩ := (Option.any_eq_true _ _).mp later
  exact ⟨state, threads, row, last, reached, listed, followed, tested⟩

/-- Alice's tunnel is switched off, on and off again. -/
theorem toggles_counted_alice :
    ∃ (row : TunnelRecord) (last : Config relay), row.enabled = true ∧ Config.toggles row.id last = 3 ∧
      (∃ later ∈ last.state.db.tunnels, later.id = row.id ∧ later.enabled = false) ∧
        last.state.tunnelTasks 6 = none := by
  have passed : (relay.performAll aliceOpened newRelay).any (fun world : World => world.db.tunnels.any fun row =>
      (relay.follow (fun config thread choice op => (othersAside row config thread choice op &&
        togglesApart row.id config thread choice op) && bindsSucceed config thread choice op) 200
          (inOrder (List.replicate 3 (.toggleTunnel (uuidToString 6), answer 0 0))) ⟨world, []⟩).any fun last =>
        row.enabled && decide (Config.toggles row.id last = 3) && last.threads.all Thread.isFinished &&
          decide (parseUuid row.id = some 6 ∧ parseUuid row.agentId = some 4) &&
          (world.agentSenders 4).isSome) = true := by decide +kernel
  obtain ⟨state, threads, row, last, reached, listed, followed, tested⟩ := aliceOpened_follow passed
  simp only [Bool.and_eq_true, decide_eq_true_eq, List.all_eq_true] at tested
  obtain ⟨⟨⟨⟨enabled, three⟩, returned⟩, named, owned⟩, connected⟩ := tested
  have run : Reachable (fun config action => onlyToggled row config action ∧
      (bindsSucceed : Check relay).condition config action) state last := by
    refine System.follow_allowed followed ?_ (fun _ _ _ => ⟨⟨trivial, trivial, trivial⟩, trivial⟩)
      fun impossible => by simp [inOrder] at impossible
    intro config action moves
    obtain ⟨both, binds⟩ := Check.condition_and moves.1
    obtain ⟨aside, apart⟩ := Check.condition_and both
    exact ⟨⟨moves.noReboot, aside, apart⟩, binds⟩
  obtain ⟨flag, listening⟩ := toggles_counted reached listed (run.weaken fun _ _ both => both.1)
    fun thread member _ => Thread.isFinished_iff.mp (returned thread member)
  rw [three, enabled] at flag
  have stopped := listening 6 4 named owned connected (.inl (by omega)) run
  rw [three, enabled] at stopped
  exact ⟨row, last, enabled, three, flag, by simpa using stopped⟩

/-- Two requests switch Alice's tunnel; both have read the row before either
writes it, and it is switched off once. -/
theorem toggle_lost :
    ¬ ∀ (state : World) (threads : List (Thread relay)) (row : TunnelRecord) (last : Config relay),
      Reached anyStep (10000, 60000) ⟨state, threads⟩ → row ∈ state.db.tunnels →
      Reachable (fun config action => noReboot config action ∧ (othersAside row).condition config action)
        state last →
      (∀ thread ∈ last.threads, thread.job = .toggleTunnel row.id → thread.finished) →
        ∃ later ∈ last.state.db.tunnels, later.id = row.id ∧
          later.enabled = not^[Config.toggles row.id last] row.enabled := by
  have passed : (relay.performAll aliceOpened newRelay).any (fun world : World => world.db.tunnels.any fun row =>
      (relay.follow (othersAside row) 200 ([.start (.toggleTunnel (uuidToString 6)),
        .start (.toggleTunnel (uuidToString 6))] ++ List.replicate 3 (.move 0 (answer 0 0)) ++
        [.finish 1 (answer 0 0), .finish 0 (answer 0 0)]) ⟨world, []⟩).any fun last =>
        row.enabled && decide (Config.toggles row.id last = 2) && last.threads.all Thread.isFinished &&
          last.state.db.tunnels.all (!·.enabled)) = true := by decide +kernel
  obtain ⟨state, threads, row, last, reached, listed, followed, tested⟩ := aliceOpened_follow passed
  simp only [Bool.and_eq_true, decide_eq_true_eq, List.all_eq_true, Bool.not_eq_true'] at tested
  obtain ⟨⟨⟨enabled, two⟩, returned⟩, off⟩ := tested
  have run : Reachable (fun config action => noReboot config action ∧ (othersAside row).condition config action)
      state last :=
    System.follow_allowed followed (fun _ _ moves => ⟨moves.noReboot, moves.1⟩)
      (fun _ _ _ => ⟨trivial, trivial⟩) fun impossible => by simp at impossible
  intro always
  obtain ⟨later, there, _, flag⟩ := always state threads row last reached listed run
    fun thread member _ => Thread.isFinished_iff.mp (returned thread member)
  rw [two, enabled, off later there] at flag
  exact absurd flag (by decide)

end TunnelitRelay
