import TunnelitRelay.Lockout
import TunnelitRelay.SessionHistory

namespace TunnelitRelay

open Concurrent Program Data

/-! # Registration and login agree -/

section Runs

variable [Externals] {portRange : UInt16 × UInt16} {trace : List (Entry relay)} {config : Config relay}
  {world : World} {body : AuthRequest} {userId : String}

/-- A login with these credentials can succeed, as this user. -/
def LogsIn (world : World) (body : AuthRequest) (userId : String) : Prop :=
  ∃ after token user, (login body).Executes relay [] world [] after (.session .ok token user) ∧ user.id = userId

/-- The entry registers a user, under this name. -/
def Registers (first : AuthRequest) (user : UserRecord) (entry : Entry relay) : Prop :=
  entry.job = .register first ∧
    entry.event = ⟨.db (.registerUser (trim first.username) first.password), .ok user⟩

/-- The user was registered under the name and with the password, and is not banned. -/
structure Enrolled (trace : List (Entry relay)) (db : Database) (body : AuthRequest) (userId : String) : Prop where
  created : ∃ entry ∈ trace, ∃ first user, Registers first user entry ∧
    trim first.username = trim body.username ∧ first.password = body.password ∧ user.id = userId
  unbanned : ¬ Banned db userId

/-- No other password that was registered has the hash of this one. -/
def CollisionFree (trace : List (Entry relay)) (password : String) : Prop :=
  ∀ entry ∈ trace, ∀ username other result, entry.event = ⟨.db (.registerUser username other), result⟩ →
    Db.hashPassword other = Db.hashPassword password → other = password

/-- Neither a registration with the credentials nor a ban of the user. -/
def unrelated (body : AuthRequest) (userId : String) : Condition relay :=
  onCall fun _ _ _ op => match op with
    | .db (.registerUser username password) => username = trim body.username → password ≠ body.password
    | .db (.toggleUserBan id _) => id ≠ userId
    | _ => True

structure LoginsAgree (trace : List (Entry relay)) (config : Config relay) (body : AuthRequest) : Prop where
  succeeds : ∀ userId, LogsIn config.state body userId ↔ Enrolled trace config.state.db body userId
  one : ∀ userId other, Enrolled trace config.state.db body userId →
    Enrolled trace config.state.db body other → userId = other
  /-- Where the database answers, the login does not fail. -/
  certain : ∀ userId, Enrolled trace config.state.db body userId →
    (login body).Always (relay.restrict answersAll)
      (fun _ reply => ∃ token user, reply = .session .ok token user ∧ user.id = userId) config.state
  stable : ∀ action after userId, Step config action after → unrelated body userId config action →
    CollisionFree (noted action after ++ trace) body.password → (∃ id, id ∉ after.state.drawn) →
      (LogsIn after.state body userId ↔ LogsIn config.state body userId)
  /-- A registration that has returned was successful if it has registered a user. -/
  answered : ∀ thread ∈ config.threads, ∀ first reply, thread.job = .register first → thread.rest = .done reply →
    ∀ user, (∃ code token, reply = .session code token user) ↔
      Did thread.past (.db (.registerUser (trim first.username) first.password)) (.ok user)

/-! ## Who registers -/

def registering (job : Job) : Law relaySignature := fun _ _ move =>
  ∀ username password, move = .call (.db (.registerUser username password)) →
    ∃ first, job = .register first ∧ username = trim first.username ∧ password = first.password

def registrationContract : Contract relay where
  law := registering
  answer := fun job past _ reply => ∀ first, job = .register first → ∀ user,
    (∃ code token, reply = .session code token user) ↔
      Did past (.db (.registerUser (trim first.username) first.password)) (.ok user)

omit [Externals] in
theorem registering_restricts {job : Job} :
    (registering job).Restricts fun op => ∃ username password, op = .db (.registerUser username password) :=
  fun _ _ _ free _ _ same => absurd same (free _ ⟨_, _, rfl⟩)

theorem register_registers {first : AuthRequest} : (register first).Obeys (registering (.register first))
    (fun past _ reply => ∀ user, (∃ code token, reply = .session code token user) ↔
      Did past (.db (.registerUser (trim first.username) first.password)) (.ok user)) [] [] := by
  have refused {past : Past} {reply : Reply} (plain : ∀ code token user, reply ≠ .session code token user)
      (none : ∀ user, ¬ Did past (.db (.registerUser (trim first.username) first.password)) (.ok user)) (user) :
      (∃ code token, reply = .session code token user) ↔
        Did past (.db (.registerUser (trim first.username) first.password)) (.ok user) :=
    ⟨fun issued => absurd issued.choose_spec.choose_spec (plain _ _ _), fun did => absurd did (none user)⟩
  simp only [register]
  split
  · exact refused (by simp) fun _ => did_nil
  split
  · exact refused (by simp) fun _ => did_nil
  simp only [query, bind_eq, obeys_bind, obeys_guarded]
  refine ⟨fun _ _ same => (by cases same),
    ⟨fun username password same => ?_, fun created => ⟨fun _ _ same => (by cases same), ?_⟩⟩⟩
  · cases same
    exact ⟨first, rfl, rfl, rfl⟩
  · rcases created with (failure | _) | user
    · refine refused (by simp [Failure.reply]) fun user did => ?_
      rcases did_cons.mp did with now | old
      · cases now
      · exact did_nil old
    · refine refused (by simp [Failure.reply]) fun user did => ?_
      rcases did_cons.mp did with now | old
      · cases now
      · exact did_nil old
    · simp only [issueSession, bind_eq, obeys_bind, obeys_guarded]
      refine ⟨fun _ _ same => (by cases same), fun id => ⟨fun _ _ same => (by cases same),
        ⟨fun _ _ same => (by cases same), fun _ => ⟨fun _ _ same => (by cases same), fun other => ?_⟩⟩⟩⟩
      constructor
      · rintro ⟨code, token, same⟩
        cases same
        exact List.mem_cons_of_mem _ (List.mem_cons_of_mem _ List.mem_cons_self)
      · intro did
        rcases did_cons.mp did with now | old
        · cases now
        · rcases did_cons.mp old with now | old
          · cases now
          · rcases did_cons.mp old with now | old
            · cases now
              exact ⟨_, _, rfl⟩
            · exact absurd old did_nil

theorem register_answered {first : AuthRequest} : (register first).Obeys (registering (.register first))
    (registrationContract.answer (.register first)) [] [] := by
  refine register_registers.mono (fun _ _ _ lawful => lawful) fun past held reply answered other same => ?_
  obtain rfl := Job.register.inj same
  exact answered

theorem relay_registers : relay.Lawful registrationContract := by
  intro job
  have others (silent : ∀ first, job ≠ .register first)
      (outside : ∀ username password, job.outside (.db (.registerUser username password))) :
      (serve job).Obeys (registering job) (registrationContract.answer job) [] [] :=
    ((serve_footprint job).mono fun op ⟨_, _, same⟩ => same ▸ outside _ _).obeys registering_restricts
      fun _ _ _ _ first same => absurd same (silent first)
  cases job with
  | register first => exact register_answered
  | frame session frame =>
      refine others (fun _ same => by cases same) fun _ _ => ?_
      cases frame with
      | message message => cases message <;> rfl
      | ignored | hangup => rfl
  | _ => exact others (fun _ same => by cases same) fun _ _ => rfl

/-! ## The users table -/

/-- One operation inserts the row of a registration, or rewrites no name and no
password; and it changes only the ban it says. -/
theorem users_exec {after : World} {choice : Choice} {op : Op} {result : op.Result}
    (executed : exec world choice op = some (after, result)) :
    (∃ username password user, (⟨op, result⟩ : Event relaySignature) = ⟨.db (.registerUser username password), .ok user⟩ ∧
      after.db.users = world.db.users ++ [{ user with passwordHash := Db.hashPassword password }] ∧
      user.username = username ∧ user.isBanned = false ∧ ∀ other ∈ world.db.users, other.username ≠ username) ∨
    (∀ username password user,
      (⟨op, result⟩ : Event relaySignature) ≠ ⟨.db (.registerUser username password), .ok user⟩) ∧
      ∃ relabel : UserRow → UserRow, after.db.users = world.db.users.map relabel ∧ ∀ row,
        (relabel row).id = row.id ∧ (relabel row).username = row.username ∧
          (relabel row).passwordHash = row.passwordHash ∧
            ((∀ banned, op ≠ .db (.toggleUserBan row.id banned)) → (relabel row).isBanned = row.isBanned) := by
  have same (users : after.db.users = world.db.users) : ∃ relabel : UserRow → UserRow,
      after.db.users = world.db.users.map relabel ∧ ∀ row, (relabel row).id = row.id ∧
        (relabel row).username = row.username ∧ (relabel row).passwordHash = row.passwordHash ∧
          ((∀ banned, op ≠ .db (.toggleUserBan row.id banned)) → (relabel row).isBanned = row.isBanned) :=
    ⟨id, by rw [users, List.map_id], fun _ => ⟨rfl, rfl, rfl, fun _ => rfl⟩⟩
  cases op with
  | db query =>
      obtain ⟨changed, answer, _⟩ := exec_db executed
      have users : after.db = (query.run choice world.portRange world.db).1 := by rw [changed]
      cases query with
      | registerUser username password =>
          rcases registerUser_cases choice world.portRange world.db username password with
            ⟨failure, failed⟩ | ⟨user, inserted, named, unbanned, unique⟩
          · rw [Query.run, failed] at answer users
            refine .inr ⟨fun _ _ _ same => ?_, same (by rw [users])⟩
            cases same
            cases answer
          · rw [Query.run, inserted] at answer users
            subst answer
            exact .inl ⟨username, password, user, rfl, by rw [users], named, unbanned, unique⟩
      | toggleUserBan id banned =>
          refine .inr ⟨fun _ _ _ same => (by cases same), ?_⟩
          simp only [Query.run, Db.toggleUserBan, Database.write] at users
          split at users
          · rename_i later written
            cases Choice.statement_ok written
            refine ⟨_, by rw [users], fun row => ?_⟩
            by_cases hit : row.id = id
            · simp only [hit, beq_self_eq_true, if_true]
              exact ⟨trivial, trivial, trivial, fun other => absurd rfl (other banned)⟩
            · simp only [beq_iff_eq, hit, if_false]
              exact ⟨trivial, trivial, trivial, fun _ => trivial⟩
          · exact same (by rw [users])
      | _ =>
          refine .inr ⟨fun _ _ _ same => (by cases same), same ?_⟩
          generalize after.db = tables at users ⊢
          have change : Change choice world.db _ tables := users ▸ Query.run_change _
          cases change <;> rfl
  | _ =>
      refine .inr ⟨fun _ _ _ same => (by cases same), same ?_⟩
      rcases exec_change executed with ⟨query, impossible, _⟩ | ⟨unchanged, _⟩
      · cases impossible
      · rw [unchanged]

/-- The entry inserted the row. -/
def Entered (entry : Entry relay) (row : UserRow) : Prop :=
  ∃ password user, entry.event = ⟨.db (.registerUser row.username password), .ok user⟩ ∧ user.id = row.id ∧
    row.passwordHash = Db.hashPassword password

/-- The rows of `users` are those of the registrations, each under a name of its own. -/
structure Rolled (trace : List (Entry relay)) (db : Database) : Prop where
  rows : ∀ row ∈ db.users, ∃ entry ∈ trace, Entered entry row
  entries : ∀ entry ∈ trace, ∀ username password user,
    entry.event = ⟨.db (.registerUser username password), .ok user⟩ → ∃ row ∈ db.users, row.id = user.id ∧
      row.username = username ∧ row.passwordHash = Db.hashPassword password
  names : (db.users.map (·.username)).Nodup

theorem Rolled.call {before after : Config relay} {task : Nat} {thread : Thread relay} {choice : Choice} {op : Op}
    {result : op.Result} (rolled : Rolled trace before.state.db)
    (called : Called before task thread choice op result after) :
    Rolled (⟨task, thread.job, ⟨op, result⟩⟩ :: trace) after.state.db := by
  rcases users_exec called.executed with ⟨username, password, user, event, users, named, _, unique⟩ |
    ⟨other, relabel, users, same⟩
  · constructor
    · intro row listed
      rw [users] at listed
      rcases List.mem_append.mp listed with old | new
      · obtain ⟨entry, member, entered⟩ := rolled.rows row old
        exact ⟨entry, List.mem_cons_of_mem _ member, entered⟩
      · rw [List.mem_singleton.mp new]
        exact ⟨_, List.mem_cons_self, password, user, named ▸ event, rfl, rfl⟩
    · intro entry member name secret record registers
      rw [users]
      rcases List.mem_cons.mp member with rfl | old
      · cases event.symm.trans registers
        exact ⟨_, List.mem_append_right _ (List.mem_singleton.mpr rfl), rfl, named, rfl⟩
      · obtain ⟨row, listed, alike⟩ := rolled.entries entry old name secret record registers
        exact ⟨row, List.mem_append_left _ listed, alike⟩
    · rw [users, List.map_append, List.nodup_append]
      refine ⟨rolled.names, by simp, ?_⟩
      intro name old text new
      obtain ⟨row, listed, rfl⟩ := List.mem_map.mp old
      obtain rfl : text = user.username := by simpa using new
      rw [named]
      exact unique row listed
  · constructor
    · intro row listed
      rw [users] at listed
      obtain ⟨old, there, rfl⟩ := List.mem_map.mp listed
      obtain ⟨ids, names, hashes, _⟩ := same old
      obtain ⟨entry, member, password, user, event, named, hashed⟩ := rolled.rows old there
      exact ⟨entry, List.mem_cons_of_mem _ member, password, user, names ▸ event, named.trans ids.symm,
        hashes.trans hashed⟩
    · intro entry member name secret record registers
      rcases List.mem_cons.mp member with rfl | old
      · exact absurd registers (other _ _ _)
      · obtain ⟨row, listed, named, under, hashed⟩ := rolled.entries entry old name secret record registers
        obtain ⟨ids, names, hashes, _⟩ := same row
        exact ⟨relabel row, users ▸ List.mem_map_of_mem listed, ids.trans named, names.trans under,
          hashes.trans hashed⟩
    · have kept : (before.state.db.users.map relabel).map (·.username) = before.state.db.users.map (·.username) := by
        rw [List.map_map]
        exact List.map_congr_left fun row _ => (same row).2.1
      rw [users, kept]
      exact rolled.names

/-- The runs from an empty database. -/
abbrev Logged (portRange : UInt16 × UInt16) (trace : List (Entry relay)) (config : Config relay) : Prop :=
  Traced anyStep (World.initial portRange Database.empty []) trace config

theorem Logged.rolled (logged : Logged portRange trace config) : Rolled trace config.state.db := by
  refine @Traced.track _ relay anyStep _ (fun trace config => Rolled trace config.state.db) _ _ ?_ ?_ ?_ ?_ logged
  · refine ⟨fun row listed => ?_, fun entry member => by simp at member, by simp [World.initial, Database.empty]⟩
    simp [World.initial, Database.empty] at listed
  · exact fun _ rolled _ called => rolled.call called
  · intro trace before after rolled _ state
    rcases state with same | ⟨job, admitted⟩
    · rw [same]
      exact rolled
    · obtain ⟨sessions, changed⟩ := accept_same admitted
      rw [changed]
      exact rolled
  · exact fun _ rolled => rolled

/-! ## One login -/

/-- The row `verify_user` finds. -/
def matching (db : Database) (body : AuthRequest) : Option UserRow :=
  db.users.find? fun row => row.username == trim body.username && row.passwordHash == Db.hashPassword body.password

theorem verifyUser_matching {choice : Choice} (accepted : choice.refuses 0 = none) :
    (Query.run choice world.portRange world.db (.verifyUser (trim body.username) body.password)).2 =
      .ok ((matching world.db body).map (·.toUserRecord)) := by
  simp only [Query.run, Db.verifyUser, Choice.statement, accepted]
  rfl

theorem issueSession_always {code : StatusCode} {user : UserRecord} :
    (issueSession code user).Always relay (fun _ reply => ∃ token, reply = .session code token user) world := by
  refine always_bind.mpr (access_always fun choice drawn id executed => always_bind.mpr ?_)
  exact withLock_always fun choice after result executed => ⟨_, rfl⟩

theorem LogsIn.verified (logsIn : LogsIn world body userId) :
    ∃ row, matching world.db body = some row ∧ row.isBanned = false ∧ row.id = userId := by
  obtain ⟨after, token, user, executes, named⟩ := logsIn
  have always : (login body).Always relay (fun _ reply => ∀ token user, reply = .session .ok token user →
      ∃ row, matching world.db body = some row ∧ row.isBanned = false ∧ row.toUserRecord = user) world := by
    refine always_bind.mpr (query_always fun choice drawn => ?_)
    cases refused : choice.refuses 0 with
    | some failure =>
        simp only [Query.run, Db.verifyUser, Choice.statement, refused]
        cases failure <;> simp [Failure.dbError, Failure.reply]
    | none =>
        rw [verifyUser_matching refused]
        cases known : matching world.db body with
        | none => simp
        | some row =>
            dsimp only [Option.map_some]
            split
            · simp
            · rename_i unbanned
              refine issueSession_always.mono fun _ reply issued other user again => ?_
              obtain ⟨token, same⟩ := issued
              rw [same] at again
              cases again
              exact ⟨row, rfl, by simpa using unbanned, rfl⟩
  obtain ⟨row, known, unbanned, same⟩ := executes.always always token user rfl
  exact ⟨row, known, unbanned, same ▸ named⟩

theorem LogsIn.of_matching {row : UserRow} (known : matching world.db body = some row) (unbanned : row.isBanned = false)
    (fresh : ∃ id, id ∉ world.drawn) : LogsIn world body row.id := by
  obtain ⟨id, unused⟩ := fresh
  have free (lock : Lock) : @Grants relaySignature [] lock .exclusive := fun own holds => by simp at holds
  have verified : exec world calm (.db (.verifyUser (trim body.username) body.password)) =
      some (world, .ok (some row.toUserRecord)) := by
    have answer : (Query.run calm world.portRange world.db (.verifyUser (trim body.username) body.password)).2 =
        .ok (some row.toUserRecord) := by
      rw [verifyUser_matching rfl, known]
      rfl
    simp [exec, Query.draws, Query.run] at answer ⊢
    exact answer
  have draws : exec world { calm with token := id } .newUuid =
      some ({ world with drawn := id :: world.drawn }, id) := by
    simp [exec, unused]
  have stores : exec { world with drawn := id :: world.drawn } calm (.insertUserSession (userToken id) row.id) =
      some ({ world with
        drawn := id :: world.drawn
        userSessions := Function.update world.userSessions (userToken id) (some row.id) }, ()) := rfl
  obtain ⟨after, issued⟩ : ∃ after, (issueSession .ok row.toUserRecord).Executes relay [] world [] after
      (.session .ok (userToken id) row.toUserRecord) :=
    ⟨_, .bind ⟨_, _, _, draws, rfl, rfl, rfl⟩ (.bind (.guarded (free .userSessions) ⟨calm, stores⟩) ⟨rfl, rfl, rfl⟩)⟩
  refine ⟨after, userToken id, row.toUserRecord, .bind (.guarded (free .db) ⟨calm, verified⟩) ?_, rfl⟩
  dsimp only
  rw [if_neg (by simp [unbanned])]
  exact issued

theorem login_certain {row : UserRow} (known : matching world.db body = some row) (unbanned : row.isBanned = false) :
    (login body).Always (relay.restrict answersAll)
      (fun _ reply => ∃ token user, reply = .session .ok token user ∧ user.id = row.id) world := by
  refine always_bind.mpr (query_restricted fun choice met _ => ?_)
  have accepted : choice.refuses 0 = none := Option.isNone_iff_eq_none.mp met
  rw [verifyUser_matching accepted, known]
  dsimp only [Option.map_some]
  rw [if_neg (by simp [unbanned])]
  exact issueSession_always.restrict.mono fun _ reply ⟨token, same⟩ => ⟨token, _, same, rfl⟩

/-! ## Runs -/

theorem Enrolled.row (enrolled : Enrolled trace config.state.db body userId)
    (logged : Logged portRange trace config) :
    ∃ row, matching config.state.db body = some row ∧ row.isBanned = false ∧ row.id = userId := by
  obtain ⟨entry, member, first, user, ⟨_, event⟩, sameName, samePassword, named⟩ := enrolled.created
  obtain ⟨row, listed, ids, names, hashes⟩ := logged.rolled.entries entry member _ _ _ event
  have known : (matching config.state.db body).isSome = true := by
    refine List.find?_isSome.mpr ⟨row, listed, ?_⟩
    simp [names, hashes, sameName, samePassword]
  obtain ⟨hit, known⟩ := Option.isSome_iff_exists.mp known
  -- Names are unique, so the row found is that of the registration.
  have same : hit = row := by
    refine List.inj_on_of_nodup_map logged.rolled.names (List.mem_of_find?_eq_some known) listed ?_
    have matched := List.find?_some known
    simp only [Bool.and_eq_true, beq_iff_eq] at matched
    rw [matched.1, names, sameName]
  refine ⟨hit, known, ?_, same ▸ ids.trans named⟩
  by_contra banned
  exact enrolled.unbanned ⟨hit, List.mem_of_find?_eq_some known, same ▸ ids.trans named, by simpa using banned⟩

theorem Enrolled.of_matching {row : UserRow} (logged : Logged portRange trace config)
    (collisionFree : CollisionFree trace body.password) (known : matching config.state.db body = some row)
    (unbanned : row.isBanned = false) : Enrolled trace config.state.db body row.id := by
  have listed := List.mem_of_find?_eq_some known
  have matched := List.find?_some known
  simp only [Bool.and_eq_true, beq_iff_eq] at matched
  constructor
  · obtain ⟨entry, member, password, user, event, named, hashed⟩ := logged.rolled.rows row listed
    obtain ⟨past, held, law, _⟩ := logged.lawful relay_registers member
    rw [event] at law
    obtain ⟨first, job, name, secret⟩ := law _ _ rfl
    have same := collisionFree entry member _ _ _ event (hashed.symm.trans matched.2)
    refine ⟨entry, member, first, user, ⟨job, ?_⟩, name.symm.trans matched.1, secret.symm.trans same, named⟩
    rw [event, name, secret]
  · rintro ⟨other, there, named, banned⟩
    have ids := (Reached.onOwnPorts logged.reachable).1.ids
    rw [List.inj_on_of_nodup_map ids there listed named, unbanned] at banned
    contradiction

theorem logsIn_iff (logged : Logged portRange trace config) (collisionFree : CollisionFree trace body.password)
    (fresh : ∃ id, id ∉ config.state.drawn) :
    LogsIn config.state body userId ↔ Enrolled trace config.state.db body userId := by
  constructor
  · intro logsIn
    obtain ⟨row, known, unbanned, rfl⟩ := logsIn.verified
    exact .of_matching logged collisionFree known unbanned
  · intro enrolled
    obtain ⟨row, known, unbanned, rfl⟩ := enrolled.row logged
    exact .of_matching known unbanned fresh

/-- A ban of somebody else, or none, changes nothing for this user. -/
theorem banned_unrelated {after : World} {choice : Choice} {op : Op} {result : op.Result}
    (executed : exec world choice op = some (after, result))
    (other : ∀ banned, op ≠ .db (.toggleUserBan userId banned)) :
    Banned after.db userId ↔ Banned world.db userId := by
  rcases users_exec executed with ⟨username, password, user, _, users, _, unbanned, _⟩ | ⟨_, relabel, users, same⟩
  · unfold Banned
    rw [users]
    constructor
    · rintro ⟨row, listed, named, banned⟩
      rcases List.mem_append.mp listed with old | new
      · exact ⟨row, old, named, banned⟩
      · rw [List.mem_singleton.mp new, unbanned] at banned
        contradiction
    · exact fun ⟨row, listed, rest⟩ => ⟨row, List.mem_append_left _ listed, rest⟩
  · unfold Banned
    rw [users]
    constructor
    · rintro ⟨_, listed, named, banned⟩
      obtain ⟨row, there, rfl⟩ := List.mem_map.mp listed
      obtain ⟨ids, _, _, bans⟩ := same row
      exact ⟨row, there, ids.symm.trans named, bans (fun _ => ids ▸ named ▸ other _) ▸ banned⟩
    · rintro ⟨row, there, named, banned⟩
      obtain ⟨ids, _, _, bans⟩ := same row
      exact ⟨_, List.mem_map_of_mem there, ids.trans named, (bans fun _ => named ▸ other _).trans banned⟩

theorem enrolled_unrelated {action : Action relay} {after : Config relay} (step : Step config action after)
    (unrelated : unrelated body userId config action) :
    Enrolled (noted action after ++ trace) after.state.db body userId ↔
      Enrolled trace config.state.db body userId := by
  cases step with
  | @call task thread op next choice state result found head executed =>
      have permitted := unrelated thread op next found head
      have called : Called config task thread choice op result ⟨state, config.threads.set task
          { thread with past := ⟨op, result⟩ :: thread.past, rest := next result }⟩ :=
        ⟨found, executed, next, head, rfl⟩
      have bans : Banned state.db userId ↔ Banned config.state.db userId := by
        refine banned_unrelated executed fun banned same => ?_
        subst same
        exact permitted rfl
      rw [called.noted]
      constructor
      · rintro ⟨⟨entry, member, first, user, ⟨job, event⟩, sameName, samePassword, named⟩, unbanned⟩
        refine ⟨⟨entry, ?_, first, user, ⟨job, event⟩, sameName, samePassword, named⟩,
          fun banned => unbanned (bans.mpr banned)⟩
        rcases List.mem_cons.mp member with rfl | old
        · cases event
          exact absurd samePassword (permitted sameName)
        · exact old
      · rintro ⟨⟨entry, member, rest⟩, unbanned⟩
        exact ⟨⟨entry, List.mem_cons_of_mem _ member, rest⟩, fun banned => unbanned (bans.mp banned)⟩
  | start admitted =>
      obtain ⟨sessions, rfl⟩ := accept_same admitted
      exact Iff.rfl
  | acquire | release | reboot => exact Iff.rfl

/-- In every run from an empty database a login succeeds as the user registered
with its credentials, as long as the user is not banned, and as nobody else. -/
theorem logins_agree (logged : Logged portRange trace config) (collisionFree : CollisionFree trace body.password)
    (fresh : ∃ id, id ∉ config.state.drawn) : LoginsAgree trace config body := by
  constructor
  · exact fun userId => logsIn_iff logged collisionFree fresh
  · intro userId other enrolled again
    obtain ⟨row, known, _, rfl⟩ := enrolled.row logged
    obtain ⟨row', known', _, rfl⟩ := again.row logged
    rw [Option.some.inj (known.symm.trans known')]
  · intro userId enrolled
    obtain ⟨row, known, unbanned, rfl⟩ := enrolled.row logged
    exact login_certain known unbanned
  · intro action after userId step permitted collisionFree' fresh'
    rw [logsIn_iff (.step logged trivial step) collisionFree' fresh', logsIn_iff logged collisionFree fresh]
    exact enrolled_unrelated step permitted
  · intro thread member first reply registers returned user
    have obeys := logged.reachable.lawful relay_registers thread member
    rw [returned] at obeys
    exact obeys first registers user

end Runs

/-- Alice, who registered with a blank after her name, can log in without it. -/
theorem logins_agree_alice : ∃ trace, ∃ config : Config relay, Logged (10000, 60000) trace config ∧
    LogsIn config.state { username := "alice", password := "secret" } (uuidToString 2) ∧
      LoginsAgree trace config { username := "alice", password := "secret" } := by
  have passed : (relay.follow (fun _ _ _ _ => true) 200 (inOrder
      [(.register { username := "alice ", password := "secret" }, answer 1 0)]) ⟨newRelay, []⟩).any
        (fun config : Config relay => config.state.drawn.all (· != BitVec.ofNat 128 9) &&
          (config.threads.all fun thread => thread.job = .register { username := "alice ", password := "secret" }) &&
          (matching config.state.db { username := "alice", password := "secret" }).any fun row =>
            row.id == uuidToString 2 && !row.isBanned) = true := by decide +kernel
  obtain ⟨config, followed, tested⟩ := (Option.any_eq_true _ _).mp passed
  obtain ⟨tested, enrolled⟩ := (Bool.and_eq_true _ _).mp tested
  obtain ⟨undrawn, jobs⟩ := (Bool.and_eq_true _ _).mp tested
  obtain ⟨row, known, named⟩ := (Option.any_eq_true _ _).mp enrolled
  simp only [Bool.and_eq_true, beq_iff_eq, Bool.not_eq_true'] at named
  have run : Reachable noReboot newRelay config :=
    System.follow_allowed followed (fun _ _ moves => moves.noReboot) (fun _ _ _ => trivial) fun reboots => by
      simp [inOrder] at reboots
  obtain ⟨trace, traced⟩ := run.traced
  have logged : Logged (10000, 60000) trace config := traced.weaken fun _ _ _ => trivial
  have fresh : ∃ id, id ∉ config.state.drawn :=
    ⟨BitVec.ofNat 128 9, fun drawn => by simpa using List.all_eq_true.mp undrawn _ drawn⟩
  have collisionFree : CollisionFree trace "secret" := by
    intro entry member username other result event _
    obtain ⟨thread, found, job, _⟩ := traced.performed (fun _ impossible => impossible) member
    obtain ⟨past, held, law, _⟩ := traced.lawful relay_registers member
    rw [event] at law
    obtain ⟨first, registers, _, secret⟩ := law _ _ rfl
    have only := of_decide_eq_true (List.all_eq_true.mp jobs thread (List.mem_of_getElem? found))
    rw [job, registers, Job.register.injEq] at only
    rw [secret, only]
  exact ⟨trace, config, logged, named.1 ▸ .of_matching known named.2 fresh, logins_agree logged collisionFree fresh⟩

end TunnelitRelay
