import Mathlib.Data.List.Pairwise
import TunnelitRelay.Concurrent.Trace
import TunnelitRelay.DedicatedPorts
import TunnelitRelay.FailedCreations
import TunnelitRelay.Footprints

namespace TunnelitRelay

open Concurrent Program

/-! # Sessions and who opened them -/

def Job.signsIn : Job → Bool
  | .register _ | .login _ => true
  | _ => false

/-- The requests that deal with accounts. -/
def Job.isAccount : Job → Bool
  | .register _ | .login _ | .logout _ | .adminLogin _ | .adminBanUser .. | .adminUnbanUser .. => true
  | _ => false

/-- The request is a logout that presents the token. -/
def Job.Presents (job : Job) (token : String) : Prop :=
  ∃ headers, job = .logout headers ∧ extractToken headers = some token

section Runs

variable [Externals] {portRange : UInt16 × UInt16} {db : Database} {drawn : List Uuid}
  {trace : List (Entry relay)} {config : Config relay}

/-- The entry puts the token into the session store, for this user. -/
def Inserts (token userId : String) (entry : Entry relay) : Prop :=
  entry.event = ⟨.insertUserSession token userId, ()⟩

def Removes (token : String) (entry : Entry relay) : Prop :=
  entry.event = ⟨.removeUserSession token, ()⟩

/-- The entry is that of a logout that presents the token. -/
def LogsOut (token : String) (entry : Entry relay) : Prop :=
  entry.job.Presents token ∧ Removes token entry

/-- The task was a registration or a login and has answered with the token. -/
def Issued (config : Config relay) (task : Nat) (token userId : String) : Prop :=
  ∃ thread code user, config.threads[task]? = some thread ∧ thread.job.signsIn = true ∧
    thread.rest = .done (.session code token user) ∧ user.id = userId

/-- Whom the two session stores let in, in terms of what has happened. -/
structure SessionsSound (trace : List (Entry relay)) (config : Config relay) : Prop where
  user : ∀ headers userId,
    (getCurrentUserId headers).Executes relay [] config.state [] config.state (some userId) ↔
      ∃ token, extractToken headers = some token ∧
        Since (fun entry => Inserts token userId entry ∧ Issued config entry.task token userId)
          (LogsOut token) trace
  /-- A logout that has returned is one of those that have happened. -/
  presented : ∀ (task : Nat) thread token, config.threads[task]? = some thread → thread.job.Presents token →
    ∃ entry ∈ trace, entry.task = task ∧ LogsOut token entry
  registered : ∀ headers userId,
    (getCurrentUserId headers).Executes relay [] config.state [] config.state (some userId) →
      ∃ row ∈ config.state.db.users, row.id = userId
  admin : ∀ headers, (isAdmin headers).Executes relay [] config.state [] config.state true ↔
    ∃ token, extractToken headers = some token ∧ ∃ thread ∈ config.threads,
      thread.job = .adminLogin adminPassword ∧ thread.rest = .done (.adminSession token)

/-! ## What the handlers do to the stores -/

/-- The task has registered the user, or has verified the password. -/
def Vouched (job : Job) (past : Past) (user : UserRecord) : Prop :=
  match job with
  | .register body => Did past (.db (.registerUser (Data.trim body.username) body.password)) (.ok user)
  | .login body => Did past (.db (.verifyUser (Data.trim body.username) body.password)) (.ok (some user))
  | _ => False

def Credited (job : Job) (past : Past) : Op → Prop
  | .insertUserSession token userId =>
      (∃ id, token = userToken id ∧ Did past .newUuid id) ∧ (∃ user, user.id = userId ∧ Vouched job past user) ∧
        ∀ other owner, ¬ Did past (.insertUserSession other owner) ()
  | .removeUserSession token => job.Presents token
  | .insertAdminSession _ => job = .adminLogin adminPassword
  | _ => True

def crediting (job : Job) : Law relaySignature := fun past _ move =>
  match move with
  | .call op => Credited job past op
  | _ => True

/-- The answer of an account request tells what it has done. -/
def accountable (job : Job) (past : Past) (reply : Reply) : Prop :=
  match job with
  | .register _ | .login _ => ∀ token userId, Did past (.insertUserSession token userId) () ↔
      ∃ code user, reply = .session code token user ∧ user.id = userId
  | .logout headers => ∀ token, extractToken headers = some token → Did past (.removeUserSession token) ()
  | .adminLogin _ => ∀ token, Did past (.insertAdminSession token) () ↔ reply = .adminSession token
  | _ => True

def accountContract : Contract relay where
  law := crediting
  answer := fun job past _ reply => accountable job past reply

theorem issueSession_credited {job : Job} {past : Past} {code : StatusCode} {user : UserRecord}
    (vouched : Vouched job past user) (unissued : ∀ token userId, ¬ Did past (.insertUserSession token userId) ()) :
    (issueSession code user).Obeys (crediting job)
      (fun past _ reply => ∀ token userId, Did past (.insertUserSession token userId) () ↔
        ∃ code user, reply = .session code token user ∧ user.id = userId) past [] := by
  have later {id : Uuid} : Vouched job (⟨.newUuid, id⟩ :: past) user := by
    cases job with
    | register | login => exact List.mem_cons_of_mem _ vouched
    | _ => exact vouched.elim
  simp only [issueSession, bind_eq, obeys_bind, obeys_guarded]
  refine ⟨trivial, fun id => ⟨trivial, ⟨⟨id, rfl, List.mem_cons_self⟩, ⟨user, rfl, later⟩, ?_⟩, fun _ => ⟨trivial, ?_⟩⟩⟩
  · intro other owner did
    rcases did_cons.mp did with now | old
    · cases now
    · exact unissued other owner old
  · intro token userId
    constructor
    · intro did
      rcases did_cons.mp did with now | old
      · cases now
        exact ⟨code, user, rfl, rfl⟩
      · rcases did_cons.mp old with now | old
        · cases now
        · exact absurd old (unissued token userId)
    · rintro ⟨_, _, same, rfl⟩
      cases same
      exact List.mem_cons_self

omit [Externals] in
/-- Answers other than a session are those of a task that has issued none. -/
theorem unissued_plain {past : Past} {reply : Reply}
    (unissued : ∀ token userId, ¬ Did past (.insertUserSession token userId) ())
    (plain : ∀ code token user, reply ≠ .session code token user) (token userId : String) :
    Did past (.insertUserSession token userId) () ↔ ∃ code user, reply = .session code token user ∧ user.id = userId :=
  ⟨fun did => absurd did (unissued token userId), fun ⟨_, _, same, _⟩ => absurd same (plain _ _ _)⟩

omit [Externals] in
theorem unissued_db {query : Query} {result} (token userId : String) :
    ¬ Did [⟨.db query, result⟩] (.insertUserSession token userId) () := by
  intro did
  rcases did_cons.mp did with now | old
  · cases now
  · exact did_nil old

theorem register_credited {body : AuthRequest} : (register body).Obeys (crediting (.register body))
    (fun past _ reply => accountable (.register body) past reply) [] [] := by
  simp only [register]
  split
  · exact unissued_plain (fun _ _ => did_nil) (by simp)
  split
  · exact unissued_plain (fun _ _ => did_nil) (by simp)
  simp only [query, bind_eq, obeys_bind, obeys_guarded]
  refine ⟨trivial, trivial, fun created => ⟨trivial, ?_⟩⟩
  rcases created with (failure | _) | user
  · exact unissued_plain unissued_db (by simp [Failure.reply])
  · exact unissued_plain unissued_db (by simp [Failure.reply])
  · exact issueSession_credited List.mem_cons_self unissued_db

theorem login_credited {body : AuthRequest} : (login body).Obeys (crediting (.login body))
    (fun past _ reply => accountable (.login body) past reply) [] [] := by
  simp only [login, query, bind_eq, obeys_bind, obeys_guarded]
  refine ⟨trivial, trivial, fun found => ⟨trivial, ?_⟩⟩
  rcases found with (failure | _) | _ | user
  · exact unissued_plain unissued_db (by simp [Failure.dbError, Failure.reply])
  · exact unissued_plain unissued_db (by simp [Failure.dbError, Failure.reply])
  · exact unissued_plain unissued_db (by simp)
  · dsimp only
    split
    · exact unissued_plain unissued_db (by simp)
    · exact issueSession_credited List.mem_cons_self unissued_db

theorem logout_credited {headers : HeaderMap} : (logout headers).Obeys (crediting (.logout headers))
    (fun past _ reply => accountable (.logout headers) past reply) [] [] := by
  simp only [logout, bind_eq, obeys_bind]
  cases extracted : extractToken headers with
  | none =>
      intro token presented
      rw [extracted] at presented
      contradiction
  | some token =>
      refine obeys_guarded.mpr ⟨trivial, obeys_perform.mpr ⟨⟨headers, rfl, extracted⟩, fun _ => ⟨trivial, ?_⟩⟩⟩
      intro other presented
      rw [extracted, Option.some.injEq] at presented
      exact presented ▸ List.mem_cons_self

theorem adminLogin_credited {password : String} : (adminLogin password).Obeys (crediting (.adminLogin password))
    (fun past _ reply => accountable (.adminLogin password) past reply) [] [] := by
  simp only [adminLogin]
  split
  · rename_i master
    simp only [bind_eq, obeys_bind, obeys_guarded]
    refine ⟨trivial, fun id => ⟨trivial, congrArg Job.adminLogin master, fun _ => ⟨trivial, fun token => ?_⟩⟩⟩
    constructor
    · intro did
      rcases did_cons.mp did with now | old
      · cases now
        rfl
      · rcases did_cons.mp old with now | old
        · cases now
        · exact absurd old did_nil
    · intro same
      cases same
      exact List.mem_cons_self
  · exact fun token => ⟨fun did => absurd did did_nil, fun same => by cases same⟩

/-- A change of the session stores. -/
inductive ChangesSessions : Op → Prop where
  | insertUserSession {token userId} : ChangesSessions (.insertUserSession token userId)
  | removeUserSession {token} : ChangesSessions (.removeUserSession token)
  | insertAdminSession {token} : ChangesSessions (.insertAdminSession token)

theorem crediting_restricts {job : Job} : (crediting job).Restricts ChangesSessions := by
  intro past held move free
  match move with
  | .call op =>
      cases op with
      | insertUserSession => exact absurd rfl (free _ .insertUserSession)
      | removeUserSession => exact absurd rfl (free _ .removeUserSession)
      | insertAdminSession => exact absurd rfl (free _ .insertAdminSession)
      | _ => trivial
  | .acquire .. | .release _ => trivial

theorem relay_credits : relay.Lawful accountContract := by
  intro job
  have others (outside : ∀ op, ChangesSessions op → job.outside op)
      (posts : ∀ past reply, accountable job past reply) :
      (serve job).Obeys (crediting job) (fun past _ reply => accountable job past reply) [] [] :=
    ((serve_footprint job).mono outside).obeys crediting_restricts fun past _ reply _ => posts past reply
  cases job with
  | register body => exact register_credited
  | login body => exact login_credited
  | logout headers => exact logout_credited
  | adminLogin password => exact adminLogin_credited
  | frame session frame =>
      refine others (fun op changes => ?_) fun _ _ => trivial
      cases frame with
      | message message => cases changes <;> cases message <;> rfl
      | ignored | hangup => cases changes <;> rfl
  | _ =>
      refine others (fun op changes => ?_) fun _ _ => trivial
      cases changes <;> rfl

/-! ## Runs -/

def Settles (token : String) (entry : Entry relay) : Prop :=
  (∃ userId, Inserts token userId entry) ∨ Removes token entry

/-- The store holds what was put there last. -/
theorem userSessions_since (traced : Traced noReboot (World.initial portRange db drawn) trace config)
    (token userId : String) :
    config.state.userSessions token = some userId ↔ Since (Inserts token userId) (Settles token) trace := by
  refine @Traced.track _ relay noReboot _ (fun trace config =>
    config.state.userSessions token = some userId ↔ Since (Inserts token userId) (Settles token) trace)
    _ _ ?_ ?_ ?_ ?_ traced
  · simp [World.initial]
  · intro trace before after task thread choice op result _ ih _ called
    rw [exec_userSessions called.executed, since_cons, ← ih]
    cases op with
    | insertUserSession other owner =>
        by_cases same : token = other
        · subst same
          simp [Inserts, Settles, eq_comm]
        · simp [Inserts, Settles, Removes, same, Ne.symm same]
    | removeUserSession other =>
        by_cases same : token = other
        · subst same
          simp [Inserts, Settles, Removes]
        · simp [Inserts, Settles, Removes, same, Ne.symm same]
    | _ => simp [Inserts, Settles, Removes]
  · intro trace before after ih _ state
    rcases state with same | ⟨job, admitted⟩
    · rw [same]
      exact ih
    · obtain ⟨sessions, changed⟩ := accept_same admitted
      rw [changed]
      exact ih
  · exact fun impossible => impossible.elim

theorem adminSessions_trace (traced : Traced noReboot (World.initial portRange db drawn) trace config)
    (token : String) : config.state.adminSessions token = true ↔
      ∃ entry ∈ trace, entry.event = ⟨.insertAdminSession token, ()⟩ := by
  refine @Traced.track _ relay noReboot _ (fun trace config => config.state.adminSessions token = true ↔
    ∃ entry ∈ trace, entry.event = ⟨.insertAdminSession token, ()⟩) _ _ ?_ ?_ ?_ ?_ traced
  · simp [World.initial]
  · intro trace before after task thread choice op result _ ih _ called
    rw [exec_adminSessions called.executed]
    simp only [List.mem_cons, exists_eq_or_imp]
    rw [← ih]
    cases op with
    | insertAdminSession other =>
        by_cases same : token = other
        · subst same
          simp
        · simp [same, Ne.symm same]
    | _ => simp
  · intro trace before after ih _ state
    rcases state with same | ⟨job, admitted⟩
    · rw [same]
      exact ih
    · obtain ⟨sessions, changed⟩ := accept_same admitted
      rw [changed]
      exact ih
  · exact fun impossible => impossible.elim

/-- An identifier is drawn once in a run. -/
theorem drawn_once {allowed : Condition relay}
    (traced : Traced allowed (World.initial portRange db drawn) trace config) :
    (∀ id, ∀ entry ∈ trace, entry.event = ⟨.newUuid, id⟩ → id ∈ config.state.drawn) ∧
      trace.Pairwise fun later earlier => ∀ id, later.event = ⟨.newUuid, id⟩ → earlier.event ≠ ⟨.newUuid, id⟩ := by
  refine @Traced.track _ relay allowed _ (fun trace config =>
    (∀ id, ∀ entry ∈ trace, entry.event = ⟨.newUuid, id⟩ → id ∈ config.state.drawn) ∧
      trace.Pairwise fun later earlier => ∀ id, later.event = ⟨.newUuid, id⟩ → earlier.event ≠ ⟨.newUuid, id⟩)
    _ _ ?_ ?_ ?_ ?_ traced
  · exact ⟨fun id entry member => by simp at member, .nil⟩
  · intro trace before after task thread choice op result _ ⟨known, once⟩ _ called
    have executed : exec before.state choice op = some (after.state, result) := called.executed
    have new (id : Uuid) (draws : (⟨op, result⟩ : Event relaySignature) = ⟨.newUuid, id⟩) :
        id ∉ before.state.drawn ∧ id ∈ after.state.drawn := by
      cases draws
      simp only [exec] at executed
      split at executed
      · contradiction
      · rename_i unused
        simp only [Option.some.injEq, Prod.mk.injEq] at executed
        obtain ⟨changed, rfl⟩ := executed
        exact ⟨unused, changed ▸ List.mem_cons_self⟩
    constructor
    · intro id entry member draws
      rcases List.mem_cons.mp member with rfl | old
      · exact (new id draws).2
      · exact exec_drawn executed (known id entry old draws)
    · refine List.pairwise_cons.mpr ⟨fun entry member id draws same => ?_, once⟩
      exact (new id draws).1 (known id entry member same)
  · intro trace before after ⟨known, once⟩ _ state
    refine ⟨fun id entry member draws => ?_, once⟩
    rcases state with same | ⟨job, admitted⟩
    · rw [same]
      exact known id entry member draws
    · obtain ⟨sessions, changed⟩ := accept_same admitted
      rw [changed]
      exact known id entry member draws
  · exact fun _ ⟨known, once⟩ => ⟨known, once⟩

/-- Two entries that draw one identifier are one entry. -/
theorem drawn_same {allowed : Condition relay}
    (traced : Traced allowed (World.initial portRange db drawn) trace config) {left right : Entry relay} {id : Uuid}
    (inLeft : left ∈ trace) (inRight : right ∈ trace) (drawsLeft : left.event = ⟨.newUuid, id⟩)
    (drawsRight : right.event = ⟨.newUuid, id⟩) : left = right := by
  by_contra different
  have apart : trace.Pairwise fun one two => ¬ (one.event = ⟨.newUuid, id⟩ ∧ two.event = ⟨.newUuid, id⟩) :=
    (drawn_once traced).2.imp fun once ⟨one, two⟩ => once id one two
  have : Std.Symm fun one two : Entry relay => ¬ (one.event = ⟨.newUuid, id⟩ ∧ two.event = ⟨.newUuid, id⟩) :=
    ⟨fun _ _ free both => free both.symm⟩
  exact apart.forall inLeft inRight different ⟨drawsLeft, drawsRight⟩

/-- A token is put into the store once. -/
theorem inserted_once (fresh : Function.Injective userToken)
    (traced : Traced noReboot (World.initial portRange db drawn) trace config) (token : String) :
    trace.Pairwise fun later earlier => ∀ userId other, Inserts token userId later → ¬ Inserts token other earlier := by
  refine @Traced.track _ relay noReboot _ (fun trace _ => trace.Pairwise fun later earlier =>
    ∀ userId other, Inserts token userId later → ¬ Inserts token other earlier) _ _ ?_ ?_ ?_ ?_ traced
  · exact .nil
  · intro trace before after task thread choice op result earlier once _ called
    refine List.pairwise_cons.mpr ⟨fun entry member userId other inserts again => ?_, once⟩
    cases inserts
    have law := called.law (earlier.reachable.lawful relay_credits)
    obtain ⟨⟨id, rfl, drew⟩, _, unissued⟩ := law
    obtain ⟨past, held, law', before'⟩ := earlier.lawful relay_credits member
    rw [again] at law'
    obtain ⟨⟨id', same, drew'⟩, _⟩ := law'
    cases fresh same
    -- Both tasks have drawn the identifier, so they are one, which has issued nothing yet.
    have one := drawn_same earlier (earlier.records called.found drew) (before' _ drew') rfl rfl
    obtain ⟨self, found, _, did⟩ := earlier.performed (fun _ impossible => impossible) member
    simp only [Entry.mk.injEq] at one
    rw [← one.1, called.found, Option.some.injEq] at found
    subst found
    rw [again] at did
    exact unissued _ _ did
  · exact fun once _ _ => once
  · exact fun impossible => impossible.elim

/-! ## Users -/

/-- No row of `users` is ever deleted. -/
theorem users_remain {world after : World} {choice : Choice} {op : Op} {result : op.Result} {id : String}
    (executed : exec world choice op = some (after, result)) (listed : ∃ row ∈ world.db.users, row.id = id) :
    ∃ row ∈ after.db.users, row.id = id := by
  obtain ⟨row, member, named⟩ := listed
  rcases exec_change executed with ⟨query, rfl, change, _⟩ | ⟨same, _⟩
  · generalize after.db = tables at change ⊢
    cases change with
    | registered => exact ⟨row, List.mem_append_left _ member, named⟩
    | banned =>
        refine ⟨_, List.mem_map_of_mem member, ?_⟩
        split <;> exact named
    | _ => exact ⟨row, member, named⟩
  · exact ⟨row, same ▸ member, named⟩

/-- A registration fails and changes nothing, or inserts the row of the record it returns. -/
theorem registerUser_cases (choice : Choice) (portRange : UInt16 × UInt16) (db : Database)
    (username password : String) :
    (∃ failure, Db.registerUser choice portRange db username password = (db, .error failure)) ∨
      ∃ user : UserRecord, Db.registerUser choice portRange db username password =
          ({ db with users := db.users ++ [{ user with passwordHash := Db.hashPassword password }] }, .ok user) ∧
        user.username = username ∧ user.isBanned = false ∧ ∀ other ∈ db.users, other.username ≠ username := by
  unfold Db.registerUser
  split
  · exact .inl ⟨_, rfl⟩
  · rename_i port drawn
    simp only [Database.write]
    split
    · rename_i after inserted
      obtain ⟨rfl, unique⟩ := Db.insertUser_ok (Choice.statement_ok inserted)
      exact .inr ⟨_, rfl, rfl, rfl, fun other member => (unique other member).2.1⟩
    · exact .inl ⟨_, rfl⟩

/-- The record is that of a row of `users`. -/
def Reports (event : Event relaySignature) (user : UserRecord) : Prop :=
  (∃ username password, event = ⟨.db (.registerUser username password), .ok user⟩) ∨
    ∃ username password, event = ⟨.db (.verifyUser username password), .ok (some user)⟩

theorem reported_listed {world after : World} {choice : Choice} {op : Op} {result : op.Result} {user : UserRecord}
    (executed : exec world choice op = some (after, result)) (reports : Reports ⟨op, result⟩ user) :
    ∃ row ∈ after.db.users, row.id = user.id := by
  rcases reports with ⟨username, password, same⟩ | ⟨username, password, same⟩
  · cases same
    obtain ⟨changed, answer, _⟩ := exec_db executed
    refine ⟨{ user with passwordHash := Db.hashPassword password }, ?_, rfl⟩
    rcases registerUser_cases choice world.portRange world.db username password with
      ⟨failure, failed⟩ | ⟨record, inserted, _⟩
    · rw [Query.run, failed] at answer
      contradiction
    · rw [Query.run, inserted] at answer
      cases answer
      rw [changed, Query.run, inserted]
      exact List.mem_append_right _ (List.mem_singleton.mpr rfl)
  · cases same
    obtain ⟨rfl, answer, _⟩ := exec_db executed
    have found := Except.ok.inj (Choice.statement_ok answer.symm)
    obtain ⟨row, there, same⟩ := Option.map_eq_some_iff.mp found
    exact ⟨row, List.mem_of_find?_eq_some there, same ▸ rfl⟩

theorem reported_remain {allowed : Condition relay}
    (traced : Traced allowed (World.initial portRange db drawn) trace config) {entry : Entry relay}
    {user : UserRecord} (member : entry ∈ trace) (reports : Reports entry.event user) :
    ∃ row ∈ config.state.db.users, row.id = user.id := by
  refine @Traced.track _ relay allowed _ (fun trace config => ∀ entry ∈ trace, ∀ user,
    Reports entry.event user → ∃ row ∈ config.state.db.users, row.id = user.id)
    _ _ ?_ ?_ ?_ ?_ traced entry member user reports
  · exact fun entry member => by simp at member
  · intro trace before after task thread choice op result _ listed _ called entry member user reports
    rcases List.mem_cons.mp member with rfl | old
    · exact reported_listed called.executed reports
    · exact users_remain called.executed (listed entry old user reports)
  · intro trace before after listed _ state entry member user reports
    rcases state with same | ⟨job, admitted⟩
    · rw [same]
      exact listed entry member user reports
    · obtain ⟨sessions, changed⟩ := accept_same admitted
      rw [changed]
      exact listed entry member user reports
  · exact fun _ listed => listed

/-! ## The requests that read the stores -/

theorem getCurrentUserId_executes {headers : HeaderMap} {world : World} {user : Option String} :
    (getCurrentUserId headers).Executes relay [] world [] world user ↔
      user = (extractToken headers).bind world.userSessions := by
  unfold getCurrentUserId
  cases extractToken headers with
  | none => simp [Executes]
  | some token =>
      constructor
      · rintro ⟨_, choice, middle, read, executed, _, _, rfl⟩
        cases executed
        rfl
      · rintro rfl
        exact ⟨fun own holds => by simp at holds, calm, world, _, rfl, by simp [dropGuard], rfl, rfl⟩

theorem isAdmin_executes {headers : HeaderMap} {world : World} :
    (isAdmin headers).Executes relay [] world [] world true ↔
      ∃ token, extractToken headers = some token ∧ world.adminSessions token = true := by
  unfold isAdmin
  cases extractToken headers with
  | none => simp [Executes]
  | some token =>
      constructor
      · rintro ⟨_, choice, middle, read, executed, _, _, same⟩
        cases executed
        exact ⟨token, rfl, same.symm⟩
      · rintro ⟨other, same, known⟩
        cases same
        exact ⟨fun own holds => by simp at holds, calm, world, _, rfl, by simp [dropGuard], rfl, known.symm⟩

/-! ## Runs with nothing in progress -/

/-- A task that has returned has given an account of what it has done. -/
theorem accounted (traced : Traced noReboot (World.initial portRange db drawn) trace config) {thread : Thread relay}
    (member : thread ∈ config.threads) (finished : thread.finished) :
    ∃ reply, thread.rest = .done reply ∧ accountable thread.job thread.past reply := by
  obtain ⟨reply, returned⟩ := finished
  have obeys := traced.reachable.lawful relay_credits thread member
  rw [returned] at obeys
  exact ⟨reply, returned, obeys⟩

/-- Whoever has put a token into the store has vouched for the user. -/
theorem inserts_vouched {allowed : Condition relay}
    (traced : Traced allowed (World.initial portRange db drawn) trace config) {entry : Entry relay}
    {token userId : String} (member : entry ∈ trace) (inserts : Inserts token userId entry) :
    entry.job.signsIn = true ∧ ∃ event user, ⟨entry.task, entry.job, event⟩ ∈ trace ∧ Reports event user ∧
      user.id = userId := by
  obtain ⟨past, held, law, before⟩ := traced.lawful relay_credits member
  rw [inserts] at law
  obtain ⟨_, ⟨user, named, vouched⟩, _⟩ := law
  unfold Vouched at vouched
  split at vouched
  · rename_i body registers
    exact ⟨by rw [registers]; rfl, _, user, before _ vouched, .inl ⟨_, _, rfl⟩, named⟩
  · rename_i body logsIn
    exact ⟨by rw [logsIn]; rfl, _, user, before _ vouched, .inr ⟨_, _, rfl⟩, named⟩
  · exact vouched.elim

theorem inserts_issued (traced : Traced noReboot (World.initial portRange db drawn) trace config)
    (quiet : ∀ thread ∈ config.threads, thread.job.isAccount = true → thread.finished) {entry : Entry relay}
    {token userId : String} (member : entry ∈ trace) (inserts : Inserts token userId entry) :
    Issued config entry.task token userId := by
  obtain ⟨thread, found, job, did⟩ := traced.performed (fun _ impossible => impossible) member
  have signsIn := (inserts_vouched traced member inserts).1
  rw [← job] at signsIn
  have inside := List.mem_of_getElem? found
  have account : thread.job.isAccount = true := by
    cases named : thread.job <;> rw [named] at signsIn <;> first | rfl | contradiction
  obtain ⟨reply, returned, accountable⟩ := accounted traced inside (quiet thread inside account)
  rw [inserts] at did
  have answered : ∃ code user, reply = .session code token user ∧ user.id = userId := by
    cases named : thread.job <;> rw [named] at signsIn accountable <;>
      first | exact (accountable token userId).mp did | contradiction
  obtain ⟨code, user, rfl, same⟩ := answered
  exact ⟨thread, code, user, found, signsIn, returned, same⟩

/-- In a run of requests in which tokens are fresh and no account request is in
progress, the stores let in whom the registrations, logins and logouts say, and
as administrators only those who gave the master password. -/
theorem sessions_sound (fresh : Function.Injective userToken)
    (traced : Traced noReboot (World.initial portRange db drawn) trace config)
    (quiet : ∀ thread ∈ config.threads, thread.job.isAccount = true → thread.finished) :
    SessionsSound trace config := by
  -- What was put there and not taken out since was issued, and no logout has presented it.
  have live (token userId : String) : Since (Inserts token userId) (Settles token) trace ↔
      Since (fun entry => Inserts token userId entry ∧ Issued config entry.task token userId)
        (LogsOut token) trace := by
    constructor
    · intro since
      exact since.mono (fun entry member inserts => ⟨inserts, inserts_issued traced quiet member inserts⟩)
        fun entry logsOut => .inr logsOut.2
    · rintro ⟨later, entry, earlier, rfl, ⟨inserts, _⟩, clean⟩
      refine ⟨later, entry, earlier, rfl, inserts, fun other member settles => ?_⟩
      rcases settles with ⟨owner, again⟩ | removes
      · exact (List.pairwise_append.mp (inserted_once fresh traced token)).2.2 other member entry
          List.mem_cons_self owner userId again inserts
      · obtain ⟨past, held, law, _⟩ := traced.lawful relay_credits (List.mem_append_left _ member)
        rw [removes] at law
        exact clean other member ⟨law, removes⟩
  have reads (headers : HeaderMap) (userId : String) :
      (getCurrentUserId headers).Executes relay [] config.state [] config.state (some userId) ↔
        ∃ token, extractToken headers = some token ∧ Since (Inserts token userId) (Settles token) trace := by
    rw [getCurrentUserId_executes, eq_comm, Option.bind_eq_some_iff]
    simp only [userSessions_since traced]
  constructor
  · intro headers userId
    simp only [reads, live]
  · intro task thread token found presents
    obtain ⟨headers, logsOut, extracted⟩ := presents
    have inside := List.mem_of_getElem? found
    obtain ⟨reply, _, accountable⟩ := accounted traced inside (quiet thread inside (by rw [logsOut]; rfl))
    rw [logsOut] at accountable
    exact ⟨_, traced.records found (accountable token extracted), rfl, ⟨headers, logsOut, extracted⟩, rfl⟩
  · intro headers userId executes
    obtain ⟨token, _, later, entry, earlier, split, inserts, _⟩ := (reads headers userId).mp executes
    have member : entry ∈ trace := split ▸ List.mem_append_right _ List.mem_cons_self
    obtain ⟨_, event, user, listed, reports, named⟩ := inserts_vouched traced member inserts
    exact named ▸ reported_remain traced listed reports
  · intro headers
    rw [isAdmin_executes]
    refine exists_congr fun token => and_congr_right fun _ => ?_
    rw [adminSessions_trace traced]
    constructor
    · rintro ⟨entry, member, inserts⟩
      obtain ⟨past, held, law, _⟩ := traced.lawful relay_credits member
      obtain ⟨thread, found, job, did⟩ := traced.performed (fun _ impossible => impossible) member
      rw [inserts] at law did
      have inside := List.mem_of_getElem? found
      have master : thread.job = .adminLogin adminPassword := job.trans law
      obtain ⟨reply, returned, accountable⟩ := accounted traced inside (quiet thread inside (by rw [master]; rfl))
      rw [master] at accountable
      exact ⟨thread, inside, master, (accountable token).mp did ▸ returned⟩
    · rintro ⟨thread, inside, master, returned⟩
      obtain ⟨task, found⟩ := List.mem_iff_getElem?.mp inside
      obtain ⟨reply, returned', accountable⟩ := accounted traced inside ⟨_, returned⟩
      rw [returned, Program.done.injEq] at returned'
      rw [master, ← returned'] at accountable
      exact ⟨_, traced.records found ((accountable token).mpr rfl), rfl⟩

end Runs

theorem grouped_filter {sizes : List Nat} {chars : List Char} (plain : ∀ c ∈ chars, c ≠ '-') :
    (grouped sizes chars).filter (· != '-') = chars.take sizes.sum := by
  induction sizes generalizing chars with
  | nil => simp [grouped]
  | cons size sizes ih =>
      have first : (chars.take size).filter (· != '-') = chars.take size :=
        List.filter_eq_self.mpr fun c member => by simp [plain c (List.mem_of_mem_take member)]
      cases sizes with
      | nil => simpa [grouped] using first
      | cons next more =>
          have rest := @ih (chars.drop size) fun c member => plain c (List.mem_of_mem_drop member)
          have split : grouped (size :: next :: more) chars =
              chars.take size ++ '-' :: grouped (next :: more) (chars.drop size) := rfl
          rw [split, List.filter_append, first, List.filter_cons_of_neg (by decide), rest, ← List.take_add]
          rfl

/-- Tokens made of different identifiers differ. -/
theorem userToken_injective : Function.Injective userToken := by
  intro left right same
  have plain (n : Nat) : ∀ c ∈ (nibbles n 32).map hexDigit, c ≠ '-' := by
    intro c member
    obtain ⟨digit, there, rfl⟩ := List.mem_map.mp member
    have all : ∀ digit : Fin 16, hexDigit digit ≠ '-' := by decide
    exact all ⟨digit, nibbles_lt digit there⟩
  have digits (id : Uuid) : (userToken id).toList = "usr_".toList ++ (nibbles id.toNat 32).map hexDigit := by
    have width : ((nibbles id.toNat 32).map hexDigit).length ≤ [8, 4, 4, 4, 12].sum := by simp
    simp only [userToken, Data.withoutHyphens, uuidToString, printUuid, String.toList_append, String.toList_ofList]
    rw [grouped_filter (plain _), List.take_of_length_le width]
  have equal : (nibbles left.toNat 32).map hexDigit = (nibbles right.toNat 32).map hexDigit := by
    have lists := congrArg String.toList same
    rw [digits, digits] at lists
    exact List.append_cancel_left lists
  have read (id : Uuid) : ((nibbles id.toNat 32).map hexDigit).mapM hexValue = some (nibbles id.toNat 32) :=
    mapM_hexValue nibbles_lt
  have values : ofNibbles (nibbles left.toNat 32) = ofNibbles (nibbles right.toNat 32) :=
    congrArg ofNibbles (Option.some.inj ((read left).symm.trans ((congrArg _ equal).trans (read right))))
  rw [ofNibbles_nibbles, ofNibbles_nibbles] at values
  refine BitVec.eq_of_toNat_eq ?_
  have small := left.isLt
  have small' := right.isLt
  omega

/-- Alice has registered, signed in once more, and left her first session. -/
theorem sessions_sound_signed_in : ∃ trace, ∃ config : Config relay, Traced noReboot newRelay trace config ∧
    config.state.userSessions (userToken 5) = some (uuidToString 2) ∧ SessionsSound trace config := by
  have passed : (relay.follow (fun _ _ _ _ => true) 200 (inOrder
      [(.register { username := "alice", password := "secret" }, answer 1 0),
        (.login { username := " alice", password := "secret" }, answer 2 0),
        (.logout (signedIn 1), answer 3 0),
        (.adminLogin adminPassword, answer 4 0)]) ⟨newRelay, []⟩).any (fun config : Config relay =>
          config.threads.all Thread.isFinished &&
            config.state.userSessions (userToken 5) == some (uuidToString 2)) = true := by decide +kernel
  obtain ⟨config, followed, tested⟩ := (Option.any_eq_true _ _).mp passed
  obtain ⟨finished, known⟩ := (Bool.and_eq_true _ _).mp tested
  have run : Reachable noReboot newRelay config :=
    System.follow_allowed followed (fun _ _ moves => moves.noReboot) (fun _ _ _ => trivial) fun reboots => by
      simp [inOrder] at reboots
  obtain ⟨trace, traced⟩ := run.traced
  refine ⟨trace, config, traced, beq_iff_eq.mp known, sessions_sound userToken_injective traced ?_⟩
  exact fun thread member _ => Thread.isFinished_iff.mp (List.all_eq_true.mp finished thread member)

end TunnelitRelay
