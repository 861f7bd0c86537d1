import TunnelitRelay.Results
import TunnelitRelay.Standard

namespace TunnelitRelay

open Concurrent

/-! # Banned users and their sessions -/

def Job.signsInOrBans : Job → Bool
  | .login _ | .adminBanUser .. => true
  | _ => false

section Runs

variable [Externals] {portRange : UInt16 × UInt16}

/-- The tokens of all sessions issued since the process was started. -/
def issuedTokens (config : Config relay) : List String :=
  config.threads.flatMap fun thread => thread.past.filterMap fun event =>
    match event.1 with
    | .insertUserSession token _ => some token
    | _ => none

/-- While no login and no ban is in progress, no session belongs to a banned
user, and no request is answered as one. -/
def LockedOut (config : Config relay) : Prop :=
  (∀ thread ∈ config.threads, thread.job.signsInOrBans = true → thread.finished) →
    ∀ user ∈ config.state.db.users, user.isBanned = true → ∀ token,
      config.state.userSessions token ≠ some user.id ∧
        ∀ choice after, exec config.state choice (.userSession token) ≠ some (after, some user.id)

/-- A ban takes effect only while the user has no session, and a session is
issued only to a user who is not banned. -/
def bansSignedOut : Check relay := fun config _ (choice : Choice) op =>
  match op with
  | .db (.toggleUserBan id true) =>
      (choice.refuses 0).isSome ||
        (issuedTokens config).all fun token => decide (config.state.userSessions token ≠ some id)
  | .insertUserSession _ userId =>
      config.state.db.users.all fun user => user.id != userId || !user.isBanned
  | _ => true

/-! ## One step -/

def Banned (db : Database) (id : String) : Prop :=
  ∃ user ∈ db.users, user.id = id ∧ user.isBanned = true

/-- A user is banned by nothing but a ban which the database has not refused. -/
theorem banned_origin {world after : World} {choice : Choice} {op : Op} {result : op.Result} {id : String}
    (executed : exec world choice op = some (after, result)) (banned : Banned after.db id) :
    Banned world.db id ∨ op = .db (.toggleUserBan id true) ∧ choice.refuses 0 = none := by
  obtain ⟨user, listed, named, isBanned⟩ := banned
  rcases exec_change executed with ⟨query, rfl, change, _⟩ | ⟨same, _⟩
  · cases query with
    | toggleUserBan other switched =>
        obtain ⟨rfl, _, _⟩ := exec_db executed
        simp only [Query.run, Db.toggleUserBan, Choice.statement, Database.write] at listed
        cases refused : choice.refuses 0 with
        | some failure =>
            rw [refused] at listed
            exact .inl ⟨user, listed, named, isBanned⟩
        | none =>
            rw [refused] at listed
            obtain ⟨old, member, rfl⟩ := List.mem_map.mp listed
            by_cases hit : old.id = other
            · simp only [hit, beq_self_eq_true, if_true] at named isBanned
              subst named isBanned
              exact .inr ⟨rfl, rfl⟩
            · simp only [beq_iff_eq, hit, if_false] at named isBanned
              exact .inl ⟨old, member, named, isBanned⟩
    | registerUser username password =>
        generalize after.db = tables at change listed
        cases change with
        | kept => exact .inl ⟨user, listed, named, isBanned⟩
        | registered _ _ account =>
            rcases List.mem_append.mp listed with old | new
            · exact .inl ⟨user, old, named, isBanned⟩
            · rw [List.mem_singleton.mp new, account.2.1] at isBanned
              contradiction
    | _ =>
        generalize after.db = tables at change listed
        cases change <;> exact .inl ⟨user, listed, named, isBanned⟩
  · exact .inl ⟨user, same ▸ listed, named, isBanned⟩

theorem issuedTokens_of_did {config : Config relay} {thread : Thread relay} {token userId : String}
    (member : thread ∈ config.threads) (did : Did thread.past (.insertUserSession token userId) ()) :
    token ∈ issuedTokens config :=
  List.mem_flatMap.mpr ⟨thread, member, List.mem_filterMap.mpr ⟨_, did, rfl⟩⟩

/-! ## Runs -/

/-- Every session was issued by a task of the process, and none belongs to a
banned user. -/
structure KeptOut (config : Config relay) : Prop where
  issued : ∀ token userId, config.state.userSessions token = some userId →
    ∃ thread ∈ config.threads, Did thread.past (.insertUserSession token userId) ()
  apart : ∀ token userId, config.state.userSessions token = some userId →
    ¬ Banned config.state.db userId

theorem KeptOut.call {before after : Config relay} {task : Nat} {thread : Thread relay}
    {choice : Choice} {op : Op} {result : op.Result} (keptOut : KeptOut before)
    (checked : bansSignedOut before thread choice op = true)
    (called : Called before task thread choice op result after) : KeptOut after := by
  have executed : exec before.state choice op = some (after.state, result) := called.executed
  constructor
  · intro token userId session
    rcases userSessions_origin executed session with old | rfl
    · obtain ⟨other, member, did⟩ := keptOut.issued token userId old
      obtain ⟨index, there⟩ := List.mem_iff_getElem?.mp member
      by_cases here : index = task
      · subst here
        obtain ⟨later, found, _, _, past⟩ := called.self
        rw [called.found, Option.some.injEq] at there
        subst there
        exact ⟨later, List.mem_of_getElem? found, past ▸ List.mem_cons_of_mem _ did⟩
      · exact ⟨other, List.mem_of_getElem? (called.other there here), did⟩
    · obtain ⟨later, found, _, _, past⟩ := called.self
      exact ⟨later, List.mem_of_getElem? found, past ▸ List.mem_cons_self⟩
  · intro token userId session banned
    rcases banned_origin executed banned with was | ⟨rfl, accepted⟩
    · rcases userSessions_origin executed session with old | rfl
      · exact keptOut.apart token userId old was
      · obtain ⟨user, listed, named, isBanned⟩ := was
        have free := List.all_eq_true.mp checked user listed
        simp [named, isBanned] at free
    · have old := (userSessions_origin executed session).resolve_right (by simp)
      obtain ⟨other, member, did⟩ := keptOut.issued token userId old
      simp only [bansSignedOut, accepted, Option.isSome_none, Bool.false_or] at checked
      have absent := List.all_eq_true.mp checked token (issuedTokens_of_did member did)
      exact of_decide_eq_true absent old

theorem Reached.keptOut {config : Config relay}
    (reached : Reached bansSignedOut.condition portRange config) : KeptOut config := by
  refine Reachable.track ?_ ?_ ?_ ?_ reached
  · constructor <;> simp [World.initial]
  · intro before after task thread choice op result _ keptOut permitted called
    exact keptOut.call (Check.holds permitted called) called
  · intro before after keptOut same state
    have alike : after.state.userSessions = before.state.userSessions ∧
        after.state.db = before.state.db := by
      rcases state with unchanged | ⟨job, admitted⟩
      · rw [unchanged]
        exact ⟨rfl, rfl⟩
      · obtain ⟨sessions, changed⟩ := accept_same admitted
        rw [changed]
        exact ⟨rfl, rfl⟩
    obtain ⟨entries, tables⟩ := alike
    constructor
    · intro token userId session
      rw [entries] at session
      obtain ⟨thread, member, did⟩ := keptOut.issued token userId session
      obtain ⟨other, there, _, past⟩ := same.mem member
      exact ⟨other, there, past ▸ did⟩
    · intro token userId session
      rw [entries] at session
      rw [tables]
      exact keptOut.apart token userId session
  · intro before keptOut
    constructor <;> simp [World.reboot, World.initial]

/-- In every run in which bans meet no session of the user and sessions no ban,
banned users are locked out in every state. -/
theorem banned_locked_out {config : Config relay}
    (reached : Reached bansSignedOut.condition portRange config) : LockedOut config := by
  intro _ user listed banned token
  have absent : config.state.userSessions token ≠ some user.id := by
    intro session
    exact reached.keptOut.apart token user.id session ⟨user, listed, rfl, banned⟩
  refine ⟨absent, fun choice after executed => absent ?_⟩
  simp only [exec, Option.some.injEq, Prod.mk.injEq] at executed
  exact executed.2

end Runs

/-- Alice signs out before she is banned. -/
theorem banned_locked_out_signed_out :
    ∃ config : Config relay, (config.state.db.users.any (·.isBanned)) = true ∧ LockedOut config := by
  have passed : (relay.follow bansSignedOut 200 (inOrder
      [(.register { username := "alice", password := "secret" }, answer 1 0),
        (.logout (signedIn 1), answer 2 0),
        (.adminLogin adminPassword, answer 3 0),
        (.adminBanUser (uuidToString 2) [("x-session-token", some (adminToken 7))], answer 4 0)])
          ⟨newRelay, []⟩).any (·.state.db.users.any (·.isBanned)) = true := by decide +kernel
  obtain ⟨config, reached, banned⟩ := newRelay_follow passed
  exact ⟨config, banned, banned_locked_out reached⟩

/-- Alice is banned while she is signed in; her session stays. -/
theorem banned_signed_in :
    ¬ ∀ config : Config relay, Reached anyStep (10000, 60000) config → LockedOut config := by
  have passed : (relay.performAll
      [(.register { username := "alice", password := "secret" }, answer 1 0),
        (.adminLogin adminPassword, answer 2 0),
        (.adminBanUser (uuidToString 2) [("x-session-token", some (adminToken 5))], answer 3 0)]
          newRelay).any (fun world : World => decide (∃ user ∈ world.db.users, user.isBanned = true ∧
            world.userSessions (userToken 3) = some user.id)) = true := by decide +kernel
  obtain ⟨config, reached, quiet, still⟩ := newRelay_check passed
  obtain ⟨user, listed, banned, session⟩ := of_decide_eq_true still
  intro always
  have locked := always config reached (fun thread member _ => (quiet thread member).2)
  exact (locked user listed banned (userToken 3)).1 session

end TunnelitRelay
