import TunnelitRelay.Concurrent.Schedule
import TunnelitRelay.Endpoints
import TunnelitRelay.Standard

namespace TunnelitRelay

open Concurrent Program

/-! # Nobody waits in a circle -/

/-- Everything that takes locks: requests, frames and ends of sessions, and the
passes of the proxy loops. -/
inductive LockUser where
  | serve (job : Job)
  | getMe (headers : HeaderMap)
  | adminListUsers (headers : HeaderMap)
  | listAgents (headers : HeaderMap)
  | listTunnels (headers : HeaderMap)
  | getLiveStats
  | proxy (pass : ProxyPass)

section Runs

variable [Externals]

def LockUser.program : LockUser → Host HostReply
  | .serve job => do
      let reply ← fromRelay (TunnelitRelay.serve job)
      return .relay reply
  | .getMe headers => TunnelitRelay.getMe headers
  | .adminListUsers headers => TunnelitRelay.adminListUsers headers
  | .listAgents headers => TunnelitRelay.listAgents headers
  | .listTunnels headers => TunnelitRelay.listTunnels headers
  | .getLiveStats => TunnelitRelay.getLiveStats
  | .proxy pass => pass.run

/-- The locks alone: between two of their moves the operations may answer
anything, so that every order of guards the programs allow is possible. -/
abbrev locking : System hostSignature where
  State := Unit
  Choice := (op : HostOp) → op.Result
  Job := LockUser
  Reply := HostReply
  exec := fun _ choice op => some ((), choice op)
  accept := fun _ _ => some ()
  program := LockUser.program
  reboot := fun _ => ()

def HostLock.rank : HostLock → Nat
  | .relay lock => lock.rank
  | .liveTraffic => 8

/-! ## Blocks -/

variable {events : List (Event hostSignature)} {held : List (Guard hostSignature)}

omit [Externals] in
/-- One operation under a guard above all that are held. -/
theorem withHostLock_ordered {op : HostOp} {lock : HostLock} {mode : Mode} {post}
    (above : ∀ own ∈ held, own.1.rank < lock.rank) (posts : ∀ events result, post events held result) :
    (withHostLock lock mode (hostAccess op)).Obeys (ordered HostLock.rank) post events held :=
  obeys_guarded.mpr ⟨above, trivial, fun result => ⟨trivial, by simpa [dropGuard] using posts _ result⟩⟩

omit [Externals] in
theorem access_ordered {op : HostOp} {post} (posts : ∀ events result, post events held result) :
    (hostAccess op).Obeys (ordered HostLock.rank) post events held :=
  ⟨trivial, fun result => posts _ result⟩

omit [Externals] in
theorem relayLock_ordered {op : Op} {lock : Lock} {mode : Mode} {post}
    (above : ∀ own ∈ held, own.1.rank < (HostLock.relay lock).rank) (posts : ∀ events result, post events held result) :
    (fromRelay (withLock lock mode (access op))).Obeys (ordered HostLock.rank) post events held :=
  by
  refine ⟨above, trivial, fun result => ⟨trivial, ?_⟩⟩
  have dropped : dropGuard (HostLock.relay lock) ((HostLock.relay lock, mode) :: held) = held := by simp [dropGuard]
  change post _ (dropGuard (HostLock.relay lock) ((HostLock.relay lock, mode) :: held)) result
  rw [dropped]
  exact posts _ result

omit [Externals] in
theorem getCurrentUserId_ordered {headers : HeaderMap} {post} (posts : ∀ events user, post events [] user) :
    (fromRelay (getCurrentUserId headers)).Obeys (ordered HostLock.rank) post events [] := by
  unfold getCurrentUserId
  split
  · exact posts _ _
  · exact relayLock_ordered (by simp) posts

omit [Externals] in
theorem isAdmin_ordered {headers : HeaderMap} {post} (posts : ∀ events admin, post events [] admin) :
    (fromRelay (isAdmin headers)).Obeys (ordered HostLock.rank) post events [] := by
  unfold isAdmin
  split
  · exact posts _ _
  · exact relayLock_ordered (by simp) posts

/-- What the discipline of the handlers says about the order of their locks. -/
theorem serve_ordered {job : Job} {post} (posts : ∀ events reply, post events [] reply) :
    (fromRelay (serve job)).Obeys (ordered HostLock.rank) post events [] := by
  refine (@Program.Obeys.embed _ _ _ intoHost HostLock.rank (discipline job) _ [] [] events
    (answered job) (relay_lawful job) ?_ fun _ _ _ ends => ends.1).mono (fun _ _ _ lawful => lawful) ?_
  · intro past held move lawful
    cases move with
    | acquire lock mode => exact lawful.1
    | call | release => trivial
  · rintro past held reply rfl
    exact posts past reply

theorem pass_ordered {pass : ProxyPass} :
    pass.run.Obeys (ordered HostLock.rank) (fun _ _ _ => True) [] [] := by
  cases pass with
  | acceptTcp | enrollUdp | announceUdp =>
      simp only [ProxyPass.run, bind_eq, obeys_bind]
      first
        | exact access_ordered fun _ _ => withHostLock_ordered (by simp) fun _ _ => trivial
        | exact withHostLock_ordered (by simp) fun _ _ => trivial
        | exact access_ordered fun _ _ => trivial
  | readTcp | receiveUdp =>
      simp only [ProxyPass.run, bind_eq, obeys_bind]
      exact withHostLock_ordered (by simp) fun _ _ => access_ordered fun _ _ => trivial
  | writeTcp | replyUdp =>
      simp only [ProxyPass.run, bind_eq, obeys_bind]
      exact withHostLock_ordered (by simp) fun _ _ => trivial
  | cleanUpTcp =>
      simp only [ProxyPass.run, bind_eq, obeys_bind]
      exact access_ordered fun _ _ => relayLock_ordered (by simp) fun _ _ => trivial

/-- Every task takes its locks in the order of their ranks. -/
theorem locking_ordered : locking.Lawful (orderContract locking HostLock.rank) := by
  intro user
  cases user with
  | serve job => exact obeys_bind.mpr (serve_ordered fun _ _ => trivial)
  | getMe headers =>
      refine obeys_bind.mpr (getCurrentUserId_ordered fun events user => ?_)
      cases user with
      | none => trivial
      | some userId =>
          refine obeys_bind.mpr (relayLock_ordered (by simp) fun _ answer => ?_)
          match answer with
          | .error _ | .ok none | .ok (some _) => trivial
  | adminListUsers headers =>
      refine obeys_bind.mpr (isAdmin_ordered fun events admin => ?_)
      cases admin with
      | false => trivial
      | true =>
          refine obeys_bind.mpr (withHostLock_ordered (by simp) fun _ answer => ?_)
          cases answer <;> trivial
  | listAgents headers =>
      refine obeys_bind.mpr (isAdmin_ordered fun _ admin => obeys_bind.mpr (getCurrentUserId_ordered fun _ user => ?_))
      match admin, user with
      | false, none => trivial
      | true, _ => exact obeys_bind.mpr (withHostLock_ordered (by simp) fun _ _ => trivial)
      | false, some _ => exact obeys_bind.mpr (relayLock_ordered (by simp) fun _ _ => trivial)
  | listTunnels headers =>
      refine obeys_bind.mpr (isAdmin_ordered fun _ admin => obeys_bind.mpr (getCurrentUserId_ordered fun _ user => ?_))
      match admin, user with
      | false, none => trivial
      | true, _ => exact obeys_bind.mpr (withHostLock_ordered (by simp) fun _ _ => trivial)
      | false, some _ => exact obeys_bind.mpr (relayLock_ordered (by simp) fun _ _ => trivial)
  | getLiveStats => exact obeys_bind.mpr (withHostLock_ordered (by simp) fun _ _ => trivial)
  | proxy pass => exact pass_ordered

/-- However many requests, frames, ends of sessions and proxy tasks are
interleaved, no task waits for itself, directly or through others. -/
theorem relay_deadlock_free {config : Config locking} (reachable : Reachable anyStep () config) :
    config.DeadlockFree :=
  deadlock_free locking_ordered reachable

end Runs

/-- Two logins, of which the second waits for the first. -/
theorem relay_deadlock_free_logins :
    ∃ config : Config locking, config.WaitsFor 1 0 ∧ config.DeadlockFree := by
  let login : LockUser := .serve (.login { username := "alice", password := "secret" })
  have starts : Step (⟨(), []⟩ : Config locking) (.start login) ⟨(), [Thread.fresh locking login]⟩ := .start rfl
  have takes := @Step.acquire _ locking ⟨(), [Thread.fresh locking login]⟩ 0 _ _ _ _ rfl rfl
    fun thread member own holds => by
      rw [List.mem_singleton.mp member] at holds
      contradiction
  have follows {config : Config locking} :
      Step config (.start login) ⟨(), config.threads ++ [Thread.fresh locking login]⟩ := .start rfl
  have reachable : Reachable anyStep () _ :=
    ((Relation.ReflTransGen.single ⟨_, trivial, starts⟩).tail ⟨_, trivial, takes⟩).tail ⟨_, trivial, follows⟩
  refine ⟨_, ⟨.relay .db, .exclusive, ⟨_, _, rfl, rfl⟩, ⟨_, .exclusive, rfl, ?_⟩⟩, relay_deadlock_free reachable⟩
  exact List.mem_cons_self

end TunnelitRelay
