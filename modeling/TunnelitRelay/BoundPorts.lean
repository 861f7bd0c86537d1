import TunnelitRelay.Ownership
import TunnelitRelay.Results
import TunnelitRelay.Standard
import TunnelitRelay.Undisturbed

namespace TunnelitRelay

open Concurrent Program

/-! # Running listeners and reserved ports

A port is released by its number.  A listener keeps its port reserved as long
as no release hits the port of a listener that goes on running.
-/

section Runs

variable [Externals] {world : World} {portRange : UInt16 × UInt16}

/-- Every running listener listens on a reserved port. -/
def World.PortsReserved (world : World) : Prop :=
  ∀ tunnelId handle, world.tunnelTasks tunnelId = some handle → handle.port ∈ world.allocatedPorts

/-- No listener outside the rows listens on the port of one of them. -/
def OwnPorts (world : World) (rows : List TunnelRecord) : Prop :=
  ∀ row ∈ rows, ∀ tunnelId handle, world.tunnelTasks tunnelId = some handle →
    handle.port = row.publicPort → ∃ other ∈ rows, parseUuid other.id = some tunnelId

/-- The rows whose ports a job releases. -/
def releasedRows (world : World) : Job → List TunnelRecord
  | .adminBanUser id headers =>
      if (extractToken headers).any world.adminSessions then
        world.db.tunnels.filter (·.userId == some id)
      else []
  | .toggleTunnel id => (world.db.tunnels.find? (·.id == id)).toList.filter (·.enabled)
  | .deleteTunnel id => (world.db.tunnels.find? (·.id == id)).toList
  | .frame session .hangup =>
      match (world.sessions session).bind (·.authenticatedAgentId) with
      | some agentId => world.db.tunnels.filter (·.agentId == uuidToString agentId)
      | none => []
  | _ => []

/-- A listener on a port the job releases is one the job stops. -/
def releasesOwnPorts (world : World) (job : Job) : Prop :=
  OwnPorts world (releasedRows world job)

/-! ## Jobs that release no port -/

def Job.releases : Job → Bool
  | .adminBanUser .. | .toggleTunnel _ | .deleteTunnel _ | .frame _ .hangup => true
  | _ => false

theorem not_permitted_freePort {job : Job} {past : Past} {held : Held} {port : UInt16}
    (keeps : job.releases = false) : ¬ Permitted job past held (.freePort port) := by
  intro permitted
  unfold Permitted at permitted
  split at permitted
  · simp [Job.releases] at keeps
  · rcases permitted with ⟨id, headers, rfl⟩ | ⟨id, rfl⟩ | ⟨id, rfl⟩ <;> simp [Job.releases] at keeps

/-- What holds while a job runs that releases no port. -/
structure Reserving (past : Past) (world : World) : Prop where
  truthful : Truthful past
  running : world.PortsReserved
  reserved : ∀ port, Reserved past port → port ∈ world.allocatedPorts

theorem Reserving.exec {job : Job} {past : Past} {held : Held} {op : Op} {choice : Choice}
    {after : World} {result : op.Result} (reserving : Reserving past world)
    (keeps : job.releases = false) (lawful : discipline job past held (.call op))
    (executed : exec world choice op = some (after, result)) :
    Reserving (⟨op, result⟩ :: past) after := by
  have grows : world.allocatedPorts ⊆ after.allocatedPorts := by
    rw [exec_allocatedPorts executed]
    split
    · split
      · exact Finset.subset_insert _ _
      · exact Finset.Subset.refl _
    · exact Finset.subset_insert _ _
    · exact absurd lawful.2.2 (not_permitted_freePort keeps)
    · exact Finset.Subset.refl _
  refine ⟨reserving.truthful.exec executed, ?_, ?_⟩
  · intro tunnelId handle running
    rcases tunnelTasks_origin executed running with ⟨old, _⟩ | rfl
    · exact grows (reserving.running tunnelId handle old)
    · obtain ⟨tunnel, sender, _, _, _, spawned, reserved⟩ :=
        (lawful.2.2.general fun _ torn => torn).1
      rw [(reserving.truthful.handle _ _ _ _ _ _ spawned).2.1]
      exact grows (reserving.reserved _ reserved)
  · intro port reserved
    rcases reserved with inserted | allocated
    · rcases did_cons.mp inserted with new | old
      · cases new
        rw [exec_allocatedPorts executed]
        exact Finset.mem_insert_self _ _
      · exact grows (reserving.reserved port (.inl old))
    · rcases did_cons.mp allocated with new | old
      · cases new
        simp only [TunnelitRelay.exec] at executed
        split at executed
        · rename_i found
          cases executed
          exact Finset.mem_insert_self _ _
        · simp at executed
      · exact grows (reserving.reserved port (.inr old))

theorem PortsReserved.of_keeping {job : Job} (reserved : world.PortsReserved)
    (keeps : job.releases = false) :
    (serve job).Always relay (fun after _ => after.PortsReserved) world := by
  have starts : Reserving [] world := by
    refine ⟨.nil, reserved, ?_⟩
    rintro port (inserted | allocated)
    · exact absurd inserted did_nil
    · exact absurd allocated did_nil
  refine Always.mono (Obeys.always (relay_lawful job)
    (fun lawful reserving executed => reserving.exec keeps lawful executed) starts) ?_
  rintro after reply ⟨past, held, reserving, _⟩
  exact reserving.running

/-! ## Jobs that release ports -/

theorem PortsReserved.stopRows {rows : List TunnelRecord} (reserved : world.PortsReserved)
    (own : OwnPorts world rows) : (rows.foldl World.stopRow world).PortsReserved := by
  intro tunnelId handle running
  obtain ⟨ran, spared⟩ := stopRows_tasks.mp running
  refine stopRows_ports.mpr ⟨reserved tunnelId handle ran, fun row member _ same => ?_⟩
  obtain ⟨other, listed, parsed⟩ := own row member tunnelId handle ran same.symm
  exact spared other listed parsed

/-- The same where the rows were listed by a query, which may fail. -/
theorem stopListed_always {rows : List TunnelRecord} {choice : Choice} {post : World → Unit → Prop}
    (reserved : world.PortsReserved) (own : OwnPorts world rows)
    (ends : ∀ after, World.PortsReserved after → post after ()) :
    (forEach stopRow (rowsOrNone (choice.statement 0 (.ok (Db.oldestFirst rows))))).Always relay
      post world := by
  refine stopRows_always.mono ?_
  rintro after _ rfl
  refine ends _ ?_
  unfold Choice.statement
  split
  · exact reserved
  · refine PortsReserved.stopRows reserved fun row member tunnelId handle running same => ?_
    rw [rowsOrNone, Db.oldestFirst, List.mem_insertionSort] at member
    obtain ⟨other, listed, parsed⟩ := own row member tunnelId handle running same
    exact ⟨other, (List.mem_insertionSort _).mpr listed, parsed⟩

theorem adminBanUser_always {id : String} {headers : HeaderMap} (reserved : world.PortsReserved)
    (own : releasesOwnPorts world (.adminBanUser id headers)) :
    (adminBanUser id headers).Always relay (fun after _ => after.PortsReserved) world := by
  refine always_bind.mpr ?_
  unfold isAdmin
  cases found : extractToken headers with
  | none => exact reserved
  | some token =>
      refine withLock_always fun choice read admin executed => ?_
      cases executed
      cases signedIn : world.adminSessions token with
      | false => exact reserved
      | true =>
          rw [if_pos rfl, bind_eq, always_bind, always_guarded]
          refine database_always fun choice drawn => database_always fun choice' drawn' => ?_
          refine stopListed_always reserved ?_ fun _ kept => kept
          have listed : releasedRows world (.adminBanUser id headers) =
              world.db.tunnels.filter (·.userId == some id) := by
            simp [releasedRows, found, signedIn]
          rw [Query.run_tunnels rfl]
          exact listed ▸ own

omit [Externals] in
theorem PortsReserved.update {after : World} {tunnelId : Uuid} {task : Option JoinHandle}
    (reserved : world.PortsReserved)
    (tasks : after.tunnelTasks = Function.update world.tunnelTasks tunnelId task)
    (ports : world.allocatedPorts ⊆ after.allocatedPorts)
    (taken : ∀ handle, task = some handle → handle.port ∈ after.allocatedPorts) :
    after.PortsReserved := by
  intro other handle running
  rw [tasks, Function.update_apply] at running
  split at running
  · exact taken handle running
  · exact ports (reserved other handle running)

theorem startTunnelListener_always {tunnel : TunnelConfig} {sender : Channel}
    {post : World → Except String Unit → Prop} (reserved : world.PortsReserved)
    (taken : tunnel.publicPort ∈ world.allocatedPorts)
    (ends : ∀ after result, World.PortsReserved after → post after result) :
    (startTunnelListener tunnel sender).Always relay post world := by
  have stopped : World.PortsReserved { world with
      tunnelTasks := Function.update world.tunnelTasks tunnel.id none } :=
    PortsReserved.update reserved rfl (Finset.Subset.refl _) fun _ running => by contradiction
  refine access_always fun choice entered result executed => ?_
  cases executed
  refine always_bind.mpr (withLock_always fun choice after result executed => ?_)
  cases executed
  refine access_always fun choice bound result executed => ?_
  simp only [exec] at executed
  split at executed
  · cases executed
    exact ends _ _ stopped
  · cases executed
    refine access_always fun choice spawned handle executed => ?_
    cases executed
    refine always_bind.mpr (withLock_always fun choice after result executed => ?_)
    cases executed
    refine ends _ _ (PortsReserved.update stopped rfl (Finset.Subset.refl _) ?_)
    rintro handle ⟨⟩
    exact taken

/-- Handing a message to the channel of an agent, if it has one. -/
theorem notify_always {agentSender : Option Channel} {message : RelayMessage} {post : World → Unit → Prop}
    (reserved : world.PortsReserved) (ends : ∀ after, World.PortsReserved after → post after ()) :
    (ifSome (fun sender => access (.send sender message)) agentSender).Always relay post world := by
  refine ifSome_always (fun _ => ends _ reserved) fun sender _ => ?_
  intro choice after result executed
  cases executed
  exact ends _ reserved

omit [Externals] in
/-- Stopping one listener and releasing its port. -/
theorem PortsReserved.stop {tunnelId : Uuid} {port : UInt16} {after : World} (reserved : world.PortsReserved)
    (tasks : after.tunnelTasks = Function.update world.tunnelTasks tunnelId none)
    (ports : after.allocatedPorts = world.allocatedPorts.erase port)
    (own : ∀ other handle, world.tunnelTasks other = some handle → handle.port = port → other = tunnelId) :
    after.PortsReserved := by
  intro other handle running
  rw [tasks, Function.update_apply] at running
  split at running
  · contradiction
  · rename_i different
    rw [ports]
    exact Finset.mem_erase.mpr ⟨fun same => different (own other handle running same),
      reserved other handle running⟩

theorem switchTunnel_always {tunnelId agentId : Uuid} {tunnel : TunnelRecord} {newEnabled : Bool}
    {post : World → Unit → Prop} (reserved : world.PortsReserved)
    (own : newEnabled = false → ∀ other handle, world.tunnelTasks other = some handle →
      handle.port = tunnel.publicPort → other = tunnelId)
    (ends : ∀ after, World.PortsReserved after → post after ()) :
    (switchTunnel tunnelId agentId tunnel newEnabled).Always relay post world := by
  refine always_guarded.mpr ?_
  intro choice read sender executed
  cases executed
  cases newEnabled with
  | true =>
      refine always_guarded.mpr ?_
      intro choice after result executed
      cases executed
      refine ifSome_always (fun _ => ends _ ?_) fun channel _ => ?_
      · exact fun other handle running => Finset.mem_insert_of_mem (reserved other handle running)
      · refine always_bind.mpr (startTunnelListener_always ?_ (Finset.mem_insert_self _ _) ?_)
        · exact fun other handle running => Finset.mem_insert_of_mem (reserved other handle running)
        · intro running result kept choice after sent executed
          cases executed
          exact ends _ kept
  | false =>
      intro choice stopped result executed choice' released result' executed'
      cases executed
      cases executed'
      exact notify_always (PortsReserved.stop reserved rfl rfl (own rfl)) ends

theorem toggleTunnel_always {id : String} (reserved : world.PortsReserved)
    (own : releasesOwnPorts world (.toggleTunnel id)) :
    (toggleTunnel id).Always relay (fun after _ => after.PortsReserved) world := by
  refine always_bind.mpr (query_always fun choice drawn => ?_)
  cases answered : (Query.run choice world.portRange world.db (.getTunnelById id)).2 with
  | error failure => exact reserved
  | ok found =>
      cases found with
      | none => exact reserved
      | some tunnel =>
          have found := Except.ok.inj (Choice.statement_ok answered)
          have listed : releasedRows world (.toggleTunnel id) = [tunnel].filter (·.enabled) := by
            rw [releasedRows, found, Option.toList_some]
          dsimp only
          cases parsed : parseUuid tunnel.id with
          | none => exact reserved
          | some tunnelId =>
              cases owner : parseUuid tunnel.agentId with
              | none => exact reserved
              | some agentId =>
                  refine always_bind.mpr (query_always fun choice drawn => ?_)
                  refine always_bind.mpr (switchTunnel_always reserved ?_ fun _ kept => kept)
                  intro off other handle running same
                  have enabled : tunnel.enabled = true := by simpa using off
                  rw [releasesOwnPorts, listed, List.filter_cons_of_pos enabled] at own
                  obtain ⟨row, member, named⟩ := own tunnel List.mem_cons_self other handle running same
                  rw [List.mem_singleton.mp member, parsed] at named
                  exact (Option.some.inj named).symm

theorem stopDeleted_always {tunnel : TunnelRecord} {tunnelId : Uuid} {post : World → Unit → Prop}
    (reserved : world.PortsReserved)
    (own : ∀ other handle, world.tunnelTasks other = some handle →
      handle.port = tunnel.publicPort → other = tunnelId)
    (ends : ∀ after, World.PortsReserved after → post after ()) :
    (stopDeleted tunnel tunnelId).Always relay post world := by
  refine always_bind.mpr (withLock_always fun choice stopped result executed => ?_)
  cases executed
  refine always_bind.mpr (withLock_always fun choice released result executed => ?_)
  cases executed
  have kept : World.PortsReserved { world with
      tunnelTasks := Function.update world.tunnelTasks tunnelId none
      allocatedPorts := world.allocatedPorts.erase tunnel.publicPort } :=
    PortsReserved.stop reserved rfl rfl own
  refine ifSome_always (fun _ => ends _ kept) fun agentId _ => ?_
  refine always_guarded.mpr (access_always fun choice read sender executed => ?_)
  cases executed
  exact notify_always kept ends

theorem deleteTunnel_always {id : String} (reserved : world.PortsReserved)
    (own : releasesOwnPorts world (.deleteTunnel id)) :
    (deleteTunnel id).Always relay (fun after _ => after.PortsReserved) world := by
  refine always_bind.mpr (query_always fun choice drawn => ?_)
  cases answered : (Query.run choice world.portRange world.db (.getTunnelById id)).2 with
  | error failure => exact reserved
  | ok found =>
      cases found with
      | none => exact reserved
      | some tunnel =>
          have found := Except.ok.inj (Choice.statement_ok answered)
          refine always_bind.mpr (ifSome_always (fun _ => ?_) fun tunnelId parsed => ?_)
          · exact always_bind.mpr (query_always fun choice drawn => reserved)
          · refine stopDeleted_always reserved ?_ fun after kept =>
              always_bind.mpr (query_always fun choice drawn => kept)
            intro other handle running same
            rw [releasesOwnPorts, releasedRows, found, Option.toList_some] at own
            obtain ⟨row, member, named⟩ := own tunnel List.mem_cons_self other handle running same
            rw [List.mem_singleton.mp member, parsed] at named
            exact (Option.some.inj named).symm

theorem cleanupAgent_always {agentId : Uuid} (reserved : world.PortsReserved)
    (own : OwnPorts world (world.db.tunnels.filter (·.agentId == uuidToString agentId))) :
    (cleanupAgent agentId).Always relay (fun after _ => after.PortsReserved) world := by
  refine always_bind.mpr (withLock_always fun choice unregistered sender executed => ?_)
  cases executed
  refine always_bind.mpr (query_always fun choice drawn => ?_)
  refine always_bind.mpr (query_always fun choice' drawn' => ?_)
  refine stopListed_always reserved ?_ fun _ kept => kept
  rw [Query.run_tunnels rfl]
  exact own

theorem teardown_always {session : SessionId} (reserved : world.PortsReserved)
    (own : releasesOwnPorts world (.frame session .hangup)) :
    (teardown session).Always relay (fun after _ => after.PortsReserved) world := by
  refine access_always fun choice closing result executed => ?_
  cases executed
  refine access_always fun choice read locals executed => ?_
  cases connected : world.sessions session with
  | none => simp [exec, updateSession, connected] at executed
  | some current =>
      simp only [exec, updateSession, Function.update_self, connected, Option.map_some] at executed
      cases executed
      have cleaned (sessions) (claims) : (Program.bind (ifSome cleanupAgent current.authenticatedAgentId)
          fun _ => access (.returnSession session)).Always relay (fun after _ => after.PortsReserved)
          { world with sessions := sessions, pendingClaims := claims } := by
        have kept : World.PortsReserved { world with sessions := sessions, pendingClaims := claims } :=
          reserved
        refine always_bind.mpr (ifSome_always (fun _ => ?_) fun agentId known => ?_)
        · intro choice after result executed
          cases executed
          exact kept
        · rw [releasesOwnPorts, releasedRows, connected, Option.bind_some, known] at own
          refine (cleanupAgent_always kept own).mono ?_
          intro after _ cleaned choice returned result executed
          cases executed
          exact cleaned
      refine always_bind.mpr (ifSome_always (fun _ => cleaned _ _) fun code known => ?_)
      refine always_bind.mpr (withLock_always fun choice unclaimed sender executed => ?_)
      cases executed
      exact cleaned _ _

theorem serve_always {job : Job} (reserved : world.PortsReserved) (own : releasesOwnPorts world job) :
    (serve job).Always relay (fun after _ => after.PortsReserved) world := by
  cases keeps : job.releases with
  | false => exact PortsReserved.of_keeping reserved keeps
  | true =>
      unfold Job.releases at keeps
      split at keeps
      · exact adminBanUser_always reserved own
      · exact toggleTunnel_always reserved own
      · exact deleteTunnel_always reserved own
      · exact always_bind.mpr ((teardown_always reserved own).mono fun _ _ kept => kept)
      · contradiction

/-- A job finds the same rows to release after it has been admitted. -/
theorem admit_releasedRows {before admitted : World} {job : Job}
    (accepted : accept before job = some admitted) :
    releasedRows admitted job = releasedRows before job := by
  cases job with
  | connect session => rfl
  | frame session frame =>
      simp only [accept] at accepted
      split at accepted
      · rename_i locals connected
        split at accepted
        · cases accepted
          cases frame with
          | hangup => simp [releasedRows, updateSession, connected]
          | _ => rfl
        · contradiction
      · contradiction
  | _ =>
      cases accepted
      rfl

/-- In every sequence of jobs that each stop what they find on the ports they
release, every running listener listens on a reserved port. -/
theorem bound_ports_reserved {state : World}
    (completed : @Completed _ relay releasesOwnPorts (World.initial portRange Database.empty []) state) :
    state.PortsReserved := by
  refine Completed.always ?_ ?_ ?_ completed
  · exact fun _ _ running => by simp [World.initial] at running
  · intro before job admitted reserved own accepted
    have same := admit_releasedRows accepted
    obtain ⟨sessions, rfl⟩ := accept_same accepted
    refine serve_always reserved ?_
    rw [releasesOwnPorts, same]
    exact own
  · exact fun _ _ _ running => by simp [World.reboot, World.initial] at running

end Runs

/-- Alice's agent connects and she opens a tunnel to it; its listener runs. -/
theorem bound_ports_reserved_running :
    ∃ world : World, (world.tunnelTasks 10).isSome = true ∧ world.PortsReserved := by
  have passed : (relay.performAll
      [(.register { username := "alice", password := "secret" }, answer 1 0),
        (.generateAgentToken (signedIn 1), answer 2 0),
        (.connect 0, answer 3 0),
        (.frame 0 (.message (.auth (Db.agentToken (answer 2 0)) "laptop")), answer 4 0),
        (.createTunnel (signedIn 1) (webTunnel 4), answer 5 0)] newRelay).any
        (fun world : World => (world.tunnelTasks 10).isSome) = true := by decide +kernel
  obtain ⟨world, performed, running⟩ := (Option.any_eq_true _ _).mp passed
  refine ⟨world, running, bound_ports_reserved (System.performAll_completed ?_ .initial performed)⟩
  simp [releasesOwnPorts, OwnPorts, releasedRows]

/-- Alice switches a tunnel off, opens another one on the port that became
free, and deletes the first: the port of the second is released while it runs. -/
theorem bound_port_released :
    ¬ ∀ world : World, @Completed _ relay (fun _ _ => True) newRelay world → world.PortsReserved := by
  have passed : (relay.performAll
      [(.register { username := "alice", password := "secret" }, answer 1 0),
        (.generateAgentToken (signedIn 1), answer 2 0),
        (.connect 0, answer 3 0),
        (.frame 0 (.message (.auth (Db.agentToken (answer 2 0)) "laptop")), answer 4 0),
        (.createTunnel (signedIn 1) (webTunnel 4), answer 5 0),
        (.toggleTunnel (uuidToString 10), answer 0 0),
        (.createTunnel (signedIn 1) (webTunnel 4), answer 6 0),
        (.deleteTunnel (uuidToString 10), answer 0 0)] newRelay).any
        (fun world : World => (world.tunnelTasks 12).any (·.port ∉ world.allocatedPorts)) = true := by
    decide +kernel
  obtain ⟨world, performed, released⟩ := (Option.any_eq_true _ _).mp passed
  obtain ⟨handle, running, free⟩ := (Option.any_eq_true _ _).mp released
  intro always
  have completed := @System.performAll_completed _ relay _ (fun _ _ => True) _ _ _ (fun _ _ _ => trivial)
    .initial performed
  exact of_decide_eq_true free (always world completed 12 handle running)

end TunnelitRelay
