import TunnelitRelay.State

namespace TunnelitRelay

variable [Externals]

/-! # What an operation does to each part of the state -/

variable {world after : World} {choice : Choice} {op : Op} {result : op.Result}

theorem exec_agentSenders (executed : exec world choice op = some (after, result)) :
    after.agentSenders = match op with
      | .insertAgentSender agentId sender => Function.update world.agentSenders agentId (some sender)
      | .removeAgentSender agentId => Function.update world.agentSenders agentId none
      | _ => world.agentSenders := by
  cases op <;> simp only [exec] at executed <;> (try split at executed) <;>
    (try contradiction) <;> cases executed <;> rfl

/-- A registered channel was registered before or is registered now. -/
theorem agentSenders_origin {agentId : Uuid} {sender : Channel}
    (executed : exec world choice op = some (after, result))
    (there : after.agentSenders agentId = some sender) :
    world.agentSenders agentId = some sender ∨ op = .insertAgentSender agentId sender := by
  rw [exec_agentSenders executed] at there
  cases op with
  | insertAgentSender other channel =>
      by_cases same : agentId = other
      · simp_all
      · simp_all
  | removeAgentSender other =>
      by_cases same : agentId = other
      · simp_all
      · simp_all
  | _ => exact .inl there

theorem exec_pendingClaims (executed : exec world choice op = some (after, result)) :
    after.pendingClaims = match op with
      | .insertPendingClaim code sender => Function.update world.pendingClaims code (some sender)
      | .removePendingClaim code => Function.update world.pendingClaims code none
      | _ => world.pendingClaims := by
  cases op <;> simp only [exec] at executed <;> (try split at executed) <;>
    (try contradiction) <;> cases executed <;> rfl

theorem pendingClaims_origin {code : String} {sender : Channel}
    (executed : exec world choice op = some (after, result))
    (there : after.pendingClaims code = some sender) :
    world.pendingClaims code = some sender ∨ op = .insertPendingClaim code sender := by
  rw [exec_pendingClaims executed] at there
  cases op with
  | insertPendingClaim other channel =>
      by_cases same : code = other
      · simp_all
      · simp_all
  | removePendingClaim other =>
      by_cases same : code = other
      · simp_all
      · simp_all
  | _ => exact .inl there

theorem exec_tunnelTasks (executed : exec world choice op = some (after, result)) :
    after.tunnelTasks = match op with
      | .insertTunnelTask tunnelId handle => Function.update world.tunnelTasks tunnelId (some handle)
      | .removeTunnelTask tunnelId => Function.update world.tunnelTasks tunnelId none
      | _ => world.tunnelTasks := by
  cases op <;> simp only [exec] at executed <;> (try split at executed) <;>
    (try contradiction) <;> cases executed <;> rfl

theorem tunnelTasks_origin {tunnelId : Uuid} {handle : JoinHandle}
    (executed : exec world choice op = some (after, result))
    (there : after.tunnelTasks tunnelId = some handle) :
    (world.tunnelTasks tunnelId = some handle ∧ op ≠ .removeTunnelTask tunnelId) ∨
      op = .insertTunnelTask tunnelId handle := by
  rw [exec_tunnelTasks executed] at there
  cases op with
  | insertTunnelTask other task =>
      by_cases same : tunnelId = other
      · simp_all
      · simp_all
  | removeTunnelTask other =>
      by_cases same : tunnelId = other
      · simp_all
      · refine .inl ⟨?_, fun alike => same (Op.removeTunnelTask.inj alike).symm⟩
        simpa [Function.update_of_ne same] using there
  | _ => exact .inl ⟨there, by simp⟩

theorem exec_allocatedPorts (executed : exec world choice op = some (after, result)) :
    after.allocatedPorts = match op with
      | .allocatePort preferred =>
          match world.allocatePort preferred with
          | some port => insert port world.allocatedPorts
          | none => world.allocatedPorts
      | .insertAllocatedPort port => insert port world.allocatedPorts
      | .freePort port => world.allocatedPorts.erase port
      | _ => world.allocatedPorts := by
  cases op with
  | allocatePort preferred =>
      simp only [exec] at executed ⊢
      cases made : world.allocatePort preferred <;> rw [made] at executed <;> cases executed <;> rfl
  | _ =>
      simp only [exec] at executed
      (try split at executed) <;> (try contradiction) <;> cases executed <;> rfl

theorem exec_sent (executed : exec world choice op = some (after, result)) :
    after.sent = match op with
      | .send sender message => Function.update world.sent sender (world.sent sender ++ [message])
      | _ => world.sent := by
  cases op <;> simp only [exec] at executed <;> (try split at executed) <;>
    (try contradiction) <;> cases executed <;> rfl

theorem sent_origin {session : SessionId} {message : RelayMessage}
    (executed : exec world choice op = some (after, result)) (there : message ∈ after.sent session) :
    message ∈ world.sent session ∨ op = .send session message := by
  rw [exec_sent executed] at there
  cases op with
  | send other text =>
      by_cases same : session = other
      · subst same
        simp only [Function.update_self, List.mem_append, List.mem_singleton] at there
        exact there.imp_right fun alike => by rw [alike]
      · exact .inl (by simpa [Function.update_of_ne same] using there)
  | _ => exact .inl there

theorem exec_tcpConnSenders (executed : exec world choice op = some (after, result)) :
    after.tcpConnSenders = match op with
      | .removeConnSender connId => Function.update world.tcpConnSenders connId false
      | _ => world.tcpConnSenders := by
  cases op <;> simp only [exec] at executed <;> (try split at executed) <;>
    (try contradiction) <;> cases executed <;> rfl

theorem exec_queued (executed : exec world choice op = some (after, result)) :
    after.queued = match op with
      | .enqueueData connId data =>
          if world.tcpConnSenders connId then
            Function.update world.queued connId (world.queued connId ++ [data])
          else world.queued
      | _ => world.queued := by
  cases op with
  | enqueueData connId data =>
      simp only [exec] at executed ⊢
      split at executed <;> rename_i there <;> cases executed <;> simp [there]
  | _ =>
      simp only [exec] at executed
      (try split at executed) <;> (try contradiction) <;> cases executed <;> rfl

theorem exec_spawned (executed : exec world choice op = some (after, result)) :
    after.spawned = match op with
      | .spawnProxy .. => world.spawned + 1
      | _ => world.spawned := by
  cases op <;> simp only [exec] at executed <;> (try split at executed) <;>
    (try contradiction) <;> cases executed <;> rfl

theorem exec_drawn (executed : exec world choice op = some (after, result)) :
    world.drawn ⊆ after.drawn := by
  cases op with
  | db query =>
      simp only [exec] at executed
      split at executed
      · cases executed
        exact List.subset_append_right _ _
      · contradiction
  | newUuid =>
      simp only [exec] at executed
      split at executed
      · contradiction
      · cases executed
        exact List.subset_cons_self _ _
  | _ =>
      simp only [exec] at executed
      (try split at executed) <;> (try contradiction) <;> cases executed <;> exact List.Subset.refl _

theorem exec_userSessions (executed : exec world choice op = some (after, result)) :
    after.userSessions = match op with
      | .insertUserSession token userId => Function.update world.userSessions token (some userId)
      | .removeUserSession token => Function.update world.userSessions token none
      | _ => world.userSessions := by
  cases op <;> simp only [exec] at executed <;> (try split at executed) <;>
    (try contradiction) <;> cases executed <;> rfl

theorem userSessions_origin {token userId : String}
    (executed : exec world choice op = some (after, result))
    (there : after.userSessions token = some userId) :
    world.userSessions token = some userId ∨ op = .insertUserSession token userId := by
  rw [exec_userSessions executed] at there
  cases op with
  | insertUserSession other owner =>
      by_cases same : token = other
      · simp_all
      · simp_all
  | removeUserSession other =>
      by_cases same : token = other
      · simp_all
      · exact .inl (by simpa [Function.update_of_ne same] using there)
  | _ => exact .inl there

theorem exec_adminSessions (executed : exec world choice op = some (after, result)) :
    after.adminSessions = match op with
      | .insertAdminSession token => Function.update world.adminSessions token true
      | _ => world.adminSessions := by
  cases op <;> simp only [exec] at executed <;> (try split at executed) <;>
    (try contradiction) <;> cases executed <;> rfl

theorem exec_sessions (executed : exec world choice op = some (after, result)) :
    after.sessions = match op with
      | .setAuthenticatedAgentId session agentId =>
          (updateSession world session ({ · with authenticatedAgentId := some agentId })).sessions
      | .setCurrentClaimCode session code =>
          (updateSession world session ({ · with currentClaimCode := some code })).sessions
      | .abortSendTask session => (updateSession world session ({ · with phase := .closing })).sessions
      | .awaitFrame session => (updateSession world session ({ · with busy := false })).sessions
      | .returnSession session => (updateSession world session ({ · with phase := .returned })).sessions
      | _ => world.sessions := by
  cases op <;> simp only [exec] at executed <;> (try split at executed) <;>
    (try contradiction) <;> cases executed <;> rfl

end TunnelitRelay
