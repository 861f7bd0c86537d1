import TunnelitRelay.Concurrent.Trace
import TunnelitRelay.Draining
import TunnelitRelay.FirstBytes
import TunnelitRelay.UdpReplies

namespace TunnelitRelay

open Concurrent

/-! # From the agent to the client

Between the moment a connection is put into the map and the moment it is taken
out, every payload that a session hands over for it is queued; what is written to
the client is the beginning of the queue.
-/

/-- The payload that an entry of a run hands over for the connection. -/
def Op.payload (connId : Uuid) : Op → Option (List UInt8)
  | .enqueueData other data => if other = connId then some data else none
  | _ => none

section Runs

variable [Externals] {connId : Uuid} {portRange : UInt16 × UInt16} {allowed : Condition process}
  {config : Config process} {trace : List (Entry process)}

/-- The payloads handed over for the connection, the oldest first. -/
def handedOver (connId : Uuid) (trace : List (Entry process)) : List (List UInt8) :=
  trace.reverse.filterMap fun entry => entry.event.1.payload connId

theorem handedOver_cons {entry : Entry process} :
    handedOver connId (entry :: trace) = handedOver connId trace ++ (entry.event.1.payload connId).toList := by
  unfold handedOver
  rw [List.reverse_cons, List.filterMap_append]
  cases payload : entry.event.1.payload connId <;> simp [payload]

/-- What the task has written is the beginning of the queue. -/
def View.Written (view : View) : Prop :=
  ∀ connection, view.connection = some connection → connection.transport = .tcp → connection.written <+: view.queue

theorem View.Written.step {before after : View} {closed : Channel → Bool} {old drawn : List Uuid}
    {label : Option ProxyAction} (written : before.Written) (wrote : before.Wrote)
    (step : View.Step closed old drawn connId label before after) : after.Written := by
  cases step with
  | same | unregistered | datagram => exact written
  | enqueued => exact fun connection there tcp => (written connection there tcp).trans (List.prefix_append _ _)
  | rebooted => exact fun _ there => by contradiction
  | announced | unannounced =>
      intro connection there _
      obtain rfl := Option.some.inj there
      exact List.prefix_refl _
  | replied found udp | passedOn found udp | retired found udp =>
      intro connection there tcp
      obtain rfl := Option.some.inj there
      exact absurd (tcp.symm.trans udp) (by simp)
  | @wrote connection data _ found tcp stage =>
      intro later there _
      obtain rfl := Option.some.inj there
      obtain ⟨_, taken⟩ := wrote connection found tcp
      rw [stage] at taken
      exact taken ▸ List.take_prefix _ _
  | registered found | dropped found | arrived found | finished found | read found | leftEof found
  | leftError found | leftUnsent found | forwarded found | took found | leftUnwritten found | closed found
  | closedUnheard found | removed found =>
      intro later there tcp
      obtain rfl := Option.some.inj there
      have same := written _ found
      exact same tcp

theorem Runs.written (runs : Runs allowed portRange config) : (config.state.view connId).Written := by
  have both : (config.state.view connId).Wrote ∧ (config.state.view connId).Written :=
    @Runs.always _ allowed portRange config connId (fun view => view.Wrote ∧ view.Written)
      ⟨fun _ there => by contradiction, fun _ there => by contradiction⟩
      (fun holds step => ⟨holds.1.step step, holds.2.step holds.1 step⟩) runs
  exact both.2

/-- The queue is a part of what was handed over, and its end while the connection is in the map. -/
def Queued (queue : List (List UInt8)) (registered : Bool) (handed : List (List UInt8)) : Prop :=
  ∃ early late, handed = early ++ queue ++ late ∧ (registered = true → late = [])

omit [Externals] in
theorem Queued.empty {handed : List (List UInt8)} {registered : Bool} : Queued [] registered handed :=
  ⟨handed, [], by simp, fun _ => rfl⟩

omit [Externals] in
theorem Queued.unregister {queue handed : List (List UInt8)} {registered : Bool}
    (queued : Queued queue registered handed) : Queued queue false handed := by
  obtain ⟨early, late, split, _⟩ := queued
  exact ⟨early, late, split, fun absent => by contradiction⟩

/-- An action of the proxies queues nothing, and puts a connection into the map only while its queue is empty. -/
theorem Queued.perform {before after : View} {closed : Channel → Bool} {old drawn : List Uuid} {action : ProxyAction}
    {handed : List (List UInt8)} (queued : Queued before.queue before.registered handed) (unlisted : before.Unlisted)
    (step : View.Step closed old drawn connId (some action) before after) :
    Queued after.queue after.registered handed := by
  cases step with
  | registered found stage =>
      have empty := (unlisted _ found stage).1
      rw [show (View.set before _).queue = before.queue from rfl, empty]
      exact .empty
  | removed => exact queued.unregister
  | _ => exact queued

theorem Queued.exec {world after : World} {choice : Choice} {op : Op} {result : op.Result}
    {handed : List (List UInt8)} (queued : Queued (world.queued connId) (world.tcpConnSenders connId) handed)
    (executed : TunnelitRelay.exec world choice op = some (after, result)) :
    Queued (after.queued connId) (after.tcpConnSenders connId) (handed ++ (op.payload connId).toList) := by
  rw [exec_queued executed, exec_tcpConnSenders executed]
  cases op with
  | enqueueData other data =>
      by_cases here : other = connId
      · subst here
        simp only [Op.payload, if_true, Option.toList_some]
        obtain ⟨early, late, rfl, ends⟩ := queued
        cases there : world.tcpConnSenders other with
        | true =>
            obtain rfl := ends there
            exact ⟨early, [], by simp, fun _ => rfl⟩
        | false => exact ⟨early, late ++ [data], by simp, fun absent => by contradiction⟩
      · simp only [Op.payload, if_neg here, Option.toList_none, List.append_nil]
        split
        · rwa [Function.update_of_ne (Ne.symm here)]
        · exact queued
  | removeConnSender other =>
      rw [show (Op.removeConnSender other).payload connId = none from rfl, Option.toList_none, List.append_nil]
      by_cases here : connId = other
      · subst here
        simp only [Function.update_self]
        exact queued.unregister
      · simp only [Function.update_of_ne here]
        exact queued
  | _ =>
      rw [show Op.payload connId _ = none from rfl, Option.toList_none, List.append_nil]
      exact queued

theorem traced_queued (traced : Traced allowed (Process.initial portRange) trace config) :
    Queued (config.state.world.queued connId) (config.state.world.tcpConnSenders connId) (handedOver connId trace) := by
  induction traced with
  | initial => exact .empty
  | @step trace before action after earlier permitted step ih =>
      have runs : Runs allowed portRange before := Traced.reachable earlier
      have follows := (runs.follows step).views connId
      cases step with
      | @start work state admitted =>
          cases work with
          | serve job =>
              obtain ⟨world, accepts, rfl⟩ := Option.map_eq_some_iff.mp admitted
              obtain ⟨sessions, rfl⟩ := accept_same accepts
              exact ih
          | proxy action => exact ih.perform runs.unlisted follows
      | @call task thread op next choice state result found head executed =>
          have called : Called before task thread choice op result ⟨state, before.threads.set task
              { thread with past := ⟨op, result⟩ :: thread.past, rest := next result }⟩ :=
            ⟨found, executed, next, head, rfl⟩
          rw [called.noted]
          obtain ⟨⟨world, answer⟩, calls, same⟩ := Option.map_eq_some_iff.mp executed
          cases same
          exact handedOver_cons ▸ ih.exec calls
      | acquire | release => exact ih
      | reboot => exact .empty

/-- What is handed over for a connection is the text of some session, decoded. -/
theorem payload_decoded (traced : Traced allowed (Process.initial portRange) trace config)
    {entry : Entry process} (member : entry ∈ trace) {data : List UInt8}
    (hands : entry.event.1.payload connId = some data) :
    ∃ session payload, entry.job = .serve (.frame session (.message (.data connId payload))) ∧
      decodeBase64 payload = some data := by
  obtain ⟨past, held, law, _⟩ := Traced.lawful process_lawful traced member
  obtain ⟨task, job, op, result⟩ := entry
  cases op with
  | enqueueData other bytes =>
      simp only [Op.payload] at hands
      split at hands
      · rename_i same
        subst same
        cases hands
        cases job with
        | serve served =>
            have justified := (law.2.2.general fun _ => id).1
            obtain ⟨_, session, payload, job, decoded⟩ := justified
            exact ⟨session, payload, congrArg Work.serve job, decoded⟩
        | proxy action => exact law.elim
      · contradiction
  | _ => contradiction

/-- What begins the queue of a connection is an unbroken part of what was handed over for it. -/
theorem queue_handedOver (traced : Traced allowed (Process.initial portRange) trace config) {part : List (List UInt8)}
    (begins : part <+: config.state.world.queued connId) : part <:+: handedOver connId trace := by
  obtain ⟨early, late, split, _⟩ := @traced_queued _ connId _ _ _ _ traced
  exact begins.isInfix.trans ⟨early, late, split.symm⟩

end Runs

end TunnelitRelay
