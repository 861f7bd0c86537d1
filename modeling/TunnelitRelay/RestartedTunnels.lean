import TunnelitRelay.AgentClose
import TunnelitRelay.Concurrent.Amid
import TunnelitRelay.ListenerTasks

namespace TunnelitRelay

open Concurrent Program

/-! # Restarting a running tunnel

`abort` only asks for the cancellation of the old listener task.  Its socket is
bound until the runtime has dropped the task, which it does some time later.
-/

/-- The process and the sockets bound on its machine. -/
structure Machine where
  process : Process
  /-- The sockets of other programs. -/
  foreign : Transport → UInt16 → Bool
  /-- Sockets bound and not yet given to a task. -/
  opened : List (Transport × UInt16)
  /-- The sockets the listener tasks were spawned with. -/
  owned : List (Nat × Transport × UInt16)

namespace Machine

/-- The socket of the task is not released: the task has not been dropped. -/
def holds (machine : Machine) (task : Nat) : Bool :=
  (machine.process.proxies.listeners task).isSome

def inUse (machine : Machine) (address : Transport × UInt16) : Bool :=
  machine.foreign address.1 address.2 || machine.opened.contains address ||
    machine.owned.any fun (task, socket) => machine.holds task && socket == address

/-- A socket is bound exactly if its address is not in use. -/
def answers (machine : Machine) (choice : Choice) : Op → Bool
  | .bind transport port => choice.bindError.isNone == !machine.inUse (transport, port)
  | _ => true

def opens (machine : Machine) (choice : Choice) : Op → List (Transport × UInt16)
  | .bind transport port => if choice.bindError.isNone then (transport, port) :: machine.opened else machine.opened
  | .spawnProxy transport port .. => machine.opened.erase (transport, port)
  | _ => machine.opened

def gives (machine : Machine) : Op → List (Nat × Transport × UInt16)
  | .spawnProxy transport port .. => (machine.process.world.spawned, transport, port) :: machine.owned
  | _ => machine.owned

end Machine

/-- A job of the process, or a call of `start_tunnel_listener` from outside. -/
inductive Errand where
  | work (work : Work)
  | start (tunnel : TunnelConfig) (agentSender : Channel)
deriving DecidableEq

section Restarts

variable [Externals]

def Machine.exec (machine : Machine) (choice : Choice) (op : Op) : Option (Machine × op.Result) :=
  if machine.answers choice op then
    (TunnelitRelay.process.exec machine.process choice op).map fun (process, result) =>
      ({ machine with process, opened := machine.opens choice op, owned := machine.gives op }, result)
  else none

def Machine.accept (machine : Machine) : Errand → Option Machine
  | .work work => (TunnelitRelay.process.accept machine.process work).map fun process => { machine with process }
  | .start _ _ => some machine

abbrev machine : System relaySignature where
  State := Machine
  Choice := Choice
  Job := Errand
  Reply := Reply ⊕ Except String Unit
  exec := Machine.exec
  accept := Machine.accept
  program := fun errand =>
    match errand with
    | .work work => (process.program work).bind fun reply => .done (.inl reply)
    | .start tunnel agentSender => (startTunnelListener tunnel agentSender).bind fun result => .done (.inr result)
  reboot := fun state => { state with process := process.reboot state.process, opened := [], owned := [] }

/-- The listener of the tunnel runs, on the port of the tunnel. -/
structure Machine.Serves (machine : Machine) (tunnel : TunnelConfig) (handle : JoinHandle) : Prop where
  stored : machine.process.world.tunnelTasks tunnel.id = some handle
  socket : (handle.task, transportOf tunnel.protocol, tunnel.publicPort) ∈ machine.owned
  live : ∃ listener, machine.process.proxies.listeners handle.task = some listener ∧
    listener.aborted = false ∧ listener.tunnelId = tunnel.id

/-- No socket but that of the task is bound to the address. -/
structure Machine.Alone (machine : Machine) (address : Transport × UInt16) (task : Nat) : Prop where
  foreign : machine.foreign address.1 address.2 = false
  opened : address ∉ machine.opened
  owned : ∀ other, (other, address) ∈ machine.owned → machine.holds other = true → other = task

/-- The call returns `Ok` and leaves a live listener. -/
def Restarted (machine : Machine) (tunnel : TunnelConfig) (result : Except String Unit) : Prop :=
  result = .ok () ∧ ∃ handle, machine.Serves tunnel handle

/-- Whether the runtime has dropped the task when the socket is bound. -/
def timing (task : Nat) (timely : Bool) : Answers machine
  | before, _, .bind .. => before.holds task == !timely
  | _, _, _ => true

variable {state before after : Machine} {tunnel : TunnelConfig} {sender : Channel} {handle : JoinHandle}
  {address : Transport × UInt16} {timely : Bool}

/-! ## What is admitted meanwhile -/

/-- Tasks may be dropped, and channels closed; nothing is bound, started or aborted. -/
structure Machine.Later (before after : Machine) : Prop where
  tunnelTasks : after.process.world.tunnelTasks = before.process.world.tunnelTasks
  foreign : after.foreign = before.foreign
  opened : after.opened = before.opened
  owned : after.owned = before.owned
  listeners : ∀ task later, after.process.proxies.listeners task = some later →
    ∃ listener, before.process.proxies.listeners task = some listener ∧ listener.Alike later
  kept : ∀ task listener, before.process.proxies.listeners task = some listener → listener.aborted = false →
    (∃ later, after.process.proxies.listeners task = some later) ∨
      after.process.proxies.closed listener.agentSender = true
  closed : ∀ channel, before.process.proxies.closed channel = true → after.process.proxies.closed channel = true

omit [Externals] in
/-- Admitting a request or a frame leaves the proxies alone. -/
theorem Machine.Later.of_proxies (tunnelTasks : after.process.world.tunnelTasks = before.process.world.tunnelTasks)
    (foreign : after.foreign = before.foreign) (opened : after.opened = before.opened)
    (owned : after.owned = before.owned) (proxies : after.process.proxies = before.process.proxies) :
    before.Later after := by
  refine ⟨tunnelTasks, foreign, opened, owned, fun task later there => ⟨later, proxies ▸ there, .refl⟩, ?_,
    fun channel gone => proxies ▸ gone⟩
  exact fun task listener there _ => .inl ⟨listener, proxies ▸ there⟩

omit [Externals] in
theorem Machine.Later.trans {middle : Machine} (first : before.Later middle) (second : middle.Later after) :
    before.Later after := by
  refine ⟨second.tunnelTasks.trans first.tunnelTasks, second.foreign.trans first.foreign,
    second.opened.trans first.opened, second.owned.trans first.owned, ?_, ?_,
    fun channel gone => second.closed channel (first.closed channel gone)⟩
  · intro task later there
    obtain ⟨listener, known, alike⟩ := second.listeners task later there
    obtain ⟨old, there, alike'⟩ := first.listeners task listener known
    exact ⟨old, there, alike.transport.trans alike'.transport, alike.tunnelId.trans alike'.tunnelId,
      alike.agentId.trans alike'.agentId, alike.agentSender.trans alike'.agentSender,
      alike.aborted.trans alike'.aborted⟩
  · intro task listener there running
    rcases first.kept task listener there running with ⟨kept, known⟩ | gone
    · obtain ⟨old, there', alike⟩ := first.listeners task kept known
      rw [there, Option.some.injEq] at there'
      subst there'
      have still := second.kept task kept known (alike.aborted.trans running)
      rwa [alike.agentSender] at still
    · exact .inr (second.closed _ gone)

theorem Machine.Later.accept {errand : Errand} (accepted : before.accept errand = some after) :
    before.Later after := by
  cases errand with
  | start tunnel sender =>
      cases accepted
      exact .of_proxies rfl rfl rfl rfl rfl
  | work work =>
      obtain ⟨later, admitted, rfl⟩ := Option.map_eq_some_iff.mp accepted
      cases work with
      | serve job =>
          obtain ⟨world, served, rfl⟩ := Option.map_eq_some_iff.mp admitted
          obtain ⟨sessions, rfl⟩ := accept_same served
          exact .of_proxies rfl rfl rfl rfl rfl
      | proxy action =>
          obtain ⟨⟨world, proxies⟩, performed, rfl⟩ := Option.map_eq_some_iff.mp admitted
          obtain ⟨sent, tcpConnSenders, drawn, rfl⟩ := Proxies.perform_world performed
          refine ⟨rfl, rfl, rfl, rfl, fun task later there => Proxies.perform_listeners performed there, ?_,
            fun channel gone => Proxies.perform_closed performed gone⟩
          intro task listener there running
          rcases Proxies.perform_kept performed there with ⟨next, kept, _⟩ | gone | rfl
          · exact .inl ⟨next, kept⟩
          · exact .inr (Proxies.perform_closed performed gone)
          · -- Only an aborted task is dropped.
            simp [Proxies.perform, ProxyAction.task, there, Proxies.listen, running] at performed

theorem Machine.Later.admits (admits : machine.Admits before after) : before.Later after := by
  induction admits with
  | refl => exact .of_proxies rfl rfl rfl rfl rfl
  | tail _ last ih =>
      obtain ⟨errand, accepted⟩ := last
      exact ih.trans (.accept accepted)

/-! ## The call -/

theorem Machine.exec_some {choice : Choice} {op : Op} {result : op.Result}
    (executed : machine.exec before choice op = some (after, result)) :
    before.answers choice op = true ∧ ∃ world,
      TunnelitRelay.exec before.process.world choice op = some (world, result) ∧
      after = { before with
        process := ⟨world, before.process.proxies.after before.process.world op⟩
        opened := before.opens choice op, owned := before.gives op } := by
  change Machine.exec before choice op = some (after, result) at executed
  unfold Machine.exec at executed
  split at executed
  · rename_i answered
    obtain ⟨⟨process, value⟩, performed, same⟩ := Option.map_eq_some_iff.mp executed
    obtain ⟨⟨world, answer⟩, called, process'⟩ := Option.map_eq_some_iff.mp performed
    cases process'
    cases same
    exact ⟨answered, world, called, rfl⟩
  · contradiction

/-- No socket is bound that was not bound before. -/
structure Machine.Vacates (before after : Machine) : Prop where
  foreign : after.foreign = before.foreign
  opened : after.opened = before.opened
  owned : after.owned = before.owned
  holds : ∀ task, after.holds task = true → before.holds task = true

omit [Externals] in
theorem Machine.Vacates.trans {middle : Machine} (first : before.Vacates middle) (second : middle.Vacates after) :
    before.Vacates after :=
  ⟨second.foreign.trans first.foreign, second.opened.trans first.opened, second.owned.trans first.owned,
    fun task holds => first.holds task (second.holds task holds)⟩

omit [Externals] in
theorem Machine.Later.vacates (later : before.Later after) : before.Vacates after := by
  refine ⟨later.foreign, later.opened, later.owned, fun task holds => ?_⟩
  obtain ⟨listener, there⟩ := Option.isSome_iff_exists.mp holds
  obtain ⟨old, known, _⟩ := later.listeners task listener there
  exact Option.isSome_iff_exists.mpr ⟨old, known⟩

/-- A stopped listener is not dropped yet. -/
theorem stopTunnelListener_vacates {answers : Answers machine} {tunnelId : Uuid} :
    (stopTunnelListener tunnelId).AlwaysAmid answers (fun after _ => before.Vacates after) before := by
  intro disturbed admits choice after result _ executed
  obtain ⟨_, world, _, rfl⟩ := Machine.exec_some executed
  intro later more
  have stopped : disturbed.Vacates { disturbed with
      process := ⟨world, disturbed.process.proxies.after disturbed.process.world (.removeTunnelTask tunnelId)⟩
      opened := disturbed.opens choice (.removeTunnelTask tunnelId)
      owned := disturbed.gives (.removeTunnelTask tunnelId) } := by
    refine ⟨rfl, rfl, rfl, fun task holds => ?_⟩
    obtain ⟨listener, there⟩ := Option.isSome_iff_exists.mp holds
    rcases Proxies.after_listeners there with ⟨_, _, _, _, _, same, _⟩ | ⟨old, known, _⟩
    · contradiction
    · exact Option.isSome_iff_exists.mpr ⟨old, known⟩
  exact ((Machine.Later.admits admits).vacates.trans stopped).trans (Machine.Later.admits more).vacates

omit [Externals] in
/-- The address is free once the only task on it has been dropped. -/
theorem Machine.Alone.inUse {task : Nat} (alone : before.Alone address task) (owned : (task, address) ∈ before.owned)
    (vacates : before.Vacates after) : after.inUse address = after.holds task := by
  cases held : after.holds task with
  | true =>
      have there : (task, address) ∈ after.owned := vacates.owned ▸ owned
      have used : (after.owned.any fun (task, socket) => after.holds task && socket == address) = true :=
        List.any_eq_true.mpr ⟨_, there, by simp [held]⟩
      simp [Machine.inUse, used]
  | false =>
      have unopened : address ∉ after.opened := vacates.opened ▸ alone.opened
      have foreign : after.foreign address.1 address.2 = false := vacates.foreign ▸ alone.foreign
      have unused : (after.owned.any fun (task, socket) => after.holds task && socket == address) = false := by
        refine List.any_eq_false.mpr fun ⟨other, socket⟩ listed used => ?_
        simp only [Bool.and_eq_true, beq_iff_eq] at used
        obtain ⟨holds, rfl⟩ := used
        have same := alone.owned other (vacates.owned ▸ listed) (vacates.holds other holds)
        rw [same, held] at holds
        contradiction
      simp [Machine.inUse, unopened, foreign, unused]

/-- The new task is there, unless its agent has gone. -/
structure Machine.Stands (machine : Machine) (tunnel : TunnelConfig) (sender : Channel) (task : Nat) : Prop where
  socket : (task, transportOf tunnel.protocol, tunnel.publicPort) ∈ machine.owned
  listener : machine.process.proxies.closed sender = true ∨
    ∃ listener, machine.process.proxies.listeners task = some listener ∧ listener.aborted = false ∧
      listener.tunnelId = tunnel.id ∧ listener.agentSender = sender

omit [Externals] in
theorem Machine.Stands.later {task : Nat} (stands : before.Stands tunnel sender task) (later : before.Later after) :
    after.Stands tunnel sender task := by
  refine ⟨later.owned ▸ stands.socket, ?_⟩
  rcases stands.listener with gone | ⟨listener, there, running, named, served⟩
  · exact .inl (later.closed sender gone)
  · rcases later.kept task listener there running with ⟨next, known⟩ | gone
    · obtain ⟨old, there', alike⟩ := later.listeners task next known
      rw [there, Option.some.injEq] at there'
      subst there'
      exact .inr ⟨next, known, alike.aborted.trans running, alike.tunnelId.trans named,
        alike.agentSender.trans served⟩
    · exact .inl (served ▸ gone)

/-- What the call leaves, unless its agent has gone. -/
def Concludes (tunnel : TunnelConfig) (sender : Channel) (timely : Bool) (after : Machine)
    (result : Except String Unit) : Prop :=
  after.process.proxies.closed sender = false → (Restarted after tunnel result ↔ timely = true)

theorem startTunnelListener_restarts (serves : before.Serves tunnel handle)
    (alone : before.Alone (transportOf tunnel.protocol, tunnel.publicPort) handle.task) :
    (startTunnelListener tunnel sender).AlwaysAmid (timing handle.task timely)
      (Concludes tunnel sender timely) before := by
  intro entering admits choice entered result _ executed
  obtain ⟨_, world, called, rfl⟩ := Machine.exec_some executed
  cases called
  have arrived : before.Vacates entering := (Machine.Later.admits admits).vacates
  refine (@alwaysAmid_bind _ _ _ _ _ _ (stopTunnelListener tunnel.id) _ _).mpr
    (stopTunnelListener_vacates.mono fun stopped _ vacated => ?_)
  have vacates : before.Vacates stopped :=
    arrived.trans ⟨vacated.foreign, vacated.opened, vacated.owned, vacated.holds⟩
  intro binding admits choice bound outcome timed executed
  obtain ⟨answered, world, called, rfl⟩ := Machine.exec_some executed
  have vacates := vacates.trans (Machine.Later.admits admits).vacates
  have free := alone.inUse serves.socket vacates
  have held : binding.holds handle.task = !timely := eq_of_beq timed
  have decided : choice.bindError.isNone = timely := by
    have same := eq_of_beq answered
    rwa [free, held, Bool.not_not] at same
  cases failed : choice.bindError with
  | some error =>
      rw [failed] at decided
      obtain rfl : outcome = .error error := by
        simp only [TunnelitRelay.exec, failed, Option.some.injEq, Prod.mk.injEq] at called
        exact called.2.symm
      intro after _ _
      subst decided
      simp [Restarted]
  | none =>
      rw [failed] at decided
      obtain rfl : outcome = .ok () := by
        simp only [TunnelitRelay.exec, failed, Option.some.injEq, Prod.mk.injEq] at called
        exact called.2.symm
      intro spawning _ choice spawned handle' _ executed
      obtain ⟨_, world, called, same⟩ := Machine.exec_some executed
      cases called
      have stands : spawned.Stands tunnel sender spawning.process.world.spawned := by
        rw [same]
        exact ⟨List.mem_cons_self, .inr ⟨_, Function.update_self .., rfl, rfl, rfl⟩⟩
      intro inserting admits choice inserted result _ executed
      obtain ⟨_, world, called, same⟩ := Machine.exec_some executed
      cases called
      have stands := stands.later (.admits admits)
      have stored : inserted.Stands tunnel sender spawning.process.world.spawned := by
        rw [same]
        exact ⟨stands.socket, stands.listener⟩
      intro after admits connected
      have remains := Machine.Later.admits admits
      have ends := stored.later remains
      let given : JoinHandle :=
        { task := spawning.process.world.spawned, transport := transportOf tunnel.protocol, port := tunnel.publicPort,
          sender }
      refine ⟨fun _ => decided.symm, fun _ => ⟨rfl, given, ?_, ends.socket, ?_⟩⟩
      · rw [remains.tunnelTasks, same]
        exact Function.update_self ..
      · rcases ends.listener with gone | ⟨listener, there, running, named, _⟩
        · rw [connected] at gone
          contradiction
        · exact ⟨listener, there, running, named⟩

/-- While one task restarts a running tunnel and no other socket is bound to its
port, at whatever times the runtime drops tasks and the proxies act: the call
returns `Ok` and leaves a live listener if and only if the old task has been
dropped when the socket is bound. -/
theorem restart_succeeds_iff {before after : Config machine} {task : Nat} {later : Thread machine}
    {result : Except String Unit} (serves : before.state.Serves tunnel handle)
    (alone : before.state.Alone (transportOf tunnel.protocol, tunnel.publicPort) handle.task)
    (called : before.threads[task]? = some (Thread.fresh machine (.start tunnel sender)))
    (steps : Steps (onlyMoves task (timing handle.task timely)) before after)
    (found : after.threads[task]? = some later) (returned : later.rest = .done (.inr result))
    (connected : after.state.process.proxies.closed sender = false) :
    Restarted after.state tunnel result ↔ timely = true := by
  have always : (Thread.fresh machine (.start tunnel sender)).rest.AlwaysAmid (timing handle.task timely)
      (fun after reply => ∀ result, reply = .inr result → Concludes tunnel sender timely after result) before.state := by
    refine alwaysAmid_map.mpr ((startTunnelListener_restarts serves alone).mono fun ended value concludes => ?_)
    intro result same
    cases same
    exact concludes
  exact always.returned called steps found returned result rfl connected

/-- What a call of `start_tunnel_listener` has returned. -/
def returned (thread : Thread machine) : Option (Except String Unit) :=
  match thread.rest with
  | .done (.inr result) => some result
  | _ => none

theorem rest_of_returned {thread : Thread machine} {result : Except String Unit}
    (ended : returned thread = some result) : thread.rest = .done (.inr result) := by
  unfold returned at ended
  split at ended
  · rename_i value rest
    rw [rest, Option.some.inj ended]
  · contradiction

end Restarts

/-- A machine on which the relay has just been started. -/
def newMachine : Machine where
  process := newProcess
  foreign := fun _ _ => false
  opened := []
  owned := []

/-- Alice's tunnel as it is passed to `start_tunnel_listener`, and its handle. -/
def webConfig : TunnelConfig where
  id := 6
  agentId := 4
  name := "web"
  localPort := 80
  protocol := "tcp"
  publicPort := 10001
  subdomain := none
  enabled := true

def webHandle : JoinHandle where
  task := 0
  transport := .tcp
  port := 10001
  sender := 0

/-- The listener of Alice's tunnel runs, and nothing else is bound. -/
def webRuns (machine : Machine) : Bool :=
  machine.process.world.tunnelTasks 6 == some webHandle && machine.owned == [(0, .tcp, 10001)] &&
    machine.opened == [] && machine.foreign .tcp 10001 == false &&
    (machine.process.proxies.listeners 0).any fun listener => !listener.aborted && listener.tunnelId == 6

theorem webRuns_serves {state : Machine} (runs : webRuns state = true) : state.Serves webConfig webHandle ∧
    state.Alone (transportOf webConfig.protocol, webConfig.publicPort) webHandle.task := by
  simp only [webRuns, Bool.and_eq_true, beq_iff_eq, Option.any_eq_true, Bool.not_eq_true'] at runs
  obtain ⟨⟨⟨⟨stored, owned⟩, opened⟩, foreign⟩, listener, there, running, named⟩ := runs
  have address : (transportOf webConfig.protocol, webConfig.publicPort) = (.tcp, 10001) := by decide +kernel
  refine ⟨⟨stored, ?_, listener, there, running, named⟩, ?_⟩
  · rw [owned]
    exact List.mem_singleton.mpr (congrArg (Prod.mk 0) address)
  · rw [address]
    refine ⟨foreign, by simp [opened], fun other listed _ => ?_⟩
    rw [owned, List.mem_singleton] at listed
    exact congrArg Prod.fst listed

/-- A run in which Alice's tunnel is opened and then restarted by the next task. -/
theorem newMachine_restarts {answers : Answers machine} {turns : List (Turn machine)}
    {test : Config machine → Except String Unit → Bool}
    (passed : (machine.follow (fun _ _ _ _ => true) 200 (tunnelOpened.zipIdx.flatMap fun entry =>
        [.start (.work entry.1.1), .finish entry.2 entry.1.2]) ⟨newMachine, []⟩).any (fun opened =>
      opened.threads.length == 5 && webRuns opened.state &&
        (machine.follow answers.check 200 turns
          ⟨opened.state, opened.threads ++ [Thread.fresh machine (.start webConfig 0)]⟩).any fun last =>
            ((last.threads[5]?).bind returned).any (test last)) = true)
    (only : turns.all (Turn.only 5) = true) :
    ∃ before after : Config machine, ∃ later result, Reachable anyStep newMachine before ∧
      before.state.Serves webConfig webHandle ∧
      before.state.Alone (transportOf webConfig.protocol, webConfig.publicPort) webHandle.task ∧
      before.threads[5]? = some (Thread.fresh machine (.start webConfig 0)) ∧
      Steps (onlyMoves 5 answers) before after ∧ after.threads[5]? = some later ∧
      later.rest = .done (.inr result) ∧ test after result = true := by
  obtain ⟨opened, followed, tested⟩ := (Option.any_eq_true _ _).mp passed
  simp only [Bool.and_eq_true, beq_iff_eq] at tested
  obtain ⟨⟨five, runs⟩, later⟩ := tested
  obtain ⟨last, restarted, ended⟩ := (Option.any_eq_true _ _).mp later
  obtain ⟨result, value, tested⟩ := (Option.any_eq_true _ _).mp ended
  obtain ⟨thread, found, returned⟩ := Option.bind_eq_some_iff.mp value
  have early : Reachable anyStep newMachine opened :=
    (System.follow_steps followed).weaken fun _ _ _ => trivial
  obtain ⟨serves, alone⟩ := webRuns_serves runs
  refine ⟨⟨opened.state, opened.threads ++ [Thread.fresh machine (.start webConfig 0)]⟩, last, thread, result,
    early.tail ⟨.start (.start webConfig 0), trivial, .start rfl⟩, serves, alone, ?_,
    System.follow_only restarted only, found, rest_of_returned returned, tested⟩
  rw [← five]
  exact List.getElem?_concat_length

/-- The old task is dropped as soon as it is aborted. -/
theorem restart_succeeds_alice :
    ∃ after : Machine, Restarted after webConfig (.ok ()) := by
  have passed : (machine.follow (fun _ _ _ _ => true) 200 (tunnelOpened.zipIdx.flatMap fun entry =>
        [.start (.work entry.1.1), .finish entry.2 entry.1.2]) ⟨newMachine, []⟩).any (fun opened =>
      opened.threads.length == 5 && webRuns opened.state &&
        (machine.follow (timing 0 true).check 200 (List.replicate 4 (.move 5 (answer 0 0)) ++
            [.start (.work (.proxy (.cancel 0))), .finish 5 (answer 0 0)])
          ⟨opened.state, opened.threads ++ [Thread.fresh machine (.start webConfig 0)]⟩).any fun last =>
            ((last.threads[5]?).bind returned).any fun result =>
              result.toBool && !last.state.process.proxies.closed 0) = true := by decide +kernel
  obtain ⟨before, after, later, result, _, serves, alone, called, steps, found, ended, tested⟩ :=
    newMachine_restarts passed rfl
  simp only [Bool.and_eq_true, Bool.not_eq_true'] at tested
  cases result with
  | error => exact absurd tested.1 (by simp [Except.toBool])
  | ok => exact ⟨after.state, (restart_succeeds_iff serves alone called steps found ended tested.2).mpr rfl⟩

/-- The runtime has not dropped the old task yet when its port is bound again. -/
theorem restart_fails :
    ¬ ∀ (before after : Config machine) (task : Nat) (later : Thread machine) (tunnel : TunnelConfig)
      (sender : Channel) (handle : JoinHandle) (result : Except String Unit), Reachable anyStep newMachine before →
      before.state.Serves tunnel handle →
      before.state.Alone (transportOf tunnel.protocol, tunnel.publicPort) handle.task →
      before.threads[task]? = some (Thread.fresh machine (.start tunnel sender)) →
      Steps (onlyMoves task fun _ _ _ => true) before after → after.threads[task]? = some later →
      later.rest = .done (.inr result) → after.state.process.proxies.closed sender = false →
        Restarted after.state tunnel result := by
  have passed : (machine.follow (fun _ _ _ _ => true) 200 (tunnelOpened.zipIdx.flatMap fun entry =>
        [.start (.work entry.1.1), .finish entry.2 entry.1.2]) ⟨newMachine, []⟩).any (fun opened =>
      opened.threads.length == 5 && webRuns opened.state &&
        (machine.follow (Answers.check fun _ _ _ => true) 200
            [.finish 5 { answer 0 0 with bindError := some "Address already in use" }]
          ⟨opened.state, opened.threads ++ [Thread.fresh machine (.start webConfig 0)]⟩).any fun last =>
            ((last.threads[5]?).bind returned).any fun result =>
              !result.toBool && !last.state.process.proxies.closed 0) = true := by decide +kernel
  obtain ⟨before, after, later, result, reached, serves, alone, called, steps, found, ended, tested⟩ :=
    newMachine_restarts passed rfl
  simp only [Bool.and_eq_true, Bool.not_eq_true'] at tested
  intro always
  obtain ⟨rfl, _⟩ := always before after 5 later webConfig 0 webHandle result reached serves alone called steps found
    ended tested.2
  exact absurd tested.1 (by simp [Except.toBool])

end TunnelitRelay
