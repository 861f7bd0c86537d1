import TunnelitRelay.Connections
import TunnelitRelay.Standard

namespace TunnelitRelay

open Concurrent

/-! # Runs of the whole process, and of one connection in them -/

section Runs

variable [Externals] {allowed : Condition process} {portRange : UInt16 × UInt16}
  {first last : Config process} {connId : Uuid}

/-- What holds of a connection and is kept by every permitted move of its
automaton holds in every later configuration. -/
theorem Runs.keep {prior : Condition process} {invariant : Process → Prop}
    (runs : Runs prior portRange first) (initially : invariant first.state)
    (preserved : ∀ {before after : Config process} {action}, Runs anyStep portRange before →
      invariant before.state → allowed before action → before.state.world.drawn ⊆ after.state.world.drawn →
      View.Step before.state.proxies.closed before.state.world.drawn after.state.world.drawn connId
        (proxyAction action) (before.state.view connId) (after.state.view connId) →
      invariant after.state)
    (steps : Steps allowed first last) : invariant last.state := by
  induction steps with
  | refl => exact initially
  | @tail before after earlier next ih =>
      obtain ⟨action, permitted, step⟩ := next
      have reached : Runs anyStep portRange before :=
        (Steps.weaken runs fun _ _ _ => trivial).trans (Steps.weaken earlier fun _ _ _ => trivial)
      have follows := reached.follows step
      exact preserved reached ih permitted follows.drawn (follows.views connId)

/-- The same from the start of the process, where no connection exists. -/
theorem Runs.always {invariant : View → Prop} (initially : invariant View.none)
    (preserved : ∀ {before after closed old drawn label}, invariant before →
      View.Step closed old drawn connId label before after → invariant after)
    (runs : Runs allowed portRange first) : invariant (first.state.view connId) :=
  @Runs.keep _ allowed portRange ⟨Process.initial portRange, []⟩ first connId allowed
    (fun state => invariant (state.view connId)) .refl initially
    (fun _ holds _ _ step => preserved holds step) runs

end Runs

/-! ## Conditions on the actions of the proxies -/

section Actions

variable [Externals]

/-- A condition on the actions of the proxies, on the configuration before the action. -/
def onProxy (permits : Config process → ProxyAction → Bool) : Condition process
  | config, .start (.proxy action) => permits config action = true
  | _, _ => True

theorem onProxy_of {permits : Config process → ProxyAction → Bool} {config : Config process}
    {action : Action process} {performed : ProxyAction} (permitted : onProxy permits config action)
    (names : proxyAction action = some performed) : permits config performed = true := by
  unfold proxyAction at names
  split at names
  · cases names
    exact permitted
  · contradiction

theorem onProxy_and {left right : Config process → ProxyAction → Bool} {config : Config process}
    {action : Action process}
    (both : onProxy (fun config action => left config action && right config action) config action) :
    onProxy left config action ∧ onProxy right config action := by
  unfold onProxy at both ⊢
  split at both
  · exact (Bool.and_eq_true _ _).mp both
  · exact ⟨trivial, trivial⟩

/-- Perform the actions one after the other, if each is permitted. -/
def actAll (permits : Config process → ProxyAction → Bool) :
    List ProxyAction → Config process → Option (Config process)
  | [], config => some config
  | action :: rest, config =>
      if permits config action then
        (process.accept config.state (.proxy action)).bind fun state =>
          actAll permits rest ⟨state, config.threads ++ [Thread.fresh process (.proxy action)]⟩
      else none

theorem actAll_allowed {permits : Config process → ProxyAction → Bool} {allowed : Condition process}
    {actions : List ProxyAction} {before after : Config process}
    (acted : actAll permits actions before = some after)
    (starts : ∀ config action, permits config action = true → allowed config (.start (.proxy action))) :
    Steps allowed before after := by
  induction actions generalizing before with
  | nil =>
      cases acted
      exact .refl
  | cons action rest ih =>
      simp only [actAll] at acted
      split at acted
      · rename_i permitted
        obtain ⟨state, admitted, later⟩ := Option.bind_eq_some_iff.mp acted
        exact .head ⟨.start (.proxy action), starts _ _ permitted, .start admitted⟩ (ih later)
      · contradiction

theorem actAll_steps {permits : Config process → ProxyAction → Bool} {actions : List ProxyAction}
    {before after : Config process} (acted : actAll permits actions before = some after) :
    Steps (onProxy permits) before after :=
  actAll_allowed acted fun _ _ permitted => permitted

end Actions

/-! ## A setting to run examples in -/

/-- A process just started on an empty database. -/
def newProcess : Process := Process.initial (10000, 60000)

/-- The jobs one after the other, the first being the `first`-th of the run. -/
def works (first : Nat) (jobs : List (Work × Choice)) : List (Turn process) :=
  jobs.zipIdx.flatMap fun entry => [.start entry.1.1, .finish (first + entry.2) entry.1.2]

/-- Alice's agent is connected, and she has a tunnel with the identifier 6 whose
listener is the task 0. -/
def tunnelOpened : List (Work × Choice) :=
  [(.serve (.register { username := "alice", password := "secret" }), answer 1 0),
    (.serve (.generateAgentToken (signedIn 1)), answer 2 0),
    (.serve (.connect 0), answer 0 0),
    (.serve (.frame 0 (.message (.auth (Db.agentToken (answer 2 0)) "host"))), answer 0 0),
    (.serve (.createTunnel (signedIn 1) (webTunnel 4)), answer 3 0)]

/-- The same with a UDP tunnel. -/
def udpTunnelOpened : List (Work × Choice) :=
  tunnelOpened.take 4 ++
    [(.serve (.createTunnel (signedIn 1) { webTunnel 4 with protocol := "udp" }), answer 3 0)]

/-- Actions of the proxies as jobs. -/
def proxied (actions : List ProxyAction) : List (Work × Choice) :=
  actions.map fun action => (.proxy action, answer 0 0)

theorem newProcess_follow {check : Check process} {turns : List (Turn process)}
    {test : Config process → Bool}
    (passed : (process.follow check 200 turns ⟨newProcess, []⟩).any test = true) :
    ∃ config, Runs check.condition (10000, 60000) config ∧ test config = true := by
  obtain ⟨config, followed, tested⟩ := (Option.any_eq_true _ _).mp passed
  exact ⟨config, System.follow_steps followed, tested⟩

theorem newProcess_run {turns : List (Turn process)} {test : Config process → Bool}
    (passed : (process.follow (fun _ _ _ _ => true) 200 turns ⟨newProcess, []⟩).any test = true) :
    ∃ config, Runs anyStep (10000, 60000) config ∧ test config = true := by
  obtain ⟨config, runs, tested⟩ := newProcess_follow passed
  exact ⟨config, runs.weaken fun _ _ _ => trivial, tested⟩

/-- A run to a first configuration, and checked moves from there. -/
theorem newProcess_follows {check : Check process} {early late : List (Turn process)}
    {test : Config process → Config process → Bool}
    (passed : (process.follow (fun _ _ _ _ => true) 200 early ⟨newProcess, []⟩).any (fun first =>
      (process.follow check 200 late first).any (test first)) = true) :
    ∃ first last, Runs anyStep (10000, 60000) first ∧ Steps check.condition first last ∧
      test first last = true := by
  obtain ⟨first, runs, later⟩ := newProcess_run passed
  obtain ⟨last, followed, tested⟩ := (Option.any_eq_true _ _).mp later
  exact ⟨first, last, runs, System.follow_steps followed, tested⟩

/-- A run to a first configuration, and permitted actions of the proxies from there. -/
theorem newProcess_acts {permits : Config process → ProxyAction → Bool} {turns : List (Turn process)}
    {actions : List ProxyAction} {test : Config process → Config process → Bool}
    (passed : (process.follow (fun _ _ _ _ => true) 200 turns ⟨newProcess, []⟩).any (fun first =>
      (actAll permits actions first).any (test first)) = true) :
    ∃ first last, Runs anyStep (10000, 60000) first ∧ Steps (onProxy permits) first last ∧
      test first last = true := by
  obtain ⟨first, runs, later⟩ := newProcess_run passed
  obtain ⟨last, acted, tested⟩ := (Option.any_eq_true _ _).mp later
  exact ⟨first, last, runs, actAll_steps acted, tested⟩

/-- A turn in which no proxy moves, and the process goes on. -/
def serves : Turn process → Bool
  | .start (.proxy _) | .reboot => false
  | _ => true

theorem follow_serving {check : Check process} {allowed : Condition process} {turns : List (Turn process)}
    {before after : Config process} (followed : process.follow check 200 turns before = some after)
    (serving : turns.all serves = true)
    (moves : ∀ config action, check.moves config action → allowed config action)
    (starts : ∀ config job, allowed config (.start (.serve job))) : Steps allowed before after := by
  refine System.follow_allowed followed moves (fun work member config => ?_) fun member => ?_
  · have serving' := List.all_eq_true.mp serving _ member
    cases work with
    | serve job => exact starts config job
    | proxy action => contradiction
  · exact absurd (List.all_eq_true.mp serving _ member) (by simp [serves])

/-- A run in which the proxies do nothing but permitted actions, at its end. -/
theorem newProcess_permitted {permits : Config process → ProxyAction → Bool} {turns : List (Turn process)}
    {actions : List ProxyAction} {test : Config process → Bool}
    (passed : (turns.all serves && (process.follow (fun _ _ _ _ => true) 200 turns ⟨newProcess, []⟩).any
      fun first => (actAll permits actions first).any test) = true) :
    ∃ config, Runs (onProxy permits) (10000, 60000) config ∧ test config = true := by
  obtain ⟨serving, first, followed, later⟩ := (Bool.and_eq_true _ _).mp passed |>.imp_right
    (Option.any_eq_true _ _).mp
  obtain ⟨last, acted, tested⟩ := (Option.any_eq_true _ _).mp later
  refine ⟨last, (follow_serving followed serving ?_ fun _ _ => trivial).trans (actAll_steps acted), tested⟩
  rintro config action ⟨_, running⟩
  unfold onProxy
  split
  · exact absurd rfl (running.1 _)
  · trivial

end TunnelitRelay
