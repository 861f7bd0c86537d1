import Mathlib.Tactic.SplitIfs
import TunnelitRelay.Concurrent.System

namespace TunnelitRelay.Concurrent

/-! # Runs by a schedule

A schedule says which task moves next and what the environment answers, so that
an interleaved run can be computed.  The operations of the run are checked on
the way: the run meets the condition that was checked.
-/

variable {signature : Signature} {system : System signature}

/-- A check of the operation a task is about to perform, and of what the
environment decides in it. -/
abbrev Check (system : System signature) :=
  Config system → Thread system → system.Choice → signature.Op → Bool

def Check.condition (check : Check system) : Condition system :=
  onCall fun config thread choice op => check config thread choice op = true

theorem Check.holds {check : Check system} {before after : Config system} {task : Nat}
    {thread : Thread system} {choice : system.Choice} {op : signature.Op} {result : signature.Result op}
    (permitted : check.condition before (.call task choice))
    (called : Called before task thread choice op result after) : check before thread choice op = true := by
  obtain ⟨next, head, _⟩ := called.moved
  exact permitted thread op next called.found head

theorem Check.condition_call {check : Check system} {config : Config system} {task : Nat} {thread : Thread system}
    {choice : system.Choice} {op : signature.Op} {next : signature.Result op → Program signature system.Reply}
    (found : config.threads[task]? = some thread) (head : thread.rest = .call op next)
    (checked : check config thread choice op = true) : check.condition config (.call task choice) := by
  intro other op' next' found' head'
  rw [found, Option.some.injEq] at found'
  subst found'
  rw [head, Program.call.injEq] at head'
  obtain ⟨rfl, _⟩ := head'
  exact checked

theorem Check.condition_and {left right : Check system} {config : Config system} {action : Action system}
    (both : Check.condition (fun config thread choice op =>
      left config thread choice op && right config thread choice op) config action) :
    left.condition config action ∧ right.condition config action := by
  cases action with
  | call task choice =>
      constructor
      · intro thread op next found head
        exact ((Bool.and_eq_true _ _).mp (both thread op next found head)).1
      · intro thread op next found head
        exact ((Bool.and_eq_true _ _).mp (both thread op next found head)).2
  | _ => exact ⟨trivial, trivial⟩

inductive Turn (system : System signature) where
  | start (job : system.Job)
  /-- One move of a task. -/
  | move (task : Nat) (choice : system.Choice)
  /-- All remaining moves of a task, with one answer for every operation. -/
  | finish (task : Nat) (choice : system.Choice)
  | reboot

def Config.free (config : Config system) (lock : signature.Lock) (mode : Mode) : Bool :=
  config.threads.all fun thread => thread.held.all fun own =>
    own.1 ≠ lock ∨ own.2 = .shared ∧ mode = .shared

def Config.move (check : Check system) (task : Nat) (choice : system.Choice)
    (config : Config system) : Option (Config system) :=
  match config.threads[task]? with
  | none => none
  | some thread =>
      match thread.rest with
      | .done _ => none
      | .call op next =>
          if check config thread choice op then
            match system.exec config.state choice op with
            | some (state, result) => some ⟨state, config.threads.set task
                { thread with past := ⟨op, result⟩ :: thread.past, rest := next result }⟩
            | none => none
          else none
      | .acquire lock mode next =>
          if config.free lock mode then
            some ⟨config.state, config.threads.set task
              { thread with held := (lock, mode) :: thread.held, rest := next }⟩
          else none
      | .release lock next => some ⟨config.state, config.threads.set task
          { thread with held := dropGuard lock thread.held, rest := next }⟩

def Thread.isFinished (thread : Thread system) : Bool :=
  match thread.rest with
  | .done _ => true
  | _ => false

theorem Thread.isFinished_iff {thread : Thread system} : thread.isFinished = true ↔ thread.finished := by
  unfold isFinished finished
  split
  · rename_i value returned
    exact ⟨fun _ => ⟨value, returned⟩, fun _ => rfl⟩
  · rename_i other
    exact ⟨fun impossible => by contradiction, fun ⟨value, returned⟩ => absurd returned (other value)⟩

/-- Move one task until it has returned, at most `fuel` times. -/
def Config.finish (check : Check system) (task : Nat) (choice : system.Choice) :
    Nat → Config system → Option (Config system)
  | 0, _ => none
  | fuel + 1, config =>
      if (config.threads[task]?).any Thread.isFinished then some config
      else (config.move check task choice).bind (Config.finish check task choice fuel)

/-- Follow a schedule; every task finishes within `fuel` moves. -/
def System.follow (system : System signature) (check : Check system) (fuel : Nat) :
    List (Turn system) → Config system → Option (Config system)
  | [], config => some config
  | .start job :: rest, config =>
      (system.accept config.state job).bind fun state =>
        system.follow check fuel rest ⟨state, config.threads ++ [Thread.fresh system job]⟩
  | .move task choice :: rest, config =>
      (config.move check task choice).bind (system.follow check fuel rest)
  | .finish task choice :: rest, config =>
      (config.finish check task choice fuel).bind (system.follow check fuel rest)
  | .reboot :: rest, config => system.follow check fuel rest ⟨system.reboot config.state, []⟩

theorem Config.free_iff {config : Config system} {lock : signature.Lock} {mode : Mode} :
    config.free lock mode = true ↔ config.Free lock mode := by
  simp only [free, Free, List.all_eq_true, decide_eq_true_eq]
  constructor
  · intro free thread member own holds
    exact (free thread member _ holds).resolve_left (by simp)
  · intro free thread member own holds
    by_cases same : own.1 = lock
    · exact .inr (free thread member own.2 (same ▸ holds))
    · exact .inl same

/-- Steps of tasks that are there already. -/
def Check.moves (check : Check system) : Condition system := fun config action =>
  check.condition config action ∧ (∀ job, action ≠ .start job) ∧ action ≠ .reboot

/-- Steps of one of them. -/
def Check.movesOf (check : Check system) (task : Nat) : Condition system
  | config, .call other choice => other = task ∧ check.condition config (.call other choice)
  | _, .acquire other | _, .release other => other = task
  | _, .start _ | _, .reboot => False

theorem Check.movesOf.moves {check : Check system} {task : Nat} {config : Config system} {action : Action system}
    (moved : check.movesOf task config action) : check.moves config action := by
  cases action with
  | call other choice => exact ⟨moved.2, fun _ same => by contradiction, by simp⟩
  | acquire other | release other => exact ⟨trivial, fun _ same => by contradiction, by simp⟩
  | start | reboot => exact moved.elim

theorem Config.move_steps {check : Check system} {task : Nat} {choice : system.Choice}
    {before after : Config system} (moved : before.move check task choice = some after) :
    Steps (check.movesOf task) before after := by
  unfold move at moved
  split at moved
  · contradiction
  · rename_i thread found
    split at moved
    · contradiction
    · rename_i op next head
      split_ifs at moved with checked
      split at moved
      · rename_i state result executed
        cases moved
        exact .single ⟨.call task choice, ⟨rfl, Check.condition_call found head checked⟩, .call found head executed⟩
      · contradiction
    · rename_i lock mode next head
      split_ifs at moved with free
      cases moved
      exact .single ⟨.acquire task, rfl, .acquire found head (Config.free_iff.mp free)⟩
    · rename_i lock next head
      cases moved
      exact .single ⟨.release task, rfl, .release found head⟩

/-- A move of a task that stands before an operation performs it. -/
theorem Config.move_called {check : Check system} {task : Nat} {choice : system.Choice}
    {before after : Config system} {thread : Thread system} {op : signature.Op} {next}
    (moved : before.move check task choice = some after) (found : before.threads[task]? = some thread)
    (head : thread.rest = .call op next) :
    check.condition before (.call task choice) ∧ ∃ result, Called before task thread choice op result after := by
  simp only [move, found, head] at moved
  split_ifs at moved with checked
  split at moved
  · rename_i state result executed
    cases moved
    exact ⟨Check.condition_call found head checked, result, found, executed, next, head, rfl⟩
  · contradiction

theorem Config.finish_steps {check : Check system} {task : Nat} {choice : system.Choice} {fuel : Nat}
    {before after : Config system} (finished : before.finish check task choice fuel = some after) :
    Steps (check.movesOf task) before after := by
  induction fuel generalizing before with
  | zero => contradiction
  | succ fuel ih =>
      simp only [finish] at finished
      split_ifs at finished
      · cases finished
        exact .refl
      · obtain ⟨middle, moved, rest⟩ := Option.bind_eq_some_iff.mp finished
        exact (Config.move_steps moved).trans (ih rest)

/-- A schedule meets a condition that its checked moves imply and the jobs it
starts meet. -/
theorem System.follow_allowed {check : Check system} {allowed : Condition system} {fuel : Nat}
    {turns : List (Turn system)} {before after : Config system}
    (followed : system.follow check fuel turns before = some after)
    (moves : ∀ config action, check.moves config action → allowed config action)
    (starts : ∀ job, .start job ∈ turns → ∀ config, allowed config (.start job))
    (reboots : .reboot ∈ turns → ∀ config, allowed config .reboot) : Steps allowed before after := by
  induction turns generalizing before with
  | nil =>
      cases followed
      exact .refl
  | cons turn rest ih =>
      have later {middle : Config system} (followed : system.follow check fuel rest middle = some after) :=
        ih followed (fun job member => starts job (List.mem_cons_of_mem _ member))
          fun member => reboots (List.mem_cons_of_mem _ member)
      cases turn with
      | start job =>
          obtain ⟨state, admitted, followed⟩ := Option.bind_eq_some_iff.mp followed
          exact .head ⟨.start job, starts job (by simp) _, .start admitted⟩ (later followed)
      | move task choice =>
          obtain ⟨middle, moved, followed⟩ := Option.bind_eq_some_iff.mp followed
          exact ((Config.move_steps moved).weaken fun _ _ moved => moves _ _ moved.moves).trans (later followed)
      | finish task choice =>
          obtain ⟨middle, finished, followed⟩ := Option.bind_eq_some_iff.mp followed
          exact ((Config.finish_steps finished).weaken fun _ _ moved => moves _ _ moved.moves).trans (later followed)
      | reboot =>
          exact .head ⟨.reboot, reboots (by simp) _, .reboot⟩ (later followed)

theorem System.follow_steps {check : Check system} {fuel : Nat} {turns : List (Turn system)}
    {before after : Config system} (followed : system.follow check fuel turns before = some after) :
    Steps check.condition before after :=
  System.follow_allowed followed (fun _ _ moves => moves.1) (fun _ _ _ => trivial) fun _ _ => trivial

end TunnelitRelay.Concurrent
