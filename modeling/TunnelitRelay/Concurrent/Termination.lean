import Mathlib.Algebra.BigOperators.Group.Finset.Basic
import Mathlib.Data.Fintype.EquivFin
import Mathlib.Logic.Hydra
import Mathlib.Order.Preorder.Finite
import TunnelitRelay.Concurrent.Deadlock
import TunnelitRelay.Concurrent.Sequential

namespace TunnelitRelay.Concurrent

/-! # Every task comes to an end

A program is a tree without infinite branches, so that tasks which nobody joins
can move only finitely often.  Where locks are taken in an order, and every
operation has some answer, they stop only when all of them have returned.
-/

variable {signature : Signature} {system : System signature} {α β : Type}

/-- A step of a task that is there already. -/
inductive Action.Moves : Action system → Prop where
  | call (task : Nat) (choice : system.Choice) : Moves (.call task choice)
  | acquire (task : Nat) : Moves (.acquire task)
  | release (task : Nat) : Moves (.release task)

/-- Runs in which no job is started and nothing is restarted. -/
def tasksOnly : Condition system := fun _ action => action.Moves

/-- One of the tasks moves. -/
def Config.Moves (before after : Config system) : Prop :=
  ∃ action, tasksOnly before action ∧ Step before action after

/-! ## Finitely many moves -/

/-- What a program may be after its next move. -/
inductive Program.Next : Program signature α → Program signature α → Prop where
  | call {op next} (result : signature.Result op) : Next (next result) (.call op next)
  | acquire {lock mode next} : Next next (.acquire lock mode next)
  | release {lock next} : Next next (.release lock next)

theorem Program.next_wellFounded : WellFounded (Next : Program signature α → Program signature α → Prop) := by
  refine ⟨fun program => ?_⟩
  induction program with
  | done value => exact ⟨_, fun _ next => by cases next⟩
  | call op next ih => exact ⟨_, fun _ later => by cases later with | call result => exact ih result⟩
  | acquire lock mode next ih => exact ⟨_, fun _ later => by cases later; exact ih⟩
  | release lock next ih => exact ⟨_, fun _ later => by cases later; exact ih⟩

/-- What the tasks have to do. -/
def Config.work (config : Config system) : Multiset (Program signature system.Reply) :=
  (config.threads.map (·.rest) : List _)

/-- A task that goes on cuts a part off the work. -/
theorem Config.work_set {config : Config system} {state : system.State} {task : Nat} {thread next : Thread system}
    (found : config.threads[task]? = some thread) (smaller : next.rest.Next thread.rest) :
    Relation.CutExpand Program.Next (Config.work ⟨state, config.threads.set task next⟩) config.work := by
  obtain ⟨inside, there⟩ := List.getElem?_eq_some_iff.mp found
  refine ⟨{next.rest}, thread.rest, fun other member => Multiset.mem_singleton.mp member ▸ smaller, ?_⟩
  have split : config.threads = config.threads.take task ++ thread :: config.threads.drop (task + 1) := by
    rw [← there, List.getElem_cons_drop, List.take_append_drop]
  have split' : config.threads.set task next =
      config.threads.take task ++ next :: config.threads.drop (task + 1) :=
    List.set_eq_take_append_cons_drop.trans (if_pos inside)
  have moved : ∀ (left right : List (Program signature system.Reply)) (one other : Program signature system.Reply),
      ((left ++ one :: right : List _) : Multiset _) + {other} = ((left ++ other :: right : List _) : Multiset _) + {one} := by
    intro left right one other
    simp only [← Multiset.coe_add, ← Multiset.cons_coe, ← Multiset.singleton_add]
    ac_rfl
  have before : config.work = ((config.threads.take task).map (·.rest) ++ thread.rest ::
      (config.threads.drop (task + 1)).map (·.rest) : List _) := by
    conv_lhs => rw [Config.work, split, List.map_append, List.map_cons]
  have after : Config.work ⟨state, config.threads.set task next⟩ = ((config.threads.take task).map (·.rest) ++ next.rest ::
      (config.threads.drop (task + 1)).map (·.rest) : List _) := by
    rw [Config.work, split', List.map_append, List.map_cons]
  rw [before, after, moved]

theorem Config.Moves.cuts {before after : Config system} (moves : before.Moves after) :
    Relation.CutExpand Program.Next after.work before.work := by
  obtain ⟨action, moving, step⟩ := moves
  cases step with
  | start | reboot => cases moving
  | call found head executed => exact Config.work_set found (head ▸ .call _)
  | acquire found head free => exact Config.work_set found (head ▸ .acquire)
  | release found head => exact Config.work_set found (head ▸ .release)

/-- Tasks that nobody joins move finitely often, in whatever order. -/
theorem moves_wellFounded : WellFounded fun after before : Config system => before.Moves after :=
  Subrelation.wf (fun moves => moves.cuts) (InvImage.wf Config.work Program.next_wellFounded.cutExpand)

/-! ## Somebody can move -/

/-- What a contract must promise so that nobody waits for ever. -/
structure Contract.Orders (contract : Contract system) (rank : signature.Lock → Nat) : Prop where
  ranks : ∀ job past held move, contract.law job past held move → ordered rank past held move
  drops : ∀ job past held reply, contract.answer job past held reply → held = []

/-- Every operation that a task is about to perform has some answer. -/
def Config.Answerable (config : Config system) : Prop :=
  ∀ thread ∈ config.threads, ∀ op next, thread.rest = .call op next →
    ∃ choice after result, system.exec config.state choice op = some (after, result)

/-- How high the lock is that a task waits for. -/
def Thread.height (rank : signature.Lock → Nat) (thread : Thread system) : Nat :=
  match thread.rest with
  | .acquire lock _ _ => rank lock + 1
  | _ => 0

section Progress

variable {contract : Contract system} {rank : signature.Lock → Nat} {config : Config system}

theorem Contract.Orders.ends (orders : contract.Orders rank) (lawful : config.Lawful contract)
    {thread : Thread system} (member : thread ∈ config.threads) (finished : thread.finished) : thread.held = [] := by
  obtain ⟨value, ended⟩ := finished
  have obeys := lawful thread member
  rw [ended] at obeys
  exact orders.drops _ _ _ _ obeys

/-- Where nobody can move, whoever waits for a lock waits for a task that waits for a higher one. -/
theorem Contract.Orders.climbs (orders : contract.Orders rank) (lawful : config.Lawful contract)
    (waiting : ∀ thread ∈ config.threads, ¬ thread.finished → ∃ lock mode next, thread.rest = .acquire lock mode next)
    (blocked : ∀ next, ¬ config.Moves next) {thread : Thread system} (member : thread ∈ config.threads)
    (busy : ¬ thread.finished) : ∃ holder ∈ config.threads, thread.height rank < holder.height rank := by
  obtain ⟨lock, mode, next, head⟩ := waiting thread member busy
  obtain ⟨task, found⟩ := List.mem_iff_getElem?.mp member
  have taken : ¬ config.Free lock mode := fun free =>
    blocked _ ⟨.acquire task, .acquire task, .acquire found head free⟩
  simp only [Config.Free, not_forall] at taken
  obtain ⟨holder, there, held, holds, _⟩ := taken
  have unfinished : ¬ holder.finished := fun finished => by
    rw [orders.ends lawful there finished] at holds
    contradiction
  obtain ⟨higher, mode', next', head'⟩ := waiting holder there unfinished
  have obeys := lawful holder there
  rw [head'] at obeys
  have rises : rank lock < rank higher := orders.ranks _ _ _ _ obeys.1 _ holds
  refine ⟨holder, there, ?_⟩
  simp only [Thread.height, head, head']
  omega

/-- As long as some task has not returned, some task can move. -/
theorem Contract.Orders.progress (orders : contract.Orders rank) (lawful : config.Lawful contract)
    (answerable : config.Answerable) : config.Quiet ∨ ∃ next, config.Moves next := by
  by_contra stuck
  obtain ⟨busy, blocked⟩ := not_or.mp stuck
  rw [not_exists] at blocked
  have waiting : ∀ thread ∈ config.threads, ¬ thread.finished → ∃ lock mode next, thread.rest = .acquire lock mode next := by
    intro thread member unfinished
    obtain ⟨task, found⟩ := List.mem_iff_getElem?.mp member
    cases head : thread.rest with
    | done value => exact absurd ⟨value, head⟩ unfinished
    | call op next =>
        obtain ⟨choice, after, result, executed⟩ := answerable thread member op next head
        exact absurd ⟨.call task choice, .call task choice, .call found head executed⟩ (blocked _)
    | acquire lock mode next => exact ⟨lock, mode, next, rfl⟩
    | release lock next => exact absurd ⟨.release task, .release task, .release found head⟩ (blocked _)
  have someone : ∃ thread ∈ config.threads, ¬ thread.finished := by
    by_contra none
    simp only [not_exists, not_and, not_not] at none
    exact busy fun thread member => ⟨orders.ends lawful member (none thread member), none thread member⟩
  -- Of all tasks that have not returned, one waits for the highest lock.
  obtain ⟨first, member, unfinished⟩ := someone
  have finite : {thread | thread ∈ config.threads ∧ ¬ thread.finished}.Finite :=
    (List.finite_toSet config.threads).subset fun _ both => both.1
  obtain ⟨highest, ⟨there, busy'⟩, top⟩ := finite.exists_maximalFor (Thread.height rank) _ ⟨first, member, unfinished⟩
  obtain ⟨holder, holds, higher⟩ := orders.climbs lawful waiting blocked there busy'
  have waits : ¬ holder.finished := by
    rintro ⟨value, ended⟩
    simp [Thread.height, ended] at higher
  have below := top ⟨holds, waits⟩ (Nat.le_of_lt higher)
  omega

/-- In whatever order the tasks move, they come to rest, and only when all have returned. -/
structure Config.Drains (config : Config system) : Prop where
  /-- No order of moves goes on for ever. -/
  finite : ¬ ∃ run : Nat → Config system, run 0 = config ∧ ∀ index, (run index).Moves (run (index + 1))
  /-- Nobody is stuck on the way. -/
  goes : ∀ later, Steps tasksOnly config later → later.Quiet ∨ ∃ next, later.Moves next
  rests : ∃ later, Steps tasksOnly config later ∧ later.Quiet

theorem Config.drains (goes : ∀ later, Steps tasksOnly config later → later.Quiet ∨ ∃ next, later.Moves next) :
    config.Drains := by
  refine ⟨?_, goes, ?_⟩
  · rintro ⟨run, _, moves⟩
    exact (wellFounded_iff_isEmpty_descending_chain.mp (@moves_wellFounded _ system)).false ⟨run, moves⟩
  · induction config using (@moves_wellFounded _ system).induction with
    | _ config ih =>
        rcases goes config .refl with quiet | ⟨next, moves⟩
        · exact ⟨config, .refl, quiet⟩
        · obtain ⟨later, steps, quiet⟩ := ih next moves fun later steps => goes later (.head moves steps)
          exact ⟨later, .head moves steps, quiet⟩

end Progress

end TunnelitRelay.Concurrent
