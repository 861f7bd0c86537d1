import TunnelitRelay.Concurrent.System

namespace TunnelitRelay.Concurrent

/-! # Locks taken in an order

Where every task takes its locks in the order of their ranks, no task waits for
itself, directly or through others.  An edge leads from a task that waits for a
lock to any task that holds it, in whatever modes: a reader that could share the
lock may still have to wait behind a writer that cannot.
-/

variable {signature : Signature} {system : System signature} {rank : signature.Lock → Nat}

/-- Locks are taken in the order of their ranks; everything else is free. -/
def ordered (rank : signature.Lock → Nat) : Law signature := fun _ held move =>
  match move with
  | .acquire lock _ => ∀ own ∈ held, rank own.1 < rank lock
  | _ => True

def orderContract (system : System signature) (rank : signature.Lock → Nat) : Contract system where
  law := fun _ => ordered rank
  answer := fun _ _ _ _ => True

/-- The task stands before taking the lock. -/
def Config.Requests (config : Config system) (task : Nat) (lock : signature.Lock) (mode : Mode) : Prop :=
  ∃ thread next, config.threads[task]? = some thread ∧ thread.rest = .acquire lock mode next

def Config.Holds (config : Config system) (task : Nat) (lock : signature.Lock) : Prop :=
  ∃ thread mode, config.threads[task]? = some thread ∧ (lock, mode) ∈ thread.held

/-- The task waits for a lock that the other holds. -/
def Config.WaitsFor (config : Config system) (waiting holder : Nat) : Prop :=
  ∃ lock mode, config.Requests waiting lock mode ∧ config.Holds holder lock

/-- The task may have to wait until a writer has had the lock that waits for it too. -/
def Config.QueuesBehind (config : Config system) (waiting writer : Nat) : Prop :=
  ∃ lock mode, config.Requests waiting lock mode ∧ config.Requests writer lock .exclusive

def Config.Delayed (config : Config system) (waiting other : Nat) : Prop :=
  config.WaitsFor waiting other ∨ config.QueuesBehind waiting other

/-- No task requests a lock it holds, and no chain of waiting tasks that passes
through a holder comes back to where it began. -/
structure Config.DeadlockFree (config : Config system) : Prop where
  alone : ∀ task lock mode, config.Requests task lock mode → ¬ config.Holds task lock
  acyclic : ∀ task, ¬ Relation.TransGen config.WaitsFor task task
  queued : ∀ task holder, config.WaitsFor task holder → ¬ Relation.ReflTransGen config.Delayed holder task

variable {config : Config system}

theorem Config.Requests.same {task : Nat} {lock other : signature.Lock} {mode mode' : Mode}
    (requests : config.Requests task lock mode) (again : config.Requests task other mode') : lock = other := by
  obtain ⟨thread, next, found, head⟩ := requests
  obtain ⟨thread', next', found', head'⟩ := again
  rw [found, Option.some.injEq] at found'
  subst found'
  rw [head, Program.acquire.injEq] at head'
  exact head'.1

theorem Config.Delayed.requests {task other : Nat} (delayed : config.Delayed task other) :
    ∃ lock mode, config.Requests task lock mode := by
  rcases delayed with ⟨lock, mode, requests, _⟩ | ⟨lock, mode, requests, _⟩ <;> exact ⟨lock, mode, requests⟩

section Lawful

variable (lawful : config.Lawful (orderContract system rank))

include lawful

/-- A task requests only locks above those it holds. -/
theorem Config.Holds.below {task : Nat} {lock other : signature.Lock} {mode : Mode}
    (holds : config.Holds task lock) (requests : config.Requests task other mode) : rank lock < rank other := by
  obtain ⟨thread, own, found, held⟩ := holds
  obtain ⟨thread', next, found', head⟩ := requests
  rw [found, Option.some.injEq] at found'
  subst found'
  have obeys := lawful thread (List.mem_of_getElem? found)
  rw [head] at obeys
  exact obeys.1 _ held

theorem Config.WaitsFor.below {task holder : Nat} {lock other : signature.Lock} {mode mode' : Mode}
    (waits : config.WaitsFor task holder) (requests : config.Requests task lock mode)
    (onward : config.Requests holder other mode') : rank lock < rank other := by
  obtain ⟨wanted, _, again, holds⟩ := waits
  rw [requests.same again]
  exact holds.below lawful onward

theorem Config.Delayed.below {task later : Nat} {lock other : signature.Lock} {mode mode' : Mode}
    (delayed : config.Delayed task later) (requests : config.Requests task lock mode)
    (onward : config.Requests later other mode') : rank lock ≤ rank other := by
  rcases delayed with waits | ⟨wanted, _, again, writer⟩
  · exact Nat.le_of_lt (waits.below lawful requests onward)
  · rw [requests.same again, writer.same onward]

/-- Along a chain of waiting tasks the ranks of the locks they wait for do not fall. -/
theorem delayed_chain {task last : Nat} (chain : Relation.ReflTransGen config.Delayed task last)
    {lock other : signature.Lock} {mode mode' : Mode} (requests : config.Requests task lock mode)
    (onward : config.Requests last other mode') : rank lock ≤ rank other := by
  induction chain using Relation.ReflTransGen.head_induction_on generalizing lock mode with
  | refl => rw [requests.same onward]
  | head first rest ih =>
      rcases Relation.ReflTransGen.cases_head rest with rfl | ⟨_, next, _⟩
      · exact first.below lawful requests onward
      · obtain ⟨between, _, further⟩ := next.requests
        exact (first.below lawful requests further).trans (ih further)

theorem no_cycle {task holder : Nat} (waits : config.WaitsFor task holder) :
    ¬ Relation.ReflTransGen config.Delayed holder task := by
  intro back
  have ⟨lock, mode, requests, _⟩ := waits
  have onward : ∃ other mode', config.Requests holder other mode' := by
    rcases Relation.ReflTransGen.cases_head back with rfl | ⟨_, next, _⟩
    · exact ⟨lock, mode, requests⟩
    · exact next.requests
  obtain ⟨other, mode', further⟩ := onward
  have rises := Config.WaitsFor.below lawful waits requests further
  have stays := delayed_chain lawful back further requests
  omega

end Lawful

/-- Tasks that take their locks in the order of the ranks never wait in a circle. -/
theorem deadlock_free {allowed : Condition system} {initial : system.State}
    (programs : system.Lawful (orderContract system rank)) (reachable : Reachable allowed initial config) :
    config.DeadlockFree := by
  have lawful := reachable.lawful programs
  constructor
  · exact fun task lock mode requests holds => Nat.lt_irrefl _ (holds.below lawful requests)
  · intro task cycle
    obtain ⟨holder, waits, back⟩ := Relation.TransGen.head'_iff.mp cycle
    exact no_cycle lawful waits (Relation.ReflTransGen.mono (fun _ _ edge => Or.inl edge) _ _ back)
  · intro task holder waits
    exact no_cycle lawful waits

end TunnelitRelay.Concurrent
