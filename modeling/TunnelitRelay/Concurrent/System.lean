import Mathlib.Logic.Relation
import TunnelitRelay.Concurrent.Program

namespace TunnelitRelay.Concurrent

/-! # Interleaved runs

A system gives the operations of a signature their meaning and says which jobs
may be started.  A configuration is the shared state together with every task
started so far; a step lets one task make one move.  Nothing is assumed about
the order in which tasks move, except that a lock is granted only while no
other guard conflicts with it.
-/

structure System (signature : Signature) where
  State : Type
  /-- What the environment decides in one operation. -/
  Choice : Type
  Job : Type
  Reply : Type
  /-- `none` where the environment's choice is not a possible one. -/
  exec : State → Choice → (op : signature.Op) → Option (State × signature.Result op)
  accept : State → Job → Option State
  program : Job → Program signature Reply
  reboot : State → State

variable {signature : Signature}

structure Thread (system : System signature) where
  job : system.Job
  past : List (Event signature)
  held : List (Guard signature)
  rest : Program signature system.Reply

/-- A task that has returned. -/
def Thread.finished {system : System signature} (thread : Thread system) : Prop :=
  ∃ value, thread.rest = .done value

structure Config (system : System signature) where
  state : system.State
  threads : List (Thread system)

inductive Action (system : System signature) where
  | start (job : system.Job)
  | call (task : Nat) (choice : system.Choice)
  | acquire (task : Nat)
  | release (task : Nat)
  | reboot

variable {system : System signature}

def Thread.fresh (system : System signature) (job : system.Job) : Thread system :=
  { job, past := [], held := [], rest := system.program job }

/-- No guard held by any task conflicts with the requested one.  A task that
asks for a lock it already holds waits for itself. -/
def Config.Free (config : Config system) (lock : signature.Lock) (mode : Mode) : Prop :=
  ∀ thread ∈ config.threads, ∀ held, (lock, held) ∈ thread.held → held = .shared ∧ mode = .shared

inductive Step : Config system → Action system → Config system → Prop where
  | start {config job state}
      (admitted : system.accept config.state job = some state) :
      Step config (.start job) ⟨state, config.threads ++ [Thread.fresh system job]⟩
  | call {config : Config system} {task : Nat} {thread : Thread system} {op next choice state result}
      (found : config.threads[task]? = some thread)
      (head : thread.rest = .call op next)
      (executed : system.exec config.state choice op = some (state, result)) :
      Step config (.call task choice) ⟨state, config.threads.set task
        { thread with past := ⟨op, result⟩ :: thread.past, rest := next result }⟩
  | acquire {config : Config system} {task : Nat} {thread : Thread system} {lock mode next}
      (found : config.threads[task]? = some thread)
      (head : thread.rest = .acquire lock mode next)
      (free : config.Free lock mode) :
      Step config (.acquire task) ⟨config.state, config.threads.set task
        { thread with held := (lock, mode) :: thread.held, rest := next }⟩
  | release {config : Config system} {task : Nat} {thread : Thread system} {lock next}
      (found : config.threads[task]? = some thread)
      (head : thread.rest = .release lock next) :
      Step config (.release task) ⟨config.state, config.threads.set task
        { thread with held := dropGuard lock thread.held, rest := next }⟩
  | reboot {config : Config system} : Step config .reboot ⟨system.reboot config.state, []⟩

/-- A condition on the steps of a run, on the configuration before the step. -/
abbrev Condition (system : System signature) := Config system → Action system → Prop

def anyStep : Condition system := fun _ _ => True

/-- Runs all of whose steps meet a condition. -/
def Steps (allowed : Condition system) : Config system → Config system → Prop :=
  Relation.ReflTransGen fun before after => ∃ action, allowed before action ∧ Step before action after

/-- Configurations reached from a state in which no task exists. -/
def Reachable (allowed : Condition system) (initial : system.State) (config : Config system) : Prop :=
  Steps allowed ⟨initial, []⟩ config

theorem Steps.weaken {allowed weaker : Condition system} {before after : Config system}
    (steps : Steps allowed before after)
    (implies : ∀ config action, allowed config action → weaker config action) :
    Steps weaker before after :=
  Relation.ReflTransGen.mono
    (fun _ _ ⟨action, holds, step⟩ => ⟨action, implies _ _ holds, step⟩) _ _ steps

/-- A condition on the operations of a run, on the configuration and the task
that is about to perform one. -/
def onCall (holds : Config system → Thread system → system.Choice → signature.Op → Prop) :
    Condition system
  | config, .call task choice => ∀ thread op next, config.threads[task]? = some thread →
      thread.rest = .call op next → holds config thread choice op
  | _, _ => True

/-! ## What every task's own text guarantees -/

/-- What the text of a system's programs promises: the moves a task may make,
and what it may answer, given its own past and guards. -/
structure Contract (system : System signature) where
  law : system.Job → Law signature
  answer : system.Job → List (Event signature) → List (Guard signature) → system.Reply → Prop

/-- The rest of every task keeps the promise of its job from its own past. -/
def Config.Lawful (contract : Contract system) (config : Config system) : Prop :=
  ∀ thread ∈ config.threads,
    thread.rest.Obeys (contract.law thread.job) (contract.answer thread.job) thread.past thread.held

def System.Lawful (system : System signature) (contract : Contract system) : Prop :=
  ∀ job, (system.program job).Obeys (contract.law job) (contract.answer job) [] []

variable {contract : Contract system} {allowed : Condition system}

theorem Step.lawful {before after : Config system} {action : Action system}
    (programs : system.Lawful contract) (lawful : before.Lawful contract)
    (step : Step before action after) : after.Lawful contract := by
  intro thread member
  cases step with
  | start admitted =>
      rcases List.mem_append.mp member with old | new
      · exact lawful thread old
      · rw [List.mem_singleton.mp new]
        exact programs _
  | @call task running op next choice state result found head executed =>
      rcases List.mem_or_eq_of_mem_set member with old | rfl
      · exact lawful thread old
      · have obeys := lawful running (List.mem_of_getElem? found)
        rw [head] at obeys
        exact obeys.2 result
  | @acquire task running lock mode next found head free =>
      rcases List.mem_or_eq_of_mem_set member with old | rfl
      · exact lawful thread old
      · have obeys := lawful running (List.mem_of_getElem? found)
        rw [head] at obeys
        exact obeys.2
  | @release task running lock next found head =>
      rcases List.mem_or_eq_of_mem_set member with old | rfl
      · exact lawful thread old
      · have obeys := lawful running (List.mem_of_getElem? found)
        rw [head] at obeys
        exact obeys.2
  | reboot => simp at member

theorem Config.Lawful.call {config : Config system} {thread : Thread system} {op next}
    (lawful : config.Lawful contract) (member : thread ∈ config.threads)
    (head : thread.rest = .call op next) :
    contract.law thread.job thread.past thread.held (.call op) := by
  have obeys := lawful thread member
  rw [head] at obeys
  exact obeys.1

/-! ## Guards exclude each other -/

/-- A task of the list after one was replaced is the new one or an old one
with another number. -/
theorem getElem?_set_cases {α : Type} {items : List α} {index other : Nat} {new found : α}
    (there : (items.set index new)[other]? = some found) :
    (other = index ∧ found = new) ∨ (other ≠ index ∧ items[other]? = some found) := by
  rw [List.getElem?_set] at there
  split at there
  · rename_i same
    split at there
    · cases there
      exact .inl ⟨same.symm, rfl⟩
    · contradiction
  · rename_i different
    exact .inr ⟨fun same => different same.symm, there⟩

theorem getElem?_append_cases {α : Type} {items : List α} {other : Nat} {new found : α}
    (there : (items ++ [new])[other]? = some found) :
    (other = items.length ∧ found = new) ∨ items[other]? = some found := by
  rcases Nat.lt_trichotomy other items.length with inside | rfl | outside
  · exact .inr (by rwa [List.getElem?_append_left inside] at there)
  · rw [List.getElem?_append_right Nat.le.refl] at there
    simp only [Nat.sub_self, List.getElem?_cons_zero, Option.some.injEq] at there
    exact .inl ⟨rfl, there.symm⟩
  · rw [List.getElem?_eq_none (by simp; omega)] at there
    contradiction

/-- Two tasks hold one lock only if both hold it shared. -/
def Config.Exclusive (config : Config system) : Prop :=
  ∀ (one two : Nat) (left right : Thread system) lock mode other, one ≠ two →
    config.threads[one]? = some left → config.threads[two]? = some right →
    (lock, mode) ∈ left.held → (lock, other) ∈ right.held → mode = .shared ∧ other = .shared

theorem mem_of_mem_dropGuard {lock : signature.Lock} {own : Guard signature}
    {held : List (Guard signature)} (member : own ∈ dropGuard lock held) : own ∈ held := by
  induction held with
  | nil => exact member
  | cons guard rest ih =>
      simp only [dropGuard] at member
      split at member
      · exact List.mem_cons_of_mem _ member
      · rcases List.mem_cons.mp member with rfl | later
        · exact List.mem_cons_self
        · exact List.mem_cons_of_mem _ (ih later)

/-- A task that changes its guards, and holds no new one that conflicts with a
guard of another task, keeps them exclusive. -/
theorem Config.Exclusive.replace {config : Config system} {state : system.State} {task : Nat}
    {thread : Thread system} (exclusive : config.Exclusive)
    (compatible : ∀ index other lock mode own, index ≠ task →
      config.threads[index]? = some other → (lock, own) ∈ thread.held →
      (lock, mode) ∈ other.held → own = .shared ∧ mode = .shared) :
    Config.Exclusive ⟨state, config.threads.set task thread⟩ := by
  intro one two left right lock mode other distinct foundLeft foundRight holdsLeft holdsRight
  rcases getElem?_set_cases foundLeft with ⟨rfl, rfl⟩ | ⟨elsewhere, oldLeft⟩
  · rcases getElem?_set_cases foundRight with ⟨same, _⟩ | ⟨elsewhere, oldRight⟩
    · exact absurd same.symm distinct
    · exact compatible _ _ _ _ _ elsewhere oldRight holdsLeft holdsRight
  · rcases getElem?_set_cases foundRight with ⟨rfl, rfl⟩ | ⟨_, oldRight⟩
    · exact (compatible _ _ _ _ _ elsewhere oldLeft holdsRight holdsLeft).symm
    · exact exclusive _ _ _ _ _ _ _ distinct oldLeft oldRight holdsLeft holdsRight

theorem Step.exclusive {before after : Config system} {action : Action system}
    (exclusive : before.Exclusive) (step : Step before action after) : after.Exclusive := by
  cases step with
  | @start job state admitted =>
      have unheld : ∀ {index : Nat} {thread : Thread system} {guard : Guard signature},
          (before.threads ++ [Thread.fresh system job])[index]? = some thread →
          guard ∈ thread.held → before.threads[index]? = some thread := by
        intro index thread guard found holds
        rcases getElem?_append_cases found with ⟨_, rfl⟩ | old
        · simp [Thread.fresh] at holds
        · exact old
      intro one two left right lock mode other distinct foundLeft foundRight holdsLeft holdsRight
      exact exclusive _ _ _ _ _ _ _ distinct (unheld foundLeft holdsLeft)
        (unheld foundRight holdsRight) holdsLeft holdsRight
  | call found head executed =>
      apply exclusive.replace
      intro index other lock mode own distinct there member holds
      exact exclusive _ _ _ _ _ _ _ (Ne.symm distinct) found there member holds
  | @acquire task running lock mode next found head free =>
      apply exclusive.replace
      intro index other lock' mode' own distinct there member holds
      rcases List.mem_cons.mp member with same | older
      · cases same
        exact (free other (List.mem_of_getElem? there) _ holds).symm
      · exact exclusive _ _ _ _ _ _ _ (Ne.symm distinct) found there older holds
  | release found head =>
      apply exclusive.replace
      intro index other lock mode own distinct there member holds
      exact exclusive _ _ _ _ _ _ _ (Ne.symm distinct) found there (mem_of_mem_dropGuard member) holds
  | reboot =>
      intro one two left right lock mode other distinct foundLeft
      simp at foundLeft

/-! ## Invariants of runs -/

theorem Reachable.lawful {initial : system.State} {config : Config system}
    (programs : system.Lawful contract) (reachable : Reachable allowed initial config) :
    config.Lawful contract := by
  induction reachable with
  | refl => exact fun thread member => by simp at member
  | tail _ last ih =>
      obtain ⟨_, _, step⟩ := last
      exact step.lawful programs ih

theorem Reachable.exclusive {initial : system.State} {config : Config system}
    (reachable : Reachable allowed initial config) : config.Exclusive := by
  induction reachable with
  | refl =>
      intro one two left right lock mode other distinct foundLeft
      simp at foundLeft
  | tail _ last ih =>
      obtain ⟨_, _, step⟩ := last
      exact step.exclusive ih

/-- What holds at the start and is kept by every allowed step holds in every
configuration reached; the step may use whatever else is known of reachable
configurations. -/
theorem Reachable.induct {invariant : Config system → Prop} {initial : system.State}
    {config : Config system} (initially : invariant ⟨initial, []⟩)
    (preserved : ∀ {before action after}, Reachable allowed initial before → invariant before →
      allowed before action → Step before action after → invariant after)
    (reachable : Reachable allowed initial config) : invariant config := by
  induction reachable with
  | refl => exact initially
  | tail earlier last ih =>
      obtain ⟨_, permitted, step⟩ := last
      exact preserved earlier ih permitted step

/-- The invariant of a run that consists of a part about the state and a part
about each task's past; guards do not matter to it. -/
theorem Reachable.maintain {shared : system.State → Prop}
    {own : system.State → system.Job → List (Event signature) → Prop}
    {initial : system.State} {config : Config system} (initially : shared initial)
    (start : ∀ {state job admitted}, shared state → system.accept state job = some admitted →
      shared admitted ∧ own admitted job [] ∧ ∀ job past, own state job past → own admitted job past)
    (call : ∀ {before : Config system} {task thread op next choice state}
        {result : signature.Result op}, Reachable allowed initial before →
      shared before.state → (∀ thread ∈ before.threads, own before.state thread.job thread.past) →
      before.threads[task]? = some thread → thread.rest = .call op next →
      allowed before (.call task choice) → system.exec before.state choice op = some (state, result) →
      shared state ∧ own state thread.job (⟨op, result⟩ :: thread.past) ∧
        ∀ job past, own before.state job past → own state job past)
    (reboot : ∀ {state}, shared state → shared (system.reboot state))
    (reachable : Reachable allowed initial config) :
    shared config.state ∧ ∀ thread ∈ config.threads, own config.state thread.job thread.past := by
  refine @Reachable.induct _ _ allowed (fun config => shared config.state ∧
      ∀ thread ∈ config.threads, own config.state thread.job thread.past) initial config
    ⟨initially, fun _ member => by simp at member⟩ ?_ reachable
  rintro before action after earlier ⟨holds, each⟩ permitted step
  cases step with
  | start admitted =>
      obtain ⟨kept, fresh, others⟩ := start holds admitted
      refine ⟨kept, fun thread member => ?_⟩
      rcases List.mem_append.mp member with old | new
      · exact others _ _ (each thread old)
      · rw [List.mem_singleton.mp new]
        exact fresh
  | call found head executed =>
      obtain ⟨kept, self, others⟩ := call earlier holds each found head permitted executed
      refine ⟨kept, fun thread member => ?_⟩
      rcases List.mem_or_eq_of_mem_set member with old | rfl
      · exact others _ _ (each thread old)
      · exact self
  | @acquire task running lock mode next found head free =>
      refine ⟨holds, fun thread member => ?_⟩
      rcases List.mem_or_eq_of_mem_set member with old | rfl
      · exact each thread old
      · exact each running (List.mem_of_getElem? found)
  | @release task running lock next found head =>
      refine ⟨holds, fun thread member => ?_⟩
      rcases List.mem_or_eq_of_mem_set member with old | rfl
      · exact each thread old
      · exact each running (List.mem_of_getElem? found)
  | reboot => exact ⟨reboot holds, fun thread member => by simp at member⟩

/-- Task by task the same jobs with the same pasts, apart from tasks that have
done nothing yet.  Guards and the rests of the programs may differ. -/
structure Config.SameTasks (before after : Config system) : Prop where
  old : ∀ (index : Nat) thread, after.threads[index]? = some thread → thread.past = [] ∨
    ∃ other, before.threads[index]? = some other ∧ other.job = thread.job ∧ other.past = thread.past
  kept : ∀ (index : Nat) other, before.threads[index]? = some other →
    ∃ thread, after.threads[index]? = some thread ∧ thread.job = other.job ∧ thread.past = other.past

theorem Config.SameTasks.of_mem {before after : Config system} (same : before.SameTasks after)
    {thread : Thread system} {event : Event signature} (member : thread ∈ after.threads)
    (did : event ∈ thread.past) :
    ∃ other ∈ before.threads, other.job = thread.job ∧ other.past = thread.past := by
  obtain ⟨index, there⟩ := List.mem_iff_getElem?.mp member
  rcases same.old index thread there with empty | ⟨other, found, alike⟩
  · rw [empty] at did
    contradiction
  · exact ⟨other, List.mem_of_getElem? found, alike⟩

theorem Config.SameTasks.mem {before after : Config system} (same : before.SameTasks after)
    {thread : Thread system} (member : thread ∈ before.threads) :
    ∃ other ∈ after.threads, other.job = thread.job ∧ other.past = thread.past := by
  obtain ⟨index, there⟩ := List.mem_iff_getElem?.mp member
  obtain ⟨other, found, alike⟩ := same.kept index thread there
  exact ⟨other, List.mem_of_getElem? found, alike⟩

theorem Config.SameTasks.start {config : Config system} {state : system.State} {job : system.Job} :
    config.SameTasks ⟨state, config.threads ++ [Thread.fresh system job]⟩ := by
  refine ⟨fun index thread there => ?_, fun index other there => ⟨other, ?_, rfl, rfl⟩⟩
  · rcases getElem?_append_cases there with ⟨_, rfl⟩ | old
    · exact .inl rfl
    · exact .inr ⟨thread, old, rfl, rfl⟩
  · have inside := (List.getElem?_eq_some_iff.mp there).1
    rwa [← List.getElem?_append_left inside] at there

theorem Config.SameTasks.replace {config : Config system} {state : system.State} {task : Nat}
    {thread : Thread system} {held : List (Guard signature)} {rest : Program signature system.Reply}
    (found : config.threads[task]? = some thread) :
    config.SameTasks ⟨state, config.threads.set task { thread with held, rest }⟩ := by
  refine ⟨fun index other there => ?_, fun index other there => ?_⟩
  · rcases getElem?_set_cases there with ⟨rfl, rfl⟩ | ⟨_, old⟩
    · exact .inr ⟨thread, found, rfl, rfl⟩
    · exact .inr ⟨other, old, rfl, rfl⟩
  · by_cases same : task = index
    · subst same
      rw [found, Option.some.injEq] at there
      subst there
      exact ⟨_, List.getElem?_set_self (List.getElem?_eq_some_iff.mp found).1, rfl, rfl⟩
    · exact ⟨other, by rwa [List.getElem?_set_ne same], rfl, rfl⟩

/-- One task performs one operation. -/
structure Called (before : Config system) (task : Nat) (thread : Thread system)
    (choice : system.Choice) (op : signature.Op) (result : signature.Result op)
    (after : Config system) : Prop where
  found : before.threads[task]? = some thread
  executed : system.exec before.state choice op = some (after.state, result)
  moved : ∃ next, thread.rest = .call op next ∧ after.threads = before.threads.set task
    { thread with past := ⟨op, result⟩ :: thread.past, rest := next result }

section Called

variable {before after : Config system} {task : Nat} {thread : Thread system}
  {choice : system.Choice} {op : signature.Op} {result : signature.Result op}

theorem Called.member (called : Called before task thread choice op result after) :
    thread ∈ before.threads :=
  List.mem_of_getElem? called.found

theorem Called.step (called : Called before task thread choice op result after) :
    Step before (.call task choice) after := by
  obtain ⟨next, head, threads⟩ := called.moved
  have step := Step.call called.found head called.executed
  rwa [← threads] at step

theorem Called.law (called : Called before task thread choice op result after)
    (lawful : before.Lawful contract) :
    contract.law thread.job thread.past thread.held (.call op) := by
  obtain ⟨next, head, _⟩ := called.moved
  exact lawful.call called.member head

/-- A task after the step is the one that moved or was there before. -/
theorem Called.origin (called : Called before task thread choice op result after) {index : Nat}
    {other : Thread system} (there : after.threads[index]? = some other) :
    (index = task ∧ other.job = thread.job ∧ other.held = thread.held ∧
      other.past = ⟨op, result⟩ :: thread.past) ∨
    (index ≠ task ∧ before.threads[index]? = some other) := by
  obtain ⟨next, _, threads⟩ := called.moved
  rw [threads] at there
  rcases getElem?_set_cases there with ⟨rfl, rfl⟩ | old
  · exact .inl ⟨rfl, rfl, rfl, rfl⟩
  · exact .inr old

/-- An event of a task was there before, or is the one just performed. -/
theorem Called.did (called : Called before task thread choice op result after) {index : Nat}
    {other : Thread system} {event : Event signature} (there : after.threads[index]? = some other)
    (did : event ∈ other.past) :
    (∃ old, before.threads[index]? = some old ∧ old.job = other.job ∧ event ∈ old.past) ∨
      (index = task ∧ other.job = thread.job ∧ event = ⟨op, result⟩) := by
  rcases called.origin there with ⟨rfl, job, _, past⟩ | ⟨_, old⟩
  · rw [past] at did
    rcases List.mem_cons.mp did with rfl | earlier
    · exact .inr ⟨rfl, job, rfl⟩
    · exact .inl ⟨thread, called.found, job.symm, earlier⟩
  · exact .inl ⟨other, old, rfl, did⟩

theorem Called.split (called : Called before task thread choice op result after) {other : Thread system}
    (member : other ∈ after.threads) :
    (other.job = thread.job ∧ other.past = ⟨op, result⟩ :: thread.past) ∨ other ∈ before.threads := by
  obtain ⟨index, there⟩ := List.mem_iff_getElem?.mp member
  rcases called.origin there with ⟨_, job, _, past⟩ | ⟨_, old⟩
  · exact .inl ⟨job, past⟩
  · exact .inr (List.mem_of_getElem? old)

/-- The task that moved is still there. -/
theorem Called.self (called : Called before task thread choice op result after) :
    ∃ other, after.threads[task]? = some other ∧ other.job = thread.job ∧
      other.held = thread.held ∧ other.past = ⟨op, result⟩ :: thread.past := by
  obtain ⟨next, _, threads⟩ := called.moved
  refine ⟨{ thread with past := ⟨op, result⟩ :: thread.past, rest := next result }, ?_, rfl, rfl, rfl⟩
  rw [threads]
  exact List.getElem?_set_self (List.getElem?_eq_some_iff.mp called.found).1

/-- Every other task is still there as it was. -/
theorem Called.other (called : Called before task thread choice op result after) {index : Nat}
    {other : Thread system} (there : before.threads[index]? = some other) (elsewhere : index ≠ task) :
    after.threads[index]? = some other := by
  obtain ⟨next, _, threads⟩ := called.moved
  rwa [threads, List.getElem?_set_ne (Ne.symm elsewhere)]

/-- Every task goes on from what it has done. -/
theorem Called.goes (called : Called before task thread choice op result after) {other : Thread system}
    (member : other ∈ before.threads) :
    ∃ later ∈ after.threads, later.job = other.job ∧ other.past <:+ later.past := by
  obtain ⟨index, there⟩ := List.mem_iff_getElem?.mp member
  by_cases here : index = task
  · subst here
    obtain ⟨later, found, job, _, past⟩ := called.self
    rw [called.found, Option.some.injEq] at there
    subst there
    exact ⟨later, List.mem_of_getElem? found, job, past ▸ List.suffix_cons _ _⟩
  · exact ⟨other, List.mem_of_getElem? (called.other there here), rfl, List.suffix_refl _⟩

theorem Called.kept (called : Called before task thread choice op result after) {other : Thread system}
    (member : other ∈ before.threads) : ∃ later ∈ after.threads, later.job = other.job := by
  obtain ⟨index, there⟩ := List.mem_iff_getElem?.mp member
  by_cases here : index = task
  · subst here
    obtain ⟨later, found, job, _⟩ := called.self
    rw [called.found, Option.some.injEq] at there
    exact ⟨later, List.mem_of_getElem? found, there ▸ job⟩
  · exact ⟨other, List.mem_of_getElem? (called.other there here), rfl⟩

end Called

/-- The invariant of a run that depends on the state and on what the tasks have
done, and on neither their guards nor the rests of their programs. -/
theorem Reachable.track {invariant : Config system → Prop} {initial : system.State}
    {config : Config system} (initially : invariant ⟨initial, []⟩)
    (call : ∀ {before after : Config system} {task thread choice op} {result : signature.Result op},
      Reachable allowed initial before → invariant before → allowed before (.call task choice) →
      Called before task thread choice op result after → invariant after)
    (quiet : ∀ {before after : Config system}, invariant before → before.SameTasks after →
      (after.state = before.state ∨ ∃ job, system.accept before.state job = some after.state) →
      invariant after)
    (reboot : ∀ {before : Config system}, invariant before → invariant ⟨system.reboot before.state, []⟩)
    (reachable : Reachable allowed initial config) : invariant config := by
  refine reachable.induct initially ?_
  intro before action after earlier holds permitted step
  cases step with
  | start admitted => exact quiet holds .start (.inr ⟨_, admitted⟩)
  | call found head executed => exact call earlier holds permitted ⟨found, executed, _, head, rfl⟩
  | acquire found head free => exact quiet holds (.replace found) (.inl rfl)
  | release found head => exact quiet holds (.replace found) (.inl rfl)
  | reboot => exact reboot holds

end TunnelitRelay.Concurrent
