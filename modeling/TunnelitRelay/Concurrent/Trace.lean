import TunnelitRelay.Concurrent.History

namespace TunnelitRelay.Concurrent

/-! # Runs with their events in order

The past of a task orders its own events only, and a restart forgets it.  The
trace of a run keeps the events of all tasks in the order they were performed,
across restarts.
-/

variable {signature : Signature}

/-- An event of a run, with the task that performed it. -/
structure Entry (system : System signature) where
  task : Nat
  job : system.Job
  event : Event signature

variable {system : System signature} {allowed : Condition system} {initial : system.State}

/-- The event that a step to this configuration has performed, if it was a call. -/
def noted (action : Action system) (after : Config system) : List (Entry system) :=
  match action with
  | .call task _ =>
      match after.threads[task]? with
      | some thread => thread.past.head?.toList.map fun event => ⟨task, thread.job, event⟩
      | none => []
  | _ => []

/-- Runs together with the events performed, the latest first. -/
inductive Traced (allowed : Condition system) (initial : system.State) :
    List (Entry system) → Config system → Prop where
  | initial : Traced allowed initial [] ⟨initial, []⟩
  | step {trace before action after} (earlier : Traced allowed initial trace before)
      (permitted : allowed before action) (step : Step before action after) :
      Traced allowed initial (noted action after ++ trace) after

theorem Traced.reachable {trace : List (Entry system)} {config : Config system}
    (traced : Traced allowed initial trace config) : Reachable allowed initial config := by
  induction traced with
  | initial => exact .refl
  | step _ permitted step ih => exact ih.tail ⟨_, permitted, step⟩

theorem Traced.weaken {weaker : Condition system} {trace : List (Entry system)} {config : Config system}
    (traced : Traced allowed initial trace config)
    (implies : ∀ config action, allowed config action → weaker config action) :
    Traced weaker initial trace config := by
  induction traced with
  | initial => exact .initial
  | step _ permitted step ih => exact .step ih (implies _ _ permitted) step

/-- Every run has a trace. -/
theorem Reachable.traced {config : Config system} (reachable : Reachable allowed initial config) :
    ∃ trace, Traced allowed initial trace config := by
  induction reachable with
  | refl => exact ⟨[], .initial⟩
  | tail _ last ih =>
      obtain ⟨trace, earlier⟩ := ih
      obtain ⟨action, permitted, step⟩ := last
      exact ⟨_, .step earlier permitted step⟩

theorem Called.noted {before after : Config system} {task : Nat} {thread : Thread system}
    {choice : system.Choice} {op : signature.Op} {result : signature.Result op}
    (called : Called before task thread choice op result after) :
    noted (.call task choice) after = [⟨task, thread.job, ⟨op, result⟩⟩] := by
  obtain ⟨other, there, job, _, past⟩ := called.self
  simp [Concurrent.noted, there, job, past]

/-- The invariant of a run that depends on the trace, on the state and on what
the tasks have done. -/
theorem Traced.track {invariant : List (Entry system) → Config system → Prop}
    {trace : List (Entry system)} {config : Config system} (initially : invariant [] ⟨initial, []⟩)
    (call : ∀ {trace} {before after : Config system} {task thread choice op} {result : signature.Result op},
      Traced allowed initial trace before → invariant trace before → allowed before (.call task choice) →
      Called before task thread choice op result after →
      invariant (⟨task, thread.job, ⟨op, result⟩⟩ :: trace) after)
    (quiet : ∀ {trace} {before after : Config system}, invariant trace before → before.SameTasks after →
      (after.state = before.state ∨ ∃ job, system.accept before.state job = some after.state) →
      invariant trace after)
    (reboot : ∀ {trace} {before : Config system}, allowed before .reboot → invariant trace before →
      invariant trace ⟨system.reboot before.state, []⟩)
    (traced : Traced allowed initial trace config) : invariant trace config := by
  induction traced with
  | initial => exact initially
  | @step trace before action after earlier permitted step ih =>
      cases step with
      | start admitted => exact quiet ih .start (.inr ⟨_, admitted⟩)
      | @call task thread op next choice state result found head executed =>
          have called : Called before task thread choice op result ⟨state, before.threads.set task
              { thread with past := ⟨op, result⟩ :: thread.past, rest := next result }⟩ :=
            ⟨found, executed, next, head, rfl⟩
          rw [called.noted]
          exact call earlier ih permitted called
      | acquire found head free => exact quiet ih (.replace found) (.inl rfl)
      | release found head => exact quiet ih (.replace found) (.inl rfl)
      | reboot => exact reboot permitted ih

/-! ## Entries and tasks -/

/-- Whatever a task has done is in the trace. -/
theorem Traced.records {trace : List (Entry system)} {config : Config system}
    (traced : Traced allowed initial trace config) {task : Nat} {thread : Thread system}
    {event : Event signature} (found : config.threads[task]? = some thread) (did : event ∈ thread.past) :
    ⟨task, thread.job, event⟩ ∈ trace := by
  refine @Traced.track _ _ allowed _ (fun trace config => ∀ (task : Nat) thread event,
    config.threads[task]? = some thread → event ∈ thread.past → ⟨task, thread.job, event⟩ ∈ trace)
    _ _ ?_ ?_ ?_ ?_ traced task thread event found did
  · exact fun task thread event found => by simp at found
  · intro trace before after task thread choice op result _ records _ called index other event there did
    rcases called.did there did with ⟨old, found, job, earlier⟩ | ⟨rfl, job, rfl⟩
    · exact List.mem_cons_of_mem _ (job ▸ records index old event found earlier)
    · exact job ▸ List.mem_cons_self
  · intro trace before after records same _ index other event there did
    rcases same.old index other there with empty | ⟨old, found, job, past⟩
    · rw [empty] at did
      contradiction
    · exact job ▸ records index old event found (past ▸ did)
  · exact fun _ _ task thread event found => by simp at found

/-- In a run without a restart every entry belongs to a task that is still there. -/
theorem Traced.performed {trace : List (Entry system)} {config : Config system}
    (running : ∀ before, ¬ allowed before .reboot) (traced : Traced allowed initial trace config)
    {entry : Entry system} (member : entry ∈ trace) :
    ∃ thread, config.threads[entry.task]? = some thread ∧ thread.job = entry.job ∧ entry.event ∈ thread.past := by
  refine @Traced.track _ _ allowed _ (fun trace config => ∀ entry ∈ trace, ∃ thread,
    config.threads[entry.task]? = some thread ∧ thread.job = entry.job ∧ entry.event ∈ thread.past)
    _ _ ?_ ?_ ?_ ?_ traced entry member
  · exact fun entry member => by simp at member
  · intro trace before after task thread choice op result _ performed _ called entry member
    obtain ⟨self, there, job, _, past⟩ := called.self
    rcases List.mem_cons.mp member with rfl | old
    · exact ⟨self, there, job, past ▸ List.mem_cons_self⟩
    · obtain ⟨other, found, same, did⟩ := performed entry old
      by_cases here : entry.task = task
      · rw [here, called.found, Option.some.injEq] at found
        subst found
        exact ⟨self, here ▸ there, job.trans same, past ▸ List.mem_cons_of_mem _ did⟩
      · exact ⟨other, called.other found here, same, did⟩
  · intro trace before after performed same _ entry member
    obtain ⟨other, found, job, did⟩ := performed entry member
    obtain ⟨later, there, alike, past⟩ := same.kept entry.task other found
    exact ⟨later, there, alike.trans job, past ▸ did⟩
  · exact fun permitted _ => absurd permitted (running _)

/-- Every entry was lawful after what its task had done before it. -/
theorem Traced.lawful {contract : Contract system} {trace : List (Entry system)} {config : Config system}
    (programs : system.Lawful contract) (traced : Traced allowed initial trace config) {entry : Entry system}
    (member : entry ∈ trace) : ∃ past held, contract.law entry.job past held (.call entry.event.1) ∧
      ∀ event ∈ past, ⟨entry.task, entry.job, event⟩ ∈ trace := by
  refine @Traced.track _ _ allowed _ (fun trace _ => ∀ entry ∈ trace, ∃ past held,
    contract.law entry.job past held (.call entry.event.1) ∧ ∀ event ∈ past, ⟨entry.task, entry.job, event⟩ ∈ trace)
    _ _ ?_ ?_ ?_ ?_ traced entry member
  · exact fun entry member => by simp at member
  · intro trace before after task thread choice op result earlier lawful _ called entry member
    rcases List.mem_cons.mp member with rfl | old
    · exact ⟨thread.past, thread.held, called.law (earlier.reachable.lawful programs),
        fun event did => List.mem_cons_of_mem _ (earlier.records called.found did)⟩
    · obtain ⟨past, held, law, before'⟩ := lawful entry old
      exact ⟨past, held, law, fun event did => List.mem_cons_of_mem _ (before' event did)⟩
  · exact fun lawful _ _ => lawful
  · exact fun _ lawful => lawful

/-! ## What has happened and not been undone -/

/-- Something has happened, and nothing of another kind since; the latest is first. -/
def Since {α : Type} (happened undone : α → Prop) (trace : List α) : Prop :=
  ∃ later entry earlier, trace = later ++ entry :: earlier ∧ happened entry ∧ ∀ other ∈ later, ¬ undone other

section Since

variable {α : Type} {happened undone : α → Prop} {trace : List α}

@[simp] theorem since_nil : ¬ Since happened undone [] := by
  rintro ⟨later, entry, earlier, empty, _⟩
  simp at empty

theorem since_cons {entry : α} :
    Since happened undone (entry :: trace) ↔ happened entry ∨ ¬ undone entry ∧ Since happened undone trace := by
  constructor
  · rintro ⟨later, first, earlier, split, holds, clean⟩
    cases later with
    | nil =>
        cases split
        exact .inl holds
    | cons latest later =>
        cases split
        exact .inr ⟨clean _ List.mem_cons_self, later, first, earlier, rfl, holds,
          fun other member => clean other (List.mem_cons_of_mem _ member)⟩
  · rintro (now | ⟨free, later, first, earlier, rfl, holds, clean⟩)
    · exact ⟨[], entry, trace, rfl, now, fun other member => by simp at member⟩
    · refine ⟨entry :: later, first, earlier, rfl, holds, fun other member => ?_⟩
      rcases List.mem_cons.mp member with rfl | old
      · exact free
      · exact clean other old

theorem Since.mono {more less : α → Prop} (since : Since happened undone trace)
    (happens : ∀ entry ∈ trace, happened entry → more entry) (undoes : ∀ entry, less entry → undone entry) :
    Since more less trace := by
  obtain ⟨later, entry, earlier, rfl, holds, clean⟩ := since
  exact ⟨later, entry, earlier, rfl, happens entry (by simp) holds,
    fun other member less => clean other member (undoes other less)⟩

end Since

end TunnelitRelay.Concurrent
