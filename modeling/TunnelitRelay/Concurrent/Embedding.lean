import TunnelitRelay.Concurrent.Deadlock

namespace TunnelitRelay.Concurrent

/-! # Programs over a larger signature -/

/-- How the operations and the locks of one signature are found in another. -/
structure Embedding (small large : Signature) where
  op : small.Op → large.Op
  result : ∀ called, large.Result (op called) → small.Result called
  lock : small.Lock → large.Lock
  locks : Function.Injective lock

variable {small large : Signature} {α β : Type}

namespace Program

/-- The same program, performed in the larger signature. -/
def embed (embedding : Embedding small large) : Program small α → Program large α
  | .done value => .done value
  | .call op next => .call (embedding.op op) fun result => (next (embedding.result op result)).embed embedding
  | .acquire lock mode next => .acquire (embedding.lock lock) mode (next.embed embedding)
  | .release lock next => .release (embedding.lock lock) (next.embed embedding)

end Program

variable {embedding : Embedding small large}

theorem Embedding.dropGuard {lock : small.Lock} {held : List (Guard small)} :
    Concurrent.dropGuard (embedding.lock lock) (held.map fun own => (embedding.lock own.1, own.2)) =
      (Concurrent.dropGuard lock held).map fun own => (embedding.lock own.1, own.2) := by
  induction held with
  | nil => rfl
  | cons own rest ih =>
      simp only [List.map_cons, Concurrent.dropGuard]
      by_cases same : own.1 = lock
      · rw [if_pos same, if_pos (congrArg embedding.lock same)]
      · rw [if_neg same, if_neg fun alike => same (embedding.locks alike), ih, List.map_cons]

/-- An embedded program takes its locks in the same order, and gives back what
it has taken. -/
theorem Program.Obeys.embed {rank : large.Lock → Nat} {law : Law small} {program : Program small α}
    {past : List (Event small)} {held : List (Guard small)} {events : List (Event large)}
    {post : List (Event small) → List (Guard small) → α → Prop}
    (obeys : program.Obeys law post past held)
    (orders : ∀ past held move, law past held move → ordered (fun lock => rank (embedding.lock lock)) past held move)
    (posts : ∀ past held value, post past held value → held = []) :
    (program.embed embedding).Obeys (ordered rank) (fun _ held _ => held = []) events
      (held.map fun own => (embedding.lock own.1, own.2)) := by
  induction program generalizing past held events with
  | done value =>
      obtain rfl := posts _ _ _ obeys
      rfl
  | call op next ih => exact ⟨trivial, fun result => ih _ (obeys.2 _)⟩
  | acquire lock mode next ih =>
      refine ⟨?_, ih obeys.2⟩
      intro own member
      obtain ⟨earlier, holds, rfl⟩ := List.mem_map.mp member
      exact orders _ _ _ obeys.1 earlier holds
  | release lock next ih =>
      refine ⟨trivial, ?_⟩
      rw [Embedding.dropGuard]
      exact ih obeys.2

end TunnelitRelay.Concurrent
