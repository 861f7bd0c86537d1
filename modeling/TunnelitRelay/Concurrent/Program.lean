import Mathlib.Data.List.Infix
import Mathlib.Logic.Basic

namespace TunnelitRelay.Concurrent

/-! # Programs of concurrent tasks

A task is a tree of operations on a shared state.  An operation is atomic;
between two operations every other task may run, unless a guard the task holds
keeps it out.  A program is plain syntax: its meaning is given by a `System`
(for interleaved and for undisturbed runs) and by a `Law` (for what the text
of the program guarantees about its own past).
-/

/-- The operations of a system, the type of result each one returns, and the
locks that protect them. -/
structure Signature where
  Op : Type
  Result : Op → Type
  Lock : Type
  [lockEq : DecidableEq Lock]

attribute [instance] Signature.lockEq

inductive Mode where
  | shared
  | exclusive
deriving DecidableEq, Repr

/-- An operation together with the result it returned. -/
abbrev Event (signature : Signature) := (op : signature.Op) × signature.Result op

/-- A lock held by a task, in the mode it was acquired in. -/
abbrev Guard (signature : Signature) := signature.Lock × Mode

inductive Program (signature : Signature) (α : Type) where
  | done (value : α)
  | call (op : signature.Op) (next : signature.Result op → Program signature α)
  | acquire (lock : signature.Lock) (mode : Mode) (next : Program signature α)
  | release (lock : signature.Lock) (next : Program signature α)

variable {signature : Signature} {α β γ : Type}

namespace Program

def bind : Program signature α → (α → Program signature β) → Program signature β
  | .done value, rest => rest value
  | .call op next, rest => .call op fun result => (next result).bind rest
  | .acquire lock mode next, rest => .acquire lock mode (next.bind rest)
  | .release lock next, rest => .release lock (next.bind rest)

instance : Monad (Program signature) where
  pure := .done
  bind := .bind

/-- A single operation as a program. -/
def perform (op : signature.Op) : Program signature (signature.Result op) :=
  .call op .done

/-- Run `body` under a guard that is dropped when the body has returned. -/
def guarded (lock : signature.Lock) (mode : Mode) (body : Program signature α) :
    Program signature α :=
  .acquire lock mode (body.bind fun value => .release lock (.done value))

/-- Run `body` once for each element of a list, from left to right. -/
def forEach (body : γ → Program signature Unit) : List γ → Program signature Unit
  | [] => .done ()
  | item :: rest => (body item).bind fun _ => forEach body rest

/-- Run `body` on the value, if there is one. -/
def ifSome (body : γ → Program signature Unit) : Option γ → Program signature Unit
  | some item => body item
  | none => .done ()

@[simp] theorem pure_eq (value : α) : (pure value : Program signature α) = .done value := rfl

@[simp] theorem bind_eq (program : Program signature α) (rest : α → Program signature β) :
    program >>= rest = program.bind rest := rfl

end Program

/-- The next thing a program does, as far as it is visible without its result. -/
inductive Move (signature : Signature) where
  | call (op : signature.Op)
  | acquire (lock : signature.Lock) (mode : Mode)
  | release (lock : signature.Lock)

/-- Drop one guard on `lock`. -/
def dropGuard (lock : signature.Lock) : List (Guard signature) → List (Guard signature)
  | [] => []
  | guard :: rest => if guard.1 = lock then rest else guard :: dropGuard lock rest

/-- What a task may do next, given its past (latest event first) and the
guards it holds.  A law speaks about one task only: it is a property of the
program's text, whatever other tasks do in between. -/
abbrev Law (signature : Signature) :=
  List (Event signature) → List (Guard signature) → Move signature → Prop

/-- Every move of the program, after every sequence of results, is lawful, and
whatever the program returns satisfies `post`. -/
def Program.Obeys (law : Law signature)
    (post : List (Event signature) → List (Guard signature) → α → Prop) :
    List (Event signature) → List (Guard signature) → Program signature α → Prop
  | past, held, .done value => post past held value
  | past, held, .call op next =>
      law past held (.call op) ∧ ∀ result, (next result).Obeys law post (⟨op, result⟩ :: past) held
  | past, held, .acquire lock mode next =>
      law past held (.acquire lock mode) ∧ next.Obeys law post past ((lock, mode) :: held)
  | past, held, .release lock next =>
      law past held (.release lock) ∧ next.Obeys law post past (dropGuard lock held)

namespace Program

variable {law : Law signature} {past : List (Event signature)} {held : List (Guard signature)}

@[simp] theorem obeys_done {post} {value : α} :
    (done value : Program signature α).Obeys law post past held ↔ post past held value := Iff.rfl

@[simp] theorem obeys_perform {op : signature.Op} {post} :
    (perform op).Obeys law post past held ↔
      law past held (.call op) ∧ ∀ result, post (⟨op, result⟩ :: past) held result := Iff.rfl

theorem obeys_bind {program : Program signature α} {rest : α → Program signature β} {post} :
    (program.bind rest).Obeys law post past held ↔
      program.Obeys law (fun past held value => (rest value).Obeys law post past held) past held := by
  induction program generalizing past held with
  | done value => rfl
  | call op next ih => simp only [bind, Obeys, ih]
  | acquire lock mode next ih => simp only [bind, Obeys, ih]
  | release lock next ih => simp only [bind, Obeys, ih]

theorem obeys_guarded {lock : signature.Lock} {mode : Mode} {body : Program signature α} {post} :
    (guarded lock mode body).Obeys law post past held ↔
      law past held (.acquire lock mode) ∧
        body.Obeys law (fun past held value =>
          law past held (.release lock) ∧ post past (dropGuard lock held) value)
          past ((lock, mode) :: held) := by
  simp only [guarded, Obeys, obeys_bind]

theorem Obeys.mono {program : Program signature α} {weaker : Law signature} {post other}
    (obeys : program.Obeys law post past held)
    (laws : ∀ past held move, law past held move → weaker past held move)
    (posts : ∀ past held value, post past held value → other past held value) :
    program.Obeys weaker other past held := by
  induction program generalizing past held with
  | done value => exact posts _ _ _ obeys
  | call op next ih => exact ⟨laws _ _ _ obeys.1, fun result => ih result (obeys.2 result)⟩
  | acquire lock mode next ih => exact ⟨laws _ _ _ obeys.1, ih obeys.2⟩
  | release lock next ih => exact ⟨laws _ _ _ obeys.1, ih obeys.2⟩

end Program

/-- A law that restricts some operations and leaves everything else free. -/
def Law.Restricts (law : Law signature) (restricted : signature.Op → Prop) : Prop :=
  ∀ past held move, (∀ op, restricted op → move ≠ .call op) → law past held move

section Restricts

variable {law : Law signature} {restricted : signature.Op → Prop} {past : List (Event signature)}
  {held : List (Guard signature)}

theorem Law.Restricts.perform {op : signature.Op} {post} (restricts : law.Restricts restricted)
    (free : ¬ restricted op) (posts : ∀ result, post (⟨op, result⟩ :: past) held result) :
    (Program.perform op).Obeys law post past held := by
  refine Program.obeys_perform.mpr ⟨restricts _ _ _ fun other bound same => ?_, posts⟩
  cases same
  exact free bound

theorem Law.Restricts.guarded {lock : signature.Lock} {mode : Mode} {body : Program signature α} {post}
    (restricts : law.Restricts restricted)
    (obeys : body.Obeys law (fun past held value => post past (dropGuard lock held) value) past
      ((lock, mode) :: held)) : (Program.guarded lock mode body).Obeys law post past held := by
  refine Program.obeys_guarded.mpr ⟨restricts _ _ _ (by simp), obeys.mono (fun _ _ _ lawful => lawful) ?_⟩
  exact fun _ _ _ ends => ⟨restricts _ _ _ (by simp), ends⟩

/-- Nothing the program does, whatever the results, is restricted. -/
def Program.Avoids (restricted : signature.Op → Prop) : Program signature α → Prop
  | .done _ => True
  | .call op next => ¬ restricted op ∧ ∀ result, (next result).Avoids restricted
  | .acquire _ _ next => next.Avoids restricted
  | .release _ next => next.Avoids restricted

namespace Program

@[simp] theorem avoids_perform {op : signature.Op} : (perform op).Avoids restricted ↔ ¬ restricted op :=
  ⟨fun avoids => avoids.1, fun free => ⟨free, fun _ => trivial⟩⟩

theorem Avoids.mono {program : Program signature α} {less : signature.Op → Prop}
    (avoids : program.Avoids restricted) (weaker : ∀ op, less op → restricted op) : program.Avoids less := by
  induction program with
  | done value => trivial
  | call op next ih => exact ⟨fun bound => avoids.1 (weaker op bound), fun result => ih result (avoids.2 result)⟩
  | acquire lock mode next ih => exact ih avoids
  | release lock next ih => exact ih avoids

theorem Avoids.bind {program : Program signature α} {rest : α → Program signature β}
    (avoids : program.Avoids restricted) (rests : ∀ value, (rest value).Avoids restricted) :
    (program.bind rest).Avoids restricted := by
  induction program with
  | done value => exact rests value
  | call op next ih => exact ⟨avoids.1, fun result => ih result (avoids.2 result)⟩
  | acquire lock mode next ih => exact ih avoids
  | release lock next ih => exact ih avoids

theorem Avoids.guarded {lock : signature.Lock} {mode : Mode} {body : Program signature α}
    (avoids : body.Avoids restricted) : (Program.guarded lock mode body).Avoids restricted :=
  avoids.bind fun _ => trivial

theorem Avoids.forEach {body : γ → Program signature Unit} {items : List γ}
    (each : ∀ item, (body item).Avoids restricted) : (Program.forEach body items).Avoids restricted := by
  induction items with
  | nil => trivial
  | cons item rest ih => exact (each item).bind fun _ => ih

theorem Avoids.ifSome {body : γ → Program signature Unit} {item : Option γ}
    (each : ∀ item, (body item).Avoids restricted) : (Program.ifSome body item).Avoids restricted := by
  cases item with
  | none => trivial
  | some item => exact each item

/-- A program that does nothing restricted obeys the law, and adds to its past. -/
theorem Avoids.obeys {program : Program signature α} {post} (avoids : program.Avoids restricted)
    (restricts : law.Restricts restricted) (posts : ∀ later held value, past <:+ later → post later held value) :
    program.Obeys law post past held := by
  induction program generalizing past held with
  | done value => exact posts _ _ _ (List.suffix_refl past)
  | call op next ih =>
      refine ⟨restricts _ _ _ fun other bound same => ?_, fun result => ih result (avoids.2 result)
        fun later held value suffix => posts later held value ((List.suffix_cons _ past).trans suffix)⟩
      cases same
      exact avoids.1 bound
  | acquire lock mode next ih => exact ⟨restricts _ _ _ (by simp), ih avoids posts⟩
  | release lock next ih => exact ⟨restricts _ _ _ (by simp), ih avoids posts⟩

theorem avoids_nothing (program : Program signature α) : program.Avoids fun _ => False := by
  induction program with
  | done value => trivial
  | call op next ih => exact ⟨id, ih⟩
  | acquire lock mode next ih => exact ih
  | release lock next ih => exact ih

/-- Where nothing is restricted every program obeys the law. -/
theorem obeys_later {program : Program signature α} {post} (laws : ∀ past held move, law past held move)
    (posts : ∀ later held value, past <:+ later → post later held value) :
    program.Obeys law post past held :=
  program.avoids_nothing.obeys (fun past held move _ => laws past held move) posts

theorem obeys_free {program : Program signature α} {post}
    (laws : ∀ past held move, law past held move) (posts : ∀ past held value, post past held value) :
    program.Obeys law post past held :=
  obeys_later laws fun later held value _ => posts later held value

end Program

end Restricts

end TunnelitRelay.Concurrent
