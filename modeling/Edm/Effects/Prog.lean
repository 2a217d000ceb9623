import Mathlib.Tactic.Common

/-!
# Programs over an answering environment

A program is a tree: it returns, raises, or issues one call and goes on with
the answer, which is a reply or an exception. A `Machine` answers the calls
over a state. `Prog.run` executes a program to its end and `Prog.log` lists
the calls it issued on the way with their answers and the states around them.

Four predicates follow the paths of a program without executing it:
`Prog.Calls P` (every call satisfies `P`), `Prog.Guarded Opens Use` (no `Use`
call comes before one whose answer `Opens`), `Prog.Returns` (no path on which
every call is answered with a reply ends in an exception) and
`Prog.Through Good` (no path that ends in a value lacks a call with a `Good`
answer).
-/

namespace Edm.Effects

/-- A program that issues calls of `C`; a call `c` is answered by a reply of
`R c` or by an exception of `E`. -/
inductive Prog (C : Type) (R : C → Type) (E α : Type) : Type where
  | pure (a : α)
  | raise (e : E)
  | call (c : C) (next : Except E (R c) → Prog C R E α)

/-- How an environment answers one call in a state. -/
abbrev Machine (C : Type) (R : C → Type) (E S : Type) :=
  (c : C) → S → Except E (R c) × S

/-- One answered call, with the states before and after it. -/
structure Event (C : Type) (R : C → Type) (E S : Type) where
  before : S
  call : C
  answer : Except E (R call)
  after : S

namespace Prog

variable {C : Type} {R : C → Type} {E α β S : Type}

protected def bind : Prog C R E α → (α → Prog C R E β) → Prog C R E β
  | .pure a, f => f a
  | .raise e, _ => .raise e
  | .call c next, f => .call c fun r => (next r).bind f

/-- `try p except e: handler e`. -/
def tryCatch : Prog C R E α → (E → Prog C R E α) → Prog C R E α
  | .pure a, _ => .pure a
  | .raise e, handler => handler e
  | .call c next, handler => .call c fun r => (next r).tryCatch handler

/-- Issue one call; an exception it is answered with is raised. -/
def perform (c : C) : Prog C R E (R c) :=
  .call c fun
    | .ok r => .pure r
    | .error e => .raise e

/-- A value or an exception that was computed without a call. -/
def ofExcept : Except E α → Prog C R E α
  | .ok a => .pure a
  | .error e => .raise e

instance : Monad (Prog C R E) where
  pure := .pure
  bind := Prog.bind

theorem bind_assoc {γ : Type} (p : Prog C R E α) (f : α → Prog C R E β)
    (g : β → Prog C R E γ) : p >>= f >>= g = p >>= fun a => f a >>= g := by
  induction p with
  | pure a => rfl
  | raise e => rfl
  | call c next ih => exact congrArg (call c) (funext fun r => ih r)

theorem bind_pure (p : Prog C R E α) : p >>= (fun a => Pure.pure a) = p := by
  induction p with
  | pure a => rfl
  | raise e => rfl
  | call c next ih => exact congrArg (call c) (funext fun r => ih r)

/-! ## Execution -/

/-- Execute a program to its end. -/
def run (m : Machine C R E S) : Prog C R E α → S → Except E α × S
  | .pure a, s => (.ok a, s)
  | .raise e, s => (.error e, s)
  | .call c next, s => (next (m c s).1).run m (m c s).2

/-- The calls a program issues when it is executed, in order. -/
def log (m : Machine C R E S) : Prog C R E α → S → List (Event C R E S)
  | .pure _, _ => []
  | .raise _, _ => []
  | .call c next, s => ⟨s, c, (m c s).1, (m c s).2⟩ :: (next (m c s).1).log m (m c s).2

section Execution

variable (m : Machine C R E S) (s : S)

@[simp] theorem run_pure (a : α) : (Pure.pure a : Prog C R E α).run m s = (.ok a, s) := rfl

@[simp] theorem run_raise (e : E) : (raise e : Prog C R E α).run m s = (.error e, s) := rfl

@[simp] theorem run_ofExcept (x : Except E α) :
    (ofExcept x : Prog C R E α).run m s = (x, s) := by
  cases x <;> rfl

@[simp] theorem run_perform (c : C) : (perform c : Prog C R E (R c)).run m s = m c s := by
  unfold perform run
  rcases h : m c s with ⟨r | r, s'⟩ <;> rfl

theorem run_bind (p : Prog C R E α) (f : α → Prog C R E β) :
    (p >>= f).run m s =
      match p.run m s with
      | (.ok a, s') => (f a).run m s'
      | (.error e, s') => (.error e, s') := by
  induction p generalizing s with
  | pure a => rfl
  | raise e => rfl
  | call c next ih => exact ih (m c s).1 (m c s).2

theorem run_bind_pure (p : Prog C R E α) (f : α → β) :
    (p >>= fun a => Pure.pure (f a)).run m s = ((p.run m s).1.map f, (p.run m s).2) := by
  rw [run_bind]
  rcases p.run m s with ⟨- | -, s'⟩ <;> rfl

theorem run_tryCatch (p : Prog C R E α) (handler : E → Prog C R E α) :
    (p.tryCatch handler).run m s =
      match p.run m s with
      | (.ok a, s') => (.ok a, s')
      | (.error e, s') => (handler e).run m s' := by
  induction p generalizing s with
  | pure a => rfl
  | raise e => rfl
  | call c next ih => exact ih (m c s).1 (m c s).2

@[simp] theorem log_pure (a : α) : (Pure.pure a : Prog C R E α).log m s = [] := rfl

@[simp] theorem log_raise (e : E) : (raise e : Prog C R E α).log m s = [] := rfl

@[simp] theorem log_ofExcept (x : Except E α) : (ofExcept x : Prog C R E α).log m s = [] := by
  cases x <;> rfl

@[simp] theorem log_perform (c : C) :
    (perform c : Prog C R E (R c)).log m s = [⟨s, c, (m c s).1, (m c s).2⟩] := by
  unfold perform log
  rcases h : m c s with ⟨r | r, s'⟩ <;> rfl

theorem log_bind (p : Prog C R E α) (f : α → Prog C R E β) :
    (p >>= f).log m s = p.log m s ++
      match p.run m s with
      | (.ok a, s') => (f a).log m s'
      | (.error _, _) => [] := by
  induction p generalizing s with
  | pure a => rfl
  | raise e => rfl
  | call c next ih => exact congrArg (_ :: ·) (ih (m c s).1 (m c s).2)

theorem log_tryCatch (p : Prog C R E α) (handler : E → Prog C R E α) :
    (p.tryCatch handler).log m s = p.log m s ++
      match p.run m s with
      | (.ok _, _) => []
      | (.error e, s') => (handler e).log m s' := by
  induction p generalizing s with
  | pure a => rfl
  | raise e => rfl
  | call c next ih => exact congrArg (_ :: ·) (ih (m c s).1 (m c s).2)

/-- A logged call was answered by the machine. -/
theorem answer_of_mem_log {m : Machine C R E S} {p : Prog C R E α} {s : S} {ev : Event C R E S}
    (h : ev ∈ p.log m s) : m ev.call ev.before = (ev.answer, ev.after) := by
  induction p generalizing s with
  | pure a => cases h
  | raise e => cases h
  | call c next ih =>
    rcases List.mem_cons.1 h with rfl | h
    · rfl
    · exact ih _ h

end Execution

/-! ## What every path does -/

/-- Every call on every path of the program satisfies `P`. -/
def Calls (P : C → Prop) : Prog C R E α → Prop
  | .pure _ => True
  | .raise _ => True
  | .call c next => P c ∧ ∀ r, (next r).Calls P

/-- On no path does a `Use` call come before a call whose answer `Opens`. -/
def Guarded (Opens : (c : C) → Except E (R c) → Prop) (Use : C → Prop) : Prog C R E α → Prop
  | .pure _ => True
  | .raise _ => True
  | .call c next => ¬Use c ∧ ∀ r, Opens c r ∨ (next r).Guarded Opens Use

/-- The program returns on every path on which all calls are answered with a
reply. -/
def Returns : Prog C R E α → Prop
  | .pure _ => True
  | .raise _ => False
  | .call _ next => ∀ r, (next (.ok r)).Returns

/-- Every path that ends in a value goes through a call with a `Good` answer. -/
def Through (Good : (c : C) → Except E (R c) → Prop) : Prog C R E α → Prop
  | .pure _ => False
  | .raise _ => True
  | .call c next => ∀ r, Good c r ∨ (next r).Through Good

namespace Calls

variable {P Q : C → Prop}

@[simp] theorem pure (a : α) : (Pure.pure a : Prog C R E α).Calls P := trivial

@[simp] theorem raise (e : E) : (Prog.raise e : Prog C R E α).Calls P := trivial

@[simp] theorem ofExcept (x : Except E α) : (Prog.ofExcept x : Prog C R E α).Calls P := by
  cases x <;> trivial

@[simp] theorem perform {c : C} : (Prog.perform c : Prog C R E (R c)).Calls P ↔ P c := by
  constructor
  · intro h
    exact h.1
  · intro h
    refine ⟨h, ?_⟩
    intro r
    cases r <;> trivial

theorem bind {p : Prog C R E α} {f : α → Prog C R E β} (hp : p.Calls P)
    (hf : ∀ a, (f a).Calls P) : (p >>= f).Calls P := by
  induction p with
  | pure a => exact hf a
  | raise e => trivial
  | call c next ih => exact ⟨hp.1, fun r => ih r (hp.2 r)⟩

theorem tryCatch {p : Prog C R E α} {handler : E → Prog C R E α} (hp : p.Calls P)
    (hh : ∀ e, (handler e).Calls P) : (p.tryCatch handler).Calls P := by
  induction p with
  | pure a => trivial
  | raise e => exact hh e
  | call c next ih => exact ⟨hp.1, fun r => ih r (hp.2 r)⟩

theorem mono {p : Prog C R E α} (hPQ : ∀ c, P c → Q c) (h : p.Calls P) : p.Calls Q := by
  induction p with
  | pure a => trivial
  | raise e => trivial
  | call c next ih => exact ⟨hPQ c h.1, fun r => ih r (h.2 r)⟩

/-- An invariant kept by every `P` call is kept by a program of `P` calls. -/
theorem run_preserves {m : Machine C R E S} {I : S → Prop}
    (hstep : ∀ c s, P c → I s → I (m c s).2) {p : Prog C R E α} (h : p.Calls P) {s : S}
    (hs : I s) : I (p.run m s).2 := by
  induction p generalizing s with
  | pure a => exact hs
  | raise e => exact hs
  | call c next ih => exact ih _ (h.2 _) (hstep c s h.1 hs)

/-- Every logged call of a program of `P` calls satisfies `P`. -/
theorem of_mem_log {m : Machine C R E S} {p : Prog C R E α} (h : p.Calls P) {s : S}
    {ev : Event C R E S} (hev : ev ∈ p.log m s) : P ev.call := by
  induction p generalizing s with
  | pure a => cases hev
  | raise e => cases hev
  | call c next ih =>
    rcases List.mem_cons.1 hev with rfl | hev
    · exact h.1
    · exact ih _ (h.2 _) hev

end Calls

section Guarded

variable {Opens : (c : C) → Except E (R c) → Prop} {Use : C → Prop}

theorem Guarded.of_calls {p : Prog C R E α} (h : p.Calls fun c => ¬Use c) :
    p.Guarded Opens Use := by
  induction p with
  | pure a => trivial
  | raise e => trivial
  | call c next ih => exact ⟨h.1, fun r => .inr (ih r (h.2 r))⟩

theorem Guarded.bind {p : Prog C R E α} {f : α → Prog C R E β} (hp : p.Guarded Opens Use)
    (hf : ∀ a, (f a).Guarded Opens Use) : (p >>= f).Guarded Opens Use := by
  induction p with
  | pure a => exact hf a
  | raise e => trivial
  | call c next ih => exact ⟨hp.1, fun r => (hp.2 r).imp_right (ih r)⟩

/-- A program behind a call that opens on success. -/
theorem Guarded.perform_bind {c : C} {f : R c → Prog C R E α} (hc : ¬Use c)
    (hf : ∀ r, Opens c (.ok r) ∨ (f r).Guarded Opens Use) :
    ((Prog.perform c : Prog C R E (R c)) >>= f).Guarded Opens Use := by
  refine ⟨hc, ?_⟩
  intro r
  cases r with
  | ok r => exact hf r
  | error e => exact .inr trivial

theorem Guarded.tryCatch {p : Prog C R E α} {handler : E → Prog C R E α}
    (hp : p.Guarded Opens Use) (hh : ∀ e, (handler e).Guarded Opens Use) :
    (p.tryCatch handler).Guarded Opens Use := by
  induction p with
  | pure a => trivial
  | raise e => exact hh e
  | call c next ih => exact ⟨hp.1, fun r => (hp.2 r).imp_right (ih r)⟩

end Guarded

namespace Returns

theorem perform (c : C) : (Prog.perform c : Prog C R E (R c)).Returns := fun _ => trivial

theorem bind {p : Prog C R E α} {f : α → Prog C R E β} (hp : p.Returns)
    (hf : ∀ a, (f a).Returns) : (p >>= f).Returns := by
  induction p with
  | pure a => exact hf a
  | raise e => cases hp
  | call c next ih => exact fun r => ih (.ok r) (hp r)

theorem tryCatch {p : Prog C R E α} (hp : p.Returns) (handler : E → Prog C R E α) :
    (p.tryCatch handler).Returns := by
  induction p with
  | pure a => trivial
  | raise e => cases hp
  | call c next ih => exact fun r => ih (.ok r) (hp r)

end Returns

namespace Through

variable {Good : (c : C) → Except E (R c) → Prop}

@[simp] theorem raise (e : E) : (Prog.raise e : Prog C R E α).Through Good := trivial

theorem bind_left {p : Prog C R E α} (hp : p.Through Good) (f : α → Prog C R E β) :
    (p >>= f).Through Good := by
  induction p with
  | pure a => cases hp
  | raise e => trivial
  | call c next ih => exact fun r => (hp r).imp_right (ih r)

theorem bind_right {p : Prog C R E α} {f : α → Prog C R E β} (hf : ∀ a, (f a).Through Good) :
    (p >>= f).Through Good := by
  induction p with
  | pure a => exact hf a
  | raise e => trivial
  | call c next ih => exact fun r => .inr (ih r)

/-- A call, and what is done with its reply where that is not good. -/
theorem perform_bind {c : C} {f : R c → Prog C R E α}
    (hf : ∀ r, Good c (.ok r) ∨ (f r).Through Good) :
    ((Prog.perform c : Prog C R E (R c)) >>= f).Through Good := by
  intro r
  cases r with
  | ok r => exact hf r
  | error e => exact .inr trivial

theorem tryCatch {p : Prog C R E α} {handler : E → Prog C R E α} (hp : p.Through Good)
    (hh : ∀ e, (handler e).Through Good) : (p.tryCatch handler).Through Good := by
  induction p with
  | pure a => cases hp
  | raise e => exact hh e
  | call c next ih => exact fun r => (hp r).imp_right (ih r)

/-- A run that ends in a value has logged a good answer. -/
theorem exists_mem_log {m : Machine C R E S} {p : Prog C R E α} (h : p.Through Good) {s s' : S}
    {a : α} (hrun : p.run m s = (.ok a, s')) : ∃ ev ∈ p.log m s, Good ev.call ev.answer := by
  induction p generalizing s with
  | pure a => cases h
  | raise e => cases hrun
  | call c next ih =>
    rcases h (m c s).1 with hgood | hnext
    · exact ⟨_, List.mem_cons_self, hgood⟩
    · obtain ⟨ev, hev, hgood⟩ := ih _ hnext hrun
      exact ⟨ev, List.mem_cons_of_mem _ hev, hgood⟩

end Through

end Prog

end Edm.Effects
