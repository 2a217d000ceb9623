import Edm.Effects.Prog

/-!
# Which exceptions escape

`Prog.Raises P` says that no exception outside `P` escapes from a program as
long as none of its calls is answered with one. Over a machine that keeps to
this, all exceptions a run ends with are in `P` (`Raises.of_run`).
-/

namespace Edm.Effects

namespace Prog

variable {C : Type} {R : C → Type} {E α β S : Type}

def Raises (P : E → Prop) : Prog C R E α → Prop
  | .pure _ => True
  | .raise e => P e
  | .call _ next => (∀ r, (next (.ok r)).Raises P) ∧ ∀ e, P e → (next (.error e)).Raises P

namespace Raises

variable {P : E → Prop}

@[simp] theorem pure (a : α) : (Pure.pure a : Prog C R E α).Raises P := trivial

theorem ofExcept {x : Except E α} (h : ∀ e, x = .error e → P e) :
    (Prog.ofExcept x : Prog C R E α).Raises P := by
  cases x with
  | ok a => trivial
  | error e => exact h e rfl

theorem perform (c : C) : (Prog.perform c : Prog C R E (R c)).Raises P :=
  ⟨fun _ => trivial, fun _ he => he⟩

theorem bind {p : Prog C R E α} {f : α → Prog C R E β} (hp : p.Raises P)
    (hf : ∀ a, (f a).Raises P) : (p >>= f).Raises P := by
  induction p with
  | pure a => exact hf a
  | raise e => exact hp
  | call c next ih => exact ⟨fun r => ih (.ok r) (hp.1 r), fun e he => ih (.error e) (hp.2 e he)⟩

theorem tryCatch {p : Prog C R E α} {handler : E → Prog C R E α} (hp : p.Raises P)
    (hh : ∀ e, P e → (handler e).Raises P) : (p.tryCatch handler).Raises P := by
  induction p with
  | pure a => trivial
  | raise e => exact hh e hp
  | call c next ih => exact ⟨fun r => ih (.ok r) (hp.1 r), fun e he => ih (.error e) (hp.2 e he)⟩

/-- An exception that a run ends with is one of those. -/
theorem of_run {Q : C → Prop} {m : Machine C R E S}
    (hm : ∀ c s e, Q c → (m c s).1 = .error e → P e) {p : Prog C R E α} (hcalls : p.Calls Q)
    (h : p.Raises P) {s : S} {e : E} (hrun : (p.run m s).1 = .error e) : P e := by
  induction p generalizing s with
  | pure a => cases hrun
  | raise e' =>
    cases hrun
    exact h
  | call c next ih =>
    have hnext : (next (m c s).1).Raises P := by
      cases hanswer : (m c s).1 with
      | ok r => exact h.1 r
      | error e' => exact h.2 e' (hm c s e' hcalls.1 hanswer)
    exact ih _ (hcalls.2 _) hnext hrun

end Raises

end Prog

end Edm.Effects
