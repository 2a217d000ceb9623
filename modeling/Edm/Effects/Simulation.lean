import Edm.Effects.Prog

/-!
# One program on two machines

`p.Alike m m' P Q` is a triple of relational Hoare logic for one program: from
states that `P` relates it ends with the same result on both machines, and in
states that `Q` relates. There is a rule for each way to build a program; after
the first part of a `bind` only results count that it can have.
-/

namespace Edm.Effects

namespace Prog

variable {C : Type} {R : C → Type} {E α β S T : Type}

def Alike (m : Machine C R E S) (m' : Machine C R E T) (P : S → T → Prop) (p : Prog C R E α)
    (Q : S → T → Prop) : Prop :=
  ∀ s t, P s t → (p.run m s).1 = (p.run m' t).1 ∧ Q (p.run m s).2 (p.run m' t).2

namespace Alike

variable {m : Machine C R E S} {m' : Machine C R E T} {P Q Z : S → T → Prop}
  {p : Prog C R E α}

theorem pure (a : α) : Alike m m' P (Pure.pure a : Prog C R E α) P := fun _ _ h => ⟨rfl, h⟩

theorem ofExcept (x : Except E α) : Alike m m' P (.ofExcept x : Prog C R E α) P := by
  intro s t h
  rw [run_ofExcept, run_ofExcept]
  exact ⟨rfl, h⟩

theorem perform {c : C}
    (h : ∀ s t, P s t → (m c s).1 = (m' c t).1 ∧ Q (m c s).2 (m' c t).2) :
    Alike m m' P (.perform c : Prog C R E (R c)) Q := by
  intro s t hP
  rw [run_perform, run_perform]
  exact h s t hP

theorem weaken (h : Alike m m' P p Q) (hQ : ∀ s t, Q s t → Z s t) : Alike m m' P p Z :=
  fun s t hP => (h s t hP).imp_right (hQ _ _)

/-- The second part need be alike only for the results of the first. -/
theorem bind {f : α → Prog C R E β} (hp : Alike m m' P p Q)
    (hf : ∀ a, (∃ s t, P s t ∧ (p.run m' t).1 = .ok a) → Alike m m' Q (f a) Z)
    (hQ : ∀ s t, Q s t → Z s t) : Alike m m' P (p >>= f) Z := by
  intro s t hP
  obtain ⟨hresult, hstates⟩ := hp s t hP
  rw [run_bind, run_bind]
  rcases hrun : p.run m s with ⟨r, s'⟩
  rcases hrun' : p.run m' t with ⟨r', t'⟩
  rw [hrun, hrun'] at hresult hstates
  obtain rfl : r = r' := hresult
  cases r with
  | ok a => exact hf a ⟨s, t, hP, congrArg Prod.fst hrun'⟩ s' t' hstates
  | error e => exact ⟨rfl, hQ s' t' hstates⟩

theorem tryCatch {handler : E → Prog C R E α} (hp : Alike m m' P p Q)
    (hh : ∀ e, Alike m m' Q (handler e) Z) (hQ : ∀ s t, Q s t → Z s t) :
    Alike m m' P (p.tryCatch handler) Z := by
  intro s t hP
  obtain ⟨hresult, hstates⟩ := hp s t hP
  rw [run_tryCatch, run_tryCatch]
  rcases hrun : p.run m s with ⟨r, s'⟩
  rcases hrun' : p.run m' t with ⟨r', t'⟩
  rw [hrun, hrun'] at hresult hstates
  obtain rfl : r = r' := hresult
  cases r with
  | ok a => exact ⟨rfl, hQ s' t' hstates⟩
  | error e => exact hh e s' t' hstates

/-- Calls that are answered alike and keep the states related. -/
theorem of_calls {K : C → Prop}
    (hm : ∀ c s t, K c → P s t → (m c s).1 = (m' c t).1 ∧ P (m c s).2 (m' c t).2)
    (hp : p.Calls K) : Alike m m' P p P := by
  intro s t hP
  induction p generalizing s t with
  | pure a => exact ⟨rfl, hP⟩
  | raise e => exact ⟨rfl, hP⟩
  | call c next ih =>
    obtain ⟨hanswer, hstates⟩ := hm c s t hp.1 hP
    have hnext := ih (m c s).1 (hp.2 _) _ _ hstates
    rw [run, run, ← hanswer]
    exact hnext

end Alike

end Prog

end Edm.Effects
