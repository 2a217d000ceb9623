import Edm.Effects.Run
import Edm.Effects.Prog

/-!
# Programs cut short

A process that dies leaves its program cut short after some of its calls
(`Prog.runFor`). If the calls of the program come in the order of their stages
(`Prog.Ascending`), and a call of each stage can be refused without an effect
(`Stoppable`), the state it leaves is one that a whole run leaves in which the
calls from some stage on are refused (`Ascending.exists_run_eq_runFor`). So what
is known of whole runs, whatever is refused in them, holds of crashes as well.
-/

namespace Edm.Effects

variable {C : Type} {R : C → Type} {E S α β : Type}

namespace Prog

/-- The state a program leaves that is cut short after so many calls. -/
def runFor (m : Machine C R E S) : Nat → Prog C R E α → S → S
  | 0, _, s => s
  | _ + 1, .pure _, s => s
  | _ + 1, .raise _, s => s
  | n + 1, .call c next, s => runFor m n (next (m c s).1) (m c s).2

section RunFor

variable (m : Machine C R E S) (n : Nat) (s : S)

@[simp] theorem runFor_pure (a : α) : (Pure.pure a : Prog C R E α).runFor m n s = s := by
  cases n <;> rfl

@[simp] theorem runFor_raise (e : E) : (raise e : Prog C R E α).runFor m n s = s := by
  cases n <;> rfl

/-- One call is made or not. -/
theorem runFor_perform (c : C) :
    (perform c : Prog C R E (R c)).runFor m n s = if n = 0 then s else (m c s).2 := by
  cases n with
  | zero => rfl
  | succ n =>
    unfold perform runFor
    rcases m c s with ⟨r | r, s'⟩ <;> cases n <;> rfl

/-- A program is cut short in its first part, or in the second after the whole
of the first. -/
theorem runFor_bind (p : Prog C R E α) (f : α → Prog C R E β) :
    (p >>= f).runFor m n s = p.runFor m n s ∨
      ∃ a s' k, p.run m s = (.ok a, s') ∧ (p >>= f).runFor m n s = (f a).runFor m k s' := by
  induction p generalizing n s with
  | pure a => exact .inr ⟨a, s, n, rfl, rfl⟩
  | raise e => exact .inl ((runFor_raise m n s e).trans (runFor_raise m n s e).symm)
  | call c next ih =>
    cases n with
    | zero => exact .inl rfl
    | succ n => exact ih (m c s).1 n (m c s).2

theorem runFor_bind_pure (p : Prog C R E α) (f : α → β) :
    (p >>= fun a => Pure.pure (f a)).runFor m n s = p.runFor m n s := by
  induction p generalizing n s with
  | pure a => exact (runFor_pure m n s (f a)).trans (runFor_pure m n s a).symm
  | raise e => exact (runFor_raise m n s e).trans (runFor_raise m n s e).symm
  | call c next ih =>
    cases n with
    | zero => rfl
    | succ n => exact ih (m c s).1 n (m c s).2

/-- A call that is answered with a reply goes on with it. -/
theorem runFor_succ_perform_bind {c : C} (f : R c → Prog C R E α) {r : R c} {s' : S}
    (h : m c s = (.ok r, s')) :
    ((perform c : Prog C R E (R c)) >>= f).runFor m (n + 1) s = (f r).runFor m n s' := by
  show runFor m n (Prog.bind _ f) (m c s).2 = _
  rw [h]
  rfl

/-- A call that is answered with an exception is the last. -/
theorem runFor_succ_perform_bind_error {c : C} (f : R c → Prog C R E α) {e : E} {s' : S}
    (h : m c s = (.error e, s')) :
    ((perform c : Prog C R E (R c)) >>= f).runFor m (n + 1) s = s' := by
  show runFor m n (Prog.bind _ f) (m c s).2 = _
  rw [h]
  exact runFor_raise m n s' e

end RunFor

/-! ## Stages -/

/-- Each call on a path of the program is of a later stage than those before
it, the first of stage `lo` at least and none of stage `hi`. Calls without a
stage may come anywhere. -/
def Ascending (stage : C → Option Nat) (hi : Nat) : Prog C R E α → Nat → Prop
  | .pure _, _ => True
  | .raise _, _ => True
  | .call c next, lo => (∀ r, stage c = some r → lo ≤ r ∧ r < hi) ∧
      ∀ x, (next x).Ascending stage hi ((stage c).elim lo (· + 1))

namespace Ascending

variable {stage : C → Option Nat} {lo hi : Nat}

@[simp] theorem pure (a : α) : (Pure.pure a : Prog C R E α).Ascending stage hi lo := trivial

@[simp] theorem raise (e : E) : (Prog.raise e : Prog C R E α).Ascending stage hi lo := trivial

@[simp] theorem ofExcept (x : Except E α) :
    (Prog.ofExcept x : Prog C R E α).Ascending stage hi lo := by
  cases x <;> trivial

/-- A program may start and end at other stages than it does. -/
theorem mono {p : Prog C R E α} {lo' hi' : Nat} (h : p.Ascending stage hi lo) (hlo : lo' ≤ lo)
    (hhi : hi ≤ hi') : p.Ascending stage hi' lo' := by
  induction p generalizing lo lo' with
  | pure a => trivial
  | raise e => trivial
  | call c next ih =>
    refine ⟨?_, ?_⟩
    · intro r hr
      have hbounds := h.1 r hr
      omega
    · intro x
      refine ih x (h.2 x) ?_
      cases stage c with
      | none => exact hlo
      | some r => exact Nat.le_refl _

theorem perform {c : C} (h : ∀ r, stage c = some r → lo ≤ r ∧ r < hi) :
    (Prog.perform c : Prog C R E (R c)).Ascending stage hi lo := by
  refine ⟨h, ?_⟩
  intro x
  cases x <;> trivial

theorem bind (mid : Nat) {p : Prog C R E α} {f : α → Prog C R E β}
    (hp : p.Ascending stage mid lo) (hf : ∀ a, (f a).Ascending stage hi mid)
    (hlo : lo ≤ mid := by omega) (hhi : mid ≤ hi := by omega) :
    (p >>= f).Ascending stage hi lo := by
  induction p generalizing lo with
  | pure a => exact (hf a).mono hlo (Nat.le_refl hi)
  | raise e => trivial
  | call c next ih =>
    refine ⟨?_, ?_⟩
    · intro r hr
      have hbounds := hp.1 r hr
      omega
    · intro x
      refine ih x (hp.2 x) ?_
      cases hc : stage c with
      | none => exact hlo
      | some r => exact (hp.1 r hc).2

theorem tryCatch (mid : Nat) {p : Prog C R E α} {handler : E → Prog C R E α}
    (hp : p.Ascending stage mid lo) (hh : ∀ e, (handler e).Ascending stage hi mid)
    (hlo : lo ≤ mid := by omega) (hhi : mid ≤ hi := by omega) :
    (p.tryCatch handler).Ascending stage hi lo := by
  induction p generalizing lo with
  | pure a => trivial
  | raise e => exact (hh e).mono hlo (Nat.le_refl hi)
  | call c next ih =>
    refine ⟨?_, ?_⟩
    · intro r hr
      have hbounds := hp.1 r hr
      omega
    · intro x
      refine ih x (hp.2 x) ?_
      cases hc : stage c with
      | none => exact hlo
      | some r => exact (hp.1 r hc).2

end Ascending

end Prog

/-- `stopped t` answers the `P` calls of the stages before `t` as `m` does, and
those of the others without an effect. Calls without a stage have none at all. -/
structure Stoppable (P : C → Prop) (stage : C → Option Nat) (m : Machine C R E S)
    (stopped : Nat → Machine C R E S) : Prop where
  before : ∀ t c s, P c → (∀ r, stage c = some r → r < t) → stopped t c s = m c s
  after : ∀ t c s r, P c → stage c = some r → t ≤ r → (stopped t c s).2 = s
  quiet : ∀ c s, P c → stage c = none → (m c s).2 = s

namespace Prog.Ascending

variable {P : C → Prop} {stage : C → Option Nat} {hi lo : Nat} {m : Machine C R E S}
  {stopped : Nat → Machine C R E S} {p : Prog C R E α}

/-- A program whose stages are all refused changes nothing. -/
theorem run_stopped (hm : Stoppable P stage m stopped) (hp : p.Calls P)
    (h : p.Ascending stage hi lo) {t : Nat} (ht : t ≤ lo) (s : S) :
    (p.run (stopped t) s).2 = s := by
  induction p generalizing lo s with
  | pure a => rfl
  | raise e => rfl
  | call c next ih =>
    have hstate : (stopped t c s).2 = s := by
      cases hc : stage c with
      | none =>
        rw [hm.before t c s hp.1 (fun r hr => by rw [hc] at hr; cases hr)]
        exact hm.quiet c s hp.1 hc
      | some r => exact hm.after t c s r hp.1 hc (Nat.le_trans ht (h.1 r hc).1)
    have hstage : t ≤ (stage c).elim lo (· + 1) := by
      cases hc : stage c with
      | none => exact ht
      | some r => exact Nat.le_trans ht (Nat.le_succ_of_le (h.1 r hc).1)
    exact (ih _ (hp.2 _) (h.2 _) hstage _).trans hstate

/-- **A crash is a run in which all is refused from some stage on.** -/
theorem exists_run_eq_runFor (hm : Stoppable P stage m stopped) (hp : p.Calls P)
    (h : p.Ascending stage hi lo) (n : Nat) (s : S) :
    ∃ t, lo ≤ t ∧ (p.run (stopped t) s).2 = p.runFor m n s := by
  induction n generalizing p lo s with
  | zero => exact ⟨lo, Nat.le_refl lo, run_stopped hm hp h (Nat.le_refl lo) s⟩
  | succ n ih =>
    cases p with
    | pure a => exact ⟨lo, Nat.le_refl lo, rfl⟩
    | raise e => exact ⟨lo, Nat.le_refl lo, rfl⟩
    | call c next =>
      obtain ⟨t, ht, hrun⟩ := ih (hp.2 (m c s).1) (h.2 (m c s).1) (m c s).2
      have hstages : lo ≤ t ∧ ∀ r, stage c = some r → r < t := by
        cases hc : stage c with
        | none =>
          rw [hc] at ht
          exact ⟨ht, nofun⟩
        | some r =>
          rw [hc] at ht
          have hr := (h.1 r hc).1
          have hlt : r < t := ht
          refine ⟨by omega, ?_⟩
          rintro r' ⟨⟩
          exact hlt
      refine ⟨t, hstages.1, ?_⟩
      have hcall := hm.before t c s hp.1 hstages.2
      show ((next (stopped t c s).1).run (stopped t) (stopped t c s).2).2 = _
      rw [hcall]
      exact hrun

end Prog.Ascending

end Edm.Effects
