import Edm.Effects.Interleave

/-!
# Programs that take effect at once

A program takes effect at once if, amid changes within `Rely`, one of its calls
changes a view of the state as `eff` says and none of the others changes it
(`Prog.Linearizes`). Programs of which each relies on no more than the effects of
the others leave it leave the view, run interleaved, as their effects in some order
do. Each has its place in that order at one of its own calls
(`Interleaved.linearizes`).
-/

namespace Edm.Effects

variable {C : Type} {R : C → Type} {E S V α β : Type}

namespace Prog

def Finished : Prog C R E α → Prop
  | .call _ _ => False
  | _ => True

/-- No call of the program changes the view. -/
def Silent (view : S → V) (m : Machine C R E S) : Prog C R E α → Prop
  | .pure _ => True
  | .raise _ => True
  | .call c next => ∀ s, view (m c s).2 = view s ∧ (next (m c s).1).Silent view m

/-- Before it ends, one call of the program changes the view as `eff` says, and no
other call changes it. -/
def Linearizes (Rely : V → V → Prop) (view : S → V) (eff : V → V) (m : Machine C R E S) :
    Prog C R E α → S → Prop
  | .pure _, _ => False
  | .raise _, _ => False
  | .call c next, s => ∀ s₁, Rely (view s) (view s₁) →
      view (m c s₁).2 = view s₁ ∧ (next (m c s₁).1).Linearizes Rely view eff m (m c s₁).2 ∨
      view (m c s₁).2 = eff (view s₁) ∧ (next (m c s₁).1).Silent view m

variable {Rely : V → V → Prop} {view : S → V} {eff : V → V} {m : Machine C R E S}

theorem Silent.of_calls {P : C → Prop} (hsame : ∀ c s, P c → view (m c s).2 = view s)
    {p : Prog C R E α} (h : p.Calls P) : p.Silent view m := by
  induction p with
  | pure a => trivial
  | raise e => trivial
  | call c next ih => exact fun s => ⟨hsame c s h.1, ih _ (h.2 _)⟩

theorem Silent.bind {p : Prog C R E α} {f : α → Prog C R E β} (hp : p.Silent view m)
    (hf : ∀ a, (f a).Silent view m) : (p >>= f).Silent view m := by
  induction p with
  | pure a => exact hf a
  | raise e => trivial
  | call c next ih => exact fun s => ⟨(hp s).1, ih _ (hp s).2⟩

namespace Linearizes

theorem not_finished {p : Prog C R E α} {s : S} (h : p.Linearizes Rely view eff m s) :
    ¬p.Finished := by
  cases p with
  | pure a => exact h.elim
  | raise e => exact h.elim
  | call c next => exact id

theorem mono (htrans : ∀ a b c, Rely a b → Rely b c → Rely a c) {p : Prog C R E α} {s s' : S}
    (h : p.Linearizes Rely view eff m s) (hs : Rely (view s) (view s')) :
    p.Linearizes Rely view eff m s' := by
  cases p with
  | pure a => exact h
  | raise e => exact h
  | call c next => exact fun s₁ hs₁ => h s₁ (htrans _ _ _ hs hs₁)

theorem perform {c : C} {s : S}
    (hc : ∀ s₁, Rely (view s) (view s₁) → view (m c s₁).2 = eff (view s₁)) :
    (Prog.perform c : Prog C R E (R c)).Linearizes Rely view eff m s := by
  intro s₁ hs₁
  refine .inr ⟨hc s₁ hs₁, ?_⟩
  cases (m c s₁).1 <;> trivial

/-- A program that takes effect with its first call. -/
theorem perform_bind {c : C} {f : R c → Prog C R E α} {s : S}
    (hc : ∀ s₁, Rely (view s) (view s₁) → view (m c s₁).2 = eff (view s₁))
    (hf : ∀ r, (f r).Silent view m) :
    ((Prog.perform c : Prog C R E (R c)) >>= f).Linearizes Rely view eff m s := by
  intro s₁ hs₁
  refine .inr ⟨hc s₁ hs₁, ?_⟩
  cases (m c s₁).1 with
  | ok r => exact hf r
  | error e => trivial

/-- A program that reads first takes effect when it goes on, or by raising. -/
theorem read_bind {c : C} {f : R c → Prog C R E α} {s : S}
    (hread : ∀ s₁, view (m c s₁).2 = view s₁)
    (hok : ∀ s₁ r, (m c s₁).1 = .ok r → (f r).Linearizes Rely view eff m (m c s₁).2)
    (herror : ∀ s₁ e, (m c s₁).1 = .error e → eff (view s₁) = view s₁) :
    ((Prog.perform c : Prog C R E (R c)) >>= f).Linearizes Rely view eff m s := by
  intro s₁ _
  cases hr : (m c s₁).1 with
  | ok r => exact .inl ⟨hread s₁, hok s₁ r hr⟩
  | error e => exact .inr ⟨(hread s₁).trans (herror s₁ e hr).symm, trivial⟩

theorem bind {p : Prog C R E α} {f : α → Prog C R E β} {s : S}
    (hp : p.Linearizes Rely view eff m s) (hf : ∀ a, (f a).Silent view m) :
    (p >>= f).Linearizes Rely view eff m s := by
  induction p generalizing s with
  | pure a => exact hp.elim
  | raise e => exact hp.elim
  | call c next ih =>
    intro s₁ hs₁
    refine (hp s₁ hs₁).imp ?_ ?_
    · exact fun hnext => ⟨hnext.1, ih _ hnext.2⟩
    · exact fun hnext => ⟨hnext.1, hnext.2.bind hf⟩

end Linearizes

/-- The program is silent once it has had its effect, and has it still to come if
it has not even started or not ended. -/
def Pending (Rely : V → V → Prop) (view : S → V) (eff : V → V) (m : Machine C R E S) (had : Prop)
    (p : Prog C R E α) (s : S) : Prop :=
  had ∧ p.Silent view m ∨ ¬had ∧ (p.Finished ∨ p.Linearizes Rely view eff m s)

theorem Pending.mono (htrans : ∀ a b c, Rely a b → Rely b c → Rely a c) {had : Prop}
    {p : Prog C R E α} {s s' : S} (h : Pending Rely view eff m had p s)
    (hs : Rely (view s) (view s')) : Pending Rely view eff m had p s' :=
  h.imp_right fun hwaits => ⟨hwaits.1, hwaits.2.imp_right fun hp => hp.mono htrans hs⟩

end Prog

namespace Interleaved

open Prog

variable {ι : Type} [DecidableEq ι] {Rely : ι → V → V → Prop} {view : S → V} {eff : ι → V → V}
  {m : ι → Machine C R E S} {ps ps' : ι → Prog C R E α} {s s' : S}
  {tr : List (Issued ι C R E S)}

/-- Those that have had their effect stay silent, the others have theirs in some order. -/
theorem exists_order (hrefl : ∀ i v, Rely i v v)
    (htrans : ∀ i a b c, Rely i a b → Rely i b c → Rely i a c)
    (hothers : ∀ i j, i ≠ j → ∀ v, Rely i v (eff j v)) (h : Interleaved m ps s tr ps' s')
    (had : ι → Prop) (hps : ∀ i, Pending (Rely i) view (eff i) (m i) (had i) (ps i) s) :
    ∃ order : List ι, order.Nodup ∧ (∀ i ∈ order, ¬had i) ∧ order.Sublist (tr.map (·.who)) ∧
      (∀ i, ¬had i → ¬(ps i).Finished → (ps' i).Finished → i ∈ order) ∧
      view s' = order.foldl (fun v i => eff i v) (view s) := by
  induction h generalizing had with
  | done ps s => exact ⟨[], .nil, nofun, .slnil, fun i _ hcall hend => absurd hend hcall, rfl⟩
  | @step ps ps' s s' tr j c next hj rest ih =>
    -- the others, after a call of `j` that leaves them what they rely on
    have hrest (had' : ι → Prop) (hsame : ∀ i, i ≠ j → (had' i ↔ had i))
        (hrely : ∀ i, i ≠ j → Rely i (view s) (view (m j c s).2))
        (hnext : Pending (Rely j) view (eff j) (m j) (had' j) (next (m j c s).1) (m j c s).2) :
        ∀ i, Pending (Rely i) view (eff i) (m i) (had' i)
          (Function.update ps j (next (m j c s).1) i) (m j c s).2 := by
      intro i
      by_cases hij : i = j
      · subst hij
        rw [Function.update_self]
        exact hnext
      · rw [Function.update_of_ne hij, propext (hsame i hij)]
        exact (hps i).mono (htrans i) (hrely i hij)
    have hother {i : ι} (hij : i ≠ j) (hcall : ¬(ps i).Finished) :
        ¬(Function.update ps j (next (m j c s).1) i).Finished := by
      rw [Function.update_of_ne hij]
      exact hcall
    have hstatus := hps j
    rw [hj] at hstatus
    rcases hstatus with ⟨hhad, hsilent⟩ | ⟨hhad, hend | hlin⟩
    · obtain ⟨hview, hnext⟩ := hsilent s
      obtain ⟨order, hnodup, hnew, hsub, hin, hfold⟩ := ih had
        (hrest had (fun _ _ => Iff.rfl) (fun i _ => hview ▸ hrefl i _) (.inl ⟨hhad, hnext⟩))
      refine ⟨order, hnodup, hnew, hsub.cons _, ?_, hview ▸ hfold⟩
      intro i hnot hcall hend
      refine hin i hnot (hother ?_ hcall) hend
      rintro rfl
      exact hnot hhad
    · exact hend.elim
    · rcases hlin s (hrefl j _) with ⟨hview, hnext⟩ | ⟨hview, hnext⟩
      · obtain ⟨order, hnodup, hnew, hsub, hin, hfold⟩ := ih had
          (hrest had (fun _ _ => Iff.rfl) (fun i _ => hview ▸ hrefl i _) (.inr ⟨hhad, .inr hnext⟩))
        refine ⟨order, hnodup, hnew, hsub.cons _, ?_, hview ▸ hfold⟩
        intro i hnot hcall hend
        refine hin i hnot ?_ hend
        by_cases hij : i = j
        · subst hij
          rw [Function.update_self]
          exact hnext.not_finished
        · exact hother hij hcall
      · obtain ⟨order, hnodup, hnew, hsub, hin, hfold⟩ := ih (fun i => i = j ∨ had i)
          (hrest _ (fun i hij => or_iff_right hij) (fun i hij => hview ▸ hothers i j hij _)
            (.inl ⟨.inl rfl, hnext⟩))
        refine ⟨j :: order, List.nodup_cons.2 ⟨fun hmem => hnew j hmem (.inl rfl), hnodup⟩, ?_,
          hsub.cons_cons _, ?_, ?_⟩
        · intro i hi
          rcases List.mem_cons.1 hi with rfl | hi
          · exact hhad
          · exact fun hi' => hnew i hi (.inr hi')
        · intro i hnot hcall hend
          by_cases hij : i = j
          · exact hij ▸ List.mem_cons_self
          · exact List.mem_cons_of_mem _
              (hin i (not_or.2 ⟨hij, hnot⟩) (hother hij hcall) hend)
        · rw [hfold, hview]
          rfl

/-- **Programs that take effect at once have their effects in some order**, each at
the time of one of its own calls. -/
theorem linearizes (Rely : ι → V → V → Prop) (view : S → V) (eff : ι → V → V)
    (hrefl : ∀ i v, Rely i v v)
    (htrans : ∀ i a b c, Rely i a b → Rely i b c → Rely i a c)
    (hothers : ∀ i j, i ≠ j → ∀ v, Rely i v (eff j v)) (h : Interleaved m ps s tr ps' s')
    (hps : ∀ i, (ps i).Finished ∨ (ps i).Linearizes (Rely i) view (eff i) (m i) s) :
    ∃ order : List ι, order.Nodup ∧ order.Sublist (tr.map (·.who)) ∧
      (∀ i, ¬(ps i).Finished → (ps' i).Finished → i ∈ order) ∧
      view s' = order.foldl (fun v i => eff i v) (view s) := by
  obtain ⟨order, hnodup, -, hsub, hin, hview⟩ :=
    h.exists_order hrefl htrans hothers (fun _ => False) fun i => .inr ⟨id, hps i⟩
  exact ⟨order, hnodup, hsub, fun i => hin i id, hview⟩

end Interleaved

end Edm.Effects
