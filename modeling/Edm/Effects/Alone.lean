import Edm.Effects.Interleave

/-!
# A program amid others runs as if alone

If what the others do keeps a relation between the state and one in which the
program runs alone, and the program's own calls are answered alike in related
states, then it makes the same calls and ends in the same way
(`Interleaved.alone`). `CallsGiven` says which calls a program makes if its own
calls are answered in certain ways.
-/

namespace Edm.Effects

variable {C : Type} {R : C → Type} {E S α β : Type}

namespace Prog

/-- Every call satisfies `P` on the paths on which all answers satisfy `Q`. -/
def CallsGiven (Q : (c : C) → Except E (R c) → Prop) (P : C → Prop) : Prog C R E α → Prop
  | .pure _ => True
  | .raise _ => True
  | .call c next => P c ∧ ∀ r, Q c r → (next r).CallsGiven Q P

namespace CallsGiven

variable {Q : (c : C) → Except E (R c) → Prop} {P : C → Prop}

theorem of_calls {p : Prog C R E α} (h : p.Calls P) : p.CallsGiven Q P := by
  induction p with
  | pure a => trivial
  | raise e => trivial
  | call c next ih => exact ⟨h.1, fun r _ => ih r (h.2 r)⟩

theorem bind {p : Prog C R E α} {f : α → Prog C R E β} (hp : p.CallsGiven Q P)
    (hf : ∀ a, (f a).CallsGiven Q P) : (p >>= f).CallsGiven Q P := by
  induction p with
  | pure a => exact hf a
  | raise e => trivial
  | call c next ih => exact ⟨hp.1, fun r hr => ih r (hp.2 r hr)⟩

theorem perform_bind {c : C} {f : R c → Prog C R E α} (hc : P c)
    (hf : ∀ r, Q c (.ok r) → (f r).CallsGiven Q P) :
    ((Prog.perform c : Prog C R E (R c)) >>= f).CallsGiven Q P := by
  refine ⟨hc, ?_⟩
  intro r hr
  cases r with
  | ok r => exact hf r hr
  | error e => trivial

/-- What a program logs on a machine that keeps `I` and gives such answers. -/
theorem of_mem_log {p : Prog C R E α} (h : p.CallsGiven Q P) {m : Machine C R E S} {I : S → Prop}
    (hm : ∀ c s, I s → Q c (m c s).1 ∧ I (m c s).2) {s : S} (hs : I s) {ev : Event C R E S}
    (hev : ev ∈ p.log m s) : I ev.before ∧ P ev.call := by
  induction p generalizing s with
  | pure a => cases hev
  | raise e => cases hev
  | call c next ih =>
    obtain ⟨hanswer, hafter⟩ := hm c s hs
    rcases List.mem_cons.1 hev with rfl | hev
    · exact ⟨hs, h.1⟩
    · exact ih _ (h.2 _ hanswer) hafter hev

end CallsGiven

/-- What is left of a program that would return from here did not raise, and if it
has returned it is at its end. -/
theorem ends_of_run {p : Prog C R E α} {m : Machine C R E S} {s : S} {a : α}
    (hok : (p.run m s).1 = .ok a) :
    (∀ e, p ≠ .raise e) ∧ ∀ a', p = .pure a' → (p.run m s).2 = s := by
  refine ⟨?_, ?_⟩
  · rintro e rfl
    cases hok
  · rintro a' rfl
    rfl

/-- What the opening calls of a log set up and no call takes away holds at each use. -/
theorem Guarded.holds_at_use {Opens : (c : C) → Except E (R c) → Prop} {Use : C → Prop}
    {p : Prog C R E α} {m : Machine C R E S} {J : S → Prop} {s : S}
    (h : p.Guarded Opens Use ∨ J s)
    (hopens : ∀ ev ∈ p.log m s, Opens ev.call ev.answer → J ev.after)
    (hkeeps : ∀ ev ∈ p.log m s, J ev.before → J ev.after) :
    ∀ ev ∈ p.log m s, Use ev.call → J ev.before := by
  induction p generalizing s with
  | pure a => exact nofun
  | raise e => exact nofun
  | call c next ih =>
    have hnext : (next (m c s).1).Guarded Opens Use ∨ J (m c s).2 := by
      rcases h with hguarded | hJ
      · exact (hguarded.2 (m c s).1).symm.imp_right (hopens _ List.mem_cons_self)
      · exact .inr (hkeeps _ List.mem_cons_self hJ)
    intro ev hev huse
    rcases List.mem_cons.1 hev with rfl | hev
    · rcases h with hguarded | hJ
      · exact absurd huse hguarded.1
      · exact hJ
    · exact ih _ hnext (fun ev' hev' => hopens ev' (List.mem_cons_of_mem _ hev'))
        (fun ev' hev' => hkeeps ev' (List.mem_cons_of_mem _ hev')) ev hev huse

end Prog

namespace Interleaved

variable {ι : Type} [DecidableEq ι] {m : ι → Machine C R E S} {ps ps' : ι → Prog C R E α}
  {s s' : S} {tr : List (Issued ι C R E S)} {i : ι}

/-- The calls of a program whose own calls are answered so. -/
theorem calls_given {Q : (c : C) → Except E (R c) → Prop} {P : C → Prop}
    (h : Interleaved m ps s tr ps' s') (hp : (ps i).CallsGiven Q P)
    (hQ : ∀ e ∈ tr, e.who = i → Q e.call e.answer) : ∀ e ∈ tr, e.who = i → P e.call := by
  induction h with
  | done => exact nofun
  | @step ps ps' s s' tr j c next hj rest ih =>
    have hrest := fun e he => hQ e (List.mem_cons_of_mem _ he)
    intro e he hwho
    by_cases hij : i = j
    · subst hij
      rw [hj] at hp
      rcases List.mem_cons.1 he with rfl | he
      · exact hp.1
      · refine ih ?_ hrest e he hwho
        rw [Function.update_self]
        exact hp.2 _ (hQ _ List.mem_cons_self rfl)
    · rcases List.mem_cons.1 he with rfl | he
      · exact absurd hwho.symm hij
      · refine ih ?_ hrest e he hwho
        rw [Function.update_of_ne hij]
        exact hp

/-- What every call keeps holds before each of them. -/
theorem holds_before {I : S → Prop} (h : Interleaved m ps s tr ps' s') (hs : I s)
    (hkeeps : ∀ j c a, I a → I (m j c a).2) : ∀ e ∈ tr, I e.before := by
  induction h with
  | done => exact nofun
  | @step ps ps' s s' tr j c next hj rest ih =>
    intro e he
    rcases List.mem_cons.1 he with rfl | he
    · exact hs
    · exact ih (hkeeps j c s hs) e he

/-- The states at both ends are related as those around each event are. -/
theorem rel {P : S → S → Prop} (hrefl : ∀ a, P a a) (htrans : ∀ a b c, P a b → P b c → P a c)
    (h : Interleaved m ps s tr ps' s') (hevents : ∀ e ∈ tr, P e.after e.before) : P s' s := by
  induction h with
  | done ps s => exact hrefl s
  | step j hj rest ih =>
    exact htrans _ _ _ (ih fun e he => hevents e (List.mem_cons_of_mem _ he))
      (hevents _ List.mem_cons_self)

/-- A program has not started yet, or a first call of it splits the trace. -/
theorem exists_first {c : C} {next : Except E (R c) → Prog C R E α}
    (h : Interleaved m ps s tr ps' s') (hi : ps i = .call c next) :
    ps' i = .call c next ∨ ∃ tr₁ ps₁ s₁ tr₂, Interleaved m ps s tr₁ ps₁ s₁ ∧
      (∀ e ∈ tr₁, e.who ≠ i) ∧ ps₁ i = .call c next ∧
      Interleaved m (Function.update ps₁ i (next (m i c s₁).1)) (m i c s₁).2 tr₂ ps' s' ∧
      tr = tr₁ ++ ⟨⟨s₁, c, (m i c s₁).1, (m i c s₁).2⟩, i⟩ :: tr₂ := by
  induction h with
  | done => exact .inl hi
  | @step ps ps' s s' tr j c' next' hj rest ih =>
    by_cases hij : i = j
    · subst hij
      rw [hj] at hi
      cases hi
      exact .inr ⟨[], ps, s, tr, .done ps s, nofun, hj, rest, rfl⟩
    · have hi' : Function.update ps j (next' (m j c' s).1) i = .call c next :=
        (Function.update_of_ne hij _ _).trans hi
      refine (ih hi').imp_right ?_
      rintro ⟨tr₁, ps₁, s₁, tr₂, hbefore, hothers, hnext, hafter, rfl⟩
      refine ⟨_ :: tr₁, ps₁, s₁, tr₂, .step j hj hbefore, ?_, hnext, hafter, rfl⟩
      intro e he
      rcases List.mem_cons.1 he with rfl | he
      · exact fun hwho => hij hwho.symm
      · exact hothers e he

/-- **Amid others that keep the relation a program does what it does alone.** `K`
holds when a call is made amid the others, `L` when it is made alone. -/
theorem alone {P : S → S → Prop} {K L : C → S → Prop} (h : Interleaved m ps s tr ps' s') {t : S}
    (hst : P s t)
    (hown : ∀ c a b, K c a → L c b → P a b →
      (m i c a).1 = (m i c b).1 ∧ P (m i c a).2 (m i c b).2)
    (hothers : ∀ e ∈ tr, e.who ≠ i → ∀ b, P e.before b → P e.after b)
    (hK : ∀ e ∈ tr, e.who = i → K e.call e.before)
    (hL : ∀ ev ∈ (ps i).log (m i) t, L ev.call ev.before) :
    ∃ t', P s' t' ∧ (ps' i).run (m i) t' = (ps i).run (m i) t := by
  induction h generalizing t with
  | done => exact ⟨t, hst, rfl⟩
  | @step ps ps' s s' tr j c next hj rest ih =>
    have hrest := fun e he => hothers e (List.mem_cons_of_mem _ he)
    have hrestK := fun e he => hK e (List.mem_cons_of_mem _ he)
    by_cases hij : i = j
    · subst hij
      rw [hj] at hL ⊢
      obtain ⟨hanswer, hafter⟩ := hown c s t (hK _ List.mem_cons_self rfl)
        (hL _ List.mem_cons_self) hst
      obtain ⟨t', hP, hrun⟩ := ih hafter hrest hrestK (by
        rw [Function.update_self, hanswer]
        exact fun ev hev => hL ev (List.mem_cons_of_mem _ hev))
      refine ⟨t', hP, hrun.trans ?_⟩
      rw [Function.update_self, hanswer]
      rfl
    · have hsame : Function.update ps j (next (m j c s).1) i = ps i := Function.update_of_ne hij _ _
      obtain ⟨t', hP, hrun⟩ := ih
        (hothers _ List.mem_cons_self (fun hwho => hij hwho.symm) t hst) hrest hrestK
        (by rw [hsame]; exact hL)
      exact ⟨t', hP, hrun.trans (by rw [hsame])⟩

end Interleaved

end Edm.Effects
