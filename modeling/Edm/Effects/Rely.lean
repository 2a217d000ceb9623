import Edm.Effects.Interleave

/-!
# Programs amid others

`Rely` is a reflexive and transitive relation that bounds what a program may
find changed between two of its calls. A program that `Respects` it changes no
more than that itself, whatever the others do within it. So programs that all
respect it keep to it when they run interleaved (`Interleaved.rely`), and each
of them runs as if alone amid changes within `Rely` (`Interleaved.runsAmid`).
`Maintains` is the same for an invariant.
-/

namespace Edm.Effects

variable {C : Type} {R : C → Type} {E S α β : Type}

namespace Prog

/-- Each call of the program changes the state within `Rely`, if between its
calls the state changes within `Rely`. -/
def Respects (Rely : S → S → Prop) (m : Machine C R E S) : Prog C R E α → S → Prop
  | .pure _, _ => True
  | .raise _, _ => True
  | .call c next, s => ∀ s₁, Rely s s₁ →
      Rely s₁ (m c s₁).2 ∧ (next (m c s₁).1).Respects Rely m (m c s₁).2

namespace Respects

variable {Rely : S → S → Prop} {m : Machine C R E S}

/-- What others change within `Rely` makes no difference. -/
theorem mono (htrans : ∀ a b c, Rely a b → Rely b c → Rely a c) {p : Prog C R E α} {s s' : S}
    (h : p.Respects Rely m s) (hs : Rely s s') : p.Respects Rely m s' := by
  cases p with
  | pure a => trivial
  | raise e => trivial
  | call c next => exact fun s₁ hs₁ => h s₁ (htrans _ _ _ hs hs₁)

theorem bind {p : Prog C R E α} {f : α → Prog C R E β} {s : S} (hp : p.Respects Rely m s)
    (hf : ∀ a s', (f a).Respects Rely m s') : (p >>= f).Respects Rely m s := by
  induction p generalizing s with
  | pure a => exact hf a s
  | raise e => trivial
  | call c next ih => exact fun s₁ hs₁ => ⟨(hp s₁ hs₁).1, ih _ (hp s₁ hs₁).2⟩

theorem perform {c : C} {s : S} (hc : ∀ s₁, Rely s₁ (m c s₁).2) :
    (Prog.perform c : Prog C R E (R c)).Respects Rely m s := by
  intro s₁ _
  refine ⟨hc s₁, ?_⟩
  cases (m c s₁).1 <;> trivial

/-- What is done with a reply may go by where the reply came from. -/
theorem perform_bind {c : C} {f : R c → Prog C R E α} {s : S}
    (hc : ∀ s₁, Rely s₁ (m c s₁).2)
    (hf : ∀ s₁ r, (m c s₁).1 = .ok r → (f r).Respects Rely m (m c s₁).2) :
    ((Prog.perform c : Prog C R E (R c)) >>= f).Respects Rely m s := by
  intro s₁ _
  refine ⟨hc s₁, ?_⟩
  cases hr : (m c s₁).1 with
  | ok r => exact hf s₁ r hr
  | error e => trivial

/-- Calls that keep to `Rely` in every state. -/
theorem of_calls {P : C → Prop} (hstep : ∀ c s, P c → Rely s (m c s).2) {p : Prog C R E α}
    (h : p.Calls P) (s : S) : p.Respects Rely m s := by
  induction p generalizing s with
  | pure a => trivial
  | raise e => trivial
  | call c next ih => exact fun s₁ _ => ⟨hstep c s₁ h.1, ih _ (h.2 _) _⟩

end Respects

end Prog

/-! ## Runs amid others -/

/-- The program runs to its end, with these calls of its own, while between them
the state changes within `Rely`. -/
inductive RunsAmid (Rely : S → S → Prop) (m : Machine C R E S) :
    Prog C R E α → S → List (Event C R E S) → Except E α → S → Prop where
  | pure {a : α} {s s' : S} (h : Rely s s') : RunsAmid Rely m (.pure a) s [] (.ok a) s'
  | raise {e : E} {s s' : S} (h : Rely s s') : RunsAmid Rely m (.raise e) s [] (.error e) s'
  | call {c : C} {next : Except E (R c) → Prog C R E α} {s s₁ s' : S}
      {log : List (Event C R E S)} {r : Except E α} (h : Rely s s₁)
      (rest : RunsAmid Rely m (next (m c s₁).1) (m c s₁).2 log r s') :
      RunsAmid Rely m (.call c next) s (⟨s₁, c, (m c s₁).1, (m c s₁).2⟩ :: log) r s'

namespace RunsAmid

variable {Rely : S → S → Prop} {m : Machine C R E S} {s s' : S} {log : List (Event C R E S)}

/-- Others may have come first. -/
theorem later (htrans : ∀ a b c, Rely a b → Rely b c → Rely a c) {p : Prog C R E α} {s₀ : S}
    {r : Except E α} (hs : Rely s₀ s) (h : RunsAmid Rely m p s log r s') :
    RunsAmid Rely m p s₀ log r s' := by
  cases h with
  | pure h => exact .pure (htrans _ _ _ hs h)
  | raise h => exact .raise (htrans _ _ _ hs h)
  | call h rest => exact .call (htrans _ _ _ hs h) rest

/-- Others may still come at the end. -/
theorem longer (htrans : ∀ a b c, Rely a b → Rely b c → Rely a c) {p : Prog C R E α} {s₁ : S}
    {r : Except E α} (h : RunsAmid Rely m p s log r s₁) (hs : Rely s₁ s') :
    RunsAmid Rely m p s log r s' := by
  induction h with
  | pure h => exact .pure (htrans _ _ _ h hs)
  | raise h => exact .raise (htrans _ _ _ h hs)
  | call h rest ih => exact .call h (ih hs)

/-- A run may be taken to start with its first call. -/
theorem from_first (hrefl : ∀ a, Rely a a) {p : Prog C R E α} {r : Except E α}
    {ev : Event C R E S} (h : RunsAmid Rely m p s (ev :: log) r s') :
    RunsAmid Rely m p ev.before (ev :: log) r s' := by
  cases h with
  | call h rest => exact .call (hrefl _) rest

/-- Over the whole run the state changes within `Rely`. -/
theorem rely (htrans : ∀ a b c, Rely a b → Rely b c → Rely a c) {p : Prog C R E α}
    {r : Except E α} (h : RunsAmid Rely m p s log r s') (hp : p.Respects Rely m s) : Rely s s' := by
  induction h with
  | pure h => exact h
  | raise h => exact h
  | call h rest ih =>
    obtain ⟨hcall, hnext⟩ := hp _ h
    exact htrans _ _ _ h (htrans _ _ _ hcall (ih hnext))

theorem of_perform {c : C} {r : R c}
    (h : RunsAmid Rely m (Prog.perform c : Prog C R E (R c)) s log (.ok r) s') :
    ∃ s₁, Rely s s₁ ∧ (m c s₁).1 = .ok r ∧ Rely (m c s₁).2 s' := by
  cases h with
  | @call _ _ _ s₁ _ _ _ h rest =>
    refine ⟨s₁, h, ?_⟩
    cases hr : (m c s₁).1 with
    | ok r' =>
      rw [hr] at rest
      cases rest with
      | pure hend => exact ⟨rfl, hend⟩
    | error e =>
      rw [hr] at rest
      cases rest

theorem of_bind (hrefl : ∀ a, Rely a a) {p : Prog C R E α} {f : α → Prog C R E β} {b : β}
    (h : RunsAmid Rely m (p >>= f) s log (.ok b) s') :
    ∃ a s₁ log₁ log₂, RunsAmid Rely m p s log₁ (.ok a) s₁ ∧
      RunsAmid Rely m (f a) s₁ log₂ (.ok b) s' := by
  induction p generalizing s log with
  | pure a => exact ⟨a, s, [], log, .pure (hrefl s), h⟩
  | raise e => cases h
  | call c next ih =>
    cases h with
    | call h rest =>
      obtain ⟨a, s₁, log₁, log₂, hp, hf⟩ := ih _ rest
      exact ⟨a, s₁, _, log₂, .call h hp, hf⟩

end RunsAmid

/-! ## Invariants -/

namespace Prog

/-- Each call of the program keeps `I`, if `I` is kept between its calls. -/
def Maintains (I : S → Prop) (m : Machine C R E S) : Prog C R E α → Prop
  | .pure _ => True
  | .raise _ => True
  | .call c next => ∀ s, I s → I (m c s).2 ∧ (next (m c s).1).Maintains I m

namespace Maintains

variable {I : S → Prop} {m : Machine C R E S}

theorem bind {p : Prog C R E α} {f : α → Prog C R E β} (hp : p.Maintains I m)
    (hf : ∀ a, (f a).Maintains I m) : (p >>= f).Maintains I m := by
  induction p with
  | pure a => exact hf a
  | raise e => trivial
  | call c next ih => exact fun s hs => ⟨(hp s hs).1, ih _ (hp s hs).2⟩

/-- What is done with a reply may go by the state the reply came from. -/
theorem perform_bind {c : C} {f : R c → Prog C R E α} (hc : ∀ s, I s → I (m c s).2)
    (hf : ∀ s r, I s → (m c s).1 = .ok r → (f r).Maintains I m) :
    ((Prog.perform c : Prog C R E (R c)) >>= f).Maintains I m := by
  intro s hs
  refine ⟨hc s hs, ?_⟩
  cases hr : (m c s).1 with
  | ok r => exact hf s r hs hr
  | error e => trivial

theorem of_calls {P : C → Prop} (hstep : ∀ c s, P c → I s → I (m c s).2) {p : Prog C R E α}
    (h : p.Calls P) : p.Maintains I m := by
  induction p with
  | pure a => trivial
  | raise e => trivial
  | call c next ih => exact fun s hs => ⟨hstep c s h.1 hs, ih _ (h.2 _)⟩

end Maintains

end Prog

/-! ## Interleavings -/

namespace Interleaved

variable {ι : Type} [DecidableEq ι] {Rely : S → S → Prop} {m : ι → Machine C R E S}
  {ps ps' : ι → Prog C R E α} {s s' : S} {tr : List (Issued ι C R E S)}

/-- **Programs that respect `Rely` keep to it together.** -/
theorem rely (hrefl : ∀ a, Rely a a) (htrans : ∀ a b c, Rely a b → Rely b c → Rely a c)
    (h : Interleaved m ps s tr ps' s') (hps : ∀ i, (ps i).Respects Rely (m i) s) :
    ∀ e ∈ tr, Rely e.before e.after := by
  induction h with
  | done => exact nofun
  | @step ps ps' s s' tr j c next hj rest ih =>
    have hown := hps j
    rw [hj] at hown
    obtain ⟨hcall, hnext⟩ := hown s (hrefl s)
    intro e he
    rcases List.mem_cons.1 he with rfl | he
    · exact hcall
    · refine ih ?_ e he
      intro i
      by_cases hij : i = j
      · subst hij
        rw [Function.update_self]
        exact hnext
      · rw [Function.update_of_ne hij]
        exact (hps i).mono htrans hcall

/-- What each program maintains holds throughout, wherever each of them stops. -/
theorem maintains {I : S → Prop} (h : Interleaved m ps s tr ps' s')
    (hps : ∀ i, (ps i).Maintains I (m i)) (hs : I s) :
    (∀ e ∈ tr, I e.before ∧ I e.after) ∧ I s' := by
  induction h with
  | done => exact ⟨nofun, hs⟩
  | @step ps ps' s s' tr j c next hj rest ih =>
    have hown := hps j
    rw [hj] at hown
    obtain ⟨hcall, hnext⟩ := hown s hs
    have hrest : ∀ i, (Function.update ps j (next (m j c s).1) i).Maintains I (m i) := by
      intro i
      by_cases hij : i = j
      · subst hij
        rw [Function.update_self]
        exact hnext
      · rw [Function.update_of_ne hij]
        exact hps i
    obtain ⟨hevents, hend⟩ := ih hrest hcall
    refine ⟨?_, hend⟩
    intro e he
    rcases List.mem_cons.1 he with rfl | he
    · exact ⟨hs, hcall⟩
    · exact hevents e he

/-- **Each program runs as if alone** amid changes within `Rely`. -/
theorem runsAmid (hrefl : ∀ a, Rely a a) (htrans : ∀ a b c, Rely a b → Rely b c → Rely a c)
    (h : Interleaved m ps s tr ps' s') (hrely : ∀ e ∈ tr, Rely e.before e.after) {i : ι} {a : α}
    (hend : ps' i = .pure a) :
    RunsAmid Rely (m i) (ps i) s ((tr.filter (·.who = i)).map (·.toEvent)) (.ok a) s' := by
  induction h with
  | done ps s =>
    rw [hend]
    exact .pure (hrefl s)
  | @step ps ps' s s' tr j c next hj rest ih =>
    have hrest := ih (fun e he => hrely e (List.mem_cons_of_mem _ he)) hend
    by_cases hij : i = j
    · subst hij
      rw [Function.update_self] at hrest
      rw [hj, List.filter_cons_of_pos (by simp)]
      exact .call (hrefl s) hrest
    · rw [Function.update_of_ne hij] at hrest
      rw [List.filter_cons_of_neg (by simpa using fun heq => hij heq.symm)]
      exact hrest.later htrans (hrely _ List.mem_cons_self)

end Interleaved

end Edm.Effects
