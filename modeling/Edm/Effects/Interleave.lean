import Edm.Effects.Prog
import Mathlib.Logic.Function.Basic

/-!
# Interleavings of programs

Several programs issue their calls against one state, in any order. Each call
is atomic; `m i` is how the environment answers the calls of program `i`.
`Interleaved m ps s tr ps' s'` says that the programs `ps` can issue the calls
of `tr` from the state `s` and are left with `ps'` in `s'`, finished or not.
`Interleaved.holds_at_use` is the rule for a resource that a program sets up
for itself and uses later on, while others may take it away in between.
-/

namespace Edm.Effects

variable {ι C : Type} {R : C → Type} {E S α : Type}

/-- One answered call of one of several programs. -/
structure Issued (ι C : Type) (R : C → Type) (E S : Type) extends Event C R E S where
  who : ι

section Definitions

variable [DecidableEq ι] (m : ι → Machine C R E S)

inductive Interleaved : (ι → Prog C R E α) → S → List (Issued ι C R E S) →
    (ι → Prog C R E α) → S → Prop where
  | done (ps : ι → Prog C R E α) (s : S) : Interleaved ps s [] ps s
  | step {ps ps' : ι → Prog C R E α} {s s' : S} {tr : List (Issued ι C R E S)} (i : ι) {c : C}
      {next : Except E (R c) → Prog C R E α} (h : ps i = .call c next)
      (rest : Interleaved (Function.update ps i (next (m i c s).1)) (m i c s).2 tr ps' s') :
      Interleaved ps s (⟨⟨s, c, (m i c s).1, (m i c s).2⟩, i⟩ :: tr) ps' s'

/-- Let the programs take turns as the schedule says. -/
def interleave : List ι → (ι → Prog C R E α) → S →
    List (Issued ι C R E S) × (ι → Prog C R E α) × S
  | [], ps, s => ([], ps, s)
  | i :: schedule, ps, s =>
    match ps i with
    | .call c next =>
      let rest := interleave schedule (Function.update ps i (next (m i c s).1)) (m i c s).2
      (⟨⟨s, c, (m i c s).1, (m i c s).2⟩, i⟩ :: rest.1, rest.2)
    | _ => interleave schedule ps s

theorem interleaved_interleave (schedule : List ι) (ps : ι → Prog C R E α) (s : S) :
    Interleaved m ps s (interleave m schedule ps s).1 (interleave m schedule ps s).2.1
      (interleave m schedule ps s).2.2 := by
  induction schedule generalizing ps s with
  | nil => exact .done ps s
  | cons i schedule ih =>
    unfold interleave
    split
    · next c next h => exact .step i h (ih _ _)
    · exact ih ps s

end Definitions

namespace Interleaved

section Undisturbed

variable {Opens : (c : C) → Except E (R c) → Prop} {Use : C → Prop}

/-- In this trace program `i` does not use before a mend. -/
def MendedFirst (i : ι) (Use : C → Prop) (Mends : Issued ι C R E S → Prop) :
    List (Issued ι C R E S) → Prop
  | [] => True
  | e :: tr => ¬(e.who = i ∧ Use e.call) ∧ (Mends e ∨ MendedFirst i Use Mends tr)

/-- From the time program `i` opens, a break is mended before the program uses.
`opened` says that it has opened already. -/
def Undisturbed (i : ι) (Opens : (c : C) → Except E (R c) → Prop) (Use : C → Prop)
    (Breaks Mends : Issued ι C R E S → Prop) : Prop → List (Issued ι C R E S) → Prop
  | _, [] => True
  | opened, e :: tr => (opened → Breaks e → MendedFirst i Use Mends tr) ∧
      Undisturbed i Opens Use Breaks Mends (opened ∨ e.who = i ∧ Opens e.call e.answer) tr

section Decidable

variable [DecidableEq ι] (i : ι) (Opens : (c : C) → Except E (R c) → Prop) (Use : C → Prop)
  (Breaks Mends : Issued ι C R E S → Prop) [∀ c r, Decidable (Opens c r)] [DecidablePred Use]
  [DecidablePred Breaks] [DecidablePred Mends]

instance MendedFirst.decidable :
    (tr : List (Issued ι C R E S)) → Decidable (MendedFirst i Use Mends tr)
  | [] => .isTrue trivial
  | _ :: tr =>
    have := MendedFirst.decidable tr
    inferInstanceAs (Decidable (_ ∧ (_ ∨ _)))

instance Undisturbed.decidable : (opened : Prop) → [Decidable opened] →
    (tr : List (Issued ι C R E S)) → Decidable (Undisturbed i Opens Use Breaks Mends opened tr)
  | _, _, [] => .isTrue trivial
  | opened, _, e :: tr =>
    have := Undisturbed.decidable (opened ∨ e.who = i ∧ Opens e.call e.answer) tr
    inferInstanceAs (Decidable ((_ → _ → _) ∧ _))

end Decidable

theorem Undisturbed.of_forall_not {Breaks Mends : Issued ι C R E S → Prop} {opened : Prop}
    {tr : List (Issued ι C R E S)} {i : ι} (h : ∀ e ∈ tr, ¬Breaks e) :
    Undisturbed i Opens Use Breaks Mends opened tr := by
  induction tr generalizing opened with
  | nil => trivial
  | cons e tr ih =>
    exact ⟨fun _ hbreaks => absurd hbreaks (h e List.mem_cons_self),
      ih fun x hx => h x (List.mem_cons_of_mem _ hx)⟩

theorem Undisturbed.mono {Breaks Mends : Issued ι C R E S → Prop} {opened opened' : Prop}
    {tr : List (Issued ι C R E S)} {i : ι} (hopened : opened' → opened)
    (h : Undisturbed i Opens Use Breaks Mends opened tr) :
    Undisturbed i Opens Use Breaks Mends opened' tr := by
  induction tr generalizing opened opened' with
  | nil => trivial
  | cons e tr ih =>
    exact ⟨fun hopen => h.1 (hopened hopen), ih (Or.imp_left hopened) h.2⟩

/-- Also when it is looked at from later on only. -/
theorem Undisturbed.of_append {Breaks Mends : Issued ι C R E S → Prop} {opened : Prop}
    {tr₁ tr₂ : List (Issued ι C R E S)} {i : ι}
    (h : Undisturbed i Opens Use Breaks Mends opened (tr₁ ++ tr₂)) :
    Undisturbed i Opens Use Breaks Mends False tr₂ := by
  induction tr₁ generalizing opened with
  | nil => exact h.mono False.elim
  | cons e tr₁ ih => exact ih h.2

end Undisturbed

variable [DecidableEq ι] {m : ι → Machine C R E S} {ps ps' : ι → Prog C R E α} {s s' : S}
  {tr : List (Issued ι C R E S)} {i : ι}

theorem answered (h : Interleaved m ps s tr ps' s') {e : Issued ι C R E S} (he : e ∈ tr) :
    m e.who e.call e.before = (e.answer, e.after) := by
  induction h with
  | done => cases he
  | step j h rest ih =>
    rcases List.mem_cons.1 he with rfl | he
    · rfl
    · exact ih he

/-- A program only issues calls of its own. -/
theorem calls {P : C → Prop} (h : Interleaved m ps s tr ps' s') (hp : (ps i).Calls P) :
    ∀ e ∈ tr, e.who = i → P e.call := by
  induction h with
  | done => exact nofun
  | @step ps ps' s s' tr j c next hj rest ih =>
    have hp' : (Function.update ps j (next (m j c s).1) i).Calls P := by
      by_cases hij : i = j
      · subst hij
        rw [hj] at hp
        rw [Function.update_self]
        exact hp.2 _
      · rw [Function.update_of_ne hij]
        exact hp
    intro e he hwho
    rcases List.mem_cons.1 he with rfl | he
    · subst hwho
      rw [hj] at hp
      exact hp.1
    · exact ih hp' e he hwho

/-- A program whose calls are all answered with a reply does not raise. -/
theorem returns (h : Interleaved m ps s tr ps' s') (hp : (ps i).Returns)
    (hok : ∀ e ∈ tr, e.who = i → e.answer.isOk = true) : (ps' i).Returns := by
  induction h with
  | done => exact hp
  | @step ps ps' s s' tr j c next hj rest ih =>
    refine ih ?_ fun e he => hok e (List.mem_cons_of_mem _ he)
    by_cases hij : i = j
    · subst hij
      have hans := hok _ List.mem_cons_self rfl
      rw [hj] at hp
      rw [Function.update_self]
      cases hr : (m i c s).1 with
      | ok r => exact hp r
      | error e =>
        simp only [hr] at hans
        cases hans
    · rw [Function.update_of_ne hij]
      exact hp

section Use

variable {Opens : (c : C) → Except E (R c) → Prop} {Use : C → Prop}

/-- **What holds once a program has set it up holds when it comes to use it**,
if every break in between is mended. -/
theorem holds_at_use {I : S → Prop} {Breaks Mends : Issued ι C R E S → Prop} {opened : Prop}
    (h : Interleaved m ps s tr ps' s') (hstart : (ps i).Guarded Opens Use ∨ opened ∧ I s)
    (hopens : ∀ e ∈ tr, e.who = i → Opens e.call e.answer → I e.after)
    (hmends : ∀ e ∈ tr, Mends e → I e.after)
    (hkeeps : ∀ e ∈ tr, ¬Breaks e → I e.before → I e.after)
    (hclean : Undisturbed i Opens Use Breaks Mends opened tr) :
    ∀ u ∈ tr, u.who = i → Use u.call → I u.before := by
  -- along the trace: not opened yet, in order, or broken and mended before the next use
  suffices hgen : ((ps i).Guarded Opens Use ∨ opened ∧ (I s ∨ MendedFirst i Use Mends tr)) →
      ∀ u ∈ tr, u.who = i → Use u.call → I u.before from
    hgen (hstart.imp_right fun hs => ⟨hs.1, .inl hs.2⟩)
  clear hstart
  induction h generalizing opened with
  | done => exact fun _ => nofun
  | @step ps ps' s s' tr j c next hj rest ih =>
    intro hstatus
    generalize he : (⟨⟨s, c, (m j c s).1, (m j c s).2⟩, j⟩ : Issued ι C R E S) = e at *
    have hrest := ih (fun x hx => hopens x (List.mem_cons_of_mem _ hx))
      (fun x hx => hmends x (List.mem_cons_of_mem _ hx))
      (fun x hx => hkeeps x (List.mem_cons_of_mem _ hx)) hclean.2
    have hafter : e.after = (m j c s).2 := by rw [← he]
    have hbefore : e.before = s := by rw [← he]
    rw [← hafter] at hrest
    have huse : (e.who = i → Use e.call → I e.before) ∧
        ((Function.update ps j (next (m j c s).1) i).Guarded Opens Use ∨
          (opened ∨ e.who = i ∧ Opens e.call e.answer) ∧
            (I e.after ∨ MendedFirst i Use Mends tr)) := by
      rcases hstatus with hguarded | ⟨hopened, hI | hmended⟩
      · by_cases hij : i = j
        · subst hij
          rw [hj] at hguarded
          subst he
          refine ⟨fun _ hu => absurd hu hguarded.1, ?_⟩
          rw [Function.update_self]
          refine (hguarded.2 (m i c s).1).symm.imp_right ?_
          intro hopens'
          exact ⟨.inr ⟨rfl, hopens'⟩, .inl (hopens _ List.mem_cons_self rfl hopens')⟩
        · refine ⟨fun hwho => absurd (hwho.symm.trans (by rw [← he])) hij, .inl ?_⟩
          rw [Function.update_of_ne hij]
          exact hguarded
      · refine ⟨fun _ _ => hbefore ▸ hI, .inr ⟨.inl hopened, ?_⟩⟩
        by_cases hbreaks : Breaks e
        · exact .inr (hclean.1 hopened hbreaks)
        · exact .inl (hkeeps e List.mem_cons_self hbreaks (hbefore ▸ hI))
      · refine ⟨fun hwho hu => absurd ⟨hwho, hu⟩ hmended.1, .inr ⟨.inl hopened, ?_⟩⟩
        exact hmended.2.imp_left (hmends e List.mem_cons_self)
    intro u hu
    rcases List.mem_cons.1 hu with rfl | hu
    · exact huse.1
    · exact hrest huse.2 u hu

end Use

end Interleaved

end Edm.Effects
