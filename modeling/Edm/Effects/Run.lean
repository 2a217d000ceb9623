import Mathlib.Tactic.Common

/-!
# Runs of a service

A service is a function that answers a request in a state. `history` lists the
requests it handles one at a time, with their answers and the states around
them. `Follows` compares a run with a specification of single steps over states
of its own.
-/

namespace Edm.Effects

/-- One answered request, with the states before and after it. -/
structure Served (Q A S : Type) where
  before : S
  request : Q
  answer : A
  after : S

section Runs

variable {Q A S : Type} (serve : Q → S → A × S)

def history : List Q → S → List (Served Q A S)
  | [], _ => []
  | q :: qs, s => ⟨s, q, (serve q s).1, (serve q s).2⟩ :: history qs (serve q s).2

@[simp] theorem history_nil (s : S) : history serve [] s = [] := rfl

@[simp] theorem history_cons (q : Q) (qs : List Q) (s : S) :
    history serve (q :: qs) s =
      ⟨s, q, (serve q s).1, (serve q s).2⟩ :: history serve qs (serve q s).2 := rfl

variable {serve}

/-- What the service made of the request of an entry. -/
theorem serve_of_mem_history {qs : List Q} {s : S} {st : Served Q A S}
    (h : st ∈ history serve qs s) : serve st.request st.before = (st.answer, st.after) := by
  induction qs generalizing s with
  | nil => cases h
  | cons q qs ih =>
    rcases List.mem_cons.1 h with rfl | h
    · rfl
    · exact ih h

/-- The state an entry leaves is the state its request leads to. -/
theorem after_of_mem_history {qs : List Q} {s : S} {st : Served Q A S}
    (h : st ∈ history serve qs s) : st.after = (serve st.request st.before).2 :=
  (congrArg Prod.snd (serve_of_mem_history h)).symm

/-- The steps after a step are a history of their own. -/
theorem exists_history_after {qs : List Q} {s : S} {done rest : List (Served Q A S)}
    {st : Served Q A S} (h : history serve qs s = done ++ st :: rest) :
    ∃ qs', rest = history serve qs' st.after := by
  induction done generalizing qs s with
  | nil =>
    cases qs with
    | nil => cases h
    | cons q qs =>
      obtain ⟨rfl, hrest⟩ := List.cons.inj h
      exact ⟨qs, hrest.symm⟩
  | cons first done ih =>
    cases qs with
    | nil => cases h
    | cons q qs => exact ih (List.cons.inj h).2

/-- What every step keeps that comes before an entry holds when it comes. -/
theorem holds_before {I : S → Prop} {qs : List Q} {s : S} {done rest : List (Served Q A S)}
    {st : Served Q A S} (h : history serve qs s = done ++ st :: rest) (hs : I s)
    (hstep : ∀ st' ∈ done, I st'.before → I st'.after) : I st.before := by
  induction done generalizing qs s with
  | nil =>
    cases qs with
    | nil => cases h
    | cons q qs =>
      obtain ⟨rfl, -⟩ := List.cons.inj h
      exact hs
  | cons first done ih =>
    cases qs with
    | nil => cases h
    | cons q qs =>
      obtain ⟨rfl, hrest⟩ := List.cons.inj h
      exact ih hrest (hstep _ List.mem_cons_self hs)
        fun st' hst' => hstep st' (List.mem_cons_of_mem _ hst')

/-- What every step changes in one way is so changed by all of them. -/
theorem eq_foldl_before {X : Type} (read : S → X) {change : X → Served Q A S → X} {qs : List Q}
    {s : S} {done rest : List (Served Q A S)} {st : Served Q A S}
    (h : history serve qs s = done ++ st :: rest)
    (hstep : ∀ st' ∈ done, read st'.after = change (read st'.before) st') :
    read st.before = done.foldl change (read s) := by
  induction done generalizing qs s with
  | nil =>
    cases qs with
    | nil => cases h
    | cons q qs =>
      obtain ⟨rfl, -⟩ := List.cons.inj h
      rfl
  | cons first done ih =>
    cases qs with
    | nil => cases h
    | cons q qs =>
      obtain ⟨rfl, hrest⟩ := List.cons.inj h
      rw [ih hrest fun st' hst' => hstep st' (List.mem_cons_of_mem _ hst'), List.foldl_cons,
        ← hstep _ List.mem_cons_self]

end Runs

section Specification

variable {Q A S V : Type} (view : S → V) (Step : V → Q → A → V → Prop)

/-- The run is one of the specification, from the state `v` on: each answer and
each state it leaves is one the specification allows. -/
inductive Follows : V → List (Served Q A S) → Prop where
  | nil (v : V) : Follows v []
  | cons {v : V} {st : Served Q A S} {rest : List (Served Q A S)}
      (hstep : Step v st.request st.answer (view st.after)) (hrest : Follows (view st.after) rest) :
      Follows v (st :: rest)

variable {view Step}

/-- A service whose steps are steps of the specification has no other runs. -/
theorem follows_history {serve : Q → S → A × S}
    (hstep : ∀ q s, Step (view s) q (serve q s).1 (view (serve q s).2)) (qs : List Q) (s : S) :
    Follows view Step (view s) (history serve qs s) := by
  induction qs generalizing s with
  | nil => exact .nil _
  | cons q qs ih => exact .cons (hstep q s) (ih _)

end Specification

end Edm.Effects
