import Edm.Effects.Run
import Mathlib.Order.Lattice

/-!
# Services that give away keys

Some requests make a service allocate a key, above all keys it holds at that
moment. A key the service dropped before can come back. It cannot when every
key is allocated while the service still holds the one allocated before it
(`LastKept`): then the keys of a run increase (`Allocator.increasing`), and a
key names one step of the run for ever (`Allocator.denoted_append`).
-/

namespace Edm.Effects

variable {Q A S K : Type} [LinearOrder K]

/-- `alloc s q` is the key that request `q` gets in state `s`, and `Key s k`
says that the service holds the key `k`. -/
structure Allocator (serve : Q → S → A × S) (alloc : S → Q → Option K) (Key : S → K → Prop) :
    Prop where
  held : ∀ q s k, Key (serve q s).2 k → alloc s q = some k ∨ Key s k
  fresh : ∀ q s k, alloc s q = some k → ∀ j, Key s j → j < k

section LastKept

variable (alloc : S → Q → Option K) (Key : S → K → Prop)

def Served.allocated (st : Served Q A S) : Option K := alloc st.before st.request

/-- Every key is allocated while the one allocated before it, `last`, is held. -/
def LastKept : Option K → List (Served Q A S) → Prop
  | _, [] => True
  | last, st :: rest =>
    match st.allocated alloc with
    | some k => (∀ l ∈ last, Key st.before l) ∧ LastKept (some k) rest
    | none => LastKept last rest

/-- No key is held above the last one allocated. -/
def KeysUpTo (last : Option K) (s : S) : Prop := ∀ k, Key s k → ∃ l ∈ last, k ≤ l

/-- The step that allocated a key. -/
def denoted (k : K) (steps : List (Served Q A S)) : Option (Served Q A S) :=
  (steps.filter fun st => st.allocated alloc = some k).getLast?

end LastKept

variable {serve : Q → S → A × S} {alloc : S → Q → Option K} {Key : S → K → Prop}

/-- As long as the last key is kept, every new one is above all earlier ones. -/
theorem Allocator.increasing (h : Allocator serve alloc Key) {qs : List Q} {s : S}
    {last : Option K} (hkeys : KeysUpTo Key last s)
    (hkept : LastKept alloc Key last (history serve qs s)) :
    (∀ st ∈ history serve qs s, ∀ k, st.allocated alloc = some k → ∀ l ∈ last, l < k) ∧
      (history serve qs s).Pairwise fun st later => ∀ k, st.allocated alloc = some k →
        ∀ k', later.allocated alloc = some k' → k < k' := by
  induction qs generalizing s last with
  | nil => exact ⟨nofun, .nil⟩
  | cons q qs ih =>
    rw [history_cons] at hkept ⊢
    unfold LastKept at hkept
    generalize hst : (⟨s, q, (serve q s).1, (serve q s).2⟩ : Served Q A S) = step at hkept ⊢
    have hstep : step.allocated alloc = alloc s q := by rw [← hst]; rfl
    have hbefore : step.before = s := by rw [← hst]
    cases halloc : alloc s q with
    | none =>
      rw [hstep, halloc] at hkept
      have hkeys' : KeysUpTo Key last (serve q s).2 := by
        intro k hk
        rcases h.held q s k hk with heq | hold
        · rw [halloc] at heq
          cases heq
        · exact hkeys k hold
      obtain ⟨habove, hpairs⟩ := ih hkeys' hkept
      refine ⟨?_, List.pairwise_cons.2 ⟨?_, hpairs⟩⟩
      · intro st hmem k hk
        rcases List.mem_cons.1 hmem with rfl | hmem
        · rw [hstep, halloc] at hk
          cases hk
        · exact habove st hmem k hk
      · intro later _ k hk
        rw [hstep, halloc] at hk
        cases hk
    | some new =>
      rw [hstep, halloc] at hkept
      have hkeys' : KeysUpTo Key (some new) (serve q s).2 := by
        intro k hk
        refine ⟨new, rfl, ?_⟩
        rcases h.held q s k hk with heq | hold
        · rw [halloc, Option.some.injEq] at heq
          exact heq.ge
        · exact (h.fresh q s new halloc k hold).le
      obtain ⟨habove, hpairs⟩ := ih hkeys' hkept.2
      have hnew : ∀ l ∈ last, l < new := by
        intro l hl
        exact h.fresh q s new halloc l (hbefore ▸ hkept.1 l hl)
      refine ⟨?_, List.pairwise_cons.2 ⟨?_, hpairs⟩⟩
      · intro st hmem k hk l hl
        rcases List.mem_cons.1 hmem with rfl | hmem
        · rw [hstep, halloc, Option.some.injEq] at hk
          exact hk ▸ hnew l hl
        · exact (hnew l hl).trans (habove st hmem k hk new rfl)
      · intro later hlater k hk k' hk'
        rw [hstep, halloc, Option.some.injEq] at hk
        exact hk ▸ habove later hlater k' hk' new rfl

/-- A key that increasing keys have passed denotes the same step for ever. -/
theorem denoted_append {steps later : List (Served Q A S)} {k : K}
    (hpairs : (steps ++ later).Pairwise fun st st' => ∀ k, st.allocated alloc = some k →
      ∀ k', st'.allocated alloc = some k' → k < k')
    {made : Served Q A S} (h : denoted alloc k steps = some made) :
    denoted alloc k (steps ++ later) = some made := by
  have hmade := List.mem_of_getLast? h
  rw [List.mem_filter, decide_eq_true_iff] at hmade
  have hnone : later.filter (fun st => st.allocated alloc = some k) = [] := by
    apply List.filter_eq_nil_iff.2
    intro st hst heq
    have hlt := (List.pairwise_append.1 hpairs).2.2 made hmade.1 st hst k hmade.2 k
      (of_decide_eq_true heq)
    exact absurd hlt (lt_irrefl k)
  unfold denoted
  rw [List.filter_append, hnone, List.append_nil]
  exact h

end Edm.Effects
