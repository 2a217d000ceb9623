import Edm.Effects.Run
import Mathlib.Logic.Function.Basic

/-!
# Vaults

A vault keeps under each key the value that was put there last. A service
stands in for a vault when its state `Holds` all that the vault keeps. It does
so at every step of a run if the steps that put a value leave it held, and the
other steps leave held what they found so (`implements_before`). A key under
which something was put then holds one of the values put there (`exists_held`).
-/

namespace Edm.Effects

variable {Q A S K V : Type} [DecidableEq K]

section Definitions

variable (puts : Served Q A S → Option (K × V))

/-- A step puts its value under its key. -/
def putIn (st : Served Q A S) (vault : K → Option V) : K → Option V :=
  match puts st with
  | some (k, v) => Function.update vault k (some v)
  | none => vault

def vaultAfter : List (Served Q A S) → (K → Option V) → K → Option V
  | [], vault => vault
  | st :: steps, vault => vaultAfter steps (putIn puts st vault)

/-- The state holds all that is in the vault. -/
def Implements (Holds : S → K → V → Prop) (s : S) (vault : K → Option V) : Prop :=
  ∀ k v, vault k = some v → Holds s k v

/-- What one step has to do for its service to stand in for a vault. -/
structure VaultStep (Holds : S → K → V → Prop) (st : Served Q A S) : Prop where
  stored : ∀ k v, puts st = some (k, v) → Holds st.after k v
  kept : ∀ k v, (∀ v', puts st ≠ some (k, v')) → Holds st.before k v → Holds st.after k v

end Definitions

variable {puts : Served Q A S → Option (K × V)} {Holds : S → K → V → Prop}
  {serve : Q → S → A × S}

/-- One step of the service is one step of the vault. -/
theorem VaultStep.implements {st : Served Q A S} (h : VaultStep puts Holds st)
    {vault : K → Option V}
    (hbefore : Implements Holds st.before vault) :
    Implements Holds st.after (putIn puts st vault) := by
  intro k v hv
  unfold putIn at hv
  cases hput : puts st with
  | none =>
    rw [hput] at hv
    exact h.kept k v (fun v' => by rw [hput]; exact nofun) (hbefore k v hv)
  | some kv =>
    obtain ⟨k', v'⟩ := kv
    rw [hput] at hv
    by_cases hk : k = k'
    · subst hk
      simp only [Function.update_self, Option.some.injEq] at hv
      exact h.stored k v (by rw [hput, hv])
    · simp only [Function.update_of_ne hk] at hv
      refine h.kept k v (fun v'' heq => hk ?_) (hbefore k v hv)
      rw [hput, Option.some.injEq, Prod.mk.injEq] at heq
      exact heq.1.symm

/-- **At every step of a run the service stands in for the vault.** -/
theorem implements_before {qs : List Q} {s : S} {steps rest : List (Served Q A S)}
    {st : Served Q A S} {vault : K → Option V}
    (hsteps : history serve qs s = steps ++ st :: rest)
    (hvault : ∀ st' ∈ steps, VaultStep puts Holds st') (hs : Implements Holds s vault) :
    Implements Holds st.before (vaultAfter puts steps vault) := by
  induction steps generalizing qs s vault with
  | nil =>
    cases qs with
    | nil => cases hsteps
    | cons q qs =>
      obtain ⟨rfl, -⟩ := List.cons.inj hsteps
      exact hs
  | cons first steps ih =>
    cases qs with
    | nil => cases hsteps
    | cons q qs =>
      obtain ⟨rfl, hrest⟩ := List.cons.inj hsteps
      exact ih hrest (fun st' hst' => hvault st' (List.mem_cons_of_mem _ hst'))
        ((hvault _ List.mem_cons_self).implements hs)

/-- A value stays in the vault while nothing is put under its key. -/
theorem vaultAfter_of_not_put {steps : List (Served Q A S)} (vault : K → Option V) {k : K}
    (h : ∀ st ∈ steps, ∀ v, puts st ≠ some (k, v)) : vaultAfter puts steps vault k = vault k := by
  induction steps generalizing vault with
  | nil => rfl
  | cons st steps ih =>
    refine (ih _ fun st' hst' => h st' (List.mem_cons_of_mem _ hst')).trans ?_
    unfold putIn
    cases hput : puts st with
    | none => rfl
    | some kv =>
      refine Function.update_of_ne ?_ _ _
      intro heq
      exact h st List.mem_cons_self kv.2 (by rw [hput, heq])

/-- What the vault keeps was in it or was put there. -/
theorem put_of_vaultAfter {steps : List (Served Q A S)} {vault : K → Option V} {k : K} {v : V}
    (h : vaultAfter puts steps vault k = some v) (hvault : vault k = none) :
    ∃ st ∈ steps, ∃ v, puts st = some (k, v) := by
  by_contra hnone
  rw [vaultAfter_of_not_put vault fun st hst v hput => hnone ⟨st, hst, v, hput⟩, hvault] at h
  cases h

/-- The vault keeps one of the values that were put under a key. -/
theorem exists_vaultAfter_of_put {steps : List (Served Q A S)} (vault : K → Option V) {k : K}
    (h : ∃ st ∈ steps, ∃ v, puts st = some (k, v)) :
    ∃ st ∈ steps, ∃ v, puts st = some (k, v) ∧ vaultAfter puts steps vault k = some v := by
  induction steps generalizing vault with
  | nil =>
    obtain ⟨st, hst, -⟩ := h
    cases hst
  | cons first steps ih =>
    by_cases hlater : ∃ st ∈ steps, ∃ v, puts st = some (k, v)
    · obtain ⟨st, hst, hput⟩ := ih (putIn puts first vault) hlater
      exact ⟨st, List.mem_cons_of_mem _ hst, hput⟩
    · obtain ⟨st, hst, v, hput⟩ := h
      rcases List.mem_cons.1 hst with rfl | hst
      · refine ⟨st, List.mem_cons_self, v, hput, ?_⟩
        have hkept := vaultAfter_of_not_put (putIn puts st vault)
          fun st' hst' v' hput' => hlater ⟨st', hst', v', hput'⟩
        rw [vaultAfter, hkept, putIn, hput]
        exact Function.update_self ..
      · exact absurd ⟨st, hst, v, hput⟩ hlater

omit [DecidableEq K] in
/-- An empty vault asks nothing of the state. -/
theorem implements_empty (s : S) : Implements Holds s fun _ => none := fun _ _ h => by cases h

/-- A key under which something was put holds one of the values put there, at
every later step. -/
theorem exists_held {qs : List Q} {s : S} {steps rest : List (Served Q A S)}
    {st : Served Q A S} {k : K} (hsteps : history serve qs s = steps ++ st :: rest)
    (hvault : ∀ st' ∈ steps, VaultStep puts Holds st')
    (hput : ∃ st' ∈ steps, ∃ v, puts st' = some (k, v)) :
    ∃ st' ∈ steps, ∃ v, puts st' = some (k, v) ∧ Holds st.before k v := by
  have himplements := implements_before hsteps hvault (implements_empty s)
  obtain ⟨st', hst', v, hput', hv⟩ := exists_vaultAfter_of_put (fun _ => none) hput
  exact ⟨st', hst', v, hput', himplements k v hv⟩

end Edm.Effects
