import Mathlib.Data.Option.Basic
import Mathlib.Tactic.Common

/-!
# Finite stores

A `Store K V` is a partial function on keys together with a list that holds
every key it is defined on, so a property of its entries can be tested. Two
stores are compared through `get?`.
-/

namespace Edm.Data

/-- A partial function on keys, defined on keys of the list `keys` only. -/
structure Store (K V : Type) where
  get? : K → Option V
  keys : List K
  mem_keys : ∀ k, (get? k).isSome → k ∈ keys

namespace Store

variable {K V W : Type}

def empty : Store K V := ⟨fun _ => none, [], by simp⟩

def single [DecidableEq K] (key : K) (v : V) : Store K V where
  get? k := if k = key then some v else none
  keys := [key]
  mem_keys k h := by
    by_cases hk : k = key
    · exact List.mem_singleton.2 hk
    · simp [hk] at h

/-- Transform the entries, dropping those sent to `none`. -/
def mapMaybe (f : V → Option W) (s : Store K V) : Store K W where
  get? k := (s.get? k).bind f
  keys := s.keys
  mem_keys k h := by
    refine s.mem_keys k ?_
    cases hk : s.get? k with
    | none => rw [hk] at h; cases h
    | some v => rfl

/-- The entries of `t`, and those of `s` under the keys `t` has not. -/
def overlay (t s : Store K V) : Store K V where
  get? k := (t.get? k).or (s.get? k)
  keys := t.keys ++ s.keys
  mem_keys k h := by
    rw [Option.isSome_or, Bool.or_eq_true] at h
    exact List.mem_append.2 (h.imp (t.mem_keys k) (s.mem_keys k))

/-- Whether some entry satisfies `p`. -/
def any (s : Store K V) (p : K → V → Bool) : Bool :=
  s.keys.any fun k => (s.get? k).any (p k)

@[simp] theorem get?_mapMaybe (f : V → Option W) (s : Store K V) (k : K) :
    (s.mapMaybe f).get? k = (s.get? k).bind f := rfl

@[simp] theorem get?_overlay (t s : Store K V) (k : K) :
    (t.overlay s).get? k = (t.get? k).or (s.get? k) := rfl

theorem any_eq_true_iff {s : Store K V} {p : K → V → Bool} :
    s.any p = true ↔ ∃ k v, s.get? k = some v ∧ p k v = true := by
  unfold any
  rw [List.any_eq_true]
  constructor
  · rintro ⟨k, -, hk⟩
    cases hv : s.get? k with
    | none => rw [hv] at hk; cases hk
    | some v => rw [hv] at hk; exact ⟨k, v, hv, hk⟩
  · rintro ⟨k, v, hv, hp⟩
    refine ⟨k, s.mem_keys k (by rw [hv]; rfl), ?_⟩
    rw [hv]
    exact hp

theorem any_eq_false_iff {s : Store K V} {p : K → V → Bool} :
    s.any p = false ↔ ∀ k v, s.get? k = some v → p k v = false := by
  rw [← Bool.not_eq_true, any_eq_true_iff]
  constructor
  · intro h k v hv
    exact Bool.eq_false_iff.2 fun hp => h ⟨k, v, hv, hp⟩
  · rintro h ⟨k, v, hv, hp⟩
    rw [h k v hv] at hp
    cases hp

end Store

end Edm.Data
