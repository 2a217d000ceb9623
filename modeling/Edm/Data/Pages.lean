import Mathlib.Data.List.Basic
import Mathlib.Tactic.Common

/-!
# Pages of a growing list

A page is a window of a list. The pages of one walk are cut from the list at
different times, while it grows at its end. They are still in its order
(`append_window_sublist`), and together they begin with what the list was at the
start, as soon as one of them is empty (`drop_prefix_window_append`,
`drop_eq_nil_of_window`). The pages of a list that stays as it is make it up
(`flatMap_window`).
-/

namespace Edm.Data

/-- The elements of a list from an offset on, up to a limit. -/
def window {α : Type} (limit offset : Nat) (l : List α) : List α := (l.drop offset).take limit

section Window

variable {α β : Type} {l l' rest : List α} {limit offset : Nat}

theorem map_window (f : α → β) (limit offset : Nat) (l : List α) :
    (window limit offset l).map f = window limit offset (l.map f) := by
  rw [window, window, List.map_take, List.map_drop]

theorem prefix_drop (h : l <+: l') (offset : Nat) : l.drop offset <+: l'.drop offset := by
  obtain ⟨grown, rfl⟩ := h
  rw [List.drop_append]
  exact List.prefix_append _ _

theorem length_window_le (limit offset : Nat) (l : List α) :
    (window limit offset l).length ≤ limit := List.length_take_le _ _

/-- A window shows more of a list that has grown. -/
theorem prefix_window (h : l <+: l') : window limit offset l <+: window limit offset l' := by
  apply List.prefix_take_iff.2
  constructor
  · exact (List.take_prefix _ _).trans (prefix_drop h offset)
  · exact length_window_le limit offset l

theorem window_append_drop (limit offset : Nat) (l : List α) :
    window limit offset l ++ l.drop (offset + limit) = l.drop offset := by
  rw [window, ← List.drop_drop, List.take_append_drop]

/-- A page and what comes after it stay in the order of the list. -/
theorem append_window_sublist (h : l <+: l') (hrest : rest.Sublist (l'.drop (offset + limit))) :
    (window limit offset l ++ rest).Sublist (l'.drop offset) := by
  rw [← window_append_drop limit offset l']
  exact (prefix_window h).sublist.append hrest

/-- Nothing of the first list is lost between a page and what comes after it. -/
theorem drop_prefix_window_append (h : l <+: l') (hrest : l.drop (offset + limit) <+: rest) :
    l.drop offset <+: window limit offset l' ++ rest := by
  by_cases hshort : (l.drop offset).length ≤ limit
  · -- the window reaches beyond the end of the first list
    have hall : window limit offset l = l.drop offset := List.take_of_length_le hshort
    rw [← hall]
    exact (prefix_window h).trans (List.prefix_append _ _)
  · -- the first list fills the window, so no later element got into it
    have hfull : (window limit offset l).length = limit :=
      List.length_take_of_le (Nat.le_of_not_le hshort)
    have hle := length_window_le limit offset l'
    have hsame : window limit offset l = window limit offset l' :=
      (prefix_window h).eq_of_length_le (by omega)
    rw [← window_append_drop limit offset l, hsame]
    exact (List.prefix_append_right_inj _).2 hrest

/-- Behind an empty page nothing of the first list is left. -/
theorem drop_eq_nil_of_window (h : l <+: l') (hlimit : 0 < limit)
    (hempty : window limit offset l' = []) : l.drop offset = [] := by
  have hdrop : l'.drop offset = [] := by
    rcases List.take_eq_nil_iff.1 hempty with hzero | hdrop
    · omega
    · exact hdrop
  have hprefix := prefix_drop h offset
  rw [hdrop] at hprefix
  exact List.prefix_nil.1 hprefix

end Window

/-! ## The pages of one list -/

section Pages

variable {α : Type} {l : List α} {limit offset : Nat}

/-- So many pages together show the list as far as they reach. -/
theorem flatMap_window (limit n : Nat) (l : List α) :
    ((List.range n).flatMap fun k => window limit (k * limit) l) = l.take (n * limit) := by
  induction n with
  | zero => rw [Nat.zero_mul, List.take_zero, List.range_zero, List.flatMap_nil]
  | succ n ih =>
    rw [List.range_succ, List.flatMap_append, ih, Nat.succ_mul, List.take_add,
      List.flatMap_singleton, window]

theorem window_eq_nil (h : l.length ≤ offset) : window limit offset l = [] := by
  rw [window, List.drop_of_length_le h, List.take_nil]

theorem length_window (limit offset : Nat) (l : List α) :
    (window limit offset l).length = min limit (l.length - offset) := by
  rw [window, List.length_take, List.length_drop]

/-- The number of pages is rounded up. -/
theorem le_ceilDiv_mul (n : Nat) (hlimit : 0 < limit) : n ≤ (n + limit - 1) / limit * limit := by
  have hdiv := Nat.div_add_mod (n + limit - 1) limit
  have hmod := Nat.mod_lt (n + limit - 1) hlimit
  rw [Nat.mul_comm] at hdiv
  omega

/-- Each of that many pages starts inside the list. -/
theorem mul_lt_of_lt_ceilDiv {n k : Nat} (h : k < (n + limit - 1) / limit) (hlimit : 0 < limit) :
    k * limit < n := by
  have hle : (k + 1) * limit ≤ n + limit - 1 := (Nat.le_div_iff_mul_le hlimit).1 h
  rw [Nat.succ_mul] at hle
  omega

end Pages

end Edm.Data
