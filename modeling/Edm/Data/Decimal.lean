import Mathlib.Algebra.Group.Nat.Defs
import Mathlib.Order.Basic
import Mathlib.Tactic.Common

/-!
# Decimal numbers as text

`padded width n` is `n` in decimal, filled with zeros on the left. Texts are
compared lexicographically, character by character; a text that another one
continues is the smaller one. Among fields of one width this is the numeric
order (`padded_lt_iff`), so the order of texts assembled from such fields
compares field by field (`append_lt_iff`). A number that is wider than its
field stands where its first digits put it (`rank`).
-/

namespace Edm.Data

/-- `'{0:0<width>d}'.format(n)`: a number that is wider keeps all its digits. -/
def padded (width n : Nat) : String :=
  String.ofList (List.replicate (width - (Nat.toDigits 10 n).length) '0' ++ Nat.toDigits 10 n)

/-- The number the first `width` digits of a wider number make. -/
def lead (width n : Nat) : Nat :=
  if n < 10 ^ width then n else lead width (n / 10)
termination_by n
decreasing_by
  have hpos : 0 < 10 ^ width := Nat.pow_pos (by decide)
  omega

/-- Where the field of a number stands among the numbers that fit. -/
def rank (width n : Nat) : Nat := if n < 10 ^ width then n else lead width n + 1

/-! ## Lexicographic order -/

section Lexicographic

variable {α : Type} [LT α]

/-- Prefixes of one length decide, and only equal ones leave it to the rest. -/
theorem append_lt_iff {l l' : List α} (h : l.length = l'.length) (s s' : List α) :
    l ++ s < l' ++ s' ↔ l < l' ∨ l = l' ∧ s < s' := by
  induction l generalizing l' with
  | nil =>
    obtain rfl := List.length_eq_zero_iff.1 h.symm
    simp
  | cons a l ih =>
    obtain - | ⟨b, l'⟩ := l'
    · cases h
    · rw [List.cons_append, List.cons_append, List.cons_lt_cons_iff, List.cons_lt_cons_iff,
        ih (Nat.succ.inj h), List.cons.injEq, and_or_left, and_assoc, or_assoc]

end Lexicographic

/-! ## Digits -/

theorem char_lt_iff_toNat_lt {c d : Char} : c < d ↔ c.toNat < d.toNat := by
  rw [Char.lt_def, UInt32.lt_iff_toNat_lt]
  rfl

/-- Among digit sequences of one length, greater texts are greater numbers. -/
theorem ofDigitChars_lt_iff {l l' : List Char} (h : l.length = l'.length)
    (hl : ∀ c ∈ l, c.isDigit = true) (hl' : ∀ c ∈ l', c.isDigit = true) (i j : Nat) :
    Nat.ofDigitChars 10 l i < Nat.ofDigitChars 10 l' j ↔ i < j ∨ i = j ∧ l < l' := by
  induction l generalizing l' i j with
  | nil =>
    obtain rfl := List.length_eq_zero_iff.1 h.symm
    simp
  | cons c l ih =>
    obtain - | ⟨c', l'⟩ := l'
    · cases h
    · have hc := Char.isDigit_iff_toNat.1 (hl c List.mem_cons_self)
      have hc' := Char.isDigit_iff_toNat.1 (hl' c' List.mem_cons_self)
      have hzero : '0'.toNat = 48 := rfl
      have hnine : '9'.toNat = 57 := rfl
      rw [Nat.ofDigitChars_cons, Nat.ofDigitChars_cons,
        ih (Nat.succ.inj h) (fun d hd => hl d (List.mem_cons_of_mem _ hd))
          (fun d hd => hl' d (List.mem_cons_of_mem _ hd)),
        List.cons_lt_cons_iff, char_lt_iff_toNat_lt, ← Char.toNat_inj]
      by_cases hlt : l < l'
      · simp only [hlt, and_true]
        omega
      · simp only [hlt, and_false, or_false]
        omega

section Padded

variable {width n m : Nat}

theorem toList_padded (width n : Nat) : (padded width n).toList =
    List.replicate (width - (Nat.toDigits 10 n).length) '0' ++ Nat.toDigits 10 n := by
  rw [padded, String.toList_ofList]

theorem isDigit_of_mem_padded {c : Char} (h : c ∈ (padded width n).toList) :
    c.isDigit = true := by
  rw [toList_padded, List.mem_append, List.mem_replicate] at h
  rcases h with ⟨-, rfl⟩ | h
  · rfl
  · exact Nat.isDigit_of_mem_toDigits (by decide) (by decide) h

/-- The number is read back from its digits. -/
theorem ofDigitChars_padded (width n : Nat) :
    Nat.ofDigitChars 10 (padded width n).toList 0 = n := by
  rw [toList_padded, Nat.ofDigitChars_append, Nat.ofDigitChars_replicate_zero, Nat.mul_zero,
    Nat.ofDigitChars_toDigits (by decide) (by decide)]

theorem padded_inj (h : padded width n = padded width m) : n = m := by
  rw [← ofDigitChars_padded width n, h, ofDigitChars_padded]

/-- A number that fits takes exactly its width. -/
theorem length_padded (hpos : 0 < width) (hn : n < 10 ^ width) :
    (padded width n).toList.length = width := by
  have hle := (Nat.length_toDigits_le_iff (b := 10) (n := n) (by decide) hpos).2 hn
  rw [toList_padded, List.length_append, List.length_replicate]
  omega

/-- **Among numbers that fit, the order of the texts is the order of the
numbers.** -/
theorem padded_lt_iff (hpos : 0 < width) (hn : n < 10 ^ width) (hm : m < 10 ^ width) :
    (padded width n).toList < (padded width m).toList ↔ n < m := by
  have hlt := ofDigitChars_lt_iff
    ((length_padded hpos hn).trans (length_padded hpos hm).symm)
    (fun _ => isDigit_of_mem_padded) (fun _ => isDigit_of_mem_padded) 0 0
  rw [ofDigitChars_padded, ofDigitChars_padded] at hlt
  rw [hlt]
  simp

/-- One field in front of the rest of two texts. -/
theorem padded_append_lt_iff (hpos : 0 < width) (hn : n < 10 ^ width) (hm : m < 10 ^ width)
    (s s' : List Char) :
    (padded width n).toList ++ s < (padded width m).toList ++ s' ↔ n < m ∨ n = m ∧ s < s' := by
  rw [append_lt_iff ((length_padded hpos hn).trans (length_padded hpos hm).symm),
    padded_lt_iff hpos hn hm]
  refine or_congr_right (and_congr_left' ⟨?_, fun h => h ▸ rfl⟩)
  intro h
  exact padded_inj (String.toList_inj.1 h)

end Padded

/-! ## Numbers wider than their field -/

section Wide

variable {width n m : Nat}

theorem lead_of_lt (hn : n < 10 ^ width) : lead width n = n := by
  rw [lead, if_pos hn]

theorem lead_of_le (hn : 10 ^ width ≤ n) : lead width n = lead width (n / 10) := by
  rw [lead, if_neg (Nat.not_lt.2 hn)]

@[simp] theorem rank_of_lt (hn : n < 10 ^ width) : rank width n = n := if_pos hn

theorem rank_of_le (hn : 10 ^ width ≤ n) : rank width n = lead width n + 1 :=
  if_neg (Nat.not_lt.2 hn)

theorem lead_lt (width n : Nat) : lead width n < 10 ^ width := by
  induction n using lead.induct width with
  | case1 n hn =>
    rw [lead_of_lt hn]
    exact hn
  | case2 n hn ih =>
    rw [lead_of_le (Nat.not_lt.1 hn)]
    exact ih

/-- A number that fills its field gets no zeros in front. -/
theorem toList_padded_of_le (hpos : 0 < width) (hn : 10 ^ (width - 1) ≤ n) :
    (padded width n).toList = Nat.toDigits 10 n := by
  have hlen : width ≤ (Nat.toDigits 10 n).length := by
    by_cases hone : width = 1
    · rw [hone]
      exact Nat.length_toDigits_pos
    · have hnot := mt (Nat.length_toDigits_le_iff (b := 10) (n := n) (by decide)
        (show 0 < width - 1 by omega)).1 (Nat.not_lt.2 hn)
      omega
  rw [toList_padded, Nat.sub_eq_zero_of_le hlen]
  rfl

/-- The field of a wider number goes on, with a digit, after the leading ones. -/
theorem padded_eq_lead_append (hpos : 0 < width) (hn : 10 ^ width ≤ n) :
    ∃ c l, c.isDigit = true ∧
      (padded width n).toList = (padded width (lead width n)).toList ++ c :: l := by
  have hpow : 10 ^ width = 10 ^ (width - 1) * 10 := by
    rw [← Nat.pow_succ, Nat.succ_eq_add_one, Nat.sub_add_cancel hpos]
  have hone : 1 ≤ 10 ^ (width - 1) := Nat.pow_pos (by decide)
  induction n using lead.induct width with
  | case1 n hlt => exact absurd hlt (Nat.not_lt.2 hn)
  | case2 n _ ih =>
    have hdigit : (n % 10).digitChar.isDigit = true := by
      rw [Nat.isDigit_digitChar]
      exact decide_eq_true (Nat.mod_lt n (by decide))
    rw [toList_padded_of_le hpos (n := n) (by omega),
      Nat.toDigits_of_base_le (by decide) (by omega), lead_of_le hn,
      ← toList_padded_of_le hpos (n := n / 10) (by omega)]
    by_cases hfits : n / 10 < 10 ^ width
    · rw [lead_of_lt hfits]
      exact ⟨_, [], hdigit, rfl⟩
    · obtain ⟨c, l, hc, heq⟩ := ih (Nat.not_lt.1 hfits)
      refine ⟨c, l ++ [(n % 10).digitChar], hc, ?_⟩
      rw [heq, List.append_assoc, List.cons_append]

/-- The leading digits of the next number are other ones where it ends a run
of numbers that share them. -/
theorem lead_lt_and_le_iff (hpos : 0 < width) (hn : 10 ^ (width - 1) ≤ n) (hm : m < 10 ^ width) :
    lead width n < m ∧ m ≤ lead width (n + 1) ↔
      10 ^ (width - 1) < m ∧ ∃ k, n + 1 = m * 10 ^ k := by
  have hpow : 10 ^ width = 10 ^ (width - 1) * 10 := by
    rw [← Nat.pow_succ, Nat.succ_eq_add_one, Nat.sub_add_cancel hpos]
  -- a number that starts with the digits of `m` is `m`, or ends in a zero
  have htimes (k : Nat) : m * 10 ^ (k + 1) = 10 * (m * 10 ^ k) := by
    rw [Nat.pow_succ]
    ac_rfl
  have hgrow (k : Nat) (hlt : 10 ^ (width - 1) < m) : 10 ^ width < m * 10 ^ (k + 1) := by
    have hle : m * 1 ≤ m * 10 ^ k := Nat.mul_le_mul_left m (Nat.pow_pos (by decide))
    rw [htimes]
    omega
  induction n using lead.induct width with
  | case1 n hfits =>
    rw [lead_of_lt hfits]
    by_cases hnext : n + 1 < 10 ^ width
    · rw [lead_of_lt hnext]
      constructor
      · rintro ⟨hlt, hle⟩
        exact ⟨by omega, 0, by omega⟩
      · rintro ⟨hlt, k | k, hk⟩
        · omega
        · have := hgrow k hlt
          omega
    · refine iff_of_false (by omega) ?_
      rintro ⟨hlt, k | k, hk⟩
      · omega
      · have := hgrow k hlt
        omega
  | case2 n hwide ih =>
    rw [lead_of_le (n := n) (by omega), lead_of_le (n := n + 1) (by omega)]
    by_cases hten : (n + 1) % 10 = 0
    · rw [show (n + 1) / 10 = n / 10 + 1 by omega]
      apply (ih (by omega)).trans
      apply and_congr_right
      intro _
      constructor
      · rintro ⟨k, hk⟩
        refine ⟨k + 1, ?_⟩
        rw [htimes]
        omega
      · rintro ⟨k | k, hk⟩
        · omega
        · rw [htimes] at hk
          exact ⟨k, by omega⟩
    · rw [show (n + 1) / 10 = n / 10 by omega]
      refine iff_of_false (by omega) ?_
      rintro ⟨-, k | k, hk⟩
      · omega
      · rw [htimes] at hk
        omega

/-- Between the fields of a number and of the next one there is the number, and
a shorter one where the next one is that one with zeros behind it. -/
theorem rank_le_and_lt_rank_iff (hpos : 0 < width) (hm : m + 1 < 10 ^ width) :
    rank width n ≤ m ∧ m < rank width (n + 1) ↔
      m = n ∨ 10 ^ (width - 1) < m ∧ ∃ k, n + 1 = m * 10 ^ (k + 1) := by
  have hpow : 10 ^ width = 10 ^ (width - 1) * 10 := by
    rw [← Nat.pow_succ, Nat.succ_eq_add_one, Nat.sub_add_cancel hpos]
  by_cases hwide : 10 ^ width ≤ n
  · rw [rank_of_le hwide, rank_of_le (by omega), Nat.add_one_le_iff, Nat.lt_add_one_iff,
      lead_lt_and_le_iff hpos (by omega) (by omega)]
    have hne : m ≠ n := by omega
    simp only [hne, false_or]
    apply and_congr_right
    intro _
    constructor
    · rintro ⟨k | k, hk⟩
      · omega
      · exact ⟨k, hk⟩
    · rintro ⟨k, hk⟩
      exact ⟨k + 1, hk⟩
  · have hnone : ¬(10 ^ (width - 1) < m ∧ ∃ k, n + 1 = m * 10 ^ (k + 1)) := by
      rintro ⟨hlt, k, hk⟩
      have hle : m * 10 * 1 ≤ m * 10 * 10 ^ k :=
        Nat.mul_le_mul_left _ (Nat.pow_pos (by decide))
      rw [Nat.pow_succ, Nat.mul_comm (10 ^ k), ← Nat.mul_assoc] at hk
      omega
    rw [rank_of_lt (Nat.not_le.1 hwide), or_iff_left hnone]
    by_cases hnext : n + 1 < 10 ^ width
    · rw [rank_of_lt hnext]
      omega
    · omega

section Separated

variable {sep : Char} {s s' : List Char}

/-- A field that fits, with a separator after it, before any other field. -/
theorem padded_append_lt_iff_rank (hpos : 0 < width) (hn : n < 10 ^ width)
    (hsep : ∀ c : Char, c.isDigit = true → sep < c) :
    (padded width n).toList ++ sep :: s < (padded width m).toList ++ s' ↔
      n < rank width m ∨ n = m ∧ sep :: s < s' := by
  by_cases hm : m < 10 ^ width
  · rw [rank_of_lt hm, padded_append_lt_iff hpos hn hm]
  · have hle := Nat.not_lt.1 hm
    obtain ⟨c, l, hc, heq⟩ := padded_eq_lead_append hpos hle
    have hne : n ≠ m := by omega
    have hbefore : sep :: s < c :: (l ++ s') := List.Lex.rel (hsep c hc)
    rw [heq, List.append_assoc, List.cons_append, padded_append_lt_iff hpos hn (lead_lt width m),
      rank_of_le hle]
    simp only [hbefore, hne, and_true, false_and, or_false]
    omega

/-- Any field before one that fits, with a separator after it. -/
theorem lt_padded_append_iff_rank (hpos : 0 < width) (hn : n < 10 ^ width)
    (hsep : ∀ c : Char, c.isDigit = true → sep < c) :
    (padded width m).toList ++ s' < (padded width n).toList ++ sep :: s ↔
      rank width m ≤ n ∧ n ≠ m ∨ n = m ∧ s' < sep :: s := by
  by_cases hm : m < 10 ^ width
  · rw [rank_of_lt hm, padded_append_lt_iff hpos hm hn]
    exact or_congr (by omega) (and_congr_left' eq_comm)
  · have hle := Nat.not_lt.1 hm
    obtain ⟨c, l, hc, heq⟩ := padded_eq_lead_append hpos hle
    have hne : n ≠ m := by omega
    have hlt := char_lt_iff_toNat_lt.1 (hsep c hc)
    have hafter : ¬c :: (l ++ s') < sep :: s := by
      rw [List.cons_lt_cons_iff, char_lt_iff_toNat_lt]
      rintro (h | ⟨rfl, -⟩)
      · omega
      · omega
    rw [heq, List.append_assoc, List.cons_append, padded_append_lt_iff hpos (lead_lt width m) hn,
      rank_of_le hle]
    simp only [hafter, hne, and_false, or_false, ne_eq, not_false_eq_true, and_true, false_and]
    omega

end Separated

end Wide

end Edm.Data
