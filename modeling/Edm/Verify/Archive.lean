import Edm.Service.Archive

/-!
# What the archive selects

Texts of dates compare like the numbers `yyyymmdd` of their days, as long as no
field is wider than its place. A stored text goes on after the day, so it comes
after the bound text of its own day: the end of a period is left out.
-/

namespace Edm

open Data

/-- The day of a date as the number `yyyymmdd`. -/
def dayNumber (year month day : Nat) : Nat := year * 10000 + month * 100 + day

def DateTime.dayNumber (d : DateTime) : Nat := Edm.dayNumber d.year d.month d.day

/-! ## Texts -/

theorem toList_dateText (year month day : Nat) : (dateText year month day).toList =
    (padded 4 year).toList ++ ('-' :: ((padded 2 month).toList ++
      ('-' :: ((padded 2 day).toList ++ [])))) := by
  simp [dateText, String.toList_append]

theorem toList_text (d : DateTime) : d.text.toList =
    (padded 4 d.year).toList ++ ('-' :: ((padded 2 d.month).toList ++
      ('-' :: ((padded 2 d.day).toList ++ (' ' :: d.clockText.toList))))) := by
  simp [DateTime.text, dateText, String.toList_append]

section Compare

variable (d : DateTime) (year month day : Nat)

/-- The fields of a `datetime` fit their places. -/
theorem DateTime.fits (d : DateTime) :
    d.year < 10 ^ 4 ∧ d.month < 10 ^ 2 ∧ d.day < 10 ^ 2 := by
  have hday := d.day_le
  have hmonth := d.month_bounds.2
  have hyear := d.year_bounds.2
  omega

/-- What stands behind a field comes before every digit. -/
theorem separator_lt {sep c : Char} (hsep : sep.toNat < 48) (hc : c.isDigit = true) : sep < c := by
  have hzero : '0'.toNat = 48 := rfl
  have hdigit := (Char.isDigit_iff_toNat.1 hc).1
  rw [char_lt_iff_toNat_lt]
  omega

/-- A stored text before a bound, whatever numbers the bound was made of. -/
theorem text_lt_bound_iff :
    d.text < dateText year month day ↔ d.year < rank 4 year ∨ d.year = year ∧
      (d.month < rank 2 month ∨ d.month = month ∧ d.day < rank 2 day) := by
  obtain ⟨hy, hm, hd⟩ := d.fits
  have hdash (c : Char) : c.isDigit = true → '-' < c := separator_lt (by decide)
  have hblank (c : Char) : c.isDigit = true → ' ' < c := separator_lt (by decide)
  show d.text.toList < (dateText year month day).toList ↔ _
  rw [toList_text, toList_dateText, padded_append_lt_iff_rank (by decide) hy hdash,
    List.cons_lt_cons_self, padded_append_lt_iff_rank (by decide) hm hdash, List.cons_lt_cons_self,
    padded_append_lt_iff_rank (by decide) hd hblank]
  simp only [List.not_lt_nil, and_false, or_false]

/-- A bound before a stored text. -/
theorem bound_lt_text_iff :
    dateText year month day < d.text ↔ rank 4 year ≤ d.year ∧ d.year ≠ year ∨ d.year = year ∧
      (rank 2 month ≤ d.month ∧ d.month ≠ month ∨ d.month = month ∧ rank 2 day ≤ d.day) := by
  obtain ⟨hy, hm, hd⟩ := d.fits
  have hdash (c : Char) : c.isDigit = true → '-' < c := separator_lt (by decide)
  have hblank (c : Char) : c.isDigit = true → ' ' < c := separator_lt (by decide)
  have hday : rank 2 day ≤ d.day ∧ d.day ≠ day ∨ d.day = day ↔ rank 2 day ≤ d.day := by
    constructor
    · rintro (h | rfl)
      · exact h.1
      · exact Nat.le_of_eq (rank_of_lt hd)
    · intro h
      by_cases heq : d.day = day
      · exact .inr heq
      · exact .inl ⟨h, heq⟩
  show (dateText year month day).toList < d.text.toList ↔ _
  rw [toList_text, toList_dateText, lt_padded_append_iff_rank (by decide) hy hdash,
    List.cons_lt_cons_self, lt_padded_append_iff_rank (by decide) hm hdash, List.cons_lt_cons_self,
    lt_padded_append_iff_rank (by decide) hd hblank]
  simp only [List.nil_lt_cons, and_true, hday]

section Fits

variable {year month day : Nat} (hy : year < 10 ^ 4) (hm : month < 10 ^ 2) (hd : day < 10 ^ 2)

include hy hm hd

theorem text_lt_dateText_iff :
    d.text < dateText year month day ↔ d.dayNumber < dayNumber year month day := by
  obtain ⟨hy', hm', hd'⟩ := d.fits
  rw [text_lt_bound_iff, rank_of_lt hy, rank_of_lt hm, rank_of_lt hd, DateTime.dayNumber,
    dayNumber, dayNumber]
  omega

theorem dateText_lt_text_iff :
    dateText year month day < d.text ↔ dayNumber year month day ≤ d.dayNumber := by
  obtain ⟨hy', hm', hd'⟩ := d.fits
  rw [bound_lt_text_iff, rank_of_lt hy, rank_of_lt hm, rank_of_lt hd, DateTime.dayNumber,
    dayNumber, dayNumber]
  omega

/-- A start bound admits its own day. -/
theorem dateText_le_text_iff :
    dateText year month day ≤ d.text ↔ dayNumber year month day ≤ d.dayNumber := by
  rw [← String.not_lt, text_lt_dateText_iff d hy hm hd, Nat.not_lt]

/-- An end bound leaves its own day out. -/
theorem text_le_dateText_iff :
    d.text ≤ dateText year month day ↔ d.dayNumber < dayNumber year month day := by
  rw [← String.not_lt, dateText_lt_text_iff d hy hm hd, Nat.not_le]

end Fits

end Compare

/-! ## Periods -/

section Periods

variable {year month : Nat}

/-- Every number but zero counts as given. -/
theorem given_of_pos {n : Nat} (hn : 0 < n) : given (some n) = some n := by
  obtain - | n := n
  · omega
  · rfl

/-- The archive of a year misses its last day. -/
theorem archiveFilter_year_iff (hy : year ≤ 9999) (row : Backup) :
    archiveFilter year none none row = true ↔
      row.startDate.year = year ∧ ¬(row.startDate.month = 12 ∧ row.startDate.day = 31) := by
  have hstart : startDate year none none = dateText year 1 1 := rfl
  have hend : endDate year none none = dateText year 12 31 := rfl
  have hday := row.startDate.day_le
  have hday' := row.startDate.day_bounds.1
  have hmonth := row.startDate.month_bounds
  rw [archiveFilter, Bool.and_eq_true, decide_eq_true_iff, decide_eq_true_iff, hstart, hend,
    dateText_le_text_iff _ (by omega) (by decide) (by decide),
    text_le_dateText_iff _ (by omega) (by decide) (by decide), DateTime.dayNumber, dayNumber,
    dayNumber, dayNumber]
  omega

/-- The archive of a month misses a day 31. -/
theorem archiveFilter_month_iff (hy : year ≤ 9999) (hm : 1 ≤ month ∧ month ≤ 12) (row : Backup) :
    archiveFilter year (some month) none row = true ↔
      (row.startDate.year = year ∧ row.startDate.month = month) ∧ row.startDate.day ≠ 31 := by
  have hgiven : given (some month) = some month := given_of_pos hm.1
  have hstart : startDate year (some month) none = dateText year month 1 := by
    rw [startDate, hgiven]
    rfl
  have hend : endDate year (some month) none = dateText year month 31 := by
    rw [endDate, hgiven]
    rfl
  have hday := row.startDate.day_le
  have hday' := row.startDate.day_bounds.1
  have hmonth := row.startDate.month_bounds
  rw [archiveFilter, Bool.and_eq_true, decide_eq_true_iff, decide_eq_true_iff, hstart, hend,
    dateText_le_text_iff _ (by omega) (by omega) (by decide),
    text_le_dateText_iff _ (by omega) (by omega) (by decide), DateTime.dayNumber, dayNumber,
    dayNumber, dayNumber]
  omega

/-- A day is found in its own archive only, the days no month has included. -/
theorem archiveFilter_day_iff {day : Nat} (hy : year ≤ 9999) (hm : 1 ≤ month ∧ month ≤ 12)
    (hd : 1 ≤ day ∧ day ≤ 31) (row : Backup) :
    archiveFilter year (some month) (some day) row = true ↔
      row.startDate.year = year ∧ row.startDate.month = month ∧ row.startDate.day = day := by
  have hmonth : given (some month) = some month := given_of_pos hm.1
  have hday : given (some day) = some day := given_of_pos hd.1
  have hstart : startDate year (some month) (some day) = dateText year month day := by
    rw [startDate, hmonth, hday]
    rfl
  have hend : endDate year (some month) (some day) = dateText year month (day + 1) := by
    rw [endDate, hmonth, hday]
    rfl
  obtain ⟨hy', hm', hd'⟩ := row.startDate.fits
  -- the end bound may be no date, such as a day 32, and still closes the day
  rw [archiveFilter, Bool.and_eq_true, decide_eq_true_iff, decide_eq_true_iff, hstart, hend,
    dateText_le_text_iff _ (by omega) (by omega) (by omega),
    text_le_dateText_iff _ (by omega) (by omega) (by omega), DateTime.dayNumber, dayNumber,
    dayNumber, dayNumber]
  omega

/-- Two filters of a table agree when they agree on its rows. -/
theorem filter_eq_filter_iff {α : Type} {l : List α} {p q : α → Bool} :
    l.filter p = l.filter q ↔ ∀ a ∈ l, p a = q a := by
  constructor
  · intro h a ha
    have hmem : a ∈ l.filter p ↔ a ∈ l.filter q := by rw [h]
    simp only [List.mem_filter, ha, true_and] at hmem
    exact Bool.eq_iff_iff.2 hmem
  · intro h
    exact List.filter_congr h

end Periods

/-- The archives of a year and of a month of it hold the rows of that year and
of that month, all of them and no others. -/
structure ArchivesExact (backups : Table Backup) (year month : Nat) : Prop where
  ofYear : archive year none none backups =
    backups.rows.filter fun row => row.2.startDate.year = year
  ofMonth : archive year (some month) none backups =
    backups.rows.filter fun row =>
      row.2.startDate.year = year ∧ row.2.startDate.month = month

/-- **When the archives are exact**: no backup was started on the last day of
the year, or on a day 31 of the month. -/
theorem archivesExact_iff (backups : Table Backup) (year month : Nat)
    (hy : 1 ≤ year ∧ year ≤ 9999) (hm : 1 ≤ month ∧ month ≤ 12) :
    ArchivesExact backups year month ↔
      ∀ row ∈ backups.rows, row.2.startDate.year = year → row.2.startDate.day = 31 →
        row.2.startDate.month ≠ 12 ∧ row.2.startDate.month ≠ month := by
  have hyear (row : Int × Backup) : archiveFilter year none none row.2 =
      decide (row.2.startDate.year = year) ↔
      (row.2.startDate.year = year → row.2.startDate.day = 31 → row.2.startDate.month ≠ 12) := by
    rw [Bool.eq_iff_iff, archiveFilter_year_iff hy.2, decide_eq_true_iff]
    tauto
  have hmonth (row : Int × Backup) : archiveFilter year (some month) none row.2 =
      decide (row.2.startDate.year = year ∧ row.2.startDate.month = month) ↔
      (row.2.startDate.year = year → row.2.startDate.day = 31 → row.2.startDate.month ≠ month) := by
    rw [Bool.eq_iff_iff, archiveFilter_month_iff hy.2 hm, decide_eq_true_iff]
    tauto
  constructor
  · rintro ⟨hall, hall'⟩ row hrow heq hday
    exact ⟨(hyear row).1 (filter_eq_filter_iff.1 hall row hrow) heq hday,
      (hmonth row).1 (filter_eq_filter_iff.1 hall' row hrow) heq hday⟩
  · intro h
    constructor
    · apply filter_eq_filter_iff.2
      intro row hrow
      apply (hyear row).2
      intro heq hday
      exact (h row hrow heq hday).1
    · apply filter_eq_filter_iff.2
      intro row hrow
      apply (hmonth row).2
      intro heq hday
      exact (h row hrow heq hday).2

/-- Noon of the last day of 2017. -/
def DateTime.lastOf2017 : DateTime where
  year := 2017
  month := 12
  day := 31
  hour := 12
  minute := 0
  second := 0
  microsecond := 0
  year_bounds := by decide
  month_bounds := by decide
  day_bounds := by decide
  time_bounds := by decide

/-- One backup, started at noon of the last day of 2017. -/
def lastDayBackups : Table Backup :=
  Table.empty.put 1 ⟨some "nightly", .lastOf2017, "INITIATED"⟩

theorem archivesExact_iff_lastDay :
    ArchivesExact lastDayBackups 2017 6 ↔
      ∀ row ∈ lastDayBackups.rows, row.2.startDate.year = 2017 → row.2.startDate.day = 31 →
        row.2.startDate.month ≠ 12 ∧ row.2.startDate.month ≠ 6 :=
  archivesExact_iff lastDayBackups 2017 6 (by decide) (by decide)

/-- It is in neither the archive of 2017 nor that of December 2017. -/
theorem archives_miss_lastDay :
    archive 2017 none none lastDayBackups = [] ∧ archive 2017 (some 12) none lastDayBackups = [] ∧
      ¬ArchivesExact lastDayBackups 2017 12 := by
  refine ⟨by decide, by decide, ?_⟩
  intro h
  have hyear := h.ofYear
  have hempty : archive 2017 none none lastDayBackups = [] := by decide
  rw [hempty] at hyear
  cases hyear

/-! ## The archive of a day -/

/-- **The archive of a day is exact.** -/
theorem archive_day_exact (backups : Table Backup) (year month day : Nat)
    (hy : 1 ≤ year ∧ year ≤ 9999) (hm : 1 ≤ month ∧ month ≤ 12) (hd : 1 ≤ day ∧ day ≤ 31) :
    archive year (some month) (some day) backups =
        backups.rows.filter (fun row => row.2.startDate.year = year ∧
          row.2.startDate.month = month ∧ row.2.startDate.day = day) ∧
      (daysInMonth year month < day → archive year (some month) (some day) backups = []) := by
  have hexact (row : Int × Backup) := archiveFilter_day_iff hy.2 hm hd row.2
  constructor
  · apply filter_eq_filter_iff.2
    intro row _
    rw [Bool.eq_iff_iff, hexact, decide_eq_true_iff]
  · intro hmissing
    apply List.filter_eq_nil_iff.2
    intro row _ hrow
    obtain ⟨rfl, rfl, rfl⟩ := (hexact row).1 hrow
    exact absurd row.2.startDate.day_bounds.2 (Nat.not_le.2 hmissing)

theorem archive_day_exact_lastDay :
    archive 2017 (some 12) (some 31) lastDayBackups =
        lastDayBackups.rows.filter (fun row => row.2.startDate.year = 2017 ∧
          row.2.startDate.month = 12 ∧ row.2.startDate.day = 31) ∧
      (daysInMonth 2017 12 < 31 → archive 2017 (some 12) (some 31) lastDayBackups = []) :=
  archive_day_exact lastDayBackups 2017 12 31 (by decide) (by decide) (by decide)

end Edm
