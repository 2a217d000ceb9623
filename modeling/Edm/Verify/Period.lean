import Edm.Verify.Archive

/-!
# The period a URL names

The routes of the archive admit every natural number, and nothing checks them.
A zero is taken for a number that is not there, and a number wider than its
field shifts the digits behind it. `Strays` collects the moments that are
selected although the URL does not name them: a month `0` stands for all months
of the year, a day `0` for the days `1` to `30`, and a day `109` selects the day
`11`, because `110` is written after `11` and before `12`.
-/

namespace Edm

open Data

/-- The moments in the period the URL names. -/
def ArchiveUrl.Names (d : DateTime) : ArchiveUrl → Prop
  | .ofYear year => d.year = year
  | .ofMonth year month => d.year = year ∧ d.month = month
  | .ofDay year month day => d.year = year ∧ d.month = month ∧ d.day = day

/-- A moment of the days from `start` to `31` in January, of any day from
February to November, or of the days before `stop` in December. -/
def DateTime.InMonthsOf (d : DateTime) (year start stop : Nat) : Prop :=
  d.year = year ∧ (d.month = 1 → rank 2 start ≤ d.day) ∧ (d.month = 12 → d.day < rank 2 stop)

/-- The moments that are selected and lie in another period. -/
def ArchiveUrl.Strays (d : DateTime) : ArchiveUrl → Prop
  | .ofYear _ => False
  | .ofMonth year 0 => d.InMonthsOf year 1 31
  | .ofMonth _ (_ + 1) => False
  | .ofDay year 0 0 => d.InMonthsOf year 1 31
  | .ofDay year 0 (day + 1) => d.InMonthsOf year (day + 1) (day + 2)
  | .ofDay year (month + 1) 0 => d.year = year ∧ d.month = month + 1 ∧ d.day ≠ 31
  | .ofDay year (month + 1) (day + 1) => d.year = year ∧ d.month = month + 1 ∧
      10 < d.day ∧ ∃ k, day + 2 = d.day * 10 ^ (k + 1)

section Rows

variable (year : Nat) (row : Backup)

/-- What the conditions of the query select, whatever the numbers. -/
theorem archiveFilter_iff (month day : Option Nat) :
    archiveFilter year month day row = true ↔ row.startDate.year = year ∧
      (rank 2 ((given month).getD 1) ≤ row.startDate.month ∧
        (row.startDate.month = (given month).getD 1 →
          rank 2 ((given day).getD 1) ≤ row.startDate.day)) ∧
      (rank 2 ((given month).getD 12) ≤ row.startDate.month →
        row.startDate.month = (given month).getD 12 ∧
          row.startDate.day < rank 2 (((given day).map (· + 1)).getD 31)) := by
  obtain ⟨hy, hm, hd⟩ := row.startDate.fits
  have hyear : row.startDate.year = year → rank 4 year = year := by
    rintro rfl
    exact rank_of_lt hy
  have hmonth (month : Nat) : row.startDate.month = month → rank 2 month = month := by
    rintro rfl
    exact rank_of_lt hm
  have hstart := hmonth ((given month).getD 1)
  have hend := hmonth ((given month).getD 12)
  rw [archiveFilter, Bool.and_eq_true, decide_eq_true_iff, decide_eq_true_iff, startDate, endDate,
    ← String.not_lt, ← String.not_lt, text_lt_bound_iff, bound_lt_text_iff]
  omega

/-- A month that is given is the month of every row. -/
theorem archiveFilter_month_day_iff (month : Nat) (day : Option Nat) :
    archiveFilter year (some (month + 1)) day row = true ↔
      row.startDate.year = year ∧ row.startDate.month = month + 1 ∧
        rank 2 ((given day).getD 1) ≤ row.startDate.day ∧
          row.startDate.day < rank 2 (((given day).map (· + 1)).getD 31) := by
  obtain ⟨-, hm, -⟩ := row.startDate.fits
  have hfits : row.startDate.month = month + 1 → rank 2 (month + 1) = month + 1 := by
    intro h
    exact rank_of_lt (h ▸ hm)
  rw [archiveFilter_iff, show given (some (month + 1)) = some (month + 1) from rfl,
    Option.getD_some, Option.getD_some]
  omega

/-- Where no month is given the days bound the first and the last month only. -/
theorem archiveFilter_months_iff {month : Option Nat} (hmonth : given month = none)
    (day : Option Nat) :
    archiveFilter year month day row = true ↔ row.startDate.InMonthsOf year
      ((given day).getD 1) (((given day).map (· + 1)).getD 31) := by
  have hbounds := row.startDate.month_bounds
  have hone : rank 2 1 = 1 := rank_of_lt (by decide)
  have htwelve : rank 2 12 = 12 := rank_of_lt (by decide)
  rw [archiveFilter_iff, hmonth, Option.getD_none, Option.getD_none, DateTime.InMonthsOf]
  omega

end Rows

section Urls

variable {backups : Table Backup} {row : Int × Backup}

theorem mem_archive_iff (hrow : row ∈ backups.rows) (year : Nat) (month day : Option Nat) :
    row ∈ archive year month day backups ↔ archiveFilter year month day row.2 = true := by
  rw [archive, List.mem_filter, and_iff_right hrow]

/-- A number with zeros behind it is not the one that follows it. -/
theorem ne_of_eq_mul_pow {day n k : Nat} (hn : 0 < n) (h : day + 1 = n * 10 ^ (k + 1)) :
    n ≠ day := by
  have hle : n * 10 * 1 ≤ n * 10 * 10 ^ k := Nat.mul_le_mul_left _ (Nat.pow_pos (by decide))
  rw [Nat.pow_succ, Nat.mul_comm (10 ^ k), ← Nat.mul_assoc] at h
  omega

theorem mem_rows_of_mem_archive {url : ArchiveUrl} (h : row ∈ url.archive backups) :
    row ∈ backups.rows := by
  cases url <;> exact (List.mem_filter.1 h).1

/-- The rows that are selected and lie in another period. -/
theorem selected_outside_iff (hrow : row ∈ backups.rows) (url : ArchiveUrl) :
    row ∈ url.archive backups ∧ ¬url.Names row.2.startDate ↔ url.Strays row.2.startDate := by
  have hmonth := row.2.startDate.month_bounds.1
  have hday := row.2.startDate.day_bounds.1
  have hday' := row.2.startDate.day_le
  cases url with
  | ofYear year =>
    show row ∈ archive year none none backups ∧ ¬row.2.startDate.year = year ↔ False
    rw [mem_archive_iff hrow, archiveFilter_months_iff year row.2 rfl]
    exact iff_false_intro fun h => h.2 h.1.1
  | ofMonth year month =>
    show row ∈ archive year (some month) none backups ∧
      ¬(row.2.startDate.year = year ∧ row.2.startDate.month = month) ↔ _
    rw [mem_archive_iff hrow]
    cases month with
    | zero =>
      rw [archiveFilter_months_iff year row.2 rfl]
      apply and_iff_left_of_imp
      rintro - ⟨-, hzero⟩
      omega
    | succ month =>
      rw [archiveFilter_month_day_iff]
      exact iff_false_intro fun h => h.2 ⟨h.1.1, h.1.2.1⟩
  | ofDay year month day =>
    show row ∈ archive year (some month) (some day) backups ∧
      ¬(row.2.startDate.year = year ∧ row.2.startDate.month = month ∧
        row.2.startDate.day = day) ↔ _
    rw [mem_archive_iff hrow]
    cases month with
    | zero =>
      rw [archiveFilter_months_iff year row.2 rfl]
      cases day with
      | zero =>
        apply and_iff_left_of_imp
        rintro - ⟨-, hzero, -⟩
        omega
      | succ day =>
        apply and_iff_left_of_imp
        rintro - ⟨-, hzero, -⟩
        omega
    | succ month =>
      rw [archiveFilter_month_day_iff]
      cases day with
      | zero =>
        have hfirst : rank 2 1 = 1 := rank_of_lt (by decide)
        have hlast : rank 2 31 = 31 := rank_of_lt (by decide)
        show (_ ∧ _ ∧ rank 2 1 ≤ _ ∧ _ < rank 2 31) ∧ _ ↔ _ ∧ _ ∧ row.2.startDate.day ≠ 31
        omega
      | succ day =>
        show (_ ∧ _ ∧ rank 2 (day + 1) ≤ _ ∧ _ < rank 2 (day + 1 + 1)) ∧ _ ↔
          _ ∧ _ ∧ 10 < row.2.startDate.day ∧ ∃ k, day + 2 = row.2.startDate.day * 10 ^ (k + 1)
        rw [rank_le_and_lt_rank_iff (by decide) (by omega)]
        constructor
        · rintro ⟨⟨hy, hm, heq | hpow⟩, hnot⟩
          · exact absurd ⟨hy, hm, heq⟩ hnot
          · exact ⟨hy, hm, hpow⟩
        · rintro ⟨hy, hm, hlt, k, hk⟩
          refine ⟨⟨hy, hm, .inr ⟨hlt, k, hk⟩⟩, ?_⟩
          rintro ⟨-, -, heq⟩
          exact ne_of_eq_mul_pow (by omega) hk heq

end Urls

/-- **When a request stays in its period**: no backup was started at a moment
that strays into it. -/
theorem archive_stays_iff (url : ArchiveUrl) (backups : Table Backup) :
    (∀ row ∈ url.archive backups, url.Names row.2.startDate) ↔
      ∀ row ∈ backups.rows, ¬url.Strays row.2.startDate := by
  constructor
  · intro h row hrow hstrays
    obtain ⟨hmem, hnames⟩ := (selected_outside_iff hrow url).2 hstrays
    exact hnames (h row hmem)
  · intro h row hmem
    have hrow := mem_rows_of_mem_archive hmem
    by_contra hnames
    exact h row hrow ((selected_outside_iff hrow url).1 ⟨hmem, hnames⟩)

/-- The morning of the eleventh of May 2019. -/
def DateTime.eleventhOfMay : DateTime where
  year := 2019
  month := 5
  day := 11
  hour := 6
  minute := 30
  second := 0
  microsecond := 0
  year_bounds := by decide
  month_bounds := by decide
  day_bounds := by decide
  time_bounds := by decide

/-- One backup, started on the eleventh of May 2019. -/
def mayBackups : Table Backup :=
  Table.empty.put 1 ⟨some "weekly", .eleventhOfMay, "INITIATED"⟩

/-- It is found under month `0`, under day `0` and under day `109` of May. -/
theorem archive_strays_mayBackups :
    (ArchiveUrl.ofMonth 2019 0).archive mayBackups = mayBackups.rows ∧
      (ArchiveUrl.ofDay 2019 5 0).archive mayBackups = mayBackups.rows ∧
      (ArchiveUrl.ofDay 2019 5 109).archive mayBackups = mayBackups.rows ∧
      ¬∀ (url : ArchiveUrl) (backups : Table Backup),
        ∀ row ∈ url.archive backups, url.Names row.2.startDate := by
  have hzero : (ArchiveUrl.ofMonth 2019 0).archive mayBackups = mayBackups.rows :=
    List.filter_eq_self.2 (by decide)
  refine ⟨hzero, List.filter_eq_self.2 (by decide), List.filter_eq_self.2 (by decide), ?_⟩
  intro h
  have hmem : mayBackups.rows[0] ∈ (ArchiveUrl.ofMonth 2019 0).archive mayBackups := by
    rw [hzero]
    exact List.getElem_mem _
  exact absurd (h _ _ _ hmem).2 (by decide)

end Edm
