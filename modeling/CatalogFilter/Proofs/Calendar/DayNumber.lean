import CatalogFilter.Proofs.Calendar.Date
import Mathlib.Tactic.SplitIfs

/-!
# Days are counted one by one

* `Date.daysBeforeYear_succ`, `Date.daysBeforeMonth_succ` — the next year and the next month begin when this one is over.
* `Date.splitDayNumber_counts` — the year, month and day of a day number name a day of the calendar and have that number.
* `Date.counts_inj` — no two days have one number.
* `Date.ofDayNumber_eq_ok` — the date of a day number is the one that has it.

Years behind 9999 are counted like all others; only `Date.make` refuses them. So what is shown of numbers holds of years,
months and days that need not be a `Date`.
-/

namespace CatalogFilter.Date

/-! ## Years and months -/

/-- The number of days of a year. -/
def daysInYear (year : Nat) : Nat :=
  if isLeapYear year then 366 else 365

/-- Which years have a 29th of February. -/
theorem isLeapYear_iff {year : Nat} : isLeapYear year = true ↔ 4 ∣ year ∧ (¬ 100 ∣ year ∨ 400 ∣ year) := by
  simp [isLeapYear, Nat.dvd_iff_mod_eq_zero]

/-- A year begins when the year before it is over. -/
theorem daysBeforeYear_succ {year : Nat} (first : 1 ≤ year) :
    daysBeforeYear (year + 1) = daysBeforeYear year + daysInYear year := by
  obtain ⟨y, rfl⟩ : ∃ y, year = y + 1 := ⟨year - 1, by omega⟩
  -- The count takes off the centuries, of which there are fewer than days.
  have fewer : y / 100 ≤ 365 * y := by omega
  unfold daysBeforeYear daysInYear
  simp only [Nat.add_sub_cancel, isLeapYear_iff, Nat.succ_div]
  split_ifs <;> omega

/-- Later years begin later. -/
theorem daysBeforeYear_mono {year other : Nat} (first : 1 ≤ year) (later : year ≤ other) :
    daysBeforeYear year ≤ daysBeforeYear other := by
  induction later with
  | refl => exact Nat.le_refl _
  | @step other later ih =>
    rw [daysBeforeYear_succ (Nat.le_trans first later)]
    omega

/-- A month begins when the month before it is over. -/
theorem daysBeforeMonth_succ (year : Nat) {month : Nat} (first : 1 ≤ month) :
    daysBeforeMonth year (month + 1) = daysBeforeMonth year month + daysInMonth year month := by
  rw [daysBeforeMonth, if_neg (by omega)]

/-- Later months begin later. -/
theorem daysBeforeMonth_mono (year : Nat) {month other : Nat} (first : 1 ≤ month) (later : month ≤ other) :
    daysBeforeMonth year month ≤ daysBeforeMonth year other := by
  induction later with
  | refl => exact Nat.le_refl _
  | @step other later ih =>
    rw [daysBeforeMonth_succ year (Nat.le_trans first later)]
    omega

/-- The months of a year make up the year. -/
theorem daysBeforeMonth_year (year : Nat) : daysBeforeMonth year 13 = daysInYear year := by
  cases leap : isLeapYear year <;> simp [daysBeforeMonth, daysInMonth, daysInYear, leap]

/-- A day of a month is a day of its year. -/
theorem dayOfYear_le {year month day : Nat} (first : 1 ≤ month) (last : month ≤ 12) (within : day ≤ daysInMonth year month) :
    daysBeforeMonth year month + day ≤ daysInYear year := by
  have month' := daysBeforeMonth_succ year first
  have later : daysBeforeMonth year (month + 1) ≤ daysBeforeMonth year 13 :=
    daysBeforeMonth_mono year (by omega) (by omega)
  rw [daysBeforeMonth_year] at later
  omega

/-! ## From numbers to days -/

/-- Months are passed over as long as days are left for them. -/
theorem splitYear_counts (year fuel rest : Nat) {month : Nat} (first : 1 ≤ month) (months : month + fuel = 13)
    (within : daysBeforeMonth year month + rest < daysInYear year) :
    ∃ m d, splitYear year fuel month rest = (m, d) ∧ 1 ≤ m ∧ m ≤ 12 ∧ 1 ≤ d ∧ d ≤ daysInMonth year m ∧
      daysBeforeMonth year m + d = daysBeforeMonth year month + rest + 1 := by
  induction fuel generalizing month rest with
  | zero =>
    -- Behind the last month no day is left.
    have passed : month = 13 := by omega
    rw [passed, daysBeforeMonth_year] at within
    omega
  | succ fuel ih =>
    rw [splitYear]
    split
    · rename_i inMonth
      exact ⟨month, rest + 1, rfl, first, by omega, by omega, by omega, by omega⟩
    · rename_i beyond
      have next := daysBeforeMonth_succ year first
      obtain ⟨m, d, split, m_pos, m_le, d_pos, d_le, counts⟩ :=
        ih (rest - daysInMonth year month) (Nat.le_add_left 1 month) (by omega) (by omega)
      exact ⟨m, d, split, m_pos, m_le, d_pos, d_le, by omega⟩

section

variable (eras : Nat) {centuries spans years : Nat}

/-- The days before a year, counted by eras of four hundred years, centuries, spans of four years, and years. -/
theorem daysBeforeYear_parts (century : centuries ≤ 3) (span : spans ≤ 24) (year : years ≤ 3) :
    daysBeforeYear (400 * eras + 100 * centuries + 4 * spans + years + 1) =
      146097 * eras + 36524 * centuries + 1461 * spans + 365 * years := by
  have four : (400 * eras + 100 * centuries + 4 * spans + years) / 4 = 100 * eras + 25 * centuries + spans := by omega
  have hundred : (400 * eras + 100 * centuries + 4 * spans + years) / 100 = 4 * eras + centuries := by omega
  have fourHundred : (400 * eras + 100 * centuries + 4 * spans + years) / 400 = eras := by omega
  unfold daysBeforeYear
  simp only [Nat.add_sub_cancel, four, hundred, fourHundred]
  omega

/-- The last year of a span has a 29th of February, but not the last of a century unless it ends an era. -/
theorem isLeapYear_parts (century : centuries ≤ 3) (span : spans ≤ 24) (year : years ≤ 3) :
    isLeapYear (400 * eras + 100 * centuries + 4 * spans + years + 1) = true ↔
      years = 3 ∧ (spans = 24 → centuries = 3) := by
  rw [isLeapYear_iff]
  omega

end

/-- The year, month and day of a day number name a day of the calendar and have that number. -/
theorem splitDayNumber_counts {n : Nat} (pos : 1 ≤ n) :
    ∃ y m d, splitDayNumber n = (y, m, d) ∧ 1 ≤ y ∧ 1 ≤ m ∧ m ≤ 12 ∧ 1 ≤ d ∧ d ≤ daysInMonth y m ∧
      daysBeforeYear y + daysBeforeMonth y m + d = n := by
  obtain ⟨k, rfl⟩ : ∃ k, n = k + 1 := ⟨n - 1, by omega⟩
  simp only [splitDayNumber, Nat.add_sub_cancel]
  generalize erasEq : k / 146097 = eras
  generalize afterEras : k % 146097 = r
  generalize centuriesEq : min (r / 36524) 3 = centuries
  generalize afterCenturies : r - 36524 * centuries = r'
  generalize spansEq : r' / 1461 = spans
  generalize afterSpans : r' % 1461 = r''
  generalize yearsEq : min (r'' / 365) 3 = years
  have century : centuries ≤ 3 := by omega
  have span : spans ≤ 24 := by omega
  have year : years ≤ 3 := by omega
  have before := daysBeforeYear_parts eras century span year
  have leap := isLeapYear_parts eras century span year
  have first : 1 ≤ 400 * eras + 100 * centuries + 4 * spans + years + 1 := by omega
  generalize 400 * eras + 100 * centuries + 4 * spans + years + 1 = y at before leap first
  have inYear : r'' - 365 * years < daysInYear y := by
    simp only [daysInYear, leap]
    split <;> omega
  have january : daysBeforeMonth y 1 = 0 := rfl
  obtain ⟨m, d, split, m_pos, m_le, d_pos, d_le, counts⟩ :=
    splitYear_counts y 12 (r'' - 365 * years) (Nat.le_refl 1) rfl (by omega)
  refine ⟨y, m, d, ?_, ?_, m_pos, m_le, d_pos, d_le, ?_⟩
  · rw [split]
  · exact first
  · omega

/-! ## From days to numbers -/

/-- A day of an earlier year has a smaller number. -/
theorem counts_lt_of_year_lt {y m d y' : Nat} (first : 1 ≤ y) (month : 1 ≤ m ∧ m ≤ 12) (within : d ≤ daysInMonth y m)
    (earlier : y < y') : daysBeforeYear y + daysBeforeMonth y m + d ≤ daysBeforeYear y' := by
  have inYear := dayOfYear_le month.1 month.2 within
  have later := daysBeforeYear_mono (Nat.le_add_left 1 y) (Nat.succ_le_of_lt earlier)
  rw [daysBeforeYear_succ first] at later
  omega

/-- A day of an earlier month of one year has a smaller number. -/
theorem counts_lt_of_month_lt {y m d m' : Nat} (first : 1 ≤ m) (within : d ≤ daysInMonth y m) (earlier : m < m') :
    daysBeforeMonth y m + d ≤ daysBeforeMonth y m' := by
  have later := daysBeforeMonth_mono y (Nat.le_add_left 1 m) (Nat.succ_le_of_lt earlier)
  rw [daysBeforeMonth_succ y first] at later
  omega

/-- No two days have one number. -/
theorem counts_inj {y m d y' m' d' : Nat} (year : 1 ≤ y) (year' : 1 ≤ y') (month : 1 ≤ m ∧ m ≤ 12)
    (month' : 1 ≤ m' ∧ m' ≤ 12) (day : 1 ≤ d ∧ d ≤ daysInMonth y m) (day' : 1 ≤ d' ∧ d' ≤ daysInMonth y' m')
    (same : daysBeforeYear y + daysBeforeMonth y m + d = daysBeforeYear y' + daysBeforeMonth y' m' + d') :
    y = y' ∧ m = m' ∧ d = d' := by
  rcases Nat.lt_trichotomy y y' with earlier | rfl | later
  · have := counts_lt_of_year_lt year month day.2 earlier
    omega
  · rcases Nat.lt_trichotomy m m' with earlier | rfl | later
    · have := counts_lt_of_month_lt month.1 day.2 earlier
      omega
    · exact ⟨rfl, rfl, by omega⟩
    · have := counts_lt_of_month_lt month'.1 day'.2 later
      omega
  · have := counts_lt_of_year_lt year' month' day'.2 later
    omega

/-- A date is made of three numbers exactly when they are its own. -/
theorem make_eq_ok {year month day : Nat} {d : Date} :
    make year month day = .ok d ↔ year = d.year ∧ month = d.month ∧ day = d.day := by
  constructor
  · intro made
    unfold make at made
    split at made
    · cases made
      exact ⟨rfl, rfl, rfl⟩
    · split at made
      · cases made
      · split at made <;> cases made
  · rintro ⟨rfl, rfl, rfl⟩
    exact make_self d

/-- The date of a day number is the one that has it. -/
theorem ofDayNumber_eq_ok {n : Nat} {d : Date} (pos : 1 ≤ n) : ofDayNumber n = .ok d ↔ d.dayNumber = n := by
  obtain ⟨y, m, day, split, y_pos, m_pos, m_le, day_pos, day_le, counts⟩ := splitDayNumber_counts pos
  obtain ⟨year, _, month, month', first, last⟩ := d.valid
  unfold ofDayNumber dayNumber
  rw [split]
  dsimp only
  rw [make_eq_ok]
  constructor
  · rintro ⟨rfl, rfl, rfl⟩
    exact counts
  · intro same
    exact counts_inj y_pos year ⟨m_pos, m_le⟩ ⟨month, month'⟩ ⟨day_pos, day_le⟩ ⟨first, last⟩ (counts.trans same.symm)

end CatalogFilter.Date
