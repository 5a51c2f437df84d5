import CatalogFilter.Proofs.Calendar.DayNumber

/-!
# Days of weeks

* `Date.IsWeekDay` — a day of a week that is counted by its Thursday.
* `Date.exists_dayOfYear` — each day of a year from 1 to 9999 is a date.
* `Date.ofWeek_eq_ok` — the date of a year, week and weekday is the day of that week.

Weeks begin on Monday, and belong to the year that their Thursday falls in. `Date.ofWeek` does not look for Thursdays: it counts
on from the Monday that is closest to the first of January.
-/

namespace CatalogFilter.Date

/-- The place of a date in its year. -/
def dayOfYear (d : Date) : Nat :=
  daysBeforeMonth d.year d.month + d.day

/-- Day 1 is a Monday, so of seven days the fourth is a Thursday. -/
def IsThursday (d : Date) : Prop :=
  d.dayNumber % 7 = 4

/-- A date is a day of a week, Monday being the first. The week is of the year that its Thursday falls in, and is counted by the
Thursdays of that year. -/
structure IsWeekDay (d : Date) (year week weekday : Nat) : Prop where
  weekday_pos : 1 ≤ weekday
  weekday_le : weekday ≤ 7
  thursday : ∃ t : Date, t.IsThursday ∧ d.dayNumber + 4 = t.dayNumber + weekday ∧ t.year = year ∧
    (t.dayOfYear + 6) / 7 = week

/-! ## Days of a year -/

/-- A day number counts the years before and the days of the year. -/
theorem dayNumber_eq (d : Date) : d.dayNumber = daysBeforeYear d.year + d.dayOfYear := by
  rw [dayNumber, dayOfYear, Nat.add_assoc]

/-- A date is one of the days of its year. -/
theorem dayOfYear_range (d : Date) : 1 ≤ d.dayOfYear ∧ d.dayOfYear ≤ daysInYear d.year := by
  obtain ⟨-, -, month, month', first, last⟩ := d.valid
  refine ⟨?_, dayOfYear_le month month' last⟩
  unfold dayOfYear
  omega

/-- Each day of a year is a date. -/
theorem exists_dayOfYear {year place : Nat} (first : 1 ≤ year) (last : year ≤ 9999) (pos : 1 ≤ place)
    (within : place ≤ daysInYear year) : ∃ d : Date, d.year = year ∧ d.dayOfYear = place := by
  have january : daysBeforeMonth year 1 = 0 := rfl
  obtain ⟨m, d, -, m_pos, m_le, d_pos, d_le, counts⟩ :=
    splitYear_counts year 12 (place - 1) (Nat.le_refl 1) rfl (by omega)
  refine ⟨⟨year, m, d, first, last, m_pos, m_le, d_pos, d_le⟩, rfl, ?_⟩
  show daysBeforeMonth year m + d = place
  omega

/-! ## Weeks of a year -/

/-- A year has 53 Thursdays if it begins with one, or with a Wednesday and has a day more. -/
theorem hasLongYear_iff {year : Nat} :
    hasLongYear year = true ↔ firstWeekday year = 3 ∨ firstWeekday year = 2 ∧ isLeapYear year = true := by
  simp [hasLongYear]

/-- The place in the year of the Thursday of a week. -/
def thursdayPlace (year week : Nat) : Nat :=
  7 * week + (if 3 < firstWeekday year then 7 else 0) - (firstWeekday year + 3)

/-- The Thursdays of a year stand at their places. -/
theorem dayOfYear_eq_thursdayPlace {t : Date} {week : Nat} (pos : 1 ≤ week) :
    t.dayOfYear = thursdayPlace t.year week ↔ t.IsThursday ∧ (t.dayOfYear + 6) / 7 = week := by
  have range := t.dayOfYear_range
  unfold IsThursday thursdayPlace firstWeekday
  rw [dayNumber_eq]
  split <;> omega

/-- The weeks of a year are those whose Thursday falls in it. -/
theorem week_le_iff (year : Nat) {week : Nat} (pos : 1 ≤ week) :
    week ≤ (if hasLongYear year then 53 else 52) ↔ thursdayPlace year week ≤ daysInYear year := by
  have weekday : firstWeekday year < 7 := Nat.mod_lt _ (by decide)
  unfold thursdayPlace daysInYear
  simp only [hasLongYear_iff]
  cases isLeapYear year <;> simp only [Bool.false_eq_true, and_false, and_true, or_false, if_false, if_true] <;>
    split <;> split <;> omega

/-- A day of a week is found from the place of the week's Thursday. -/
theorem isWeekDay_iff {d : Date} {year week weekday : Nat} :
    d.IsWeekDay year week weekday ↔
      1 ≤ week ∧ 1 ≤ weekday ∧ weekday ≤ 7 ∧ 1 ≤ year ∧ year ≤ 9999 ∧ thursdayPlace year week ≤ daysInYear year ∧
        d.dayNumber + 4 = daysBeforeYear year + thursdayPlace year week + weekday := by
  constructor
  · rintro ⟨weekday_pos, weekday_le, t, thursday, near, rfl, counted⟩
    have range := t.dayOfYear_range
    have pos : 1 ≤ week := by omega
    have place := (dayOfYear_eq_thursdayPlace pos).2 ⟨thursday, counted⟩
    rw [dayNumber_eq t, place] at near
    rw [place] at range
    exact ⟨pos, weekday_pos, weekday_le, t.valid.1, t.valid.2.1, range.2, near⟩
  · rintro ⟨pos, weekday_pos, weekday_le, first, last, within, near⟩
    have place_pos : 1 ≤ thursdayPlace year week := by
      have weekday : firstWeekday year < 7 := Nat.mod_lt _ (by decide)
      unfold thursdayPlace
      split <;> omega
    obtain ⟨t, rfl, place⟩ := exists_dayOfYear first last place_pos within
    obtain ⟨thursday, counted⟩ := (dayOfYear_eq_thursdayPlace pos).1 place
    refine ⟨weekday_pos, weekday_le, t, thursday, ?_, rfl, counted⟩
    rw [dayNumber_eq t, place]
    exact near

/-- The date of a year, week and weekday is the day of that week. -/
theorem ofWeek_eq_ok {text : String} {year week weekday : Nat} {d : Date} (last : year ≤ 9999) :
    ofWeek text year week weekday = .ok d ↔ d.IsWeekDay year week weekday := by
  have weeks (pos : 1 ≤ week) := week_le_iff year pos
  rw [isWeekDay_iff]
  unfold ofWeek
  generalize (if hasLongYear year then 53 else 52) = lastWeek at weeks
  dsimp only
  split
  · rename_i out
    refine ⟨nofun, fun ⟨pos, weekday_pos, weekday_le, _, _, within, _⟩ => ?_⟩
    have := (weeks pos).2 within
    omega
  · rename_i within
    have pos : 1 ≤ week := by omega
    split
    · rename_i zero
      exact ⟨nofun, fun ⟨_, _, _, first, _⟩ => by omega⟩
    · rename_i first
      have place := (weeks pos).1 (by omega)
      -- No day is taken off that is not there: the weekday of the first of January counts days before it.
      have number : daysBeforeYear year + 1 + (if 3 < firstWeekday year then 7 else 0) + 7 * (week - 1) + (weekday - 1) -
          firstWeekday year + 4 = daysBeforeYear year + thursdayPlace year week + weekday := by
        unfold thursdayPlace firstWeekday
        split <;> omega
      have positive : 1 ≤ daysBeforeYear year + 1 + (if 3 < firstWeekday year then 7 else 0) + 7 * (week - 1) +
          (weekday - 1) - firstWeekday year := by
        unfold firstWeekday
        split <;> omega
      rw [ofDayNumber_eq_ok positive]
      constructor
      · intro same
        exact ⟨pos, by omega, by omega, by omega, last, place, by omega⟩
      · rintro ⟨-, -, -, -, -, -, near⟩
        omega

end CatalogFilter.Date
