import CatalogFilter.Number.Digits
import CatalogFilter.Calendar.Fault

/-! # Calendar dates

* `Date`: a day of the years 1 to 9999 of the Gregorian calendar.
* `Date.make`: a date from its numbers, or the first number out of range.
* `Date.dayNumber`, `Date.ofDayNumber`: days counted from the first day of year 1, which is day 1.
* `Date.text`, `Date.read`: the written form, and the ten characters that are read as a date. -/

namespace CatalogFilter

/-! ## The calendar -/

/-- Whether a year has a 29th of February. -/
def isLeapYear (year : Nat) : Bool :=
  year % 4 = 0 && (year % 100 ≠ 0 || year % 400 = 0)

/-- The number of days of a month. -/
def daysInMonth (year month : Nat) : Nat :=
  match month with
  | 2 => if isLeapYear year then 29 else 28
  | 4 | 6 | 9 | 11 => 30
  | _ => 31

/-- Whether three numbers name a day of the years 1 to 9999. -/
def IsCalendarDay (year month day : Nat) : Prop :=
  1 ≤ year ∧ year ≤ 9999 ∧ 1 ≤ month ∧ month ≤ 12 ∧ 1 ≤ day ∧ day ≤ daysInMonth year month

instance (year month day : Nat) : Decidable (IsCalendarDay year month day) :=
  inferInstanceAs (Decidable (_ ∧ _))

/-- A day of the years 1 to 9999. -/
structure Date where
  year : Nat
  month : Nat
  day : Nat
  valid : IsCalendarDay year month day
  deriving DecidableEq

namespace Date

instance : Inhabited Date := ⟨⟨1, 1, 1, by decide⟩⟩

/-- The date of three numbers, or the first number out of range. -/
def make (year month day : Nat) : Except CalendarFault Date :=
  if h : IsCalendarDay year month day then .ok ⟨year, month, day, h⟩
  else if year < 1 ∨ 9999 < year then .error (.year year)
  else if month < 1 ∨ 12 < month then .error .month
  else .error .day

theorem make_self (d : Date) : make d.year d.month d.day = .ok d := by
  simp [make, d.valid]

/-! ## Counting days -/

/-- The number of days before the first of January. -/
def daysBeforeYear (year : Nat) : Nat :=
  let y := year - 1
  365 * y + y / 4 - y / 100 + y / 400

/-- The number of days of the months before a month. -/
def daysBeforeMonth (year : Nat) : Nat → Nat
  | 0 => 0
  | month + 1 => if month = 0 then 0 else daysBeforeMonth year month + daysInMonth year month

/-- The place of a date in the count of days. -/
def dayNumber (d : Date) : Nat :=
  daysBeforeYear d.year + daysBeforeMonth d.year d.month + d.day

/-- The month and day that a number of days after the first of January leads to, from `month` on. -/
def splitYear (year : Nat) : Nat → Nat → Nat → Nat × Nat
  | 0, month, rest => (month, rest + 1)
  | fuel + 1, month, rest =>
    if rest < daysInMonth year month then (month, rest + 1)
    else splitYear year fuel (month + 1) (rest - daysInMonth year month)

/-- The year, month and day of a day number. -/
def splitDayNumber (n : Nat) : Nat × Nat × Nat :=
  let n := n - 1
  let (eras, n) := (n / 146097, n % 146097)
  let centuries := min (n / 36524) 3
  let n := n - 36524 * centuries
  let (spans, n) := (n / 1461, n % 1461)
  let years := min (n / 365) 3
  let n := n - 365 * years
  let year := 400 * eras + 100 * centuries + 4 * spans + years + 1
  let (month, day) := splitYear year 12 1 n
  (year, month, day)

/-- The date of a day number, or the first number of it out of range. -/
def ofDayNumber (n : Nat) : Except CalendarFault Date :=
  let (year, month, day) := splitDayNumber n
  make year month day

/-! ## Weeks -/

/-- Days since Monday of the first of January. -/
def firstWeekday (year : Nat) : Nat :=
  (daysBeforeYear year) % 7

/-- Whether the year has 53 weeks that begin on Monday and hold most of their days in it. -/
def hasLongYear (year : Nat) : Bool :=
  firstWeekday year = 3 || (firstWeekday year = 2 && isLeapYear year)

/-- The date of a day of a week. The Monday of week 1 is the one closest to the first of January. -/
def ofWeek (text : String) (year week day : Nat) : Except CalendarFault Date :=
  let lastWeek := if hasLongYear year then 53 else 52
  if week < 1 ∨ lastWeek < week ∨ day < 1 ∨ 7 < day then .error (.notDate text)
  else if year = 0 then .error .month
  else
    let first := firstWeekday year
    let monday := daysBeforeYear year + 1 + (if 3 < first then 7 else 0)
    ofDayNumber (monday + 7 * (week - 1) + (day - 1) - first)

/-! ## Written form -/

/-- The characters of year, month and day with hyphens. -/
def chars (d : Date) : List Char :=
  Digits.padded 4 d.year ++ '-' :: Digits.padded 2 d.month ++ '-' :: Digits.padded 2 d.day

/-- Year, month and day with hyphens. -/
def text (d : Date) : String :=
  String.ofList d.chars

/-- Reads the year, month and day of a shape with eight digits. -/
def readDay (text : String) (shape : List Char) : Except CalendarFault Date :=
  match Digits.take Char.isDigit shape text.toList with
  | some (ds, _) => make (Digits.value (ds.take 4)) (Digits.value ((ds.drop 4).take 2)) (Digits.value (ds.drop 6))
  | none => .error (.notDate text)

/-- Reads the year, week and weekday of a shape with seven digits. -/
def readWeek (text : String) (shape : List Char) : Except CalendarFault Date :=
  match Digits.take Char.isDigit shape text.toList with
  | some (ds, _) =>
    ofWeek text (Digits.value (ds.take 4)) (Digits.value ((ds.drop 4).take 2)) (Digits.value (ds.drop 6))
  | none => .error (.notDate text)

/-- Reads ten ASCII characters as a date: year, month and day, or year, week and weekday, in each case with
hyphens, or without them, when the characters that are left over do not count. -/
def read (text : String) : Except CalendarFault Date :=
  let cs := text.toList
  if cs.any (fun c => 128 ≤ c.toNat) then .error (.notDate text)
  else if cs[4]? = some '-' then
    if cs[5]? = some 'W' then readWeek text "0000-W00-0".toList else readDay text "0000-00-00".toList
  else if cs[4]? = some 'W' then readWeek text "0000W000".toList
  else readDay text "00000000".toList

end Date

end CatalogFilter
