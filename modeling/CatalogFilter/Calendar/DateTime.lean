import CatalogFilter.Calendar.Date

/-! # Times of day and instants

* `TimeOfDay`, `Offset`: a time to the microsecond, and a distance from universal time below a day.
* `Zone`: whether an offset is the same at all times, or that of a region at one time.
* `LocalDateTime`, `OffsetDateTime`, `DateTime`: a date and a time, without offset, with one, and either.
* `OffsetDateTime.instant`: microseconds on the universal time line.
* `OffsetDateTime.equal`: equality, by clocks within a region and by instants otherwise; a time whose offset is one
  of two that its region has for it equals none of another zone.
* `OffsetDateTime.text`, `DateTime.text`: the written form, in which offset zero is a `Z`.
* `DateTime.readIso`: reads back a written date and time with or without offset. -/

namespace CatalogFilter

/-! ## Types -/

/-- A time of day to the microsecond. -/
structure TimeOfDay where
  hour : Nat
  minute : Nat
  second : Nat
  micro : Nat
  hour_lt : hour < 24
  minute_lt : minute < 60
  second_lt : second < 60
  micro_lt : micro < 1000000
  deriving DecidableEq

/-- The microseconds of a minute. -/
def microsPerMinute : Int := 60000000

/-- The microseconds of a day. -/
def microsPerDay : Int := 86400000000

/-- A distance from universal time in microseconds, less than a day either way. -/
structure Offset where
  micros : Int
  within : -microsPerDay < micros ∧ micros < microsPerDay
  deriving DecidableEq

/-- A date with a time of day. -/
structure LocalDateTime where
  date : Date
  time : TimeOfDay
  deriving DecidableEq

/-- What gives a date and time its offset. -/
inductive Zone where
  /-- An offset that is the same at all times. If the time was read from a text with an offset, that is kept as
  it was written; messages show it, and nothing else depends on it. -/
  | fixed (written : Option String)
  /-- A region, which changes its offset from time to time. Where it puts its clocks back or forward, it has two
  offsets for one date and time: `later` says that the second of them is meant, and `otherwise` is the one that is
  not meant. At all other times that is the same offset. -/
  | region (name : String) (later : Bool) (otherwise : Offset)
  deriving DecidableEq

/-- A date with a time of day and its offset from universal time. -/
structure OffsetDateTime where
  clock : LocalDateTime
  offset : Offset
  zone : Zone
  deriving DecidableEq

/-- A date with a time of day, with its offset or without one. -/
inductive DateTime where
  | naive (clock : LocalDateTime)
  | aware (t : OffsetDateTime)
  deriving DecidableEq

/-- How far a time of day is written out. -/
inductive Precision where
  /-- Seconds, or microseconds where there are any. -/
  | auto
  | hours
  | minutes
  | seconds
  | milliseconds
  | microseconds
  deriving DecidableEq

/-- The precision of the given name. -/
def Precision.ofName? : String → Option Precision
  | "auto" => some .auto
  | "hours" => some .hours
  | "minutes" => some .minutes
  | "seconds" => some .seconds
  | "milliseconds" => some .milliseconds
  | "microseconds" => some .microseconds
  | _ => none

namespace TimeOfDay

/-- The time of four numbers, or the first number out of range. -/
def make (hour minute second micro : Nat) : Except CalendarFault TimeOfDay :=
  if h : hour < 24 then
    if m : minute < 60 then
      if s : second < 60 then
        if u : micro < 1000000 then .ok ⟨hour, minute, second, micro, h, m, s, u⟩
        else .error .microsecond
      else .error .second
    else .error .minute
  else .error .hour

theorem make_self (t : TimeOfDay) : make t.hour t.minute t.second t.micro = .ok t := by
  simp [make, t.hour_lt, t.minute_lt, t.second_lt, t.micro_lt]

/-- Microseconds since midnight. -/
def micros (t : TimeOfDay) : Nat :=
  ((t.hour * 60 + t.minute) * 60 + t.second) * 1000000 + t.micro

/-- The characters of a time at a precision. -/
def chars (t : TimeOfDay) (p : Precision) : List Char :=
  let hours := Digits.padded 2 t.hour
  let minutes := hours ++ ':' :: Digits.padded 2 t.minute
  let seconds := minutes ++ ':' :: Digits.padded 2 t.second
  match p with
  | .hours => hours
  | .minutes => minutes
  | .seconds => seconds
  | .milliseconds => seconds ++ '.' :: Digits.padded 3 (t.micro / 1000)
  | .microseconds => seconds ++ '.' :: Digits.padded 6 t.micro
  | .auto => if t.micro = 0 then seconds else seconds ++ '.' :: Digits.padded 6 t.micro

end TimeOfDay

namespace Offset

/-- Universal time itself. -/
def utc : Offset := ⟨0, by decide⟩

/-- The offset of a number of microseconds, if it is less than a day. -/
def make (micros : Int) : Except CalendarFault Offset :=
  if h : -microsPerDay < micros ∧ micros < microsPerDay then .ok ⟨micros, h⟩ else .error .offset

/-- Whether the offset is a whole number of minutes. -/
def IsWholeMinutes (o : Offset) : Prop :=
  o.micros % microsPerMinute = 0

instance (o : Offset) : Decidable o.IsWholeMinutes :=
  inferInstanceAs (Decidable (_ = _))

/-- Sign, hours and minutes; seconds and their fraction only where there are any. -/
def chars (o : Offset) : List Char :=
  let total := o.micros.natAbs
  let (seconds, micro) := (total / 1000000, total % 1000000)
  let minutes := (if o.micros < 0 then '-' else '+') :: Digits.padded 2 (seconds / 3600) ++
    ':' :: Digits.padded 2 (seconds / 60 % 60)
  if seconds % 60 = 0 ∧ micro = 0 then minutes
  else
    let upToSeconds := minutes ++ ':' :: Digits.padded 2 (seconds % 60)
    if micro = 0 then upToSeconds else upToSeconds ++ '.' :: Digits.padded 6 micro

end Offset

/-- Whether two zones are the same region. -/
def Zone.sameRegion : Zone → Zone → Bool
  | .region name _ _, .region name' _ _ => name == name'
  | _, _ => false

namespace LocalDateTime

/-- Microseconds since the day before the first day of year 1. -/
def micros (d : LocalDateTime) : Int :=
  d.date.dayNumber * microsPerDay + d.time.micros

/-- Date, separator and time. -/
def chars (d : LocalDateTime) (separator : Char) (p : Precision) : List Char :=
  d.date.chars ++ separator :: d.time.chars p

end LocalDateTime

namespace OffsetDateTime

/-- The place on the universal time line, in microseconds. -/
def instant (d : OffsetDateTime) : Int :=
  d.clock.micros - d.offset.micros

/-- Date, separator, time and offset. -/
def chars (d : OffsetDateTime) (separator : Char) (p : Precision) : List Char :=
  d.clock.chars separator p ++ d.offset.chars

/-- The written form with the offset in figures. -/
def iso (d : OffsetDateTime) : String :=
  String.ofList (d.chars 'T' .auto)

/-- The written form at a precision; offset zero is written `Z`. -/
def textAt (d : OffsetDateTime) (p : Precision) : String :=
  String.ofList
    (if d.offset.micros = 0 then d.clock.chars 'T' p ++ ['Z'] else d.chars 'T' p)

/-- The written form. -/
def text (d : OffsetDateTime) : String :=
  d.textAt .auto

/-- A local date and time read as universal time. -/
def ofLocal (d : LocalDateTime) : OffsetDateTime :=
  ⟨d, .utc, .fixed none⟩

/-- Whether the offset is one of two that the region has for the date and time. -/
def isAmbiguous (d : OffsetDateTime) : Bool :=
  match d.zone with
  | .fixed _ => false
  | .region _ _ otherwise => otherwise != d.offset

/-- Equality of times. Within one region the clocks count, whichever offsets they have. Otherwise instants count, and
an ambiguous time equals no other. -/
def equal (d e : OffsetDateTime) : Bool :=
  if d.zone.sameRegion e.zone then decide (d.clock = e.clock)
  else d.instant == e.instant && !d.isAmbiguous && !e.isAmbiguous

end OffsetDateTime

namespace DateTime

/-- The date and the time of day. -/
def clock : DateTime → LocalDateTime
  | .naive clock => clock
  | .aware t => t.clock

/-- The offset, if there is one. -/
def offset? : DateTime → Option Offset
  | .naive _ => none
  | .aware t => some t.offset

/-- The time with its offset; without one it is universal time. -/
def toAware : DateTime → OffsetDateTime
  | .naive clock => .ofLocal clock
  | .aware t => t

/-- Date, separator, time, and the offset if there is one. -/
def chars (d : DateTime) (separator : Char) (p : Precision) : List Char :=
  d.clock.chars separator p ++ (d.offset?.map Offset.chars).getD []

/-- The written form at a precision. -/
def textAt (d : DateTime) (p : Precision) : String :=
  d.toAware.textAt p

/-- The written form. -/
def text (d : DateTime) : String :=
  d.textAt .auto

/-- Equality of times that both have an offset, or both have none. -/
def equal : DateTime → DateTime → Bool
  | .naive d, .naive e => decide (d = e)
  | .aware d, .aware e => d.equal e
  | _, _ => false

end DateTime

/-! ## Reading written forms back -/

/-- Reads an optional fraction of up to six digits as microseconds. -/
private def readFraction (cs : List Char) : Nat × List Char :=
  match cs with
  | '.' :: rest =>
    let ds := (rest.takeWhile Char.isDigit).take 6
    (Digits.value ds * 10 ^ (6 - ds.length), rest.dropWhile Char.isDigit)
  | _ => (0, cs)

/-- Reads the end of a written form: nothing, a `Z`, or an offset. -/
private def readOffset : List Char → Option (Option Offset)
  | [] => some none
  | ['Z'] => some (some .utc)
  | sign :: cs => do
    if sign ≠ '+' ∧ sign ≠ '-' then none
    let (ds, cs) ← Digits.take Char.isDigit "00:00".toList cs
    let (seconds, cs) := (Digits.take Char.isDigit ":00".toList cs).getD ([], cs)
    let (micro, cs) := readFraction cs
    if cs ≠ [] then none
    let minutes := Digits.value (ds.take 2) * 60 + Digits.value (ds.drop 2)
    let total : Int := (minutes * 60 + Digits.value seconds) * 1000000 + micro
    match Offset.make (if sign = '-' then -total else total) with
    | .ok o => some (some o)
    | .error _ => none

/-- Reads a date, a `T`, a time with seconds, and an offset if there is one. -/
def DateTime.readIso (text : String) : Option DateTime := do
  let (ds, cs) ← Digits.take Char.isDigit "0000-00-00T00:00:00".toList text.toList
  let (micro, cs) := readFraction cs
  let part (start count : Nat) := Digits.value ((ds.drop start).take count)
  let offset ← readOffset cs
  match Date.make (part 0 4) (part 4 2) (part 6 2), TimeOfDay.make (part 8 2) (part 10 2) (part 12 2) micro with
  | .ok date, .ok time =>
    match offset with
    | none => some (.naive ⟨date, time⟩)
    | some o => some (.aware ⟨⟨date, time⟩, o, .fixed none⟩)
  | _, _ => none

end CatalogFilter
