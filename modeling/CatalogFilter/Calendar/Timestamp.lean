import CatalogFilter.Calendar.DateTime
import CatalogFilter.Number.Binary64
import CatalogFilter.Text.Case
import CatalogFilter.Text.DecimalDigit

/-! # Timestamps of RFC 3339

* `Timestamp.match?`: the parts of a text of the right form. A digit of any script fits the form.
* `Timestamp.read`: the date and time of a text, or the first rule that it breaks: form, ASCII digits, offset,
  then year, month, day, hour, minute, second and microsecond. -/

namespace CatalogFilter.Timestamp

/-- The parts of a text that has the form of a timestamp. -/
structure Parts where
  /-- Fourteen digits from the year to the second. -/
  digits : List Char
  /-- The digits after the point, if there is one. -/
  fraction : List Char
  /-- Sign and four digits of the offset; none for `Z`. -/
  offset : Option (Char × List Char)

/-- Reads the offset and the end of the text, which one line end may precede. -/
def matchOffset (cs : List Char) : Option (Option (Char × List Char)) :=
  let found :=
    match cs with
    | 'Z' :: rest => some (none, rest)
    | sign :: rest =>
      if sign = '+' ∨ sign = '-' then
        (Digits.take Text.isDecimalDigit "00:00".toList rest).map fun (ds, rest) => (some (sign, ds), rest)
      else none
    | [] => none
  match found with
  | some (offset, rest) => if rest = [] ∨ rest = ['\n'] then some offset else none
  | none => none

/-- The parts of a text in capitals. -/
def match? (cs : List Char) : Option Parts := do
  let (digits, cs) ← Digits.take Text.isDecimalDigit "0000-00-00T00:00:00".toList cs
  match cs with
  | '.' :: rest =>
    let fraction := rest.takeWhile Text.isDecimalDigit
    if fraction = [] then none
    let offset ← matchOffset (rest.dropWhile Text.isDecimalDigit)
    some ⟨digits, fraction, offset⟩
  | _ =>
    let offset ← matchOffset cs
    some ⟨digits, [], offset⟩

/-- The microseconds of a fraction: the fraction of a million is rounded half to even to 28 significant
digits, and the rest after the point is cut off. -/
def micros (fraction : List Char) : Nat :=
  let coefficient := Digits.value fraction
  let excess := (Nat.toDigits 10 coefficient).length - 28
  Binary64.roundHalfEven coefficient (10 ^ excess) * 10 ^ excess * 1000000 / 10 ^ fraction.length

/-- The offset of a sign and four digits; the minutes may exceed 59. -/
def readOffset : Option (Char × List Char) → Except CalendarFault Offset
  | none => .ok .utc
  | some (sign, ds) =>
    let minutes : Int := Digits.value (ds.take 2) * 60 + Digits.value (ds.drop 2)
    Offset.make ((if sign = '-' then -minutes else minutes) * microsPerMinute)

/-- The offset of a sign and four digits as it is written. -/
def zoneName : Char × List Char → String
  | (sign, ds) => String.ofList (sign :: ds.take 2 ++ ':' :: ds.drop 2)

/-- The date and time of a timestamp text. -/
def read (text : String) : Except CalendarFault OffsetDateTime :=
  let capitals := Text.upperAscii text
  match match? capitals.toList with
  | none => .error .notTimestamp
  | some parts =>
    let offsetDigits := (parts.offset.map (·.2)).getD []
    if (parts.digits ++ parts.fraction ++ offsetDigits).all Char.isDigit then do
      let part (start count : Nat) := Digits.value ((parts.digits.drop start).take count)
      let offset ← readOffset parts.offset
      let date ← Date.make (part 0 4) (part 4 2) (part 6 2)
      let time ← TimeOfDay.make (part 8 2) (part 10 2) (part 12 2) (micros parts.fraction)
      .ok ⟨⟨date, time⟩, offset, .fixed (parts.offset.map zoneName)⟩
    else .error (.foreignDigits capitals)

end CatalogFilter.Timestamp
