import CatalogFilter.Datum.GeoJson
import CatalogFilter.Error

/-! # Values as JSON knows them

* `Json.timeText`: a date and time as text.
* `Json.plain`: a value with tuples as arrays, times as texts, and what is no finite number as null. Values that
  no JSON text can stand for are refused, and so are values that are nested too deep.
* `Json.plainItems`, `Json.plainMembers`: the same for items and members at the outermost level. -/

namespace CatalogFilter.Json

/-- The offset of a time rounded to seconds, half a second going away from zero, and cut to minutes. An offset
of no second is a `Z`. -/
def zoneChars (o : Offset) : List Char :=
  let seconds := (o.micros.natAbs + 500000) / 1000000
  if seconds = 0 then ['Z']
  else
    (if o.micros < 0 then '-' else '+') :: Digits.padded 2 (seconds / 3600) ++
      ':' :: Digits.padded 2 (seconds / 60 % 60)

/-- A date and time as text. -/
def timeText (d : DateTime) : String :=
  String.ofList (d.clock.chars 'T' .auto ++ (d.offset?.map zoneChars).getD [])

/-- How many values may be nested in each other, each counted with the innermost one. -/
def levels : Nat := 255

mutual

/-- A value as JSON knows it, with `room` levels left for it. -/
def plain (room : Nat) (d : Datum) : Except Error Datum :=
  match room, d with
  | 0, _ => .error .tooDeep
  | _ + 1, .num (.float x) => .ok (if x.isFinite then .num (.float x) else .null)
  | room + 1, .list items => (plainAll room items).map .list
  | room + 1, .tuple items => (plainAll room items).map .list
  | room + 1, .object members => (plainNamed room members).map .object
  | _ + 1, .datetime d => .ok (.str (timeText d))
  | _ + 1, .date d => .ok (.str d.text)
  | _ + 1, .other f =>
    match f.geometry with
    | some g => .ok g.toGeoJson
    | none => .error .noJsonForm
  | _ + 1, d => .ok d

/-- `plain` of each item. -/
def plainAll (room : Nat) : List Datum → Except Error (List Datum)
  | [] => .ok []
  | d :: rest => do
    let d ← plain room d
    let rest ← plainAll room rest
    .ok (d :: rest)

/-- `plain` of each member's value. -/
def plainNamed (room : Nat) : List (String × Datum) → Except Error (List (String × Datum))
  | [] => .ok []
  | (name, d) :: rest => do
    let d ← plain room d
    let rest ← plainNamed room rest
    .ok ((name, d) :: rest)

end

/-- Each of some outermost values as JSON knows it. -/
def plainItems (items : List Datum) : Except Error (List Datum) :=
  plainAll levels items

/-- Members whose values are outermost ones, as JSON knows them. -/
def plainMembers (members : List (String × Datum)) : Except Error (List (String × Datum)) :=
  plainNamed levels members

@[simp] theorem plain_zero (d : Datum) : plain 0 d = .error .tooDeep := by
  cases d <;> rfl

@[simp] theorem plain_str (room : Nat) (s : String) : plain (room + 1) (.str s) = .ok (.str s) := rfl

@[simp] theorem plainMembers_nil : plainMembers [] = .ok [] := rfl

end CatalogFilter.Json
