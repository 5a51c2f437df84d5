import CatalogFilter.Datum.Basic
import CatalogFilter.Text.Quoted

/-! # The text of decoded values

* `Datum.kindName`: the name of a value's kind in messages about arguments.
* `Datum.jsonKind`: the name of a value's kind in messages about documents.
* `Datum.isPrintable`: whether a value has a text; it has none if it holds an integer that has none.
* `Datum.shown`, `Datum.shown?`: a value as it is shown in messages, with texts between quotes.
* `Datum.plain`: a value as it is written into text output; a text stands for itself. -/

namespace CatalogFilter.Datum

/-! ## Kinds -/

/-- The name of the kind of a value. -/
def kindName : Datum → String
  | .null => "NoneType"
  | .bool _ => "bool"
  | .num (.int _) => "int"
  | .num (.float _) => "float"
  | .str _ => "str"
  | .list _ => "list"
  | .tuple _ => "tuple"
  | .object _ => "dict"
  | .datetime _ => "datetime"
  | .date _ => "date"
  | .other f => f.kind

/-- The name of the kind of a value as documents call it; what no document holds keeps its own name. -/
def jsonKind : Datum → String
  | .null => "null"
  | .bool _ => "boolean"
  | .num _ => "number"
  | .str _ => "string"
  | .list _ => "array"
  | .object _ => "object"
  | d => d.kindName

/-! ## Dates and times in messages -/

/-- A number followed by the others behind commas. -/
private def listed (ns : List Nat) : String :=
  String.intercalate ", " (ns.map fun n : Nat => Number.intText n)

/-- A date in messages. -/
def shownDate (d : Date) : String :=
  "datetime.date(" ++ listed [d.year, d.month, d.day] ++ ")"

/-- A span of time in messages: days, seconds below a day, and microseconds, as far as they are not zero; no time
at all is a zero. -/
def shownSpan (micros : Int) : String :=
  let days := Int.fdiv micros microsPerDay
  let rest := Int.fmod micros microsPerDay
  let part (name : String) (n : Int) : List String :=
    if n = 0 then [] else [name ++ "=" ++ Number.intText n]
  let parts :=
    if micros = 0 then ["0"]
    else part "days" days ++ part "seconds" (rest / 1000000) ++ part "microseconds" (rest % 1000000)
  "datetime.timedelta(" ++ String.intercalate ", " parts ++ ")"

/-- A zone in messages: an offset with its text if it was read from one, or the name of a region. -/
def shownZone (o : Offset) : Zone → String
  | .fixed (some written) => "datetime.timezone(" ++ shownSpan o.micros ++ ", " ++ Text.quote written ++ ")"
  | .fixed none =>
    if o.micros = 0 then "datetime.timezone.utc" else "datetime.timezone(" ++ shownSpan o.micros ++ ")"
  | .region name _ _ => "zoneinfo.ZoneInfo(key=" ++ Text.quote name ++ ")"

/-- The second offset of two is marked as such. -/
def shownTurn : Zone → String
  | .region _ true _ => ", fold=1"
  | _ => ""

/-- A clock in messages; zero seconds and microseconds are left out at the end. -/
def shownClock (d : LocalDateTime) : String :=
  let t := d.time
  let start := [d.date.year, d.date.month, d.date.day, t.hour, t.minute]
  let all :=
    if t.micro ≠ 0 then start ++ [t.second, t.micro]
    else if t.second ≠ 0 then start ++ [t.second]
    else start
  listed all

/-- A date and time in messages, with its zone if it has one. -/
def shownDateTime : DateTime → String
  | .naive clock => "datetime.datetime(" ++ shownClock clock ++ ")"
  | .aware t =>
    "datetime.datetime(" ++ shownClock t.clock ++ shownTurn t.zone ++ ", tzinfo=" ++ shownZone t.offset t.zone ++ ")"

/-! ## Values -/

mutual

/-- A value as it is shown in messages, if it has a text. -/
def shown : Datum → String
  | .null => "None"
  | .bool true => "True"
  | .bool false => "False"
  | .num n => n.text
  | .str s => Text.quote s
  | .list items => "[" ++ String.intercalate ", " (shownAll items) ++ "]"
  | .tuple [item] => "(" ++ shown item ++ ",)"
  | .tuple items => "(" ++ String.intercalate ", " (shownAll items) ++ ")"
  | .object members => "\x7b" ++ String.intercalate ", " (shownMembers members) ++ "\x7d"
  | .datetime d => shownDateTime d
  | .date d => shownDate d
  | .other f => f.text

/-- `shown` of each item. -/
def shownAll : List Datum → List String
  | [] => []
  | d :: rest => shown d :: shownAll rest

/-- Name and value of each member. -/
def shownMembers : List (String × Datum) → List String
  | [] => []
  | (name, d) :: rest => (Text.quote name ++ ": " ++ shown d) :: shownMembers rest

end

mutual

/-- Whether a value has a text. -/
def isPrintable : Datum → Bool
  | .num n => n.isPrintable
  | .list items => allPrintable items
  | .tuple items => allPrintable items
  | .object members => membersPrintable members
  | .other f => f.isPrintable
  | _ => true

/-- `isPrintable` of each item. -/
def allPrintable : List Datum → Bool
  | [] => true
  | d :: rest => isPrintable d && allPrintable rest

/-- `isPrintable` of each member's value. -/
def membersPrintable : List (String × Datum) → Bool
  | [] => true
  | (_, d) :: rest => isPrintable d && membersPrintable rest

end

/-- A value as it is shown in messages, if it has a text. -/
def shown? (d : Datum) : Option String :=
  if d.isPrintable then some d.shown else none

/-- A value as it is written into text output, if it has a text. -/
def plain : Datum → String
  | .str s => s
  | .datetime d => String.ofList (d.chars ' ' .auto)
  | .date d => d.text
  | d => d.shown

@[simp] theorem plain_str (s : String) : plain (.str s) = s := rfl

@[simp] theorem plain_num (n : Number) : plain (.num n) = n.text := by
  simp [plain, shown]

end CatalogFilter.Datum
