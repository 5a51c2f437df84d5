import CatalogFilter.Datum.Basic
import CatalogFilter.Number.Notation
import CatalogFilter.Json.Reader

/-! # Writing JSON text

* `Json.numbers`: how binary numbers are laid out.
* `Json.Style`: compact, or indented by two spaces.
* `Json.Encodable`: which values have a written form.
* `Json.write?`: the written form of a value, if it has one.
* `Json.sortNames`: the value with the members of every object in order of their names. -/

namespace CatalogFilter.Json

/-! ## Tokens -/

/-- Numbers are written out in place from five places behind the point up to sixteen digits; an exponent has
a sign and no leading zeros. -/
def numbers : Layout := ⟨-5, 16, 1⟩

/-- The characters of a number; what is not finite has no number and becomes null. -/
def numberChars : Number → List Char
  | .int i => (Number.intText i).toList
  | .float (.finite negative exponent fraction) => (numbers.write negative exponent fraction).toList
  | .float _ => "null".toList

/-- The form of one character inside a string. -/
def escapeChar (c : Char) : List Char :=
  if c = '"' then ['\\', '"']
  else if c = '\\' then ['\\', '\\']
  else if c = '\x08' then ['\\', 'b']
  else if c = '\x0c' then ['\\', 'f']
  else if c = '\n' then ['\\', 'n']
  else if c = '\r' then ['\\', 'r']
  else if c = '\t' then ['\\', 't']
  else if c.toNat < 0x20 then
    '\\' :: 'u' :: '0' :: '0' :: Nat.digitChar (c.toNat / 16) :: [Nat.digitChar (c.toNat % 16)]
  else [c]

/-- A string between its quotes. -/
def stringChars (s : String) : List Char :=
  '"' :: s.toList.flatMap escapeChar ++ ['"']

/-- The offset of a time in hours and minutes. A part of a second goes to the earlier second; from thirty
seconds on the minutes count one more, up to sixty, and the hours stay as they are. -/
def offsetChars (o : Offset) : List Char :=
  let seconds := (Int.fdiv o.micros 1000000).natAbs
  let minutes := seconds / 60 % 60 + (if 30 ≤ seconds % 60 then 1 else 0)
  (if o.micros < 0 then '-' else '+') :: Digits.padded 2 (seconds / 3600) ++ ':' :: Digits.padded 2 minutes

/-- A date and time between quotes. -/
def dateTimeChars (d : DateTime) : List Char :=
  '"' :: d.clock.chars 'T' .auto ++ (d.offset?.map offsetChars).getD [] ++ ['"']

/-! ## Values -/

/-- The arrangement of a written value. -/
inductive Style where
  | compact
  | indented
  deriving DecidableEq

/-- What stands before an item or a closing bracket at a level. -/
def Style.lineBreak : Style → Nat → List Char
  | .compact, _ => []
  | .indented, level => '\n' :: List.replicate (2 * level) ' '

/-- What stands between the name of a member and its value. -/
def Style.colon : Style → List Char
  | .compact => [':']
  | .indented => [':', ' ']

mutual

/-- The written form of a value inside `level` arrays and objects. -/
def write (s : Style) (level : Nat) : Datum → List Char
  | .null => "null".toList
  | .bool true => "true".toList
  | .bool false => "false".toList
  | .num n => numberChars n
  | .str t => stringChars t
  | .list [] => ['[', ']']
  | .tuple [] => ['[', ']']
  | .object [] => ['\x7b', '\x7d']
  | .list items => '[' :: writeItems s (level + 1) items ++ s.lineBreak level ++ [']']
  | .tuple items => '[' :: writeItems s (level + 1) items ++ s.lineBreak level ++ [']']
  | .object members => '\x7b' :: writeMembers s (level + 1) members ++ s.lineBreak level ++ ['\x7d']
  | .datetime d => dateTimeChars d
  | .date d => '"' :: d.chars ++ ['"']
  | .other _ => []

/-- The items of an array with the commas between them. -/
def writeItems (s : Style) (level : Nat) : List Datum → List Char
  | [] => []
  | [d] => s.lineBreak level ++ write s level d
  | d :: rest => s.lineBreak level ++ write s level d ++ ',' :: writeItems s level rest

/-- The members of an object with the commas between them. -/
def writeMembers (s : Style) (level : Nat) : List (String × Datum) → List Char
  | [] => []
  | [(name, d)] => s.lineBreak level ++ stringChars name ++ s.colon ++ write s level d
  | (name, d) :: rest =>
    s.lineBreak level ++ stringChars name ++ s.colon ++ write s level d ++ ',' :: writeMembers s level rest

end

/-! ## What can be written -/

mutual

/-- The number of arrays and objects around the innermost value; empty arrays are not counted. -/
def depth : Datum → Nat
  | .list [] => 0
  | .tuple [] => 0
  | .list items => depthAll items + 1
  | .tuple items => depthAll items + 1
  | .object members => depthMembers members + 1
  | _ => 0

/-- The greatest `depth` of the items. -/
def depthAll : List Datum → Nat
  | [] => 0
  | d :: rest => max (depth d) (depthAll rest)

/-- The greatest `depth` of the members' values. -/
def depthMembers : List (String × Datum) → Nat
  | [] => 0
  | (_, d) :: rest => max (depth d) (depthMembers rest)

end

mutual

/-- Whether all integers fit into 64 bits and no value is foreign. -/
def plainLeaves : Datum → Bool
  | .num (.int i) => fits64 i
  | .list items => plainLeavesAll items
  | .tuple items => plainLeavesAll items
  | .object members => plainLeavesMembers members
  | .other _ => false
  | _ => true

/-- `plainLeaves` of all items. -/
def plainLeavesAll : List Datum → Bool
  | [] => true
  | d :: rest => plainLeaves d && plainLeavesAll rest

/-- `plainLeaves` of all members' values. -/
def plainLeavesMembers : List (String × Datum) → Bool
  | [] => true
  | (_, d) :: rest => plainLeaves d && plainLeavesMembers rest

end

/-- A written value has at most 254 nested arrays and objects besides empty arrays, integers of 64 bits, and no
foreign values. -/
def Encodable (d : Datum) : Prop :=
  depth d ≤ 254 ∧ plainLeaves d = true

instance (d : Datum) : Decidable (Encodable d) :=
  inferInstanceAs (Decidable (_ ∧ _))

/-- The written form of a value, if it has one. -/
def write? (s : Style) (d : Datum) : Option String :=
  if Encodable d then some (String.ofList (write s 0 d)) else none

/-! ## Order of names -/

/-- Inserts a member before the first one with a greater name. -/
def insertByName (m : String × Datum) : List (String × Datum) → List (String × Datum)
  | [] => [m]
  | n :: rest => if m.1 < n.1 then m :: n :: rest else n :: insertByName m rest

mutual

/-- The value with the members of every object in order of their names. -/
def sortNames : Datum → Datum
  | .list items => .list (sortNamesAll items)
  | .tuple items => .tuple (sortNamesAll items)
  | .object members => .object (sortMembers members)
  | d => d

/-- `sortNames` on each item. -/
def sortNamesAll : List Datum → List Datum
  | [] => []
  | d :: rest => sortNames d :: sortNamesAll rest

/-- The members in order of their names, each with its value sorted. -/
def sortMembers : List (String × Datum) → List (String × Datum)
  | [] => []
  | (name, d) :: rest => insertByName (name, sortNames d) (sortMembers rest)

end

end CatalogFilter.Json
