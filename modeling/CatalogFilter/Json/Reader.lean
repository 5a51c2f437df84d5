import CatalogFilter.Datum.Basic
import CatalogFilter.Text.Start

/-! # Reading JSON text

* `Json.Rules`: what readers of JSON may differ in: nesting, large integers, words for numbers that are not
  finite. `Rules.strict` is for documents, `Rules.lenient` for settings.
* `Json.readString`, `Json.readNumber`: the tokens.
* `Json.read`: the value of a text, if it is JSON and nothing else. Of two members of one name the last value
  counts, at the place of the first.
* `Json.readBytes`: the value of bytes that are UTF-8 and JSON. -/

namespace CatalogFilter.Json

/-- What readers of JSON text may differ in. -/
structure Rules where
  /-- The greatest number of arrays and objects that may be nested. -/
  depth : Option Nat
  /-- Whether integers outside 64 bits become binary numbers. -/
  narrow : Bool
  /-- Whether numbers may be infinite or not numbers, in words or by their size. -/
  nonFinite : Bool

/-- The rules for documents. -/
def Rules.strict : Rules := ⟨some 1024, true, false⟩

/-- The rules for lists in settings. -/
def Rules.lenient : Rules := ⟨none, false, true⟩

/-! ## Tokens -/

/-- The four characters that may stand between tokens. -/
def isSpace (c : Char) : Bool :=
  c = ' ' || c = '\t' || c = '\n' || c = '\r'

/-- The text from the next token on. -/
def skipSpace (cs : List Char) : List Char :=
  cs.dropWhile isSpace

/-- The value of a hexadecimal digit. -/
def hexDigit? (c : Char) : Option Nat :=
  if c.isDigit then some (c.toNat - 48)
  else if 'a' ≤ c ∧ c ≤ 'f' then some (c.toNat - 87)
  else if 'A' ≤ c ∧ c ≤ 'F' then some (c.toNat - 55)
  else none

/-- The code unit of four hexadecimal digits. -/
def codeUnit? (a b c d : Char) : Option Nat := do
  some (((((← hexDigit? a) * 16 + (← hexDigit? b)) * 16) + (← hexDigit? c)) * 16 + (← hexDigit? d))

/-- The character of an escape with one letter. -/
def escape? : Char → Option Char
  | '"' => some '"'
  | '\\' => some '\\'
  | '/' => some '/'
  | 'b' => some '\x08'
  | 'f' => some '\x0c'
  | 'n' => some '\n'
  | 'r' => some '\r'
  | 't' => some '\t'
  | _ => none

/-- Reads a string after its opening quote. `high` is a first half of a surrogate pair that waits for its
second half. -/
def readString (high : Option Nat) : List Char → Option (List Char × List Char)
  | [] => none
  | '"' :: rest => if high.isNone then some ([], rest) else none
  | '\\' :: 'u' :: a :: b :: c :: d :: rest =>
    match codeUnit? a b c d, high with
    | none, _ => none
    | some unit, some first =>
      if 0xDC00 ≤ unit ∧ unit < 0xE000 then
        (readString none rest).map fun (s, rest) =>
          (Char.ofNat (0x10000 + (first - 0xD800) * 1024 + (unit - 0xDC00)) :: s, rest)
      else none
    | some unit, none =>
      if 0xD800 ≤ unit ∧ unit < 0xDC00 then readString (some unit) rest
      else if 0xDC00 ≤ unit ∧ unit < 0xE000 then none
      else (readString none rest).map fun (s, rest) => (Char.ofNat unit :: s, rest)
  | '\\' :: letter :: rest =>
    match escape? letter, high with
    | some c, none => (readString none rest).map fun (s, rest) => (c :: s, rest)
    | _, _ => none
  | c :: rest =>
    if high.isSome ∨ c.toNat < 0x20 ∨ c = '\\' then none
    else (readString none rest).map fun (s, rest) => (c :: s, rest)

/-- The fraction part: a point with at least one digit. The digits are empty where there is none. -/
def readFraction : List Char → Option (List Char × List Char)
  | '.' :: rest =>
    let ds := rest.takeWhile Char.isDigit
    if ds = [] then none else some (ds, rest.dropWhile Char.isDigit)
  | cs => some ([], cs)

/-- The digits of an exponent behind its sign. -/
def readPower (negative : Bool) (cs : List Char) : Option (Option Int × List Char) :=
  let ds := cs.takeWhile Char.isDigit
  let n : Int := Digits.value ds
  if ds = [] then none else some (some (if negative then -n else n), cs.dropWhile Char.isDigit)

/-- The exponent part, if there is one. -/
def readExponent : List Char → Option (Option Int × List Char)
  | [] => some (none, [])
  | c :: rest =>
    if c = 'e' ∨ c = 'E' then
      match rest with
      | '-' :: rest => readPower true rest
      | '+' :: rest => readPower false rest
      | _ => readPower false rest
    else some (none, c :: rest)

/-- The integer part: a zero, or digits that do not start with one. -/
def readWhole (cs : List Char) : Option (List Char × List Char) :=
  match cs with
  | '0' :: rest => some (['0'], rest)
  | _ =>
    let ds := cs.takeWhile Char.isDigit
    if ds = [] then none else some (ds, cs.dropWhile Char.isDigit)

/-- Whether an integer fits into 64 bits, with or without sign. -/
def fits64 (i : Int) : Bool :=
  -(2 ^ 63) ≤ i && i < 2 ^ 64

/-- A binary number, unless it has to be finite and is not. -/
def finiteOnly (r : Rules) (x : Binary64) : Option Number :=
  if r.nonFinite || x.isFinite then some (.float x) else none

/-- The number of an integer text. -/
def integer (r : Rules) (negative : Bool) (n : Nat) : Option Number :=
  let i : Int := if negative then -n else n
  if r.narrow && !fits64 i then finiteOnly r (.ofDecimal negative n 0) else some (.int i)

/-- Reads a number behind its sign. -/
def readMagnitude (r : Rules) (negative : Bool) (cs : List Char) : Option (Number × List Char) := do
  let (whole, cs) ← readWhole cs
  let (fraction, cs) ← readFraction cs
  let (power, cs) ← readExponent cs
  let number ←
    if fraction = [] ∧ power = none then integer r negative (Digits.value whole)
    else
      finiteOnly r
        (.ofDecimal negative (Digits.value (whole ++ fraction)) (power.getD 0 - fraction.length))
  some (number, cs)

/-- Reads a number. -/
def readNumber (r : Rules) : List Char → Option (Number × List Char)
  | '-' :: cs => readMagnitude r true cs
  | cs => readMagnitude r false cs

/-- The words that are values. -/
def wordValues (r : Rules) : List (List Char × Datum) :=
  [("null".toList, .null), ("true".toList, .bool true), ("false".toList, .bool false)] ++
    if r.nonFinite then
      [("NaN".toList, .num (.float .nan)), ("Infinity".toList, .num (.float (.infinite false))),
        ("-Infinity".toList, .num (.float (.infinite true)))]
    else []

/-- Reads a value that is one word. -/
def readWord (r : Rules) (cs : List Char) : Option (Datum × List Char) :=
  (wordValues r).findSome? fun (word, value) => (Text.dropStart? word cs).map fun rest => (value, rest)

/-! ## Values -/

/-- Sets a member: the value of a known name is exchanged, a new name comes last. -/
def put (members : List (String × Datum)) (name : String) (value : Datum) : List (String × Datum) :=
  if members.any (·.1 == name) then members.map fun m => if m.1 == name then (name, value) else m
  else members ++ [(name, value)]

mutual

/-- Reads a value at its first character, inside `level` arrays and objects. -/
def readValue (r : Rules) : Nat → Nat → List Char → Option (Datum × List Char)
  | 0, _, _ => none
  | fuel + 1, level, cs =>
    match cs with
    | '"' :: rest => (readString none rest).map fun (s, rest) => (.str (String.ofList s), rest)
    | '[' :: rest =>
      if r.depth = some level then none
      else
        match skipSpace rest with
        | ']' :: rest => some (.list [], rest)
        | rest => (readItems r fuel (level + 1) rest).map fun (items, rest) => (.list items, rest)
    | '{' :: rest =>
      if r.depth = some level then none
      else
        match skipSpace rest with
        | '}' :: rest => some (.object [], rest)
        | rest =>
          (readMembers r fuel (level + 1) [] rest).map fun (members, rest) => (.object members, rest)
    | cs =>
      match readWord r cs with
      | some found => some found
      | none => (readNumber r cs).map fun (n, rest) => (.num n, rest)

/-- Reads the items of an array, at the first character of one, up to the closing bracket. -/
def readItems (r : Rules) : Nat → Nat → List Char → Option (List Datum × List Char)
  | 0, _, _ => none
  | fuel + 1, level, cs =>
    match readValue r fuel level cs with
    | none => none
    | some (item, rest) =>
      match skipSpace rest with
      | ']' :: rest => some ([item], rest)
      | ',' :: rest =>
        (readItems r fuel level (skipSpace rest)).map fun (items, rest) => (item :: items, rest)
      | _ => none

/-- Reads the members of an object, at the first character of one, up to the closing brace. -/
def readMembers (r : Rules) : Nat → Nat → List (String × Datum) → List Char →
    Option (List (String × Datum) × List Char)
  | 0, _, _, _ => none
  | fuel + 1, level, found, cs =>
    match cs with
    | '"' :: rest =>
      match readString none rest with
      | none => none
      | some (name, rest) =>
        match skipSpace rest with
        | ':' :: rest =>
          match readValue r fuel level (skipSpace rest) with
          | none => none
          | some (value, rest) =>
            let found := put found (String.ofList name) value
            match skipSpace rest with
            | '}' :: rest => some (found, rest)
            | ',' :: rest => readMembers r fuel level found (skipSpace rest)
            | _ => none
        | _ => none
    | _ => none

end

/-- The value of a list of characters. -/
def readChars (r : Rules) (cs : List Char) : Option Datum :=
  match readValue r (2 * cs.length + 2) 0 (skipSpace cs) with
  | some (value, rest) => if skipSpace rest = [] then some value else none
  | none => none

/-- The value of a text. -/
def read (r : Rules) (text : String) : Option Datum :=
  readChars r text.toList

/-- The value of a text in UTF-8. -/
def readBytes (r : Rules) (bytes : ByteArray) : Option Datum :=
  (String.fromUTF8? bytes).bind (read r)

end CatalogFilter.Json
