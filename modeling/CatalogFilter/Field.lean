import CatalogFilter.Datum.GeoJson
import CatalogFilter.Document.Argument
import CatalogFilter.Error
import CatalogFilter.Text.Blank

/-! # Fields of models

* `Field.text`, `Field.bool`, `Field.float`, `Field.items`: the value of a field from a decoded value. Truth
  values and numbers may be given in words, texts may not.
* `Field.optional`: a field that may be null.
* `Field.keyOf`: the name under which a field with two names stands in an object. -/

namespace CatalogFilter

namespace Field

/-! ## Truth values and numbers in words -/

/-- The words for true. -/
def trueWords : List String :=
  ["1", "true", "t", "yes", "y", "on"]

/-- The words for false. -/
def falseWords : List String :=
  ["0", "false", "f", "no", "n", "off"]

/-- The truth value of a word in any case of ASCII letters. -/
def truth? (word : String) : Option Bool :=
  let word := word.map Char.toLower
  if trueWords.contains word then some true
  else if falseWords.contains word then some false
  else none

/-- Whether a character may surround a number: the blanks without the separators below the space. -/
def isPadding (c : Char) : Bool :=
  Text.isBlank c && !(0x1C ≤ c.toNat && c.toNat ≤ 0x1F)

/-- A list of characters without padding at both ends. -/
def trim (cs : List Char) : List Char :=
  ((cs.dropWhile isPadding).reverse.dropWhile isPadding).reverse

/-- The digits of an exponent with a sign or without. -/
def readPower? (cs : List Char) : Option Int :=
  let (negative, ds) := match cs with
    | '-' :: ds => (true, ds)
    | '+' :: ds => (false, ds)
    | ds => (false, ds)
  let n : Int := Digits.value ds
  if ds = [] || !ds.all Char.isDigit then none else some (if negative then -n else n)

/-- The number of digits with a point among, before or after them, and perhaps an exponent. -/
def readDecimal? (negative : Bool) (cs : List Char) : Option Binary64 := do
  let whole := cs.takeWhile Char.isDigit
  let rest := cs.dropWhile Char.isDigit
  let (fraction, rest) := match rest with
    | '.' :: rest => (rest.takeWhile Char.isDigit, rest.dropWhile Char.isDigit)
    | rest => ([], rest)
  let power ← match rest with
    | [] => some 0
    | c :: rest => if c = 'e' ∨ c = 'E' then readPower? rest else none
  if whole = [] ∧ fraction = [] then none
  else some (.ofDecimal negative (Digits.value (whole ++ fraction)) (power - fraction.length))

/-- The number of a text behind its sign. -/
def readMagnitude? (negative : Bool) (cs : List Char) : Option Binary64 :=
  let word := String.ofList (cs.map Char.toLower)
  if word = "inf" ∨ word = "infinity" then some (.infinite negative)
  else if word = "nan" then some .nan
  else readDecimal? negative cs

/-- The number of a text without padding. -/
def readFloat? (cs : List Char) : Option Binary64 :=
  match cs with
  | '-' :: rest => readMagnitude? true rest
  | '+' :: rest => readMagnitude? false rest
  | rest => readMagnitude? false rest

/-- Whether two marks of grouping stand side by side. -/
def doubledMark : List Char → Bool
  | '_' :: '_' :: _ => true
  | _ :: rest => doubledMark rest
  | [] => false

/-- A text without its marks of grouping, which may stand singly between other characters. -/
def ungroup? (cs : List Char) : Option (List Char) :=
  if cs.head? = some '_' ∨ cs.getLast? = some '_' ∨ doubledMark cs = true then none
  else some (cs.filter (· != '_'))

/-- The number of a text, which may have padding around it or marks of grouping in it, but not both. -/
def floatOfText? (s : String) : Option Binary64 :=
  match readFloat? (trim s.toList) with
  | some x => some x
  | none => (ungroup? s.toList).bind readFloat?

/-! ## Fields -/

/-- The result of reading a field. -/
def orInvalid {α : Type} : Option α → Except Error α
  | some a => .ok a
  | none => .error .invalidModel

/-- The text of a field. -/
def text : Datum → Except Error String
  | .str s => .ok s
  | _ => .error .invalidModel

/-- The truth value of a number. -/
def truthOfNumber? (n : Number) : Option Bool :=
  if n.equal (.int 1) then some true
  else if n.equal (.int 0) then some false
  else none

/-- The truth value of a field: zero and one and the words for them count too. -/
def bool : Datum → Except Error Bool
  | .bool b => .ok b
  | .num n => orInvalid (truthOfNumber? n)
  | .str s => orInvalid (truth? s)
  | _ => .error .invalidModel

/-- The binary number of an integer, if it is not beyond the greatest one. -/
def floatOfInt? (i : Int) : Option Binary64 :=
  let x := Binary64.ofInt i
  if x.isFinite then some x else none

/-- The binary number of a field: integers are rounded, truth values count as one and zero. -/
def float : Datum → Except Error Binary64
  | .bool b => .ok (.ofInt (if b then 1 else 0))
  | .num (.int i) => orInvalid (floatOfInt? i)
  | .num (.float x) => .ok x
  | .str s => orInvalid (floatOfText? s)
  | _ => .error .invalidModel

/-- The items of a field; those of a typed geometry are its fields with their names. -/
def items : Datum → Except Error (List Datum)
  | .list items => .ok items
  | .tuple items => .ok items
  | .other f =>
    match f.geometry with
    | some g => .ok (g.fields.map fun (name, d) => .tuple [.str name, d])
    | none => .error .invalidModel
  | _ => .error .invalidModel

/-- The members of a field. -/
def members : Datum → Except Error Document.Members
  | .object members => .ok members
  | _ => .error .invalidModel

/-- A field that may be null. -/
def optional {α : Type} (read : Datum → Except Error α) : Datum → Except Error (Option α)
  | .null => .ok none
  | d => (read d).map some

/-- The name under which a field with two names stands: the first, where there is such a member. -/
def keyOf (members : Document.Members) (first second : String) : String :=
  if Document.has members first then first else second

/-- A member for a value that is not missing. -/
def entry {α : Type} (name : String) (write : α → Datum) : Option α → Document.Members
  | some a => [(name, write a)]
  | none => []

@[simp] theorem optional_null {α : Type} (read : Datum → Except Error α) : optional read .null = .ok none := rfl

@[simp] theorem text_str (s : String) : text (.str s) = .ok s := rfl

end Field

end CatalogFilter
