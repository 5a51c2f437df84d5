import CatalogFilter.Number.Digits
import CatalogFilter.Number.Shortest

/-! # Written forms of numbers

* `Layout`: which exponents are written out in place, and how wide the others are.
* `Layout.write`: the text of a finite number with its shortest digits.
* `Layout.plain`: the layout of text output; `Binary64.text` also names infinities and not a number. -/

namespace CatalogFilter

/-- How a decimal exponent is written: positionally from `least` up to but not including `limit`, otherwise
after an `e` with a sign and at least `width` digits. -/
structure Layout where
  least : Int
  limit : Int
  width : Nat

namespace Layout

/-- Text output writes out the exponents -4 to 15 and pads the others to two digits. -/
def plain : Layout := ⟨-4, 16, 2⟩

/-- The exponent part. -/
def exponentPart (l : Layout) (e : Int) : List Char :=
  'e' :: (if e < 0 then '-' else '+') :: Digits.padded l.width e.natAbs

/-- The digits with the point in its place. -/
def positional (ds : List Char) (e : Int) : List Char :=
  match e with
  | .negSucc k => '0' :: '.' :: (List.replicate k '0' ++ ds)
  | .ofNat k =>
    if ds.length ≤ k + 1 then ds ++ List.replicate (k + 1 - ds.length) '0' ++ ['.', '0']
    else ds.take (k + 1) ++ '.' :: ds.drop (k + 1)

/-- One digit, the point with the other digits if there are any, and the exponent part. -/
def scientific (l : Layout) (ds : List Char) (e : Int) : List Char :=
  match ds with
  | [] => []
  | [d] => d :: l.exponentPart e
  | d :: rest => d :: '.' :: rest ++ l.exponentPart e

/-- The text of a positive decimal. -/
def decimal (l : Layout) (d : Decimal) : List Char :=
  let ds := Nat.toDigits 10 d.digits
  let e := d.exponent + ds.length - 1
  if l.least ≤ e ∧ e < l.limit then positional ds e else l.scientific ds e

/-- The text of the finite number of the given fields. -/
def write (l : Layout) (negative : Bool) (exponent : Fin 2047) (fraction : Fin (2 ^ 52)) : String :=
  let magnitude :=
    if Binary64.significand exponent fraction = 0 then ['0', '.', '0']
    else l.decimal (Neighbourhood.ofFields exponent fraction).shortest
  String.ofList (if negative then '-' :: magnitude else magnitude)

end Layout

/-- The text of a number in text output. -/
def Binary64.text : Binary64 → String
  | .nan => "nan"
  | .infinite false => "inf"
  | .infinite true => "-inf"
  | .finite negative exponent fraction => Layout.plain.write negative exponent fraction

end CatalogFilter
