/-! # Numbers of fixed width

* `Digits.padded`: a number with leading zeros.
* `Digits.value`: the number that ASCII digits stand for.
* `Digits.take`: reads a text against a shape in which `0` is the place of a digit. -/

namespace CatalogFilter.Digits

/-- The decimal digits of a number, at least `width` of them. -/
def padded (width n : Nat) : List Char :=
  let ds := Nat.toDigits 10 n
  List.replicate (width - ds.length) '0' ++ ds

/-- The number that a list of ASCII digits stands for. -/
def value (ds : List Char) : Nat :=
  ds.foldl (fun n c => 10 * n + (c.toNat - 48)) 0

/-- Reads the beginning of a text against a shape: a `0` takes one character accepted by `digit`, any other
character must be met. The digits taken and the rest of the text are returned. -/
def take (digit : Char → Bool) : List Char → List Char → Option (List Char × List Char)
  | [], text => some ([], text)
  | _ :: _, [] => none
  | place :: shape, c :: text =>
    if place = '0' then
      if digit c then (take digit shape text).map fun (ds, rest) => (c :: ds, rest) else none
    else if c = place then take digit shape text
    else none

@[simp] theorem take_nil (digit : Char → Bool) (text : List Char) :
    take digit [] text = some ([], text) := rfl

@[simp] theorem value_nil : value [] = 0 := rfl

theorem take_cons_digit {digit : Char → Bool} {c : Char} (h : digit c = true) (shape text : List Char) :
    take digit ('0' :: shape) (c :: text) =
      (take digit shape text).map fun (ds, rest) => (c :: ds, rest) := by
  simp [take, h]

theorem take_cons_mark {digit : Char → Bool} {c : Char} (h : c ≠ '0') (shape text : List Char) :
    take digit (c :: shape) (c :: text) = take digit shape text := by
  simp [take, h]

end CatalogFilter.Digits
