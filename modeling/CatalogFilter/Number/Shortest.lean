import CatalogFilter.Number.Binary64

/-! # The fewest digits that read back

* `Decimal`: a natural number of digits times a power of ten.
* `Neighbourhood`: a positive binary number together with the reals that round to it.
* `Neighbourhood.shortest`: of the decimals with the fewest digits in the neighbourhood, the nearest one.

A decimal grid with a point in the neighbourhood has one among the two grid points next to the number, so
only those two are tried on each grid. -/

namespace CatalogFilter

/-- The value `digits * 10 ^ exponent`. -/
structure Decimal where
  digits : Nat
  exponent : Int
  deriving DecidableEq, Inhabited

namespace Decimal

/-- Moves zeros at the end of the digits into the exponent. -/
def trim (fuel : Nat) (d : Decimal) : Decimal :=
  match fuel with
  | 0 => d
  | fuel + 1 =>
    if d.digits ≠ 0 ∧ d.digits % 10 = 0 then trim fuel ⟨d.digits / 10, d.exponent + 1⟩ else d

end Decimal

/-- The number `m * 2 ^ scale` and the reals between `low` and `high` quarter units around it, the ends
belonging to it when `closed`. -/
structure Neighbourhood where
  m : Nat
  scale : Int
  low : Nat
  high : Nat
  closed : Bool

namespace Neighbourhood

/-- The neighbourhood of a finite number: half a unit to each side, but a quarter below a power of two,
where the numbers lie twice as dense. -/
def ofFields (exponent : Fin 2047) (fraction : Fin (2 ^ 52)) : Neighbourhood :=
  let m := Binary64.significand exponent fraction
  let dense := fraction.val = 0 ∧ 1 < exponent.val
  { m := m
    scale := Binary64.scale exponent
    low := if dense then 4 * m - 1 else 4 * m - 2
    high := 4 * m + 2
    closed := m % 2 = 0 }

/-- The factor that a base to a power puts above the fraction line. -/
def above (base : Nat) : Int → Nat
  | .ofNat k => base ^ k
  | .negSucc _ => 1

/-- The factor that a base to a power puts below the fraction line. -/
def below (base : Nat) : Int → Nat
  | .ofNat _ => 1
  | .negSucc k => base ^ (k + 1)

/-- The greatest `e` with `10 ^ e ≤ m * 2 ^ scale`; no positive number is below `10 ^ (-340)`. -/
def decade (n : Neighbourhood) : Int :=
  let shifted := n.m * above 2 n.scale * 10 ^ 340 / below 2 n.scale
  ((Nat.toDigits 10 shifted).length : Int) - 341

/-- The point of the grid of multiples of `10 ^ k` to take for the number, if one of the two next to it
lies in the neighbourhood; the even one on a tie. -/
def onGrid (n : Neighbourhood) (k : Int) : Option Nat :=
  let quarter := above 2 (n.scale - 2) * below 10 k
  let unit := above 10 k * below 2 (n.scale - 2)
  let value := 4 * n.m * quarter
  let inside (c : Nat) : Bool :=
    if n.closed then n.low * quarter ≤ c * unit ∧ c * unit ≤ n.high * quarter
    else n.low * quarter < c * unit ∧ c * unit < n.high * quarter
  let c := value / unit
  match inside c, inside (c + 1) with
  | false, false => none
  | true, false => some c
  | false, true => some (c + 1)
  | true, true =>
    let down := value - c * unit
    let up := (c + 1) * unit - value
    if down < up then some c
    else if up < down then some (c + 1)
    else if c % 2 = 0 then some c else some (c + 1)

/-- Tries grids of ever more digits, starting with `count`. -/
def search (n : Neighbourhood) (top : Int) : Nat → Nat → Decimal
  | 0, _ => ⟨0, 0⟩
  | fuel + 1, count =>
    match n.onGrid (top + 1 - count) with
    | some c => ⟨c, top + 1 - count⟩
    | none => search n top fuel (count + 1)

/-- The shortest decimal of the neighbourhood; 17 digits always suffice. -/
def shortest (n : Neighbourhood) : Decimal :=
  (n.search n.decade 17 1).trim 20

end Neighbourhood

end CatalogFilter
