/-! # Binary floating point numbers of 64 bits

* `Binary64`: not a number, an infinity, or sign, exponent field and fraction field.
* `Binary64.significand`, `Binary64.scale`: a finite number is `± significand * 2 ^ scale`.
* `Binary64.ofRatio`, `Binary64.ofDecimal`, `Binary64.ofInt`: the nearest number, a tie going to the even
  significand.
* `Binary64.fraction?`: the exact value as a quotient, on which comparison with integers rests. -/

-- powers of numbers are the core library's, also in a file that knows algebraic structures on them
attribute [instance (2000), default_instance (20000)] instPowNat

namespace CatalogFilter

/-- A number of the 64-bit binary format; all its not-a-number patterns are one value. -/
inductive Binary64 where
  | nan
  | infinite (negative : Bool)
  | finite (negative : Bool) (exponent : Fin 2047) (fraction : Fin (2 ^ 52))
  deriving DecidableEq, Inhabited

namespace Binary64

/-! ## Decoding -/

/-- The integer significand of the two fields: normal numbers have a hidden leading bit. -/
def significand (exponent : Fin 2047) (fraction : Fin (2 ^ 52)) : Nat :=
  if exponent.val = 0 then fraction.val else 2 ^ 52 + fraction.val

/-- The power of two that the significand is multiplied by. -/
def scale (exponent : Fin 2047) : Int :=
  (max exponent.val 1 : Nat) - 1075

/-- The zero of the given sign. -/
def zero (negative : Bool) : Binary64 :=
  .finite negative 0 0

/-- Numerator and denominator of the exact value of a finite number. -/
def fraction? : Binary64 → Option (Int × Nat)
  | .finite negative exponent fraction =>
    let m : Int := significand exponent fraction
    let signed := if negative then -m else m
    match scale exponent with
    | .ofNat k => some (signed * 2 ^ k, 1)
    | .negSucc k => some (signed, 2 ^ (k + 1))
  | _ => none

/-- Whether the number is neither an infinity nor not a number. -/
def isFinite : Binary64 → Bool
  | .finite _ _ _ => true
  | _ => false

/-! ## Rounding -/

/-- The quotient `num / den` rounded to the nearest integer, a half going to the even neighbour. -/
def roundHalfEven (num den : Nat) : Nat :=
  let floor := num / den
  let rest := 2 * (num % den)
  if rest < den then floor
  else if den < rest then floor + 1
  else if floor % 2 = 0 then floor else floor + 1

/-- The number with significand `m` at exponent field `max field 1`, for `m ≤ 2 ^ 53`. -/
def pack (negative : Bool) (m : Nat) (field : Nat) : Binary64 :=
  if m < 2 ^ 52 then .finite negative 0 (Fin.ofNat _ m)
  else
    let carried := if m = 2 ^ 53 then (2 ^ 52, field + 1) else (m, field)
    if h : carried.2 < 2047 then
      .finite negative ⟨carried.2, h⟩ (Fin.ofNat _ (carried.1 - 2 ^ 52))
    else .infinite negative

/-- The greatest `e` with `2 ^ e ≤ num / den`, for positive arguments. -/
def binaryExponent (num den : Nat) : Int :=
  let guess : Int := (Nat.log2 num : Int) - Nat.log2 den
  let reached : Bool :=
    match guess with
    | .ofNat k => den * 2 ^ k ≤ num
    | .negSucc k => den ≤ num * 2 ^ (k + 1)
  if reached then guess else guess - 1

/-- The number nearest to `± num / den`. -/
def ofRatio (negative : Bool) (num den : Nat) : Binary64 :=
  if num = 0 then zero negative
  else
    let power := max (binaryExponent num den - 52) (-1074)
    let m :=
      match power with
      | .ofNat k => roundHalfEven num (den * 2 ^ k)
      | .negSucc k => roundHalfEven (num * 2 ^ (k + 1)) den
    pack negative m (power + 1075).toNat

/-- The number nearest to `± digits * 10 ^ exponent`; values far outside the range are decided by
their size alone. -/
def ofDecimal (negative : Bool) (digits : Nat) (exponent : Int) : Binary64 :=
  let size : Int := exponent + (Nat.toDigits 10 digits).length
  if digits = 0 then zero negative
  else if 320 < size then .infinite negative
  else if size < -340 then zero negative
  else
    match exponent with
    | .ofNat k => ofRatio negative (digits * 10 ^ k) 1
    | .negSucc k => ofRatio negative digits (10 ^ (k + 1))

/-- The number nearest to an integer. -/
def ofInt (i : Int) : Binary64 :=
  ofRatio (i < 0) i.natAbs 1

/-! ## Comparison -/

/-- Equality of values: both zeros are equal, and not a number equals nothing. -/
def sameValue (x y : Binary64) : Bool :=
  match x, y with
  | .infinite a, .infinite b => a == b
  | _, _ =>
    match x.fraction?, y.fraction? with
    | some (a, d), some (b, e) => a * e == b * d
    | _, _ => false

/-- Whether the value is exactly the integer `i`. -/
def isInt (x : Binary64) (i : Int) : Bool :=
  match x.fraction? with
  | some (a, d) => a == i * d
  | none => false

@[simp] theorem sameValue_nan (x : Binary64) : sameValue .nan x = false := by
  cases x <;> simp [sameValue, fraction?]

@[simp] theorem isFinite_zero (negative : Bool) : (zero negative).isFinite = true := rfl

end Binary64

end CatalogFilter
