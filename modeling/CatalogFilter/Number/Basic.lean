import CatalogFilter.Number.Notation

/-! # Numbers of a document

* `Number`: an integer of any size, or a 64-bit binary number. The two stay apart, for they are written
  differently.
* `Number.equal`: equality of values across the two kinds, without rounding.
* `Number.text`, `Number.isPrintable`: the text of a number, and whether it has one; integers of too many digits have
  none. -/

namespace CatalogFilter

/-- A number as a document holds it. -/
inductive Number where
  | int (i : Int)
  | float (x : Binary64)
  deriving DecidableEq, Inhabited

namespace Number

/-- Equality of values. -/
def equal : Number → Number → Bool
  | .int i, .int j => i == j
  | .int i, .float y => y.isInt i
  | .float x, .int j => x.isInt j
  | .float x, .float y => x.sameValue y

/-- The digits of an integer behind its sign. -/
def intText (i : Int) : String :=
  String.ofList (if i < 0 then '-' :: Nat.toDigits 10 i.natAbs else Nat.toDigits 10 i.natAbs)

/-- The number of digits up to which an integer has a text. -/
def maxDigits : Nat :=
  4300

/-- Whether a number has a text: an integer has none if it has too many digits. -/
def isPrintable : Number → Bool
  | .int i => decide ((Nat.toDigits 10 i.natAbs).length ≤ maxDigits)
  | .float _ => true

/-- The text of a number in text output, if it has one. -/
def text : Number → String
  | .int i => intText i
  | .float x => x.text

/-- The number as a binary one; an integer is rounded to the nearest. -/
def toFloat : Number → Binary64
  | .int i => Binary64.ofInt i
  | .float x => x

@[simp] theorem equal_int (i j : Int) : equal (.int i) (.int j) = (i == j) := rfl

theorem equal_int_self (i : Int) : equal (.int i) (.int i) = true := by simp

theorem isPrintable_int_iff {i : Int} : isPrintable (.int i) = true ↔ i.natAbs < 10 ^ maxDigits := by
  rw [isPrintable, decide_eq_true_iff, Nat.length_toDigits_le_iff (by decide) (by decide)]

/-- Integers of eighteen digits have a text. -/
theorem isPrintable_int {i : Int} (short : i.natAbs < 10 ^ 18) : isPrintable (.int i) = true := by
  have enough : 18 ≤ maxDigits := by decide
  exact isPrintable_int_iff.2 (Nat.lt_of_lt_of_le short (Nat.pow_le_pow_right (by decide) enough))

end Number

end CatalogFilter
