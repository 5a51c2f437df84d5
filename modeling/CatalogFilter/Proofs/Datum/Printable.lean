import CatalogFilter.Datum.Text
import CatalogFilter.Error
import CatalogFilter.Proofs.Outcome

/-!
# Values that have a text

* `Number.endless`, `Number.isPrintable_endless` — an integer that has no text.
* `Datum.allPrintable_eq_all` — values have a text together if each of them has one.
* `printing_map`, `mapM_printing` — what is made of texts is there if the texts are, one or several.

An integer of too many digits has no text. Whatever is made of its text fails, always with the same error.
-/

namespace CatalogFilter

namespace Number

/-- The least positive integer with one digit too many. -/
def endless : Number :=
  .int (10 ^ maxDigits)

/-- A power of ten with too many digits has no text. -/
theorem isPrintable_pow {digits : Nat} (many : maxDigits ≤ digits) : isPrintable (.int (10 ^ digits)) = false := by
  rw [Bool.eq_false_iff, Ne, isPrintable_int_iff, Int.natAbs_pow, Nat.not_lt]
  exact Nat.pow_le_pow_right (by decide) many

theorem isPrintable_endless : endless.isPrintable = false :=
  isPrintable_pow (Nat.le_refl maxDigits)

end Number

namespace Datum

theorem allPrintable_eq_all (items : List Datum) : allPrintable items = items.all isPrintable := by
  induction items with
  | nil => rfl
  | cons d rest ih => rw [allPrintable, ih, List.all_cons]

end Datum

section Printing

variable {α β : Type}

/-- What is made of a text is there if the text is. -/
theorem printing_map (printable : Bool) (a : α) (f : α → β) : (printing printable a).map f = printing printable (f a) := by
  cases printable <;> rfl

/-- Texts are there together if each of them is. -/
theorem mapM_printing {f : α → Except Error β} {printable : α → Bool} {xs : List α} {ys : List β}
    (each : List.Forall₂ (fun x y => f x = printing (printable x) y) xs ys) :
    xs.mapM f = printing (xs.all printable) ys := by
  induction each with
  | nil => rfl
  | @cons x y xs ys first _ ih =>
    rw [List.mapM_cons, first, ih, List.all_cons]
    cases printable x <;> cases xs.all printable <;> rfl

/-- Without a text there is the error that says so. -/
theorem printing_eq_error {printable : Bool} {a : α} {e : Error} :
    printing printable a = .error e ↔ printable = false ∧ e = .tooManyDigits := by
  cases printable <;> simp [printing, eq_comm]

end Printing

end CatalogFilter
