import CatalogFilter.Datum.Basic

/-! # Equality of decoded values

* `Datum.equal`: equality of values as documents compare. Numbers compare by value, a boolean like the number
  zero or one, objects without regard to order, times as `DateTime.equal` has it; a list never equals a tuple. -/

namespace CatalogFilter.Datum

/-- The number that a boolean compares like. -/
def boolNumber (b : Bool) : Number :=
  .int (if b then 1 else 0)

mutual

/-- Equality of two values. -/
def equal : Datum → Datum → Bool
  | .null, .null => true
  | .bool a, .bool b => a == b
  | .bool a, .num n => (boolNumber a).equal n
  | .num n, .bool b => n.equal (boolNumber b)
  | .num m, .num n => m.equal n
  | .str s, .str t => s == t
  | .list xs, .list ys => equalAll xs ys
  | .tuple xs, .tuple ys => equalAll xs ys
  | .object xs, .object ys => equalMembers [] xs ys && ys.all fun m => xs.any (·.1 == m.1)
  | .datetime d, .datetime e => d.equal e
  | .date d, .date e => decide (d = e)
  | .other f, .other g => f.kind == g.kind && f.text == g.text
  | _, _ => false

/-- Equality item by item. -/
def equalAll : List Datum → List Datum → Bool
  | [], [] => true
  | x :: xs, y :: ys => equal x y && equalAll xs ys
  | _, _ => false

/-- Whether each member on the left has an equal member of its name on the right. Members whose name came
before, one of the names `seen`, do not count. -/
def equalMembers (seen : List String) : List (String × Datum) → List (String × Datum) → Bool
  | [], _ => true
  | (name, x) :: xs, ys =>
    (seen.contains name ||
      match ys.lookup name with
      | some y => equal x y
      | none => false) && equalMembers (name :: seen) xs ys

end

@[simp] theorem equal_str (s t : String) : equal (.str s) (.str t) = (s == t) := by simp [equal]

end CatalogFilter.Datum
