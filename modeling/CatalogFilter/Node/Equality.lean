import CatalogFilter.Datum.Equality
import CatalogFilter.Node.Basic

/-! # Equality of trees

* `Node.equal`: nodes of one variant with equal parts. Numbers compare by value, times as `OffsetDateTime.equal` has it,
  and coordinates as decoded values. -/

namespace CatalogFilter

/-- Equality of values item by item. -/
def equalLists {α : Type} (eq : α → α → Bool) : List α → List α → Bool
  | [], [] => true
  | x :: xs, y :: ys => eq x y && equalLists eq xs ys
  | _, _ => false

/-- Equality of what may be missing. -/
def equalOptions {α : Type} (eq : α → α → Bool) : Option α → Option α → Bool
  | none, none => true
  | some x, some y => eq x y
  | _, _ => false

/-- Equality of scalars of one kind by value. -/
def Scalar.equal : Scalar → Scalar → Bool
  | .bool a, .bool b => a == b
  | .num m, .num n => m.equal n
  | .str s, .str t => s == t
  | _, _ => false

/-- Equality of geometries. -/
def Geometry.equal (g h : Geometry) : Bool :=
  g.type == h.type && g.coordinates.equal h.coordinates &&
    equalOptions (equalLists Number.equal) g.bbox h.bbox

/-- Equality of shapes. -/
def Shape.equal : Shape → Shape → Bool
  | .geometry g, .geometry h => g.equal h
  | .bbox xs, .bbox ys => equalLists Number.equal xs ys
  | _, _ => false

/-- Equality of times of the same form. -/
def Instant.equal : Instant → Instant → Bool
  | .timestamp d, .timestamp e => d.equal e
  | .date d, .date e => decide (d = e)
  | .interval a b, .interval c d =>
    equalOptions OffsetDateTime.equal a c && equalOptions OffsetDateTime.equal b d
  | _, _ => false

namespace Node

mutual

/-- Equality of two trees. -/
def equal : Node → Node → Bool
  | .property p, .property q => decide (p = q)
  | .literal a, .literal b => a.equal b
  | .timestamp d, .timestamp e => d.equal e
  | .date d, .date e => decide (d = e)
  | .interval a b, .interval c d =>
    equalOptions OffsetDateTime.equal a c && equalOptions OffsetDateTime.equal b d
  | .geometry g, .geometry h => g.equal h
  | .bbox xs, .bbox ys => equalLists Number.equal xs ys
  | .array xs, .array ys => equalAll xs ys
  | .and xs, .and ys => equalAll xs ys
  | .or xs, .or ys => equalAll xs ys
  | .not x, .not y => equal x y
  | .comparison o p x, .comparison o' p' y => decide (o = o' ∧ p = p') && equal x y
  | .between p x y, .between p' x' y' => decide (p = p') && equal x x' && equal y y'
  | .like p s, .like p' s' => decide (p = p' ∧ s = s')
  | .isIn p xs, .isIn p' ys => decide (p = p') && equalAll xs ys
  | .isNull p, .isNull p' => decide (p = p')
  | .spatial o p s, .spatial o' p' s' => decide (o = o' ∧ p = p') && s.equal s'
  | .temporal o p t, .temporal o' p' t' => decide (o = o' ∧ p = p') && t.equal t'
  | .arrayComparison o x y, .arrayComparison o' x' y' => decide (o = o') && equal x x' && equal y y'
  | .function f xs, .function g ys => decide (f = g) && equalAll xs ys
  | _, _ => false

/-- Equality node by node. -/
def equalAll : List Node → List Node → Bool
  | [], [] => true
  | x :: xs, y :: ys => equal x y && equalAll xs ys
  | _, _ => false

end

end Node

end CatalogFilter
