import CatalogFilter.Dialect.Search
import Mathlib

/-!
# What search queries match

* `Index` — how an index reads what stands in a query: as values of a field, as patterns and as regions.
* `Entry` — an indexed record, which has a list of values in every field.
* `Query.Matches` — the standard reading of queries. A clause about a field asks for one value that fits, and a
  field without values fits no clause.
* `Query.matchesAll_iff`, `Query.matchesAny_iff` — clauses with several parts, part by part.
-/

namespace CatalogFilter

/-- How an index reads queries, with values of type `V` in its fields. -/
structure Index (V : Type) where
  /-- The value that a scalar of a query stands for in a field. -/
  value : String → Scalar → V
  /-- Whether a value fits a wildcard pattern. -/
  fits : String → V → Prop
  /-- Whether a value is a shape that stands in a relation to a region. -/
  related : Query.Region → Query.ShapeRelation → V → Prop

/-- An indexed record: the values of each field, none for a field that it does not have. -/
abbrev Entry (V : Type) := String → List V

namespace Query

/-- The scalar that an operand is in a query; times are texts there, and a list is no scalar. -/
def Operand.scalar? : Operand → Option Scalar
  | .scalar value => some value
  | .timestamp t => some (.str t.text)
  | .date d => some (.str d.text)
  | .list _ => none

section

variable {V : Type} (index : Index V) (entry : Entry V)

/-- Whether a value is the one that an operand stands for in a field. -/
def Operand.Denotes (field : String) (v : Operand) (x : V) : Prop :=
  ∃ s, v.scalar? = some s ∧ index.value field s = x

/-- Whether a value is within bounds; a bound that is missing does not restrict it. -/
def Bounds.Admits [PartialOrder V] (field : String) (b : Bounds) (x : V) : Prop :=
  (∀ v, b.gt = some v → ∃ y, v.Denotes index field y ∧ y < x) ∧
    (∀ v, b.gte = some v → ∃ y, v.Denotes index field y ∧ y ≤ x) ∧
    (∀ v, b.lte = some v → ∃ y, v.Denotes index field y ∧ x ≤ y) ∧
    ∀ v, b.lt = some v → ∃ y, v.Denotes index field y ∧ x < y

mutual

/-- Whether an entry matches a query. A choice without clauses does not choose, and so every entry matches it. -/
def Matches [PartialOrder V] : Query → Prop
  | .must clauses => MatchesAll clauses
  | .should clauses => clauses = [] ∨ MatchesAny clauses
  | .mustNot clause => ¬ Matches clause
  | .mustNotAny clauses => ¬ MatchesAny clauses
  | .term field value => ∃ x ∈ entry field, value.Denotes index field x
  | .terms field values => ∃ x ∈ entry field, ∃ v ∈ values, v.Denotes index field x
  | .range field bounds => ∃ x ∈ entry field, bounds.Admits index field x
  | .exists field => entry field ≠ []
  | .wildcard field pattern => ∃ x ∈ entry field, index.fits pattern x
  | .geoShape field region relation => ∃ x ∈ entry field, index.related region relation x

/-- Whether an entry matches every query of a list. -/
def MatchesAll [PartialOrder V] : List Query → Prop
  | [] => True
  | q :: rest => Matches q ∧ MatchesAll rest

/-- Whether an entry matches some query of a list. -/
def MatchesAny [PartialOrder V] : List Query → Prop
  | [] => False
  | q :: rest => Matches q ∨ MatchesAny rest

end

end

section

variable {V : Type} [PartialOrder V] {index : Index V} {entry : Entry V}

/-- The queries of a list one by one. -/
theorem matchesAll_iff (qs : List Query) : MatchesAll index entry qs ↔ ∀ q ∈ qs, q.Matches index entry := by
  induction qs with
  | nil => simp [MatchesAll]
  | cons q rest ih => simp [MatchesAll, ih]

/-- Of the queries of a list one. -/
theorem matchesAny_iff (qs : List Query) : MatchesAny index entry qs ↔ ∃ q ∈ qs, q.Matches index entry := by
  induction qs with
  | nil => simp [MatchesAny]
  | cons q rest ih => simp [MatchesAny, ih]

end

end Query

end CatalogFilter
