import CatalogFilter.Proofs.Search.Fields
import CatalogFilter.Proofs.Search.Matching

/-!
# Queries as they are sent

* `DecodedIndex` — how an index reads what stands in a query that is sent to it, a decoded value.
* `DecodedIndex.Accepts`, `Query.sentFields` — which entries match such a value and which fields it names, read from the
  value alone: from the names of its members and from what they hold.
* `DecodedIndex.accepts_toDatum` — what is sent for a query matches the same entries as the query.
* `Query.sentFields_toDatum` — and it names the same fields.

What is said of queries by `Query.Matches` and `Query.fields` is thereby said of what an index gets to see. A clause under
`must_not` may stand alone or in a list, and both are sent.
-/

namespace CatalogFilter

/-- How an index reads decoded queries, with values of type `V` in its fields. -/
structure DecodedIndex (V : Type) where
  /-- The value that a scalar of a query stands for in a field. -/
  value : String → Scalar → V
  /-- Whether a value fits a wildcard pattern. -/
  fits : String → V → Prop
  /-- Whether a value is a shape that stands in the named relation to a shape of a query. -/
  related : Datum → String → V → Prop

namespace DecodedIndex

variable {V : Type}

/-- The index as one that reads queries. -/
def toIndex (index : DecodedIndex V) : Index V where
  value := index.value
  fits := index.fits
  related region relation := index.related region.toDatum relation.symbol

/-! ## Reading what is sent -/

section

variable (index : DecodedIndex V) (entry : Entry V)

/-- Whether a value is the one that a decoded value stands for in a field. -/
def Denotes (field : String) (d : Datum) (x : V) : Prop :=
  ∃ s, Scalar.ofData? d = some s ∧ index.value field s = x

variable [PartialOrder V]

/-- Whether a value is on the right side of a bound, which is given by its name. -/
def Within (field : String) (x : V) : String × Datum → Prop
  | ("gt", d) => ∃ y, index.Denotes field d y ∧ y < x
  | ("gte", d) => ∃ y, index.Denotes field d y ∧ y ≤ x
  | ("lte", d) => ∃ y, index.Denotes field d y ∧ x ≤ y
  | ("lt", d) => ∃ y, index.Denotes field d y ∧ x < y
  | _ => False

/-- Whether an entry matches a clause about a field. Only a test for a value has the field as the value of its member. -/
def LeafAccepts (kind name : String) (body : Datum) : Prop :=
  match kind, body with
  | "term", d => ∃ x ∈ entry name, index.Denotes name d x
  | "terms", .list ds => ∃ x ∈ entry name, ∃ d ∈ ds, index.Denotes name d x
  | "range", .object bounds => ∃ x ∈ entry name, ∀ bound ∈ bounds, index.Within name x bound
  | "exists", .str field => name = "field" ∧ entry field ≠ []
  | "wildcard", .object [("value", .str pattern), ("case_insensitive", .bool true)] =>
    ∃ x ∈ entry name, index.fits pattern x
  | "geo_shape", .object [("shape", shape), ("relation", .str relation)] =>
    ∃ x ∈ entry name, index.related shape relation x
  | _, _ => False

mutual

/-- Whether an entry matches a decoded query, an object with one member. -/
def Accepts : Datum → Prop
  | .object [(kind, body)] => ClauseAccepts kind body
  | _ => False

/-- Whether it matches a clause of a kind: a combination of clauses, or a clause about a field. -/
def ClauseAccepts (kind : String) : Datum → Prop
  | .object [(name, body)] =>
    if kind = "bool" then CombinationAccepts name body else LeafAccepts index entry kind name body
  | _ => False

/-- Whether it matches a combination of clauses. A choice without clauses does not choose. -/
def CombinationAccepts (occurrence : String) : Datum → Prop
  | .list clauses =>
    match occurrence with
    | "must" => AllAccept clauses
    | "should" => clauses = [] ∨ AnyAccepts clauses
    | "must_not" => ¬ AnyAccepts clauses
    | _ => False
  | .object [(kind, body)] => occurrence = "must_not" ∧ ¬ ClauseAccepts kind body
  | _ => False

/-- Whether it matches every decoded query of a list. -/
def AllAccept : List Datum → Prop
  | [] => True
  | d :: rest => Accepts d ∧ AllAccept rest

/-- Whether it matches some decoded query of a list. -/
def AnyAccepts : List Datum → Prop
  | [] => False
  | d :: rest => Accepts d ∨ AnyAccepts rest

end

end

end DecodedIndex

namespace Query

mutual

/-- The index fields that a decoded query names, clause by clause. -/
def sentFields : Datum → List String
  | .object [(kind, body)] => clauseFields kind body
  | _ => []

/-- The fields that a clause of a kind names. -/
def clauseFields (kind : String) : Datum → List String
  | .object [(name, body)] =>
    if kind = "bool" then combinationFields body
    else if kind = "exists" then (match body with | .str field => [field] | _ => [])
    else [name]
  | _ => []

/-- The fields that a combination of clauses names. -/
def combinationFields : Datum → List String
  | .list clauses => allSentFields clauses
  | .object [(kind, body)] => clauseFields kind body
  | _ => []

/-- `sentFields` of each decoded query. -/
def allSentFields : List Datum → List String
  | [] => []
  | d :: rest => sentFields d ++ allSentFields rest

end

/-- What is sent for a query is an object with one member. -/
theorem exists_toDatum_eq_single (q : Query) : ∃ kind body, q.toDatum = single kind body := by
  cases q <;> exact ⟨_, _, by rw [toDatum]⟩

mutual

/-- What is sent for a query names its fields. -/
theorem sentFields_toDatum (q : Query) : sentFields q.toDatum = q.fields := by
  cases q with
  | must clauses | should clauses | mustNotAny clauses => exact allSentFields_toDatums clauses
  | mustNot clause =>
    obtain ⟨kind, body, sent⟩ := exists_toDatum_eq_single clause
    have inside := sentFields_toDatum clause
    rw [sent] at inside
    rw [toDatum, sent]
    exact inside
  | _ => rfl

theorem allSentFields_toDatums (qs : List Query) : allSentFields (toDatums qs) = allFields qs := by
  cases qs with
  | nil => rfl
  | cons q rest => rw [toDatums, allSentFields, allFields, sentFields_toDatum q, allSentFields_toDatums rest]

end

end Query

/-! ## What is sent means what the query means -/

namespace DecodedIndex

open Query

variable {V : Type} {index : DecodedIndex V} {entry : Entry V}

/-- What is sent for an operand is the scalar that it is. -/
theorem ofData?_toDatum (v : Operand) : Scalar.ofData? v.toDatum = v.scalar? := by
  cases v with
  | scalar value => exact Scalar.ofData?_toData value
  | _ => rfl

theorem denotes_toDatum {field : String} {v : Operand} {x : V} :
    index.Denotes field v.toDatum x ↔ v.Denotes index.toIndex field x := by
  rw [Denotes, ofData?_toDatum]
  rfl

/-- What is sent for operands are the operands one by one. -/
theorem exists_mem_toDatums {p : Datum → Prop} {vs : List Operand} :
    (∃ d ∈ Operand.toDatums vs, p d) ↔ ∃ v ∈ vs, p v.toDatum := by
  induction vs with
  | nil => simp [Operand.toDatums]
  | cons v rest ih => simp [Operand.toDatums, ih]

variable [PartialOrder V]

/-- What is sent for bounds admits the same values: a bound that is missing is not sent. -/
theorem within_toDatum {field : String} {b : Bounds} {x : V} :
    (∀ bound ∈ b.named.map fun (name, v) => (name, v.toDatum), index.Within field x bound) ↔
      b.Admits index.toIndex field x := by
  have entry (name : String) (bound : Option Operand) :
      (∀ m ∈ (bound.toList.map fun v => (name, v)).map fun m => (m.1, m.2.toDatum), index.Within field x m) ↔
        ∀ v, bound = some v → index.Within field x (name, v.toDatum) := by
    cases bound <;> simp
  simp only [Bounds.named, List.map_append, List.forall_mem_append, entry, and_assoc]
  simp only [Within, denotes_toDatum, Bounds.Admits]

mutual

/-- What is sent for a query matches the entries that the query matches. -/
theorem accepts_toDatum (q : Query) : index.Accepts entry q.toDatum ↔ q.Matches index.toIndex entry := by
  cases q with
  | must clauses => exact allAccept_toDatums clauses
  | should clauses =>
    have choice : index.Accepts entry (toDatum (.should clauses)) ↔
        toDatums clauses = [] ∨ index.AnyAccepts entry (toDatums clauses) := Iff.rfl
    have none : toDatums clauses = [] ↔ clauses = [] := by cases clauses <;> simp [toDatums]
    rw [choice, none, anyAccepts_toDatums clauses]
    rfl
  | mustNot clause =>
    obtain ⟨kind, body, sent⟩ := exists_toDatum_eq_single clause
    have refuses : index.Accepts entry (toDatum (.mustNot clause)) ↔ ¬ index.Accepts entry clause.toDatum := by
      rw [toDatum, sent]
      exact and_iff_right rfl
    rw [refuses, accepts_toDatum clause]
    rfl
  | mustNotAny clauses => exact not_congr (anyAccepts_toDatums clauses)
  | term field value => exact exists_congr fun x => and_congr_right fun _ => denotes_toDatum
  | terms field values =>
    refine exists_congr fun x => and_congr_right fun _ => exists_mem_toDatums.trans ?_
    exact exists_congr fun v => and_congr_right fun _ => denotes_toDatum
  | range field bounds => exact exists_congr fun x => and_congr_right fun _ => within_toDatum
  | «exists» field => exact and_iff_right rfl
  | wildcard field pattern => exact Iff.rfl
  | geoShape field region relation => exact Iff.rfl

theorem allAccept_toDatums (qs : List Query) :
    index.AllAccept entry (toDatums qs) ↔ MatchesAll index.toIndex entry qs := by
  cases qs with
  | nil => exact Iff.rfl
  | cons q rest => exact and_congr (accepts_toDatum q) (allAccept_toDatums rest)

theorem anyAccepts_toDatums (qs : List Query) :
    index.AnyAccepts entry (toDatums qs) ↔ MatchesAny index.toIndex entry qs := by
  cases qs with
  | nil => exact Iff.rfl
  | cons q rest => exact or_congr (accepts_toDatum q) (anyAccepts_toDatums rest)

end

end DecodedIndex

end CatalogFilter
