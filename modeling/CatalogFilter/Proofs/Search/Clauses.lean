import CatalogFilter.Proofs.Outcome
import CatalogFilter.Proofs.Search.Matching

/-!
# Connectives and their clauses

* `Query.ReadsClauses` — the standard reading of queries made of clauses, whatever a clause on a field accepts.
* `Query.readsClauses_matches` — indexes read queries that way.
* `Node.Renders` — a tree has a query, which accepts just if the tree is true in some sense.
* `Node.renders_and`, `Node.renders_or`, `Node.renders_not` — for any sense of truth that goes by the operands, a connective
  renders if its operands do. A disjunction of nothing must be true in that sense.
-/

namespace CatalogFilter

/-! ## Queries made of clauses -/

namespace Query

/-- The reading of queries made of clauses: all of them hold, some of them holds, and a choice without clauses does not
choose. What other queries accept is left open. -/
structure ReadsClauses (accepts : Query → Prop) : Prop where
  must : ∀ qs, accepts (.must qs) ↔ ∀ q ∈ qs, accepts q
  should : ∀ qs, accepts (.should qs) ↔ qs = [] ∨ ∃ q ∈ qs, accepts q
  mustNot : ∀ q, accepts (.mustNot q) ↔ ¬ accepts q

/-- So does an index read queries, for each of its entries. -/
theorem readsClauses_matches {V : Type} [PartialOrder V] (index : Index V) (entry : Entry V) :
    ReadsClauses (Matches index entry) where
  must qs := by rw [Matches, matchesAll_iff]
  should qs := by rw [Matches, matchesAny_iff]
  mustNot q := by rw [Matches]

end Query

namespace Node

/-- Alternatives that hold together item by item hold together. -/
theorem exists_mem_iff_of_forall₂ {α β : Type} {P : α → Prop} {Q : β → Prop} {as : List α} {bs : List β}
    (h : List.Forall₂ (fun a b => P a ↔ Q b) as bs) : (∃ a ∈ as, P a) ↔ ∃ b ∈ bs, Q b := by
  induction h with
  | nil => simp
  | cons same _ ih => simp [same, ih]

/-- Conditions that hold together item by item hold together. -/
theorem forall_mem_iff_of_forall₂ {α β : Type} {P : α → Prop} {Q : β → Prop} {as : List α} {bs : List β}
    (h : List.Forall₂ (fun a b => P a ↔ Q b) as bs) : (∀ a ∈ as, P a) ↔ ∀ b ∈ bs, Q b := by
  induction h with
  | nil => simp
  | cons same _ ih => simp [same, ih]

/-! ## Queries of connectives -/

section

variable {fields : FieldMap} {accepts : Query → Prop} {holds : Node → Prop} {ns : List Node}

/-- Whether a tree has a query, and the query accepts just if the tree holds. -/
def Renders (fields : FieldMap) (accepts : Query → Prop) (holds : Node → Prop) (n : Node) : Prop :=
  ∃ q, n.toQuery fields = .ok q ∧ (accepts q ↔ holds n)

/-- Trees that render each have queries together. -/
theorem exists_toQueries_of_renders (each : ∀ n ∈ ns, Renders fields accepts holds n) :
    ∃ qs, toQueries fields ns = .ok qs ∧ List.Forall₂ (fun q n => accepts q ↔ holds n) qs ns := by
  obtain ⟨qs, related⟩ := Outcome.exists_forall₂ each
  refine ⟨qs, ?_, ?_⟩
  · rw [toQueries_eq_mapM]
    exact Outcome.mapM_eq_ok.2 (related.imp fun _ _ => And.left)
  · exact (related.imp fun _ _ => And.right).flip

/-- A conjunction of trees that render does. -/
theorem renders_and (reads : Query.ReadsClauses accepts) (each : ∀ n ∈ ns, Renders fields accepts holds n)
    (all : holds (.and ns) ↔ ∀ n ∈ ns, holds n) : Renders fields accepts holds (.and ns) := by
  obtain ⟨qs, translated, same⟩ := exists_toQueries_of_renders each
  refine ⟨.must qs, ?_, ?_⟩
  · rw [toQuery, translated]
    rfl
  · rw [reads.must, all]
    exact forall_mem_iff_of_forall₂ same

/-- A disjunction of trees that render does, if it holds when there are none. -/
theorem renders_or (reads : Query.ReadsClauses accepts) (each : ∀ n ∈ ns, Renders fields accepts holds n)
    (any : holds (.or ns) ↔ ns = [] ∨ ∃ n ∈ ns, holds n) : Renders fields accepts holds (.or ns) := by
  obtain ⟨qs, translated, same⟩ := exists_toQueries_of_renders each
  have empty : qs = [] ↔ ns = [] := by
    rw [← List.length_eq_zero_iff, same.length_eq, List.length_eq_zero_iff]
  refine ⟨.should qs, ?_, ?_⟩
  · rw [toQuery, translated]
    rfl
  · rw [reads.should, any, empty]
    exact or_congr_right (exists_mem_iff_of_forall₂ same)

/-- A negation of a tree that renders does. -/
theorem renders_not {n : Node} (reads : Query.ReadsClauses accepts) (h : Renders fields accepts holds n)
    (denies : holds (.not n) ↔ ¬ holds n) : Renders fields accepts holds (.not n) := by
  obtain ⟨q, translated, same⟩ := h
  refine ⟨.mustNot q, ?_, ?_⟩
  · rw [toQuery, translated]
    rfl
  · rw [reads.mustNot, denies]
    exact not_congr same

end

end Node

end CatalogFilter
