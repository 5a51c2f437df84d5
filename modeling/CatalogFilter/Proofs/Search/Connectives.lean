import CatalogFilter.Proofs.Dialect.Connectives
import CatalogFilter.Proofs.Node.Each
import CatalogFilter.Proofs.Search.Meaning

/-!
# Connectives in search queries

* `Node.waive` — a tree with every disjunction of nothing replaced by a conjunction of nothing.
* `Node.accepts_toQuery_iff` — the query of a tree of connectives accepts as much as the tree without such disjunctions is
  true of; a tree that has none is its own.

A conjunction of nothing is true, and an index reads a query without clauses that way. A disjunction of nothing is false,
but what it becomes is a query without clauses as well.
-/

namespace CatalogFilter

namespace Node

/-! ## Disjunctions of nothing -/

mutual

/-- The tree with every disjunction of nothing replaced by a conjunction of nothing. -/
def waive : Node → Node
  | .and children => .and (allWaive children)
  | .or children => if children.isEmpty then .and [] else .or (allWaive children)
  | .not child => .not (waive child)
  | n => n

/-- `waive` of each tree. -/
def allWaive : List Node → List Node
  | [] => []
  | n :: rest => waive n :: allWaive rest

end

theorem allWaive_eq_map (ns : List Node) : allWaive ns = ns.map waive := by
  induction ns with
  | nil => rfl
  | cons n rest ih => rw [allWaive, ih, List.map_cons]

mutual

/-- A tree without disjunctions of nothing is left as it is. -/
theorem waive_eq_self (n : Node) (chooses : n.Built fun _ => True) : n.waive = n := by
  cases n with
  | and children => rw [waive, allWaive_eq_self children chooses]
  | or children => rw [waive, if_neg (by simpa using chooses.1), allWaive_eq_self children chooses.2]
  | not child => rw [waive, waive_eq_self child chooses]
  | _ => rfl

theorem allWaive_eq_self (ns : List Node) (choose : AllBuilt (fun _ => True) ns) : allWaive ns = ns := by
  cases ns with
  | nil => rfl
  | cons n rest => rw [allWaive, waive_eq_self n choose.1, allWaive_eq_self rest choose.2]

end

/-! ## Truth -/

variable {v : Node → Bool}

theorem truth_waive_and (ns : List Node) : (Node.and ns).waive.truth v = true ↔ ∀ n ∈ ns, n.waive.truth v = true := by
  rw [waive, truth, allTrue_eq_all, allWaive_eq_map]
  simp

/-- Waived disjunctions hold of no operands, as of some. -/
theorem truth_waive_or (ns : List Node) :
    (Node.or ns).waive.truth v = true ↔ ns = [] ∨ ∃ n ∈ ns, n.waive.truth v = true := by
  cases ns with
  | nil => simp [waive, truth, allTrue]
  | cons n rest => simp [waive, truth, someTrue_eq_any, allWaive_eq_map]

theorem truth_waive_not (n : Node) : (Node.not n).waive.truth v = true ↔ ¬ n.waive.truth v = true := by
  rw [waive, truth]
  simp

/-! ## Queries of trees -/

section

variable {fields : FieldMap} {accepts : Query → Prop}

/-- The predicates of some trees are those of each. -/
theorem mem_allPredicates_iff {p : Node} {ns : List Node} : p ∈ allPredicates ns ↔ ∃ n ∈ ns, p ∈ n.predicates := by
  rw [allPredicates_eq_flatMap, List.mem_flatMap]

/-- Trees of connectives over predicates render if the predicates do. -/
theorem renders (reads : Query.ReadsClauses accepts) (n : Node)
    (known : ∀ p ∈ n.predicates, ∃ q, p.toQuery fields = .ok q ∧ (accepts q ↔ v p = true)) :
    Renders fields accepts (fun m => m.waive.truth v = true) n := by
  induction n using byChildren with
  | step n ih =>
    cases n with
    | and children =>
      refine renders_and reads (fun c child => ?_) (truth_waive_and children)
      exact ih c child fun p member => known p (mem_allPredicates_iff.2 ⟨c, child, member⟩)
    | or children =>
      refine renders_or reads (fun c child => ?_) (truth_waive_or children)
      exact ih c child fun p member => known p (mem_allPredicates_iff.2 ⟨c, child, member⟩)
    | not child => exact renders_not reads (ih child List.mem_cons_self known) (truth_waive_not child)
    | _ => exact known _ List.mem_cons_self

end

/-- Search queries keep the Boolean structure of filters, except for disjunctions of nothing. Every tree of connectives over
predicates that have queries has a query. However queries on fields are read, it accepts exactly if the tree is true when
predicates are as true as their queries accept and disjunctions of nothing are waived; if there are none of these, exactly if
the tree is true. -/
theorem accepts_toQuery_iff (fields : FieldMap) {accepts : Query → Prop} (reads : Query.ReadsClauses accepts)
    (v : Node → Bool) (n : Node)
    (known : ∀ p ∈ n.predicates, ∃ q, p.toQuery fields = .ok q ∧ (accepts q ↔ v p = true)) :
    ∃ q, n.toQuery fields = .ok q ∧ (accepts q ↔ n.waive.truth v = true) ∧
      ((n.Built fun _ => True) → (accepts q ↔ n.truth v = true)) := by
  obtain ⟨q, translated, same⟩ := renders reads n known
  change accepts q ↔ n.waive.truth v = true at same
  refine ⟨q, translated, same, fun chooses => ?_⟩
  rwa [waive_eq_self n chooses] at same

/-- The denial of a conjunction of nothing, or one value missing and another one there. -/
def emptyFilter : Node :=
  .or [.not (.and []), .and [.isNull ⟨"a"⟩, .not (.isNull ⟨"b"⟩)]]

/-- An entry with a value in one field. -/
def oneEntry : Entry Int := fun field =>
  if field = "b" then [0] else []

/-- Which tests for null are true of it. -/
def missing : Node → Bool
  | .isNull p => p.name != "b"
  | _ => false

/-- The query of the sample filter matches the entry, as the filter is true of it. -/
theorem accepts_toQuery_iff_emptyFilter :
    Query.ReadsClauses (Query.Matches timeIndex oneEntry) ∧
      (∀ p ∈ emptyFilter.predicates, ∃ q, p.toQuery [] = .ok q ∧
        (q.Matches timeIndex oneEntry ↔ missing p = true)) ∧
      (emptyFilter.Built fun _ => True) ∧ emptyFilter.truth missing = true ∧
      ∃ q, emptyFilter.toQuery [] = .ok q ∧ q.Matches timeIndex oneEntry := by
  have reads := Query.readsClauses_matches timeIndex oneEntry
  have null (name : String) : ∃ q, (Node.isNull ⟨name⟩).toQuery [] = .ok q ∧
      (q.Matches timeIndex oneEntry ↔ missing (.isNull ⟨name⟩) = true) := by
    refine ⟨_, rfl, ?_⟩
    by_cases there : name = "b" <;> simp [Query.Matches, FieldMap.field_nil, oneEntry, missing, there]
  have known : ∀ p ∈ emptyFilter.predicates, ∃ q, p.toQuery [] = .ok q ∧
      (q.Matches timeIndex oneEntry ↔ missing p = true) := by
    intro p member
    rcases List.mem_pair.1 member with rfl | rfl
    · exact null "a"
    · exact null "b"
  have chooses : emptyFilter.Built fun _ => True := by
    simp [emptyFilter, Built, AllBuilt]
  obtain ⟨q, translated, -, same⟩ := accepts_toQuery_iff [] reads missing emptyFilter known
  exact ⟨reads, known, chooses, by decide, q, translated, (same chooses).2 (by decide)⟩

/-- A disjunction of nothing is not true, yet its query matches an entry. -/
theorem matches_toQuery_or_nil :
    ∃ q, (Node.or []).toQuery [] = .ok q ∧ q.Matches timeIndex (fun _ => []) ∧
      (Node.or []).truth (fun _ => false) = false := by
  refine ⟨_, rfl, ?_, rfl⟩
  exact .inl rfl

end Node

end CatalogFilter
