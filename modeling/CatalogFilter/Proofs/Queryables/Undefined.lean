import CatalogFilter.Proofs.Node.Each
import CatalogFilter.Proofs.Node.References
import CatalogFilter.Queryables
import Mathlib

/-!
# Properties that are not declared

* `mem_sortedSet`, `pairwise_sortedSet` — putting names in order and dropping repetitions changes no name, and leaves each
  one once.
* `Node.mem_properties_iff` — the names that a tree is checked for are those of its properties, at any depth.
* `Queryables.mem_undefined_iff` — of these, the ones that are not declared are reported.
* `Queryables.check_eq_ok_iff` — a filter that is checked passes exactly if all its properties are declared.
* `Queryables.check_reports` — any filter is refused exactly if the check is asked for, the queryables are closed and some
  property of it is not declared; the report names these properties, each once and in order.
-/

namespace CatalogFilter

/-! ## Names in order -/

/-- Dropping repetitions of neighbours drops no value. -/
theorem mem_eraseReps_iff {x : String} (names : List String) : x ∈ names.eraseReps ↔ x ∈ names := by
  have loop (names found : List String) (last : String) :
      x ∈ List.eraseRepsBy.loop (· == ·) last names found ↔ x ∈ found ∨ x = last ∨ x ∈ names := by
    induction names generalizing last found with
    | nil => simp [List.eraseRepsBy.loop, or_comm]
    | cons name rest ih =>
      rw [List.eraseRepsBy.loop]
      split
      · rename_i same
        rw [ih, List.mem_cons, eq_of_beq same]
        tauto
      · rw [ih, List.mem_cons, List.mem_cons]
        tauto
  cases names with
  | nil => rfl
  | cons name rest =>
    rw [List.eraseReps, List.eraseRepsBy, loop]
    simp

/-- Names in order without repetitions are the names. -/
theorem mem_sortedSet {x : String} (names : List String) : x ∈ sortedSet names ↔ x ∈ names := by
  rw [sortedSet, mem_eraseReps_iff, List.mem_mergeSort]

/-- Dropping repetitions of neighbours from names in order leaves each name once. -/
theorem pairwise_eraseReps {names : List String} (inOrder : names.Pairwise (· ≤ ·)) :
    names.eraseReps.Pairwise (· < ·) := by
  -- What was found so far is kept in reverse, below the last name; what is left is above it.
  have loop (names found : List String) (last : String) (rest : (last :: names).Pairwise (· ≤ ·))
      (before : (last :: found).Pairwise (· > ·)) :
      (List.eraseRepsBy.loop (· == ·) last names found).Pairwise (· < ·) := by
    induction names generalizing last found with
    | nil =>
      rw [List.eraseRepsBy.loop, List.pairwise_reverse]
      exact before
    | cons name names ih =>
      rw [List.pairwise_cons] at rest
      rw [List.eraseRepsBy.loop]
      split
      · rename_i same
        rw [eq_of_beq same]
        exact ih found name rest.2 (eq_of_beq same ▸ before)
      · rename_i other
        have above : last < name := lt_of_le_of_ne (rest.1 name List.mem_cons_self) (ne_of_beq_false other)
        refine ih (last :: found) name rest.2 (List.pairwise_cons.2 ⟨?_, before⟩)
        intro x member
        rcases List.mem_cons.1 member with rfl | member
        · exact above
        · exact lt_trans ((List.pairwise_cons.1 before).1 x member) above
  cases names with
  | nil => exact .nil
  | cons name names => exact loop names [] name inOrder (List.pairwise_singleton _ name)

/-- Names in order without repetitions are in strict order. -/
theorem pairwise_sortedSet (names : List String) : (sortedSet names).Pairwise (· < ·) := by
  refine pairwise_eraseReps (List.Pairwise.imp of_decide_eq_true (List.pairwise_mergeSort ?_ ?_ names))
  · intro a b c first second
    exact decide_eq_true (le_trans (of_decide_eq_true first) (of_decide_eq_true second))
  · intro a b
    rw [Bool.or_eq_true, decide_eq_true_iff, decide_eq_true_iff]
    exact le_total a b

/-! ## Properties of a tree -/

namespace Node

theorem mem_propertyNames_iff {n : Node} {name : String} :
    name ∈ n.propertyNames ↔ ∃ p, .property p ∈ n.preorder ∧ p.name = name := by
  rw [propertyNames, walk_eq_preorder, List.mem_filterMap]
  constructor
  · rintro ⟨m, member, named⟩
    cases m with
    | property p => exact ⟨p, member, Option.some.inj named⟩
    | _ => cases named
  · rintro ⟨p, member, rfl⟩
    exact ⟨.property p, member, rfl⟩

/-- The names that a tree refers to are the bare names of its properties. -/
theorem mem_properties_iff {n : Node} {name : String} :
    name ∈ n.properties ↔ ∃ p, .property p ∈ n.preorder ∧ bareName p.name = name := by
  rw [properties, mem_sortedSet, List.mem_map]
  simp only [mem_propertyNames_iff]
  constructor
  · rintro ⟨_, ⟨p, member, rfl⟩, bare⟩
    exact ⟨p, member, bare⟩
  · rintro ⟨p, member, bare⟩
    exact ⟨p.name, ⟨p, member, rfl⟩, bare⟩

end Node

/-! ## Checks -/

namespace Queryables

variable {q : Queryables} {s : Settings} {n : Node}

/-- Whether filters may only use declared properties: nothing is said of others, or that there are none. -/
theorem restricts_iff : q.restricts = true ↔ q.additional = none ∨ q.additional = some (.allowed false) := by
  unfold restricts
  split <;> simp_all

/-- Reported are the names of properties that are not declared. -/
theorem mem_undefined_iff (restricts : q.restricts = true) {name : String} :
    name ∈ q.undefined n ↔ (∃ p, .property p ∈ n.preorder ∧ Node.bareName p.name = name) ∧ name ∉ q.names := by
  rw [undefined, if_pos restricts, List.mem_filter, Node.mem_properties_iff]
  simp

/-- There is something to report exactly if the queryables are closed and the filter has a property that they do not
declare. -/
theorem undefined_ne_nil_iff :
    q.undefined n ≠ [] ↔ q.restricts = true ∧ ∃ p, n.Refers p ∧ Node.bareName p.name ∉ q.names := by
  by_cases restricts : q.restricts = true
  · rw [and_iff_right restricts, ne_eq, List.eq_nil_iff_forall_not_mem, not_forall_not]
    simp only [mem_undefined_iff restricts, Node.property_mem_preorder_iff]
    constructor
    · rintro ⟨_, ⟨p, refers, rfl⟩, undeclared⟩
      exact ⟨p, refers, undeclared⟩
    · rintro ⟨p, refers, undeclared⟩
      exact ⟨_, ⟨p, refers, rfl⟩, undeclared⟩
  · simp [undefined, restricts]

/-- A filter that is checked passes exactly if all its properties are declared. -/
theorem check_eq_ok_iff (asked : s.validateQueryables = true) (restricts : q.restricts = true) :
    q.check s n = .ok () ↔ ∀ p, .property p ∈ n.preorder → Node.bareName p.name ∈ q.names := by
  have passes : q.check s n = .ok () ↔ q.undefined n = [] := by
    rw [check, if_pos asked]
    cases q.undefined n with
    | nil => simp
    | cons name rest => simp
  rw [passes, ← not_iff_not, ← ne_eq, undefined_ne_nil_iff]
  simp [restricts, Node.property_mem_preorder_iff]

/-- What is reported is in strict order. -/
theorem pairwise_undefined : (q.undefined n).Pairwise (· < ·) := by
  unfold undefined
  split
  · exact (pairwise_sortedSet _).filter _
  · exact .nil

/-- A filter is refused exactly if the check is asked for and there is something to report, and the report says that. -/
theorem check_eq_error_iff {e : ParseError} :
    q.check s n = .error e ↔
      s.validateQueryables = true ∧ q.undefined n ≠ [] ∧ e = .shape "filter" (.unknownFields (q.undefined n)) := by
  unfold check
  split
  · rename_i asked
    cases found : q.undefined n with
    | nil => simp
    | cons name rest => simp [asked, eq_comm]
  · rename_i idle
    simp [idle]

/-- The check is exact. A filter is refused exactly if the settings ask for the check, the queryables allow no properties
besides those they declare, and some property anywhere in the filter has a bare name that is not declared. The report then
names these bare names and nothing else, each once and in order. -/
theorem check_reports (q : Queryables) (s : Settings) (n : Node) :
    ((∃ e, q.check s n = .error e) ↔
        s.validateQueryables = true ∧ (q.additional = none ∨ q.additional = some (.allowed false)) ∧
          ∃ p name, n.Refers p ∧ IsBareName p.name name ∧ name ∉ q.names) ∧
      ∀ e, q.check s n = .error e →
        ∃ names, e = .shape "filter" (.unknownFields names) ∧ names.Pairwise (· < ·) ∧
          ∀ name, name ∈ names ↔ (∃ p, n.Refers p ∧ IsBareName p.name name) ∧ name ∉ q.names := by
  constructor
  · have refused : (∃ e, q.check s n = .error e) ↔ s.validateQueryables = true ∧ q.undefined n ≠ [] := by
      simp only [check_eq_error_iff]
      exact ⟨fun ⟨_, asked, found, _⟩ => ⟨asked, found⟩, fun ⟨asked, found⟩ => ⟨_, asked, found, rfl⟩⟩
    rw [refused, undefined_ne_nil_iff, restricts_iff]
    simp [← Node.bareName_eq_iff]
  · intro e refused
    obtain ⟨-, found, rfl⟩ := check_eq_error_iff.1 refused
    refine ⟨_, rfl, pairwise_undefined, fun name => ?_⟩
    rw [mem_undefined_iff (undefined_ne_nil_iff.1 found).1]
    simp only [Node.property_mem_preorder_iff, Node.bareName_eq_iff]

end Queryables

end CatalogFilter
