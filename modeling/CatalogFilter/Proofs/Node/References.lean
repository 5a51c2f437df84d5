import CatalogFilter.Proofs.Node.Each
import Mathlib

/-!
# Properties that a tree refers to

* `Node.Refers` — whether a property stands anywhere in a tree, by recursion on the tree.
* `Node.refers_iff` — a tree refers to the property that it is, and to what its operands refer to.
* `Node.property_mem_preorder_iff` — the properties among the nodes of a tree are those that it refers to.
* `IsBareName`, `Node.bareName_eq_iff` — a bare name is a name without one leading `properties.`, where there is one.

The recursion names every place of every variant where a property may stand. That the operands of a node, as the walk finds
them, leave none of these places out is `Node.refers_iff`.
-/

namespace CatalogFilter

/-- Whether a name is what is left of another one without one leading `properties.`, where there is one. -/
def IsBareName (name bare : String) : Prop :=
  name = Node.propertiesStart ++ bare ∨ name = bare ∧ ∀ rest, name ≠ Node.propertiesStart ++ rest

namespace Node

/-! ## References -/

section

variable (p : Property)

mutual

/-- Whether a tree refers to a property: as a subject, side, bound, value, element or argument, under any connective. -/
def Refers : Node → Prop
  | .property q => q = p
  | .literal _ => False
  | .timestamp _ => False
  | .date _ => False
  | .interval _ _ => False
  | .geometry _ => False
  | .bbox _ => False
  | .array elements => AnyRefers elements
  | .and children => AnyRefers children
  | .or children => AnyRefers children
  | .not child => Refers child
  | .comparison _ left right => left = p ∨ Refers right
  | .between subject lower upper => subject = p ∨ Refers lower ∨ Refers upper
  | .like subject _ => subject = p
  | .isIn subject values => subject = p ∨ AnyRefers values
  | .isNull subject => subject = p
  | .spatial _ left _ => left = p
  | .temporal _ left _ => left = p
  | .arrayComparison _ left right => Refers left ∨ Refers right
  | .function _ args => AnyRefers args

/-- Whether some tree refers to a property. -/
def AnyRefers : List Node → Prop
  | [] => False
  | n :: rest => Refers n ∨ AnyRefers rest

end

end

variable {p : Property} {n : Node}

theorem anyRefers_iff (ns : List Node) : AnyRefers p ns ↔ ∃ n ∈ ns, n.Refers p := by
  induction ns with
  | nil => simp [AnyRefers]
  | cons n rest ih => simp [AnyRefers, ih]

/-- A shape refers to no property. -/
theorem not_refers_shape (s : Shape) : ¬ s.toNode.Refers p := by
  cases s <;> exact not_false

/-- A time refers to no property. -/
theorem not_refers_instant (t : Instant) : ¬ t.toNode.Refers p := by
  cases t <;> exact not_false

/-- A tree refers to the property that it is, and to what its operands refer to. -/
theorem refers_iff : n.Refers p ↔ n = .property p ∨ ∃ c ∈ n.children, c.Refers p := by
  cases n <;>
    simp [Refers, children, anyRefers_iff, not_refers_shape, not_refers_instant]

/-- The properties among the nodes of a tree are those that it refers to. -/
theorem property_mem_preorder_iff : .property p ∈ n.preorder ↔ n.Refers p := by
  induction n using byChildren with
  | step n ih =>
    rw [preorder_eq, List.mem_cons, List.mem_flatMap, refers_iff]
    refine or_congr eq_comm (exists_congr fun c => ?_)
    exact and_congr_right fun child => ih c child

/-! ## Bare names -/

theorem bareName_eq_iff {name bare : String} : bareName name = bare ↔ IsBareName name bare := by
  have begins (rest : List Char) :
      Text.dropStart? propertiesStart.toList name.toList = some rest ↔ name = propertiesStart ++ String.ofList rest := by
    rw [Text.dropStart?_eq_some_iff, ← String.toList_inj, String.toList_append, String.toList_ofList]
  unfold bareName IsBareName
  cases found : Text.dropStart? propertiesStart.toList name.toList with
  | some rest =>
    have long : name = propertiesStart ++ String.ofList rest := (begins rest).1 found
    constructor
    · rintro rfl
      exact .inl long
    · rintro (same | ⟨-, short⟩)
      · exact (String.append_right_inj _).1 (long.symm.trans same)
      · exact absurd long (short _)
  | none =>
    have short (rest : String) : name ≠ propertiesStart ++ rest := by
      intro long
      have found' := (begins rest.toList).2 (by rwa [String.ofList_toList])
      cases found.symm.trans found'
    constructor
    · rintro rfl
      exact .inr ⟨rfl, short⟩
    · rintro (long | ⟨same, -⟩)
      · exact absurd long (short bare)
      · exact same

end Node

end CatalogFilter
