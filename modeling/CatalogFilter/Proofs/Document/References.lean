import CatalogFilter.Document.Writer
import CatalogFilter.Proofs.Queryables.Undefined

/-!
# Properties in documents

* `Datum.references` — the names of the property objects of a decoded value, from left to right.
* `Node.references_eq` — the document of a node has the references of its operands' documents, after its own if it is a
  property.
* `Node.references_toDocument` — those of a tree's document are the properties among its nodes, from left to right.
* `Node.walk_meets_references` — the walk over a tree and the reading of its document meet the same properties.

The walk finds operands by a table of the variants, and the writer puts them where a document has its arguments. The two
agree on the order because they do so for the operands of each node.
-/

namespace CatalogFilter

namespace Datum

/-! ## Property objects -/

/-- The name in a property object, which holds nothing else. -/
def propertyObjectName? : Document.Members → Option String
  | [(key, .str name)] => if key = "property" then some name else none
  | _ => none

/-- Whether an object is a geometry: it has a type and coordinates. -/
def isGeometryObject (members : Document.Members) : Bool :=
  Document.has members "type" && Document.has members "coordinates"

mutual

/-- The names of the property objects of a decoded value, from left to right; what a geometry holds does not count. -/
def references : Datum → List String
  | .list items => allReferences items
  | .tuple items => allReferences items
  | .object members =>
    match propertyObjectName? members with
    | some name => [name]
    | none => if isGeometryObject members then [] else memberReferences members
  | _ => []

/-- `references` of each item. -/
def allReferences : List Datum → List String
  | [] => []
  | d :: rest => references d ++ allReferences rest

/-- `references` of each member's value. -/
def memberReferences : List (String × Datum) → List String
  | [] => []
  | (_, d) :: rest => references d ++ memberReferences rest

end

@[simp] theorem references_str (s : String) : references (.str s) = [] := rfl

@[simp] theorem references_list (items : List Datum) : references (.list items) = items.flatMap references := by
  rw [references]
  induction items with
  | nil => rfl
  | cons d rest ih => rw [allReferences, ih, List.flatMap_cons]

/-- A list of numbers has no property. -/
theorem references_numbers (ns : List Number) : references (.list (ns.map .num)) = [] := by
  rw [references_list, List.flatMap_map]
  exact List.flatMap_eq_nil_iff.2 fun _ _ => rfl

end Datum

open Datum

/-! ## Documents of parts -/

@[simp] theorem references_property (p : Property) : p.toDocument.references = [p.name] := rfl

/-- The properties of an expression object are those of its arguments. -/
@[simp] theorem references_expressionDocument (op : String) (args : List Datum) :
    (expressionDocument op args).references = args.flatMap references := by
  have members : (expressionDocument op args).references = references (.list args) ++ [] := rfl
  rw [members, List.append_nil, references_list]

theorem references_toGeoJson (g : Geometry) : (g.toGeoJson true).references = [] := by
  unfold Geometry.toGeoJson
  cases g.bbox <;> rfl

theorem references_boxDocument (extent : List Number) : (boxDocument extent).references = [] := by
  have members : (boxDocument extent).references = references (.list (extent.map .num)) ++ [] := rfl
  rw [members, List.append_nil, references_numbers]

/-- A shape has no property. -/
@[simp] theorem references_shape (s : Shape) : s.toDocument.references = [] := by
  cases s with
  | geometry g => exact references_toGeoJson g
  | bbox extent => exact references_boxDocument extent

/-- A time has no property. -/
@[simp] theorem references_instant (t : Instant) : t.toDocument.references = [] := by
  cases t <;> rfl

namespace Node

@[simp] theorem toDocument_shape (s : Shape) : s.toNode.toDocument = s.toDocument := by
  cases s <;> rfl

@[simp] theorem toDocument_instant (t : Instant) : t.toNode.toDocument = t.toDocument := by
  cases t <;> rfl

/-! ## Documents of trees -/

/-- The document of a node has the references of its operands' documents, after its own if it is a property. -/
theorem references_eq (n : Node) :
    n.toDocument.references = n.propertyName?.toList ++ n.children.flatMap fun c => c.toDocument.references := by
  cases n with
  | property p => rfl
  | literal value => cases value <;> rfl
  | timestamp t => rfl
  | date d => rfl
  | interval start stop => rfl
  | geometry g => exact references_toGeoJson g
  | bbox extent => exact references_boxDocument extent
  | array elements => simp [toDocument, toDocuments_eq_map, List.flatMap_map, propertyName?, children]
  | _ => simp [toDocument, toDocuments_eq_map, List.flatMap_map, propertyName?, children]

/-- The document of a tree refers to the properties among the nodes of the tree, from left to right. -/
theorem references_toDocument (n : Node) : n.toDocument.references = n.preorder.filterMap propertyName? := by
  induction n using byChildren with
  | step n ih =>
    have own : (n :: n.children.flatMap preorder).filterMap propertyName? =
        n.propertyName?.toList ++ (n.children.flatMap preorder).filterMap propertyName? := by
      rw [List.filterMap_cons]
      cases n.propertyName? <;> rfl
    rw [references_eq, preorder_eq, own, List.filterMap_flatMap, List.flatMap_congr ih]

/-- The walk over a tree meets the properties that a reading of its document meets from left to right, as often and in the
same order. So the first property of the tree is the first one of the document, and the properties of the tree are those of
the document under their bare names, each once. -/
theorem walk_meets_references (n : Node) :
    n.walk.filterMap propertyName? = n.toDocument.references ∧
      n.subjectProperty? = n.toDocument.references.head? ∧
      n.properties.Nodup ∧
      ∀ bare, bare ∈ n.properties ↔ ∃ name ∈ n.toDocument.references, IsBareName name bare := by
  have met : n.propertyNames = n.toDocument.references := by
    rw [references_toDocument, propertyNames, walk, walkStack_eq_flatMap, List.flatMap_singleton]
  refine ⟨met, congrArg List.head? met, (pairwise_sortedSet _).imp ne_of_lt, fun bare => ?_⟩
  rw [properties, mem_sortedSet, List.mem_map, met]
  simp only [bareName_eq_iff]

end Node

end CatalogFilter
