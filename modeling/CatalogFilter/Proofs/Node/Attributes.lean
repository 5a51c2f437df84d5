import CatalogFilter.Node.Text
import CatalogFilter.Node.Walk
import Mathlib

/-!
# Attributes of nodes

* `Attribute` — what a node holds under a name: a node, nodes in a row, or something without nodes in it.
* `Node.attributes` — the attributes of each variant with their names, in the order of declaration.
* `Node.shown_eq` — a node is shown as its variant with these attributes, none besides and in this order.
* `Node.eq_of_attributes` — a node is nothing but its variant and its attributes.
* `Node.children_eq` — the operands of a node are the nodes in its attributes, one attribute after the other.

What an attribute holds besides nodes is of types in which no node can be. That a node is determined by its attributes
then means that the attributes have all the nodes there are.
-/

namespace CatalogFilter

/-- What a node holds under a name. -/
inductive Attribute where
  | node (n : Node)
  | nodes (ns : List Node)
  | data (d : Datum)
  /-- An operator, with the names that messages give it and its vocabulary. -/
  | operator (op : Operator) (vocabulary name : String)
  | kind (k : LiteralKind)
  | time (t : Option OffsetDateTime)
  | numbers (ns : Option (List Number))

namespace Attribute

/-- The nodes in an attribute. -/
def held : Attribute → List Node
  | .node n => [n]
  | .nodes ns => ns
  | _ => []

/-- An attribute in messages. -/
def shown : Attribute → String
  | .node n => n.shown
  | .nodes ns => shownTuple (ns.map Node.shown)
  | .data d => d.shown
  | .operator op vocabulary name => shownMember vocabulary name op.symbol
  | .kind k => shownMember "LiteralKind" k.symbol.toUpper k.symbol
  | .time t => shownBound t
  | .numbers ns => (ns.map fun ns => shownTuple (ns.map Number.text)).getD "None"

end Attribute

/-! ## Parts as attributes -/

theorem Scalar.toData_injective : Function.Injective (Scalar.toData : Scalar → Datum) := by
  intro a b same
  have values := congrArg Scalar.ofData? same
  rw [ofData?_toData, ofData?_toData] at values
  exact Option.some.inj values

theorem Shape.toNode_injective : Function.Injective Shape.toNode := by
  intro s t same
  have shapes := congrArg Node.shape? same
  rw [Node.shape?_toNode, Node.shape?_toNode] at shapes
  exact Option.some.inj shapes

theorem Instant.toNode_injective : Function.Injective Instant.toNode := by
  intro t u same
  have instants := congrArg Node.instant? same
  rw [Node.instant?_toNode, Node.instant?_toNode] at instants
  exact Option.some.inj instants

namespace Node

/-- The attributes of a node with their names, in the order of declaration. -/
def attributes : Node → List (String × Attribute)
  | .property p => [("name", .data (.str p.name))]
  | .literal value => [("value", .data value.toData), ("kind", .kind value.kind)]
  | .timestamp t => [("value", .time (some t))]
  | .date d => [("value", .data (.date d))]
  | .interval start stop => [("start", .time start), ("end", .time stop)]
  | .geometry g => [("type", .data (.str g.type)), ("coordinates", .data g.coordinates), ("bbox", .numbers g.bbox)]
  | .bbox extent => [("extent", .numbers (some extent))]
  | .array elements => [("elements", .nodes elements)]
  | .and children => [("children", .nodes children)]
  | .or children => [("children", .nodes children)]
  | .not child => [("child", .node child)]
  | .comparison op left right =>
    [("op", .operator (.comparison op) "ComparisonOp" op.memberName), ("left", .node (.property left)),
      ("right", .node right)]
  | .between subject lower upper =>
    [("subject", .node (.property subject)), ("lower", .node lower), ("upper", .node upper)]
  | .like subject pattern => [("subject", .node (.property subject)), ("pattern", .data (.str pattern))]
  | .isIn subject values => [("subject", .node (.property subject)), ("values", .nodes values)]
  | .isNull subject => [("subject", .node (.property subject))]
  | .spatial op left right =>
    [("op", .operator (.spatial op) "SpatialOp" op.symbol.toUpper), ("left", .node (.property left)),
      ("right", .node right.toNode)]
  | .temporal op left right =>
    [("op", .operator (.temporal op) "TemporalOp" op.symbol.toUpper), ("left", .node (.property left)),
      ("right", .node right.toNode)]
  | .arrayComparison op left right =>
    [("op", .operator (.array op) "ArrayOp" op.symbol.toUpper), ("left", .node left), ("right", .node right)]
  | .function name args => [("name", .data (.str name)), ("args", .nodes args)]

/-- The operands of a node are the nodes in its attributes, one attribute after the other. -/
theorem children_eq (n : Node) : n.children = n.attributes.flatMap fun a => a.2.held := by
  cases n <;> simp [children, attributes, Attribute.held]

/-! ## Attributes in messages -/

theorem shownAll_eq_map (ns : List Node) : shownAll ns = ns.map shown := by
  induction ns with
  | nil => rfl
  | cons n rest ih => rw [shownAll, ih, List.map_cons]

@[simp] theorem shown_shape (s : Shape) : s.toNode.shown = s.shown := by
  cases s <;> simp only [Shape.toNode, shown, Shape.shown]

@[simp] theorem shown_instant (t : Instant) : t.toNode.shown = t.shown := by
  cases t <;> simp only [Instant.toNode, shown]

/-- A node is shown as its variant with its attributes. -/
theorem shown_eq (n : Node) : n.shown = shownFields n.variant (n.attributes.map fun a => (a.1, a.2.shown)) := by
  cases n <;>
    simp [shown, shownAll_eq_map, attributes, Attribute.shown, variant, Property.shown, Geometry.shown, shownBox,
      Instant.shown, Datum.shown, Operator.symbol]

/-- A node is nothing but its variant and its attributes. -/
theorem eq_of_attributes {n m : Node} (variants : n.variant = m.variant) (same : n.attributes = m.attributes) :
    n = m := by
  -- Two variants have different names, so that one case is left for each variant.
  cases n <;> cases m <;> simp only [variant, String.reduceEq] at variants
  all_goals simp only [attributes, List.cons.injEq, Prod.mk.injEq, and_true, true_and] at same
  case property.property p q =>
    cases p
    cases q
    cases same
    rfl
  case literal.literal a b =>
    have values : a.toData = b.toData := Attribute.data.inj same.1
    rw [Scalar.toData_injective values]
  case geometry.geometry g h =>
    obtain ⟨types, coordinates, boxes⟩ := same
    cases g
    cases h
    cases types
    cases coordinates
    cases boxes
    rfl
  case spatial.spatial =>
    obtain ⟨operators, lefts, rights⟩ := same
    cases operators
    cases lefts
    rw [Shape.toNode_injective (Attribute.node.inj rights)]
  case temporal.temporal =>
    obtain ⟨operators, lefts, rights⟩ := same
    cases operators
    cases lefts
    rw [Instant.toNode_injective (Attribute.node.inj rights)]
  all_goals simp_all

end Node

end CatalogFilter
