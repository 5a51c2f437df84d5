import CatalogFilter.Datum.Basic
import CatalogFilter.Operator

/-! # Filter trees

* `Node`: a filter expression or an operand of one, in twenty variants.
* `Property`, `Scalar`, `Geometry`, `Shape`, `Instant`: the parts of nodes that hold no nodes.
* `Node.variant`, `Node.visitName`, `Node.operatorName`: the names of a node.
* `Node.isExpression`: whether a node is a connective or a predicate. -/

namespace CatalogFilter

/-! ## Parts -/

/-- A reference to a field of the filtered record. -/
structure Property where
  name : String
  deriving DecidableEq

/-- A scalar value. -/
inductive Scalar where
  | bool (b : Bool)
  | num (n : Number)
  | str (s : String)
  deriving DecidableEq

namespace Scalar

/-- The kind of a scalar. -/
def kind : Scalar → LiteralKind
  | .bool _ => .boolean
  | .num _ => .number
  | .str _ => .string

/-- Whether a scalar has a text. -/
def isPrintable : Scalar → Bool
  | .num n => n.isPrintable
  | _ => true

/-- A scalar as a decoded value. -/
def toData {α : Type} : Scalar → Data α
  | .bool b => .bool b
  | .num n => .num n
  | .str s => .str s

/-- The scalar that a decoded value is. -/
def ofData? {α : Type} : Data α → Option Scalar
  | .bool b => some (.bool b)
  | .num n => some (.num n)
  | .str s => some (.str s)
  | _ => none

@[simp] theorem ofData?_toData {α : Type} (s : Scalar) : ofData? (s.toData : Data α) = some s := by
  cases s <;> rfl

end Scalar

/-- A geometry; its coordinates are nested tuples. -/
structure Geometry where
  type : String
  coordinates : Datum
  bbox : Option (List Number)

/-- The right side of a spatial relation: a geometry, or the extent of a box. -/
inductive Shape where
  | geometry (g : Geometry)
  | bbox (extent : List Number)

/-- The right side of a temporal relation; an interval may be open at either end. -/
inductive Instant where
  | timestamp (t : OffsetDateTime)
  | date (d : Date)
  | interval (start stop : Option OffsetDateTime)
  deriving DecidableEq

/-! ## Nodes -/

/-- A filter expression or an operand of one. -/
inductive Node where
  | property (p : Property)
  | literal (value : Scalar)
  | timestamp (value : OffsetDateTime)
  | date (value : Date)
  | interval (start stop : Option OffsetDateTime)
  | geometry (g : Geometry)
  | bbox (extent : List Number)
  | array (elements : List Node)
  | and (children : List Node)
  | or (children : List Node)
  | not (child : Node)
  | comparison (op : ComparisonOp) (left : Property) (right : Node)
  | between (subject : Property) (lower upper : Node)
  | like (subject : Property) (pattern : String)
  | isIn (subject : Property) (values : List Node)
  | isNull (subject : Property)
  | spatial (op : SpatialOp) (left : Property) (right : Shape)
  | temporal (op : TemporalOp) (left : Property) (right : Instant)
  | arrayComparison (op : ArrayOp) (left right : Node)
  | function (name : String) (args : List Node)

instance : Inhabited Node := ⟨.and []⟩

/-- A shape as a node of its own. -/
def Shape.toNode : Shape → Node
  | .geometry g => .geometry g
  | .bbox extent => .bbox extent

/-- A time as a node of its own. -/
def Instant.toNode : Instant → Node
  | .timestamp t => .timestamp t
  | .date d => .date d
  | .interval start stop => .interval start stop

namespace Node

/-- The shape that a node is. -/
def shape? : Node → Option Shape
  | .geometry g => some (.geometry g)
  | .bbox extent => some (.bbox extent)
  | _ => none

/-- The time that a node is. -/
def instant? : Node → Option Instant
  | .timestamp t => some (.timestamp t)
  | .date d => some (.date d)
  | .interval start stop => some (.interval start stop)
  | _ => none

@[simp] theorem shape?_toNode (s : Shape) : s.toNode.shape? = some s := by cases s <;> rfl

@[simp] theorem instant?_toNode (t : Instant) : t.toNode.instant? = some t := by cases t <;> rfl

/-! ## Names -/

/-- The name of the variant. -/
def variant : Node → String
  | .property _ => "Property"
  | .literal _ => "Literal"
  | .timestamp _ => "Timestamp"
  | .date _ => "Date"
  | .interval _ _ => "Interval"
  | .geometry _ => "Geometry"
  | .bbox _ => "BoundingBox"
  | .array _ => "ArrayLiteral"
  | .and _ => "And"
  | .or _ => "Or"
  | .not _ => "Not"
  | .comparison _ _ _ => "Comparison"
  | .between _ _ _ => "Between"
  | .like _ _ => "Like"
  | .isIn _ _ => "In"
  | .isNull _ => "IsNull"
  | .spatial _ _ _ => "SpatialComparison"
  | .temporal _ _ _ => "TemporalComparison"
  | .arrayComparison _ _ _ => "ArrayComparison"
  | .function _ _ => "FunctionCall"

/-- The name of the variant in lower case, as errors about a node's fields give it. -/
def visitName : Node → String
  | .property _ => "property"
  | .literal _ => "literal"
  | .timestamp _ => "timestamp"
  | .date _ => "date"
  | .interval _ _ => "interval"
  | .geometry _ => "geometry"
  | .bbox _ => "bbox"
  | .array _ => "array"
  | .and _ => "and"
  | .or _ => "or"
  | .not _ => "not"
  | .comparison _ _ _ => "comparison"
  | .between _ _ _ => "between"
  | .like _ _ => "like"
  | .isIn _ _ => "in"
  | .isNull _ => "isnull"
  | .spatial _ _ _ => "spatial"
  | .temporal _ _ _ => "temporal"
  | .arrayComparison _ _ _ => "array_comparison"
  | .function _ _ => "function"

/-- The operator of a predicate as documents write it: its symbol, or the function's name. -/
def operatorName : Node → String
  | .comparison op _ _ => op.symbol
  | .spatial op _ _ => op.symbol
  | .temporal op _ _ => op.symbol
  | .arrayComparison op _ _ => op.symbol
  | .function name _ => name
  | n => n.visitName

/-! ## Classes of nodes -/

/-- Whether a node is a connective or a predicate; documents write these with an operator and arguments. -/
def isExpression : Node → Bool
  | .and _ | .or _ | .not _ | .comparison _ _ _ | .between _ _ _ | .like _ _ | .isIn _ _ | .isNull _
  | .spatial _ _ _ | .temporal _ _ _ | .arrayComparison _ _ _ | .function _ _ => true
  | _ => false

/-- Whether a node may be a side of an array relation. -/
def isArraySide : Node → Bool
  | .property _ | .array _ | .function _ _ => true
  | _ => false

/-- Whether a comparison is between two properties. -/
def isPropertyComparison : Node → Bool
  | .comparison _ _ (.property _) => true
  | _ => false

end Node

/-! ## Lists of variants -/

/-- The names of all variants in order. -/
def variantNames : List String :=
  ["Property", "Literal", "Timestamp", "Date", "Interval", "Geometry", "BoundingBox", "ArrayLiteral", "And",
    "Or", "Not", "Comparison", "Between", "Like", "In", "IsNull", "SpatialComparison", "TemporalComparison",
    "ArrayComparison", "FunctionCall"]

/-- The names of the variants that test a single condition. -/
def predicateNames : List String :=
  variantNames.drop 11

/-- The names of the variants that are expressions. -/
def expressionNames : List String :=
  variantNames.drop 8

end CatalogFilter
