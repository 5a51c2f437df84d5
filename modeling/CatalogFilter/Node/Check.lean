import CatalogFilter.Error
import CatalogFilter.Node.Basic
import CatalogFilter.Text.Case

/-! # The rules that nodes keep

* `Property.make`, `Geometry.make`, `Node.makeBox`, `Node.makeFunction`: nodes from decoded parts, or the first
  rule broken.
* `Geometry.Valid`, `Node.WellFormed`: the rules as predicates, for every node of a tree. -/

namespace CatalogFilter

/-- The property of a name that is not empty. -/
def Property.make (name : String) : Except ParseError Property :=
  if name = "" then .error (.shape "property" (.emptyName "name")) else .ok ⟨name⟩

/-! ## Extents -/

/-- Why a list of values is no list of numbers: the first value that is none is a scalar of another kind, or
no scalar at all. -/
inductive ExtentFault where
  | otherScalar
  | notScalar (kind : String)

/-- The numbers that a list of values consists of. -/
def numbersOf : List Datum → Except ExtentFault (List Number)
  | [] => .ok []
  | .num n :: rest => (numbersOf rest).map (n :: ·)
  | .bool _ :: _ => .error .otherScalar
  | .str _ :: _ => .error .otherScalar
  | d :: _ => .error (.notScalar d.kindName)

/-- The error of a value that is no scalar. -/
def notScalarError (kind : String) : ParseError :=
  .shape "literal" (.notScalar kind)

/-- The box of four or six numbers. -/
def Node.makeBox (items : List Datum) : Except ParseError (List Number) :=
  if items.length ≠ 4 ∧ items.length ≠ 6 then .error (.arity "bbox" (.str "4 or 6") items.length)
  else
    match numbersOf items with
    | .ok ns => .ok ns
    | .error .otherScalar => .error (.shape "bbox" .bboxNotNumbers)
    | .error (.notScalar kind) => .error (notScalarError kind)

/-- The numbers of a geometry's own box: an even number of them, at least four. -/
def Geometry.makeBox (items : List Datum) : Except ParseError (List Number) :=
  if items.length < 4 ∨ items.length % 2 = 1 then .error (.geometry "geometry" (.bboxCount items.length))
  else
    match numbersOf items with
    | .ok ns => .ok ns
    | .error .otherScalar => .error (.geometry "geometry" .bboxNotNumbers)
    | .error (.notScalar kind) => .error (notScalarError kind)

/-! ## Geometries and functions -/

/-- The geometry of a type, coordinates and a box of its own; the coordinates are frozen. -/
def Geometry.make (type : String) (coordinates : Datum) (bbox : Option (List Datum)) :
    Except ParseError Geometry :=
  if type = "" then .error (.geometry "geometry" .noType)
  else
    match coordinates with
    | .null => .error (.geometry "geometry" .noCoordinates)
    | coordinates =>
      match bbox with
      | none => .ok ⟨type, coordinates.freeze, none⟩
      | some items => (Geometry.makeBox items).map fun ns => ⟨type, coordinates.freeze, some ns⟩

/-- Refuses the empty name and the names of operators in any case of letters. -/
def checkFunctionName (name : String) : Except ParseError Unit :=
  if name = "" then .error (.shape "function" (.emptyName "name"))
  else if coreOperators.contains (Text.lower name) then .error (.shape "function" (.reservedName name))
  else .ok ()

/-- The call of a function. -/
def Node.makeFunction (name : String) (args : List Node) : Except ParseError Node :=
  (checkFunctionName name).map fun _ => .function name args

/-- Whether a function is known without settings. -/
def isBuiltIn (name : String) : Bool :=
  builtInFunctions.contains (Text.lower name)

/-! ## Well-formed trees -/

/-- The rules of a geometry. -/
def Geometry.Valid (g : Geometry) : Prop :=
  g.type ≠ "" ∧ g.coordinates ≠ .null ∧ g.coordinates.IsFrozen ∧
    ∀ ns, g.bbox = some ns → 4 ≤ ns.length ∧ ns.length % 2 = 0

/-- The rules of a shape. -/
def Shape.Valid : Shape → Prop
  | .geometry g => g.Valid
  | .bbox extent => extent.length = 4 ∨ extent.length = 6

mutual

/-- Whether a node and all nodes below it keep the rules. -/
def Node.WellFormed : Node → Prop
  | .property p => p.name ≠ ""
  | .literal _ => True
  | .timestamp _ => True
  | .date _ => True
  | .interval _ _ => True
  | .geometry g => g.Valid
  | .bbox extent => extent.length = 4 ∨ extent.length = 6
  | .array elements => Node.AllWellFormed elements
  | .and children => Node.AllWellFormed children ∧ ∀ c ∈ children, c.isExpression = true
  | .or children => Node.AllWellFormed children ∧ ∀ c ∈ children, c.isExpression = true
  | .not child => child.WellFormed ∧ child.isExpression = true
  | .comparison _ left right => left.name ≠ "" ∧ right.WellFormed
  | .between subject lower upper => subject.name ≠ "" ∧ lower.WellFormed ∧ upper.WellFormed
  | .like subject _ => subject.name ≠ ""
  | .isIn subject values => subject.name ≠ "" ∧ Node.AllWellFormed values
  | .isNull subject => subject.name ≠ ""
  | .spatial _ left right => left.name ≠ "" ∧ right.Valid
  | .temporal _ left _ => left.name ≠ ""
  | .arrayComparison _ left right =>
    left.WellFormed ∧ left.isArraySide = true ∧ right.WellFormed ∧ right.isArraySide = true
  | .function name args =>
    name ≠ "" ∧ Text.lower name ∉ coreOperators ∧ Node.AllWellFormed args

/-- `WellFormed` of each node. -/
def Node.AllWellFormed : List Node → Prop
  | [] => True
  | n :: rest => n.WellFormed ∧ Node.AllWellFormed rest

end

theorem Node.allWellFormed_iff (ns : List Node) : AllWellFormed ns ↔ ∀ n ∈ ns, n.WellFormed := by
  induction ns with
  | nil => simp [AllWellFormed]
  | cons n rest ih => simp [AllWellFormed, ih]

theorem Property.make_name_ne_empty {name : String} {p : Property} (h : Property.make name = .ok p) :
    p.name = name ∧ name ≠ "" := by
  unfold Property.make at h
  split at h
  · cases h
  · cases h
    exact ⟨rfl, by assumption⟩

end CatalogFilter
