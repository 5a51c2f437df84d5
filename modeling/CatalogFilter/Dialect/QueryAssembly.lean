import CatalogFilter.Dialect.Search

/-! # Assembling search queries

The query of a tree, put together step by step: every operand is looked at for what it is, every order is looked up in a
table, and every box is taken apart. Each of these steps can stop by more than an error of the library.

* `Query.Stop`: how a step can stop.
* `Query.assemble`: the query of a tree. -/

namespace CatalogFilter.Query

/-! ## Steps -/

/-- How a step of the assembly can stop. -/
inductive Stop where
  | error (e : Error)
  /-- An order is looked up that the table of bounds has not. -/
  | noEntry (op : ComparisonOp)
  /-- A list of another length is taken apart into four numbers. -/
  | notFour (count : Nat)
  /-- The right side of a spatial relation is neither a geometry nor a box. -/
  | noShape (right : Node)
  /-- The right side of an array relation has a value that is no list. -/
  | noList (right : Node)

/-- The outcome of a step that can stop by errors of the library only. -/
def liftStop {α : Type} (x : Except Error α) : Except Stop α :=
  x.mapError .error

/-- Stops by refusing a node. -/
def refuse {α : Type} (n : Node) : Except Stop α :=
  .error (.error (Dialect.search.refuse n))

/-- The index field of a node that has to be a property. -/
def fieldOf (fields : FieldMap) : Node → Except Stop String
  | .property p => .ok (fields.field p)
  | n => refuse n

/-- The bounds that each order sets by a value. -/
def orderBounds : List (ComparisonOp × (Operand → Bounds)) :=
  [(.lt, fun v => ⟨none, none, none, some v⟩), (.lte, fun v => ⟨none, none, some v, none⟩),
    (.gt, fun v => ⟨some v, none, none, none⟩), (.gte, fun v => ⟨none, some v, none, none⟩)]

/-- The bounds of an order that has to be in the table. -/
def boundsOf (op : ComparisonOp) : Except Stop (Operand → Bounds) :=
  match orderBounds.lookup op with
  | some bounds => .ok bounds
  | none => .error (.noEntry op)

/-- An extent without heights. -/
def flatten : List Number → List Number
  | [west, south, _, east, north, _] => [west, south, east, north]
  | extent => extent

/-- The rectangle of a list that has to have four numbers. -/
def unpackEnvelope : List Number → Except Stop Region
  | [west, south, east, north] => .ok (.envelope west south east north)
  | extent => .error (.notFour extent.length)

/-- The region of a node that has to be a shape. -/
def regionOf : Node → Except Stop Region
  | .geometry g => .ok (.geometry g)
  | .bbox extent => unpackEnvelope (flatten extent)
  | n => .error (.noShape n)

/-! ## Predicates -/

/-- The clause of a comparison. Equality with a timestamp is by instant; an order is looked up. -/
def assembleComparison (fields : FieldMap) (op : ComparisonOp) (left right : Node) : Except Stop Query := do
  let field ← fieldOf fields left
  let value ← liftStop right.toOperand
  match op, right with
  | .eq, .timestamp _ => .ok (.range field (.exactly value))
  | .neq, .timestamp _ => .ok (.mustNotAny [.range field (.exactly value)])
  | .eq, _ => .ok (.term field value)
  | .neq, _ => .ok (.mustNotAny [.term field value])
  | op, _ => do
    let bounds ← boundsOf op
    .ok (.range field (bounds value))

/-- The clause of a range between two operands. -/
def assembleBetween (fields : FieldMap) (subject lower upper : Node) : Except Stop Query := do
  let field ← fieldOf fields subject
  let lower ← liftStop lower.toOperand
  let upper ← liftStop upper.toOperand
  .ok (.range field (.between lower upper))

/-- The clause of a pattern. -/
def assembleLike (fields : FieldMap) (subject : Node) (pattern : String) : Except Stop Query := do
  let field ← fieldOf fields subject
  let pattern ← liftStop (liftParse (Pattern.toWildcard pattern))
  .ok (.wildcard field pattern)

/-- The clause of a list of operands. -/
def assembleIn (fields : FieldMap) (subject : Node) (values : List Node) : Except Stop Query := do
  let field ← fieldOf fields subject
  let values ← liftStop (Node.toOperands values)
  .ok (.terms field values)

/-- The clause of a missing value. -/
def assembleIsNull (fields : FieldMap) (subject : Node) : Except Stop Query := do
  let field ← fieldOf fields subject
  .ok (.mustNot (.exists field))

/-- The clause of a spatial relation; a relation that indexes have not refuses the predicate. -/
def assembleSpatial (fields : FieldMap) (predicate : Node) (op : SpatialOp) (left right : Node) : Except Stop Query :=
  match Node.shapeRelation? op with
  | none => refuse predicate
  | some relation => do
    let field ← fieldOf fields left
    let region ← regionOf right
    .ok (.geoShape field region relation)

/-- The clause of a temporal relation to an interval or to a time; one that has no bounds refuses the predicate. -/
def assembleTemporal (fields : FieldMap) (predicate : Node) (op : TemporalOp) (left right : Node) :
    Except Stop Query := do
  let field ← fieldOf fields left
  match right with
  | .interval start stop =>
    match Node.intervalBounds? op (start.map .timestamp) (stop.map .timestamp) with
    | some bounds => .ok (Node.boundsClause field bounds)
    | none => refuse predicate
  | right => do
    let value ← liftStop right.toOperand
    match Node.timeBounds? op value with
    | some bounds => .ok (.range field bounds)
    | none => refuse predicate

/-- The clause of an array relation to a list; one that has no clause refuses the predicate. -/
def assembleArray (fields : FieldMap) (predicate : Node) (op : ArrayOp) (left right : Node) : Except Stop Query := do
  let field ← fieldOf fields left
  match ← liftStop right.toOperand with
  | .list values =>
    match Node.arrayClause? op field values with
    | some q => .ok q
    | none => refuse predicate
  | _ => .error (.noList right)

/-! ## Trees -/

mutual

/-- The query of a tree. -/
def assemble (fields : FieldMap) : Node → Except Stop Query
  | .and children => do
    let qs ← assembleAll fields children
    .ok (.must qs)
  | .or children => do
    let qs ← assembleAll fields children
    .ok (.should qs)
  | .not child => do
    let q ← assemble fields child
    .ok (.mustNot q)
  | .comparison op left right => assembleComparison fields op (.property left) right
  | .between subject lower upper => assembleBetween fields (.property subject) lower upper
  | .like subject pattern => assembleLike fields (.property subject) pattern
  | .isIn subject values => assembleIn fields (.property subject) values
  | .isNull subject => assembleIsNull fields (.property subject)
  | .spatial op left right => assembleSpatial fields (.spatial op left right) op (.property left) right.toNode
  | .temporal op left right => assembleTemporal fields (.temporal op left right) op (.property left) right.toNode
  | .arrayComparison op left right => assembleArray fields (.arrayComparison op left right) op left right
  | n => refuse n

/-- The queries of some trees. -/
def assembleAll (fields : FieldMap) : List Node → Except Stop (List Query)
  | [] => .ok []
  | n :: rest => do
    let q ← assemble fields n
    let qs ← assembleAll fields rest
    .ok (q :: qs)

end

end CatalogFilter.Query
