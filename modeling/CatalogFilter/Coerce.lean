import CatalogFilter.Construct
import CatalogFilter.Document.Argument

/-! # Building nodes by coercion

* `Coerce.subject`, `Coerce.operand`, `Coerce.shape`, `Coerce.instant`, `Coerce.geometry`: a value offered in
  one of these positions becomes a node. A text names a property in subject position and is a text literal
  elsewhere.
* `Coerce.compare`, `Coerce.between` and their like: predicates of coerced values. -/

namespace CatalogFilter.Coerce

/-! ## Coercions -/

/-- The property that a value offered as a subject stands for. -/
def subject (v : Value) : Except ParseError Property :=
  match v with
  | .str name => Property.make name
  | .other (.node (.property p)) => .ok p
  | v => .error (.shape "subject" (.notSubject v.kindName))

/-- The geometry of a decoded GeoJSON form. -/
def geometryOfForm (form : Datum) : Except ParseError Node :=
  match form with
  | .object _ => (Document.readGeometry "geometry" form).map .geometry
  | d => .error (.shape "geometry" (.notGeoJson d.jsonKind))

/-- The geometry that a value stands for; a text is the type that goes with the coordinates. -/
def geometry (v coordinates : Value) : Except ParseError Node :=
  match v with
  | .str type => geometryOfForm (.object [("type", .str type), ("coordinates", coordinates.toDatum)])
  | .other (.typed g) => geometryOfForm g.toGeoJson
  | .other (.geoObject form) => geometryOfForm form
  | v => geometryOfForm v.toDatum

mutual

/-- The node that a value offered as an operand stands for. -/
def operand : Value → Except ParseError Node
  | .other (.node n) => .ok n
  | .datetime d => .ok (.timestamp d.toAware)
  | .date d => .ok (.date d)
  | .bool b => .ok (.literal (.bool b))
  | .num n => .ok (.literal (.num n))
  | .str s => .ok (.literal (.str s))
  | .list items => (operands items).map .array
  | .tuple items => (operands items).map .array
  | .object members => geometry (.object members) .null
  | .other (.typed g) =>
    if geometryTypes.contains g.type then geometryOfForm g.toGeoJson
    else .error (.shape "operand" (.unusableOperand g.type))
  | v => .error (.shape "operand" (.unusableOperand v.kindName))

/-- The nodes that values offered as operands stand for. -/
def operands : List Value → Except ParseError (List Node)
  | [] => .ok []
  | v :: rest => do
    let n ← operand v
    let ns ← operands rest
    .ok (n :: ns)

end

/-- The box of some values. -/
def box (items : List Value) : Except ParseError Node :=
  (Node.makeBox (items.map Value.toDatum)).map .bbox

/-- The node that a value offered as a shape stands for. -/
def shape (v : Value) : Except ParseError Node :=
  match v with
  | .other (.node n) => .ok n
  | .list items => box items
  | .tuple items => box items
  | v => geometry v .null

/-- The timestamp that a value stands for; a text is read. -/
def timestamp (v : Value) : Except Error Node :=
  match v with
  | .str s => liftParse ((Document.readTimestamp "timestamp" (.str s)).map .timestamp)
  | v => Construct.timestamp v

/-- The date that a value stands for; a text is read. -/
def date (v : Value) : Except Error Node :=
  match v with
  | .str s => liftParse ((Document.readDate "date" (.str s)).map .date)
  | v => Construct.date v

/-- An end of an interval. A text that is no time fails at once; a value of another kind is the inner error,
which is reported only after both ends have been read. -/
def bound (v : Value) : Except ParseError (Except Error (Option OffsetDateTime)) :=
  match v with
  | .str s => (Document.readBound "interval" (.str s)).map .ok
  | v => .ok (Construct.bound v)

/-- The interval between two times, texts or open ends. -/
def interval (start stop : Value) : Except Error Node := do
  let start ← liftParse (bound start)
  let stop ← liftParse (bound stop)
  .ok (.interval (← start) (← stop))

/-- The node that a value offered as a time stands for: texts of ten characters are dates, others timestamps,
and pairs intervals. -/
def instant (v : Value) : Except Error Node :=
  let unusable := Error.parse (.shape "instant" (.unusableInstant v.kindName))
  match v with
  | .other (.node n) => .ok n
  | .datetime _ => timestamp v
  | .date _ => date v
  | .str s => if s.length = 10 then date v else timestamp v
  | .list [start, stop] => interval start stop
  | .tuple [start, stop] => interval start stop
  | _ => .error unusable

/-! ## Connectives and predicates -/

/-- A comparison by an operator that is offered as a value. -/
def compare (op left right : Value) : Except Error Node := do
  let left ← liftParse (subject left)
  let right ← liftParse (operand right)
  Construct.comparison op (.ofNode (.property left)) (.ofNode right)

/-- A range test. -/
def between (v lower upper : Value) : Except Error Node := do
  let v ← liftParse (subject v)
  let lower ← liftParse (operand lower)
  let upper ← liftParse (operand upper)
  .ok (.between v lower upper)

/-- A pattern match. -/
def like (v pattern : Value) : Except Error Node := do
  let v ← liftParse (subject v)
  Construct.like (.ofNode (.property v)) pattern

/-- A membership test in the items of a value. -/
def isIn (v values : Value) : Except Error Node := do
  let v ← liftParse (subject v)
  let items ← values.items
  let ns ← liftParse (operands items)
  .ok (.isIn v ns)

/-- A test for no value. -/
def isNull (v : Value) : Except Error Node :=
  liftParse ((subject v).map .isNull)

/-- A spatial relation by an operator that is offered as a value. -/
def spatial (op left right : Value) : Except Error Node := do
  let left ← liftParse (subject left)
  let right ← liftParse (shape right)
  Construct.spatial op (.ofNode (.property left)) (.ofNode right)

/-- A temporal relation by an operator that is offered as a value. -/
def temporal (op left right : Value) : Except Error Node := do
  let left ← liftParse (subject left)
  let right ← instant right
  Construct.temporal op (.ofNode (.property left)) (.ofNode right)

/-- A side of an array relation: a text names a property. -/
def arraySide (v : Value) : Except ParseError Value :=
  match v with
  | .str name => (Property.make name).map fun p => .ofNode (.property p)
  | v => .ok v

/-- An array relation by an operator that is offered as a value. -/
def array (op left right : Value) : Except Error Node := do
  let left ← liftParse (arraySide left)
  let right ← liftParse (arraySide right)
  let left ← liftParse (operand left)
  let right ← liftParse (operand right)
  Construct.arrayComparison op (.ofNode left) (.ofNode right)

/-- The call of a function, whose name is put in lower case. -/
def function (name : Value) (args : List Value) : Except Error Node :=
  match name with
  | .str name => do
    let ns ← liftParse (operands args)
    liftParse (Node.makeFunction (Text.lower name) ns)
  | _ => .error .missingOperation

end CatalogFilter.Coerce
