import CatalogFilter.Construct
import CatalogFilter.Document.Reader

/-! # Assembling filter documents

The tree of a document, put together step by step: every member and argument is looked up where it is used, every
node is made by its constructor, and an operator is converted by its name. Each of these steps can stop by more than
a parse error.

* `Document.Stop`: how a step can stop.
* `Document.Argument`: an argument of an expression object, with what becomes of it in each position.
* `Document.handle`: the tree of an operator and its arguments.
* `Document.assemble`: the tree of a document. -/

namespace CatalogFilter.Document

/-! ## Steps -/

/-- How a step of the assembly can stop. -/
inductive Stop where
  | error (e : Error)
  /-- A member is looked up that an object has not. -/
  | noMember (name : String)
  /-- An item is looked up behind the end of a list. -/
  | noItem (place : Nat)
  /-- A list of another length is taken apart into two items. -/
  | notPair (count : Nat)

/-- The outcome of a step that can stop for the causes of reading only. -/
def liftStop {α : Type} (x : Except ParseError α) : Except Stop α :=
  x.mapError fun e => .error e.raised

/-- The outcome of a step that can stop by errors of the library only. -/
def liftError {α : Type} (x : Except Error α) : Except Stop α :=
  x.mapError .error

/-- Stops for a cause of reading. -/
def refuse {α : Type} (e : ParseError) : Except Stop α :=
  .error (.error e.raised)

/-- The value of a member that has to be there. -/
def subscript (members : Members) (name : String) : Except Stop Datum :=
  match members.lookup name with
  | some d => .ok d
  | none => .error (.noMember name)

/-- The item at a place that has to be there. -/
def itemAt {α : Type} (items : List α) (place : Nat) : Except Stop α :=
  match items[place]? with
  | some a => .ok a
  | none => .error (.noItem place)

/-- The two items of a list that has to have two. -/
def unpackPair {α : Type} : List α → Except Stop (α × α)
  | [first, second] => .ok (first, second)
  | items => .error (.notPair items.length)

/-- Checks a number of arguments. -/
def requireArity {α : Type} (op : String) (args : List α) (expected : Nat) : Except Stop Unit :=
  if args.length = expected then .ok () else refuse (countError op expected args.length)

/-- Nodes as a list that is offered. -/
def offerAll (ns : List Node) : Value :=
  .list (ns.map Value.ofNode)

/-! ## Parts without expressions -/

/-- The property of an object with a name. -/
def assembleProperty (op : String) (value : Datum) (what : String) : Except Stop Node :=
  match value with
  | .object members =>
    if has members "property" then do
      match ← subscript members "property" with
      | .str name =>
        if name = "" then refuse (.shape op .badPropertyName) else liftError (Construct.property (.str name))
      | _ => refuse (.shape op .badPropertyName)
    else refuse (.shape op (.notPropertyObject what))
  | _ => refuse (.shape op (.notPropertyObject what))

/-- The timestamp that a member holds. -/
def assembleTimestamp (op : String) (members : Members) : Except Stop Node := do
  let t ← liftStop (readTimestamp op (← subscript members "timestamp"))
  liftError (Construct.timestamp (.datetime (.aware t)))

/-- The date that a member holds. -/
def assembleDate (op : String) (members : Members) : Except Stop Node := do
  let d ← liftStop (readDate op (← subscript members "date"))
  liftError (Construct.date (.date d))

/-- An end of an interval as a value that is offered. -/
def offerBound : Option OffsetDateTime → Value
  | none => .null
  | some t => .datetime (.aware t)

/-- The interval between the ends that a member holds. -/
def assembleInterval (op : String) (members : Members) : Except Stop Node := do
  match ← subscript members "interval" with
  | .list bounds => do
    requireArity op bounds 2
    let start ← liftStop (readBound op (← itemAt bounds 0))
    let stop ← liftStop (readBound op (← itemAt bounds 1))
    liftError (Construct.interval (offerBound start) (offerBound stop))
  | _ => refuse (.shape op .intervalNotArray)

/-- Whether a value may stand for a geometry's own box: null for none, or a list or tuple. -/
def isBoxForm : Datum → Bool
  | .null | .list _ | .tuple _ => true
  | _ => false

/-- The geometry of an object with a type and coordinates. -/
def assembleGeometry (op : String) (value : Datum) : Except Stop Node :=
  match value with
  | .object members =>
    match valueOf members "type" with
    | .str type =>
      if type = "" then refuse (.geometry op .noType)
      else
        match valueOf members "coordinates" with
        | .null => refuse (.geometry op .noCoordinates)
        | _ =>
          if isBoxForm (valueOf members "bbox") then do
            let coordinates ← subscript members "coordinates"
            liftError (Construct.geometry (.str type) (.ofDatum coordinates) (.ofDatum (valueOf members "bbox")))
          else refuse (.geometry op .bboxNotArray)
    | _ => refuse (.geometry op .noType)
  | d => refuse (.geometry op (.notObject d.jsonKind))

/-- The box that a member holds. -/
def assembleBox (op : String) (members : Members) : Except Stop Node := do
  match ← subscript members "bbox" with
  | .list items => liftError (Construct.box (.ofDatum (.list items)))
  | _ => refuse (.shape op .bboxNotArray)

/-- The right side of a spatial relation. -/
def assembleShape (op : String) (value : Datum) : Except Stop Node :=
  match value with
  | .object members =>
    if has members "bbox" && !has members "type" then assembleBox op members else assembleGeometry op value
  | _ => assembleGeometry op value

/-- The right side of a temporal relation. -/
def assembleInstant (op : String) (value : Datum) : Except Stop Node :=
  match value with
  | .object members =>
    if has members "interval" then assembleInterval op members
    else if has members "timestamp" then assembleTimestamp op members
    else if has members "date" then assembleDate op members
    else refuse (.shape op .notTemporalOperand)
  | _ => refuse (.shape op .notTemporalOperand)

/-! ## Operators -/

/-- An argument of an expression object, with what becomes of it as an expression, as an operand, and, item by item,
as a list of operands; the text is the operator that errors name. -/
structure Argument where
  value : Datum
  expression : String → Except Stop Node
  operand : String → Except Stop Node
  operands : String → Except Stop (List Node)

/-- The results of a step for each argument in order, or the first stop. -/
def forEach (step : Argument → Except Stop Node) : List Argument → Except Stop (List Node)
  | [] => .ok []
  | a :: rest => do
    let n ← step a
    let ns ← forEach step rest
    .ok (n :: ns)

/-- Checks that a node may be a side of an array relation. -/
def requireSide (op : String) (n : Node) : Except Stop Unit :=
  if n.isArraySide then .ok () else refuse (.shape op (.notArrayOperand n.variant))

/-- The conjunction or disjunction of all arguments. -/
def handleLogical (op : String) (construct : List Value → Except ParseError Node) (args : List Argument) :
    Except Stop Node := do
  let children ← forEach (·.expression op) args
  liftStop (construct (children.map Value.ofNode))

/-- The negation of the only argument. -/
def handleNot (op : String) (args : List Argument) : Except Stop Node := do
  requireArity op args 1
  let child ← (← itemAt args 0).expression op
  liftStop (Construct.negation (.ofNode child))

/-- The right side of a comparison: an object with a name is a property, anything else an operand. -/
def assembleRight (op : String) (a : Argument) : Except Stop Node :=
  if isPropertyObject a.value then assembleProperty op a.value "second argument" else a.operand op

/-- The comparison of a property with a property or another operand. -/
def handleComparison (op : String) (args : List Argument) : Except Stop Node := do
  requireArity op args 2
  let left ← assembleProperty op (← itemAt args 0).value "first argument"
  let right ← assembleRight op (← itemAt args 1)
  liftError (Construct.comparison (.str op) (.ofNode left) (.ofNode right))

/-- The range test of a property between two operands. -/
def handleBetween (op : String) (args : List Argument) : Except Stop Node := do
  requireArity op args 3
  let subject ← assembleProperty op (← itemAt args 0).value "first argument"
  let lower ← (← itemAt args 1).operand op
  let upper ← (← itemAt args 2).operand op
  liftError (Construct.between (.ofNode subject) (.ofNode lower) (.ofNode upper))

/-- The match of a property with a pattern. -/
def handleLike (op : String) (args : List Argument) : Except Stop Node := do
  requireArity op args 2
  let subject ← assembleProperty op (← itemAt args 0).value "first argument"
  match (← itemAt args 1).value with
  | .str pattern => liftError (Construct.like (.ofNode subject) (.str pattern))
  | _ => refuse (.shape op .patternNotText)

/-- The membership test of a property in a list of operands. -/
def handleIn (op : String) (args : List Argument) : Except Stop Node := do
  requireArity op args 2
  let subject ← assembleProperty op (← itemAt args 0).value "first argument"
  let values ← itemAt args 1
  match values.value with
  | .list _ => do
    let ns ← values.operands op
    liftError (Construct.isIn (.ofNode subject) (offerAll ns))
  | d => refuse (.shape op (.valuesNotArray d.jsonKind))

/-- The test of a property for no value. -/
def handleIsNull (op : String) (args : List Argument) : Except Stop Node := do
  requireArity op args 1
  let subject ← assembleProperty op (← itemAt args 0).value "argument"
  liftError (Construct.isNull (.ofNode subject))

/-- The spatial relation of a property and a shape. -/
def handleSpatial (op : String) (args : List Argument) : Except Stop Node := do
  requireArity op args 2
  let subject ← assembleProperty op (← itemAt args 0).value "first argument"
  let shape ← assembleShape op (← itemAt args 1).value
  liftError (Construct.spatial (.str op) (.ofNode subject) (.ofNode shape))

/-- The temporal relation of a property and a time. -/
def handleTemporal (op : String) (args : List Argument) : Except Stop Node := do
  requireArity op args 2
  let subject ← assembleProperty op (← itemAt args 0).value "first argument"
  let instant ← assembleInstant op (← itemAt args 1).value
  liftError (Construct.temporal (.str op) (.ofNode subject) (.ofNode instant))

/-- The array relation of two operands that may be its sides. -/
def handleArray (op : String) (args : List Argument) : Except Stop Node := do
  requireArity op args 2
  let (left, right) ← unpackPair (← forEach (·.operand op) args)
  requireSide op left
  requireSide op right
  liftError (Construct.arrayComparison (.str op) (.ofNode left) (.ofNode right))

/-- The call of a function with all arguments as operands. -/
def handleFunction (name : String) (args : List Argument) : Except Stop Node := do
  let ns ← forEach (·.operand name) args
  liftError (Construct.function (.str name) (offerAll ns))

/-- The tree of an operator and its arguments. -/
def handle (head : Head) (args : List Argument) : Except Stop Node :=
  match head with
  | .core (.logical .and) => handleLogical head.name Construct.conjunction args
  | .core (.logical .or) => handleLogical head.name Construct.disjunction args
  | .core (.logical .not) => handleNot head.name args
  | .core (.comparison _) => handleComparison head.name args
  | .core (.advanced .between) => handleBetween head.name args
  | .core (.advanced .like) => handleLike head.name args
  | .core (.advanced .isIn) => handleIn head.name args
  | .core (.advanced .isNull) => handleIsNull head.name args
  | .core (.spatial _) => handleSpatial head.name args
  | .core (.temporal _) => handleTemporal head.name args
  | .core (.array _) => handleArray head.name args
  | .function name => handleFunction name args

/-! ## Documents -/

mutual

/-- The tree of a value in operand position. -/
def assembleOperand (functions : List String) (op : String) : Datum → Except Stop Node
  | .bool b => liftError (Construct.literal (.bool b) none)
  | .num n => liftError (Construct.literal (.num n) none)
  | .str s => liftError (Construct.literal (.str s) none)
  | .list items => do
    let ns ← assembleOperands functions op items
    liftError (Construct.array (offerAll ns))
  | .object members =>
    if has members "property" then assembleProperty op (.object members) "argument"
    else if has members "op" then do
      let head ← liftStop (headOf functions members)
      handle head (← assembleArgs functions head.name members)
    else if has members "timestamp" then assembleTimestamp op members
    else if has members "date" then assembleDate op members
    else if has members "interval" then assembleInterval op members
    else if has members "type" then assembleGeometry op (.object members)
    else if has members "bbox" then assembleBox op members
    else refuse (.shape op (.unknownOperand (sortedNames members)))
  | d => refuse (.shape op (.notOperand d.jsonKind))

/-- The trees of values in operand position. -/
def assembleOperands (functions : List String) (op : String) : List Datum → Except Stop (List Node)
  | [] => .ok []
  | d :: rest => do
    let n ← assembleOperand functions op d
    let ns ← assembleOperands functions op rest
    .ok (n :: ns)

/-- The trees of the items of a value in operand position, which has to be a list. -/
def assembleItems (functions : List String) (op : String) : Datum → Except Stop (List Node)
  | .list items => assembleOperands functions op items
  | _ => .error (.error .wrongKind)

/-- The tree of a value that has to be an expression object. -/
def assembleExpression (functions : List String) (op what : String) : Datum → Except Stop Node
  | .object members => do
    let head ← liftStop (headOf functions members)
    handle head (← assembleArgs functions head.name members)
  | d => refuse (.shape op (.notObject what d.jsonKind))

/-- The arguments of an expression object. -/
def assembleArgs (functions : List String) (op : String) : List (String × Datum) → Except Stop (List Argument)
  | [] => refuse (.shape op .argsNotArray)
  | (name, value) :: rest =>
    if name = "args" then
      match value with
      | .list args => .ok (assembleArguments functions args)
      | _ => refuse (.shape op .argsNotArray)
    else assembleArgs functions op rest

/-- Values as arguments. -/
def assembleArguments (functions : List String) : List Datum → List Argument
  | [] => []
  | d :: rest =>
    { value := d
      expression := fun op => assembleExpression functions op "child expression" d
      operand := fun op => assembleOperand functions op d
      operands := fun op => assembleItems functions op d } :: assembleArguments functions rest

end

/-! ## Sources -/

/-- What a document may be given as: bytes, or a decoded value, of which a text is JSON. -/
inductive Source where
  | bytes (content : ByteArray)
  | value (d : Datum)

namespace Source

/-- The decoded document; none if the bytes or the text are no JSON. -/
def decode : Source → Option Datum
  | .bytes content => Json.readBytes .strict content
  | .value (.str text) => Json.read .strict text
  | .value d => some d

/-- Whether a source is text or bytes that are no JSON. -/
def IsNoJson : Source → Prop
  | .bytes content => Json.readBytes .strict content = none
  | .value (.str text) => Json.read .strict text = none
  | .value _ => False

/-- The tree of a document. -/
def read (functions : List String) : Source → Except ParseError Node
  | .bytes content => readBytes functions content
  | .value d => readAny functions d

end Source

/-- The tree of a document, assembled. -/
def assemble (functions : List String) (source : Source) : Except Stop Node :=
  match source.decode with
  | some d => assembleExpression (functions.map Text.lower) "filter" "filter" d
  | none => refuse .malformed

end CatalogFilter.Document
