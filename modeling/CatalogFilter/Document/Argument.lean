import CatalogFilter.Calendar.Timestamp
import CatalogFilter.Datum.Equality
import CatalogFilter.Node.Check

/-! # Parts of filter documents

* `Document.argsOf`, `Document.requireCount`, `Document.requireObject`: the frame of an expression object.
* `Document.readProperty`, `Document.readGeometry`, `Document.readBox`: operands that hold no expressions.
* `Document.readTimestamp`, `Document.readDate`, `Document.readBound`, `Document.readInterval`: times. -/

namespace CatalogFilter.Document

/-- The members of an object. -/
abbrev Members := List (String × Datum)

/-- Whether an object has a member of a name. -/
def has (members : Members) (name : String) : Bool :=
  members.any (·.1 == name)

/-- The value of a member, null if there is none. -/
def valueOf (members : Members) (name : String) : Datum :=
  (members.lookup name).getD .null

/-! ## Frame -/

/-- The arguments of an expression object. -/
def argsOf (op : String) (members : Members) : Except ParseError (List Datum) :=
  match members.lookup "args" with
  | some (.list args) => .ok args
  | _ => .error (.shape op .argsNotArray)

/-- The error of a wrong number of arguments. -/
def countError (op : String) (expected got : Nat) : ParseError :=
  .arity op (.num (.int expected)) got

/-- Checks a number of arguments against the number expected. -/
def requireCount (op : String) (got : Nat) (expected : Datum) : Except Error Unit :=
  if Datum.equal (.num (.int got)) expected then .ok ()
  else do
    let e ← printing expected.isPrintable (ParseError.arity op expected got)
    .error (.parse e)

/-- The members of a value that has to be an object. -/
def requireObject (op : String) (value : Datum) (what : String) : Except ParseError Members :=
  match value with
  | .object members => .ok members
  | d => .error (.shape op (.notObject what d.jsonKind))

/-! ## Properties -/

/-- Whether a value is an object with a member `property`. -/
def isPropertyObject : Datum → Bool
  | .object members => has members "property"
  | _ => false

/-- The property of the name that a member `property` holds. -/
def readPropertyName (op : String) (value : Datum) : Except ParseError Property :=
  match value with
  | .str name => if name = "" then .error (.shape op .badPropertyName) else .ok ⟨name⟩
  | _ => .error (.shape op .badPropertyName)

/-- The property of an object with a member `property`. -/
def readProperty (op : String) (value : Datum) (what : String) : Except ParseError Property :=
  match value with
  | .object members =>
    match members.lookup "property" with
    | some name => readPropertyName op name
    | none => .error (.shape op (.notPropertyObject what))
  | _ => .error (.shape op (.notPropertyObject what))

/-! ## Shapes -/

/-- The geometry of an object with a type and coordinates. -/
def readGeometry (op : String) (value : Datum) : Except ParseError Geometry :=
  match value with
  | .object members =>
    match valueOf members "type" with
    | .str type =>
      if type = "" then .error (.geometry op .noType)
      else
        match valueOf members "coordinates" with
        | .null => .error (.geometry op .noCoordinates)
        | coordinates =>
          match valueOf members "bbox" with
          | .null => Geometry.make type coordinates none
          | .list items => Geometry.make type coordinates (some items)
          | .tuple items => Geometry.make type coordinates (some items)
          | _ => .error (.geometry op .bboxNotArray)
    | _ => .error (.geometry op .noType)
  | d => .error (.geometry op (.notObject d.jsonKind))

/-- The extent that a member `bbox` holds. -/
def readBox (op : String) (value : Datum) : Except ParseError (List Number) :=
  match value with
  | .list items => Node.makeBox items
  | _ => .error (.shape op .bboxNotArray)

/-- The shape of a spatial relation: a box where there is a member `bbox` and no type, else a geometry. -/
def readShape (op : String) (value : Datum) : Except ParseError Shape :=
  match value with
  | .object members =>
    if has members "bbox" && !has members "type" then
      (readBox op (valueOf members "bbox")).map .bbox
    else (readGeometry op value).map .geometry
  | _ => (readGeometry op value).map .geometry

/-! ## Times -/

/-- The time of a timestamp text. -/
def readTimestamp (op : String) (value : Datum) : Except ParseError OffsetDateTime :=
  match value with
  | .str text => (Timestamp.read text).mapError fun cause => .time op (.badTimestamp text cause)
  | d => .error (.time op (.notTimestampText d))

/-- The date of a text of ten characters. -/
def readDate (op : String) (value : Datum) : Except ParseError Date :=
  match value with
  | .str text =>
    if text.length = 10 then (Date.read text).mapError fun cause => .time op (.badDate text cause)
    else .error (.time op (.notDateText value))
  | d => .error (.time op (.notDateText d))

/-- The text of an open end of an interval. -/
def openBound : String :=
  ".."

/-- One end of an interval; null and two points leave it open. -/
def readBound (op : String) (value : Datum) : Except ParseError (Option OffsetDateTime) :=
  match value with
  | .null => .ok none
  | .str text => if text = openBound then .ok none else (readTimestamp op (.str text)).map some
  | d => (readTimestamp op d).map some

/-- Both ends of an interval. -/
def readInterval (op : String) (value : Datum) :
    Except ParseError (Option OffsetDateTime × Option OffsetDateTime) :=
  match value with
  | .list [start, stop] => do
    let start ← readBound op start
    let stop ← readBound op stop
    .ok (start, stop)
  | .list bounds => .error (countError op 2 bounds.length)
  | _ => .error (.shape op .intervalNotArray)

/-- The time of a temporal relation, read by the first of the members `interval`, `timestamp` and `date`. -/
def readInstant (op : String) (value : Datum) : Except ParseError Instant :=
  match value with
  | .object members =>
    if has members "interval" then
      (readInterval op (valueOf members "interval")).map fun (start, stop) => .interval start stop
    else if has members "timestamp" then
      (readTimestamp op (valueOf members "timestamp")).map .timestamp
    else if has members "date" then (readDate op (valueOf members "date")).map .date
    else .error (.shape op .notTemporalOperand)
  | _ => .error (.shape op .notTemporalOperand)

/-- An end of an interval as it is written. -/
def writeBound : Option OffsetDateTime → String
  | none => openBound
  | some t => t.text

@[simp] theorem isPropertyObject_str (s : String) : isPropertyObject (.str s) = false := rfl

@[simp] theorem readBound_null (op : String) : readBound op .null = .ok none := rfl

end CatalogFilter.Document
