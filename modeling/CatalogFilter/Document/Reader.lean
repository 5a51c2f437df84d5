import CatalogFilter.Document.Argument
import CatalogFilter.Json.Reader

/-! # Reading filter documents

* `Document.Head`: what the operator of an expression object stands for.
* `Document.readForm`, `Document.readOperand`: the tree of an operator with its arguments, and of a value in operand
  position. Where the forms of operands overlap, the first of the members `property`, `op`, `timestamp`, `date`,
  `interval`, `type` and `bbox` decides.
* `Document.read`, `Document.readText`, `Document.readBytes`: the tree of a decoded value, of JSON text, and of
  bytes, or the first cause to refuse it. -/

namespace CatalogFilter.Document

/-- What the operator of an expression object stands for. -/
inductive Head where
  | core (op : Operator)
  | function (name : String)
  deriving DecidableEq

/-- The operator in lower case. -/
def Head.name : Head → String
  | .core op => op.symbol
  | .function name => name

/-- The head of an operator in lower case: an operator of the language, or one of the functions. -/
def Head.ofName (functions : List String) (name : String) : Except ParseError Head :=
  match Operator.ofSymbol? name with
  | some op => .ok (.core op)
  | none =>
    if functions.contains name then .ok (.function name) else .error (.unsupportedOperator name)

/-- The head of an expression object; letter case does not count. -/
def headOf (functions : List String) (members : Members) : Except ParseError Head :=
  match members.lookup "op" with
  | some (.str op) => Head.ofName functions (Text.lower op)
  | _ => .error .missingOperator

/-- The array relation of two sides, which must be properties, arrays or function calls. -/
def arrayRelation (op : ArrayOp) (left right : Node) : Except ParseError Node :=
  if !left.isArraySide then .error (.shape op.symbol (.notArrayOperand left.variant))
  else if !right.isArraySide then .error (.shape op.symbol (.notArrayOperand right.variant))
  else .ok (.arrayComparison op left right)

/-- The names of an object's members in order, for messages. -/
def sortedNames (members : Members) : List String :=
  (members.map (·.1)).mergeSort fun a b => decide (a ≤ b)

mutual

/-- The tree of a value in operand position. -/
def readOperand (functions : List String) (op : String) : Datum → Except ParseError Node
  | .bool b => .ok (.literal (.bool b))
  | .num n => .ok (.literal (.num n))
  | .str s => .ok (.literal (.str s))
  | .list items => (readOperands functions op items).map .array
  | .object members =>
    if has members "property" then
      (readPropertyName op (valueOf members "property")).map .property
    else if has members "op" then do
      let head ← headOf functions members
      readForm functions head members
    else if has members "timestamp" then
      (readTimestamp op (valueOf members "timestamp")).map .timestamp
    else if has members "date" then (readDate op (valueOf members "date")).map .date
    else if has members "interval" then
      (readInterval op (valueOf members "interval")).map fun (start, stop) => .interval start stop
    else if has members "type" then (readGeometry op (.object members)).map .geometry
    else if has members "bbox" then (readBox op (valueOf members "bbox")).map .bbox
    else .error (.shape op (.unknownOperand (sortedNames members)))
  | d => .error (.shape op (.notOperand d.jsonKind))

/-- The trees of values in operand position. -/
def readOperands (functions : List String) (op : String) : List Datum → Except ParseError (List Node)
  | [] => .ok []
  | d :: rest => do
    let n ← readOperand functions op d
    let ns ← readOperands functions op rest
    .ok (n :: ns)

/-- The tree of a value that has to be an expression object. -/
def readChild (functions : List String) (op : String) (what : String) : Datum → Except ParseError Node
  | .object members => do
    let head ← headOf functions members
    readForm functions head members
  | d => .error (.shape op (.notObject what d.jsonKind))

/-- The trees of values that have to be expression objects. -/
def readChildren (functions : List String) (op : String) : List Datum → Except ParseError (List Node)
  | [] => .ok []
  | d :: rest => do
    let n ← readChild functions op "child expression" d
    let ns ← readChildren functions op rest
    .ok (n :: ns)

/-- The tree of a head and the member `args` among some members. -/
def readForm (functions : List String) (head : Head) : List (String × Datum) → Except ParseError Node
  | [] => .error (.shape head.name .argsNotArray)
  | (name, value) :: rest =>
    if name = "args" then
      match value with
      | .list args =>
        match head with
        | .core (.logical .and) => (readChildren functions head.name args).map .and
        | .core (.logical .or) => (readChildren functions head.name args).map .or
        | .core (.logical .not) =>
          match args with
          | [child] => (readChild functions head.name "child expression" child).map .not
          | _ => .error (countError head.name 1 args.length)
        | .core (.comparison op) =>
          match args with
          | [left, right] => do
            let left ← readProperty head.name left "first argument"
            let right ← readOperand functions head.name right
            .ok (.comparison op left right)
          | _ => .error (countError head.name 2 args.length)
        | .core (.advanced .between) =>
          match args with
          | [subject, lower, upper] => do
            let subject ← readProperty head.name subject "first argument"
            let lower ← readOperand functions head.name lower
            let upper ← readOperand functions head.name upper
            .ok (.between subject lower upper)
          | _ => .error (countError head.name 3 args.length)
        | .core (.advanced .like) =>
          match args with
          | [subject, pattern] => do
            let subject ← readProperty head.name subject "first argument"
            match pattern with
            | .str pattern => .ok (.like subject pattern)
            | _ => .error (.shape head.name .patternNotText)
          | _ => .error (countError head.name 2 args.length)
        | .core (.advanced .isIn) =>
          match args with
          | [subject, values] => do
            let subject ← readProperty head.name subject "first argument"
            match values with
            | .list values => (readOperands functions head.name values).map (.isIn subject)
            | d => .error (.shape head.name (.valuesNotArray (Datum.jsonKind d)))
          | _ => .error (countError head.name 2 args.length)
        | .core (.advanced .isNull) =>
          match args with
          | [subject] => (readProperty head.name subject "argument").map .isNull
          | _ => .error (countError head.name 1 args.length)
        | .core (.spatial op) =>
          match args with
          | [left, right] => do
            let left ← readProperty head.name left "first argument"
            let right ← readShape head.name right
            .ok (.spatial op left right)
          | _ => .error (countError head.name 2 args.length)
        | .core (.temporal op) =>
          match args with
          | [left, right] => do
            let left ← readProperty head.name left "first argument"
            let right ← readInstant head.name right
            .ok (.temporal op left right)
          | _ => .error (countError head.name 2 args.length)
        | .core (.array op) =>
          match args with
          | [left, right] => do
            let left ← readOperand functions head.name left
            let right ← readOperand functions head.name right
            arrayRelation op left right
          | _ => .error (countError head.name 2 args.length)
        | .function name => do
          let args ← readOperands functions name args
          Node.makeFunction name args
      | _ => .error (.shape head.name .argsNotArray)
    else readForm functions head rest

end

/-- The tree of a decoded document, with the functions of the given names. -/
def read (functions : List String) (document : Datum) : Except ParseError Node :=
  readChild (functions.map Text.lower) "filter" "filter" document

/-- The tree of a document in JSON text. -/
def readText (functions : List String) (text : String) : Except ParseError Node :=
  match Json.read .strict text with
  | some document => read functions document
  | none => .error .malformed

/-- The tree of a document in bytes. -/
def readBytes (functions : List String) (bytes : ByteArray) : Except ParseError Node :=
  match Json.readBytes .strict bytes with
  | some document => read functions document
  | none => .error .malformed

/-- The tree of a document that is text or decoded. -/
def readAny (functions : List String) (document : Datum) : Except ParseError Node :=
  match document with
  | .str text => readText functions text
  | d => read functions d

end CatalogFilter.Document
