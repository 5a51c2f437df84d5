import CatalogFilter.Calendar.Fault
import CatalogFilter.Datum.Text

/-! # Errors

* `ParseError`: why a document, a node or a builder call is refused, by cause.
* `ParseError.op?`, `ParseError.detail`, `ParseError.message`: the operator or field at fault, and the wording.
* `Error`: every error of the library; most are parse errors.
* `ParseError.raised`: a cause as an error. The wording is made first, and where it has to show an integer that has no
  text, that is the error.
* `printing`: a text that is made of values, or the same error.
* `Report`: an error in the general form in which callers may state one themselves. -/

namespace CatalogFilter

/-! ## Parse errors -/

/-- How an argument differs from the shape that it should have. -/
inductive ShapeFault where
  | argsNotArray
  | notObject (what kind : String)
  | notPropertyObject (what : String)
  | badPropertyName
  | patternNotText
  | valuesNotArray (kind : String)
  | notTemporalOperand
  | notArrayOperand (variant : String)
  | notOperand (kind : String)
  | unknownOperand (names : List String)
  | intervalNotArray
  | bboxNotArray
  | bboxNotNumbers
  | emptyName (field : String)
  | reservedName (name : String)
  | notNode (field kind : String)
  | notExpression (field variant : String)
  | wrongVariant (field wanted variant : String)
  | notScalar (kind : String)
  | otherKind (shown kind : String)
  | notCalendarDate
  | notSubject (kind : String)
  | unusableOperand (kind : String)
  | unusableInstant (kind : String)
  | notGeoJson (kind : String)
  | notFilter (name : String)
  | unknownFields (names : List String)
  | openEscape
  | badEscape (c : Char)
  deriving DecidableEq

/-- What is wrong with a geometry. -/
inductive GeometryFault where
  | notObject (kind : String)
  | noType
  | noCoordinates
  | bboxNotArray
  | bboxCount (count : Nat)
  | bboxNotNumbers
  | notShape (field variant : String)
  deriving DecidableEq

/-- What is wrong with a timestamp or date. -/
inductive TimeFault where
  | notTimestampText (value : Datum)
  | badTimestamp (text : String) (cause : CalendarFault)
  | notDateText (value : Datum)
  | badDate (text : String) (cause : CalendarFault)

/-- Why a document, a node or a builder call is refused. -/
inductive ParseError where
  | malformed
  | missingOperator
  | unsupportedOperator (op : String)
  | arity (op : String) (expected : Datum) (got : Nat)
  | shape (op : String) (fault : ShapeFault)
  | geometry (op : String) (fault : GeometryFault)
  | time (op : String) (fault : TimeFault)

/-- The wording of a shape fault. -/
def ShapeFault.message : ShapeFault → String
  | .argsNotArray => "'args' must be an array"
  | .notObject what kind => what ++ " must be an object, got " ++ kind
  | .notPropertyObject what => what ++ " must be a property object"
  | .badPropertyName => "'property' field must be a non-empty string"
  | .patternNotText => "'pattern' must be a string"
  | .valuesNotArray kind => "'values' must be an array, got " ++ kind
  | .notTemporalOperand => "second argument must be an interval, timestamp or date object"
  | .notArrayOperand variant => "arguments must be arrays or properties, got " ++ variant
  | .notOperand kind => kind ++ " is not a valid operand"
  | .unknownOperand names =>
    "unrecognized operand object with keys " ++ Datum.shown (.list (names.map .str))
  | .intervalNotArray => "'interval' must be an array"
  | .bboxNotArray => "'bbox' must be an array of numbers"
  | .bboxNotNumbers => "bbox values must be numbers"
  | .emptyName field => field ++ " must be a non-empty string"
  | .reservedName name => "function name '" ++ name ++ "' is a core operator"
  | .notNode field kind => field ++ " must be a filter node, got " ++ kind
  | .notExpression field variant => field ++ " must be an expression, got " ++ variant
  | .wrongVariant field wanted variant => field ++ " must be " ++ wanted ++ ", got " ++ variant
  | .notScalar kind => "literal must be a string, number or boolean, got " ++ kind
  | .otherKind shown kind => "value " ++ shown ++ " is not a " ++ kind ++ " literal"
  | .notCalendarDate => "date must be a calendar date"
  | .notSubject kind => "subject must be a property name or Property, got " ++ kind
  | .unusableOperand kind => "cannot use " ++ kind ++ " as an operand"
  | .unusableInstant kind => "cannot use " ++ kind ++ " as a temporal operand"
  | .notGeoJson kind => "geometry must be GeoJSON, got " ++ kind
  | .notFilter name => "cannot add " ++ name ++ " as a filter"
  | .unknownFields names =>
    "Invalid query fields: " ++ String.intercalate ", " names ++
      ". These fields are not defined in the queryables."
  | .openEscape => "pattern ends with an escape"
  | .badEscape c => "'\\" ++ String.singleton c ++ "' is not a valid escape sequence"

/-- The wording of a geometry fault. -/
def GeometryFault.message : GeometryFault → String
  | .notObject kind => "geometry must be an object, got " ++ kind
  | .noType => "geometry must have a 'type' field"
  | .noCoordinates => "geometry must have 'coordinates'"
  | .bboxNotArray => "geometry bbox must be an array of numbers"
  | .bboxCount count => "geometry bbox must hold 2n numbers, got " ++ Number.intText count
  | .bboxNotNumbers => "geometry bbox values must be numbers"
  | .notShape field variant => field ++ " must be a geometry or bbox, got " ++ variant

/-- Whether a time fault can be put into words, which show the value at fault. -/
def TimeFault.isWorded : TimeFault → Bool
  | .notTimestampText value => value.isPrintable
  | .notDateText value => value.isPrintable
  | _ => true

/-- The wording of a time fault, if it can be put into words. -/
def TimeFault.message : TimeFault → String
  | .notTimestampText value => "expected an RFC 3339 string, got " ++ value.shown
  | .badTimestamp text cause => "invalid RFC 3339 timestamp " ++ Text.quote text ++ ": " ++ cause.message
  | .notDateText value => "expected a YYYY-MM-DD date, got " ++ value.shown
  | .badDate text cause => "invalid date " ++ Text.quote text ++ ": " ++ cause.message

/-- The wording of an arity error. -/
def arityDetail (expected got : Datum) : String :=
  "expected " ++ expected.plain ++ " argument(s), got " ++ got.plain

/-- The wording of an unsupported operator. -/
def unsupportedOperatorDetail : String :=
  "unsupported or unknown operator"

/-- The wording of an unsupported node; an empty dialect is not mentioned. -/
def unsupportedNodeDetail (dialect : String) : String :=
  if dialect = "" then "unsupported node type" else "unsupported node type for " ++ dialect

namespace ParseError

/-- The operator, field or variant at fault. -/
def op? : ParseError → Option String
  | .malformed => none
  | .missingOperator => none
  | .unsupportedOperator op => some op
  | .arity op _ _ => some op
  | .shape op _ => some op
  | .geometry op _ => some op
  | .time op _ => some op

/-- Whether a cause can be put into words. -/
def isWorded : ParseError → Bool
  | .time _ fault => fault.isWorded
  | _ => true

/-- The broken rule in words, if there are any for it. -/
def detail : ParseError → String
  | .malformed => "failed to decode JSON"
  | .missingOperator => "missing or invalid 'op' field"
  | .unsupportedOperator _ => unsupportedOperatorDetail
  | .arity _ expected got => arityDetail expected (.num (.int got))
  | .shape _ fault => fault.message
  | .geometry _ fault => fault.message
  | .time _ fault => fault.message

/-- The broken rule behind the operator at fault. -/
def message (e : ParseError) : String :=
  match e.op? with
  | some op => "'" ++ op ++ "': " ++ e.detail
  | none => e.detail

theorem op?_eq_none_iff (e : ParseError) : e.op? = none ↔ e = .malformed ∨ e = .missingOperator := by
  cases e <;> simp [op?]

end ParseError

/-! ## All errors -/

/-- Every error of the library. -/
inductive Error where
  | parse (e : ParseError)
  /-- A dialect has no rendering for a variant of nodes. -/
  | unsupportedNode (variant dialect : String)
  /-- A walk over nodes does not handle a variant. -/
  | unhandledNode (variant : String)
  /-- A value is no member of a vocabulary. -/
  | unknownSymbol (vocabulary shown : String)
  | unknownPrecision
  /-- The setting of further functions begins like a JSON list and is none. -/
  | badFunctionList
  | queryablesNotObject
  | queryablesWithoutProperties
  /-- A value is of a kind that cannot be used at its place, or an argument is missing or left over. -/
  | wrongKind
  /-- A value has not the operation asked of it. -/
  | missingOperation
  /-- A document or setting does not fit its model. -/
  | invalidModel
  | notJson
  /-- A value of a kind that JSON does not know has to be written. -/
  | noJsonForm
  /-- A value has to be written that is nested too deep. -/
  | tooDeep
  /-- An integer has to be written out that has too many digits for a text. -/
  | tooManyDigits

instance : Coe ParseError Error := ⟨.parse⟩

/-- The wording of an error, as far as the library has one of its own. -/
def Error.message? : Error → Option String
  | .parse e => some e.message
  | .unsupportedNode variant dialect => some ("'" ++ variant ++ "': " ++ unsupportedNodeDetail dialect)
  | .unhandledNode variant => some ("NodeVisitor does not handle " ++ variant)
  | .unknownSymbol vocabulary shown => some (shown ++ " is not a valid " ++ vocabulary)
  | .unknownPrecision => some "Unknown timespec value"
  | .badFunctionList => some "CQL2_EXTRA_FUNCTIONS is not a valid JSON list"
  | .queryablesNotObject => some "queryables must be of type 'object'"
  | .queryablesWithoutProperties => some "queryables must have 'properties'"
  | .wrongKind => none
  | .missingOperation => none
  | .invalidModel => none
  | .notJson => none
  | .noJsonForm => none
  | .tooDeep => some "Circular reference detected (depth exceeded)"
  | .tooManyDigits =>
    some ("Exceeds the limit (" ++ Number.intText Number.maxDigits ++
      " digits) for integer string conversion; use sys.set_int_max_str_digits() to increase the limit")

/-- A cause as an error of the library: its words are made first, and where there are none, that is the error. -/
def ParseError.raised (e : ParseError) : Error :=
  if e.isWorded then .parse e else .tooManyDigits

/-- Causes for which something is refused are raised as errors of the library. -/
def liftParse {α : Type} (x : Except ParseError α) : Except Error α :=
  x.mapError ParseError.raised

instance : MonadLift (Except ParseError) (Except Error) := ⟨liftParse⟩

/-- What is made of some values, if each of them has a text. -/
def printing {α : Type} (printable : Bool) (made : α) : Except Error α :=
  if printable then .ok made else .error .tooManyDigits

@[simp] theorem liftParse_ok {α : Type} (a : α) : liftParse (.ok a) = .ok a := rfl

@[simp] theorem liftParse_error {α : Type} (e : ParseError) :
    liftParse (.error e : Except ParseError α) = .error e.raised := rfl

theorem ParseError.raised_of_isWorded {e : ParseError} (h : e.isWorded = true) : e.raised = .parse e :=
  if_pos h

theorem ParseError.raised_of_not_isWorded {e : ParseError} (h : e.isWorded = false) : e.raised = .tooManyDigits :=
  if_neg (ne_true_of_eq_false h)

@[simp] theorem printing_true {α : Type} (a : α) : printing true a = .ok a := rfl

theorem printing_eq_ok {α : Type} {printable : Bool} {a b : α} :
    printing printable a = .ok b ↔ printable = true ∧ a = b := by
  cases printable <;> simp [printing]

/-! ## Errors stated by callers -/

/-- The classes of errors that callers may state themselves. -/
inductive ErrorClass where
  | filter
  | parse
  | malformed
  | missingOperator
  | arity
  | shape
  | geometry
  | time
  | unsupportedOperator
  | rendering
  | unsupportedNode
  deriving DecidableEq

/-- An error in general form. Counts are set for arity errors, variant and dialect for unsupported nodes. -/
structure Report where
  cls : ErrorClass
  detail : Datum
  op : Datum
  expected : Datum
  got : Datum
  variant : Datum
  dialect : Datum

namespace Report

/-- An error of a class that has no fields of its own. -/
def simple (cls : ErrorClass) (detail op : Datum) : Report :=
  ⟨cls, detail, op, .null, .null, .null, .null⟩

/-- An arity error. -/
def arity (op expected got : Datum) : Except Error Report :=
  printing (expected.isPrintable && got.isPrintable)
    ⟨.arity, .str (arityDetail expected got), op, expected, got, .null, .null⟩

/-- An unsupported operator. -/
def unsupportedOperator (op : Datum) : Report :=
  simple .unsupportedOperator (.str unsupportedOperatorDetail) op

/-- An unsupported node; a dialect that is missing or empty is not mentioned. -/
def unsupportedNode (variant dialect : Datum) : Except Error Report :=
  let name := match dialect with
    | .null => ""
    | d => d.plain
  printing dialect.isPrintable
    ⟨.unsupportedNode, .str (unsupportedNodeDetail name), variant, .null, .null, variant, dialect⟩

/-- The detail, behind the operator unless that is null. -/
def message (r : Report) : Except Error String :=
  printing (r.op.isPrintable && r.detail.isPrintable) <|
    match r.op with
    | .null => r.detail.plain
    | op => "'" ++ op.plain ++ "': " ++ r.detail.plain

end Report

end CatalogFilter
