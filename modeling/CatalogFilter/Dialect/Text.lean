import CatalogFilter.Dialect.Wkt
import CatalogFilter.Node.Check

/-! # The text form of filters

* `Node.toText`: a tree in the text form of the filter language. Keywords are in capitals, quotes inside values
  are doubled, and connectives inside connectives stand in parentheses. -/

namespace CatalogFilter

/-- A scalar in text form, if it has one. -/
def Scalar.textPhrase : Scalar → Phrase
  | .bool true => [.bare "TRUE"]
  | .bool false => [.bare "FALSE"]
  | .num n => [.bare n.text]
  | .str s => [.quoted s]

/-- A box in text form. -/
def boxPhrase (extent : List Number) : Except Error Phrase :=
  printing (extent.all Number.isPrintable)
    [.bare "BBOX(", .bare (String.intercalate "," (extent.map Number.text)), .bare ")"]

/-- A shape in text form. -/
def Shape.textPhrase : Shape → Except Error Phrase
  | .geometry g => g.toWkt.map fun text => [.bare text]
  | .bbox extent => boxPhrase extent

/-- A time in text form. -/
def Instant.textPhrase : Instant → Phrase
  | .timestamp t => [.bare "TIMESTAMP(", .quoted t.text, .bare ")"]
  | .date d => [.bare "DATE(", .quoted d.text, .bare ")"]
  | .interval start stop =>
    [.bare "INTERVAL(", .quoted (Document.writeBound start), .bare ",", .quoted (Document.writeBound stop),
      .bare ")"]

/-- The call of a relation or function in text form. -/
def callPhrase (name : String) (args : List Phrase) : Phrase :=
  .bare name :: (Phrase.join ", " args).within "(" ")"

/-- The name of a function in text form; the functions known without settings are in capitals. -/
def functionWord (name : String) : String :=
  if isBuiltIn name then Text.upperAscii name else name

namespace Node

/-- Whether a node is a conjunction or disjunction. -/
def isGroup : Node → Bool
  | .and _ | .or _ => true
  | _ => false

/-- The rendering of an operand of a connective, in parentheses if it is a conjunction or disjunction. -/
def grouped (n : Node) (part : Phrase) : Phrase :=
  if n.isGroup then part.within "(" ")" else part

mutual

/-- The rendering of a tree. -/
def textPhrase : Node → Except Error Phrase
  | .property p => .ok [.bare p.name]
  | .literal value => printing value.isPrintable value.textPhrase
  | .timestamp t => .ok (Instant.timestamp t).textPhrase
  | .date d => .ok (Instant.date d).textPhrase
  | .interval start stop => .ok (Instant.interval start stop).textPhrase
  | .geometry g => (Shape.geometry g).textPhrase
  | .bbox extent => boxPhrase extent
  | .array elements => do
    let parts ← textPhrases elements
    .ok ((Phrase.join ", " parts).within "(" ")")
  | .and children => do
    let parts ← groupedPhrases children
    .ok (Phrase.join " AND " parts)
  | .or children => do
    let parts ← groupedPhrases children
    .ok (Phrase.join " OR " parts)
  | .not child => do
    let part ← textPhrase child
    .ok (.bare "NOT " :: grouped child part)
  | .comparison op left right => do
    let right ← textPhrase right
    .ok (.bare left.name :: .bare (" " ++ op.symbol ++ " ") :: right)
  | .between subject lower upper => do
    let lower ← textPhrase lower
    let upper ← textPhrase upper
    .ok (.bare subject.name :: .bare " BETWEEN " :: lower ++ .bare " AND " :: upper)
  | .like subject pattern => .ok [.bare subject.name, .bare " LIKE ", .quoted pattern]
  | .isIn subject values => do
    let parts ← textPhrases values
    .ok (.bare subject.name :: (Phrase.join ", " parts).within " IN (" ")")
  | .isNull subject => .ok [.bare subject.name, .bare " IS NULL"]
  | .spatial op left right => do
    let right ← right.textPhrase
    .ok (callPhrase (Text.upperAscii op.symbol) [[.bare left.name], right])
  | .temporal op left right =>
    .ok (callPhrase (Text.upperAscii op.symbol) [[.bare left.name], right.textPhrase])
  | .arrayComparison op left right => do
    let left ← textPhrase left
    let right ← textPhrase right
    .ok (callPhrase (Text.upperAscii op.symbol) [left, right])
  | .function name args => do
    let parts ← textPhrases args
    .ok (callPhrase (functionWord name) parts)

/-- The renderings of some trees. -/
def textPhrases : List Node → Except Error (List Phrase)
  | [] => .ok []
  | n :: rest => do
    let part ← textPhrase n
    let parts ← textPhrases rest
    .ok (part :: parts)

/-- The renderings of the operands of a connective. -/
def groupedPhrases : List Node → Except Error (List Phrase)
  | [] => .ok []
  | n :: rest => do
    let part ← textPhrase n
    let parts ← groupedPhrases rest
    .ok (grouped n part :: parts)

end

/-- The text form of a tree; quotes inside values are doubled. -/
def toText (n : Node) : Except Error String :=
  (textPhrase n).map (Phrase.text ['\'', '\''])

end Node

end CatalogFilter
