import CatalogFilter.Dialect.Basic

/-! # OData filters

* `Node.toOData`: the filter expression of a tree. Conjunctions and disjunctions stand in parentheses, values
  are written without quotes, and a spatial relation is written by its shape alone. -/

namespace CatalogFilter

/-- The comparison words of OData. -/
def ComparisonOp.odataWord : ComparisonOp → String
  | .eq => "eq"
  | .neq => "ne"
  | .lt => "lt"
  | .lte => "le"
  | .gt => "gt"
  | .gte => "ge"

/-- A scalar without quotes, if it has a text; truth values are written in lower case. -/
def Scalar.odataText : Scalar → String
  | .bool true => "true"
  | .bool false => "false"
  | .num n => n.text
  | .str s => s

namespace Node

mutual

/-- The rendering of a tree. -/
def odataPhrase : Node → Except Error Phrase
  | .property p => .ok [.bare p.name]
  | .literal value => printing value.isPrintable [.bare value.odataText]
  | .timestamp t => .ok [.bare t.text]
  | .date d => .ok [.bare d.text]
  | .and children => do
    let parts ← odataPhrases children
    .ok ((Phrase.join " and " parts).within "(" ")")
  | .or children => do
    let parts ← odataPhrases children
    .ok ((Phrase.join " or " parts).within "(" ")")
  | .not child => do
    let part ← odataPhrase child
    .ok (part.within "not (" ")")
  | .comparison op left right => do
    let right ← odataPhrase right
    .ok (.bare left.name :: .bare (" " ++ op.odataWord ++ " ") :: right)
  | .isNull subject => .ok [.bare subject.name, .bare " eq null"]
  | .spatial op _ right => do
    let json ← CatalogFilter.shapeJson right
    .ok [.bare op.symbol, .bare "(", .bare json, .bare ")"]
  | n => .error (Dialect.odata.refuse n)

/-- The renderings of some trees. -/
def odataPhrases : List Node → Except Error (List Phrase)
  | [] => .ok []
  | n :: rest => do
    let part ← odataPhrase n
    let parts ← odataPhrases rest
    .ok (part :: parts)

end

/-- The OData filter expression of a tree. -/
def toOData (n : Node) : Except Error String :=
  (odataPhrase n).map (Phrase.text [])

end Node

end CatalogFilter
