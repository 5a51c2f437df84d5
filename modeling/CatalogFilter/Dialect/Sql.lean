import CatalogFilter.Dialect.Basic

/-! # SQL conditions

* `Node.toSql`: the condition of a tree. Conjunctions and disjunctions stand in parentheses, every value stands
  between quotes as it is, and a spatial relation is written by its shape alone. -/

namespace CatalogFilter

/-- A scalar as it stands between quotes, if it has a text. -/
def Scalar.sqlText : Scalar → String
  | .bool true => "true"
  | .bool false => "false"
  | .num n => n.text
  | .str s => s

namespace Node

mutual

/-- The rendering of a tree. -/
def sqlPhrase : Node → Except Error Phrase
  | .property p => .ok [.bare p.name]
  | .literal value => printing value.isPrintable [.quoted value.sqlText]
  | .timestamp t => .ok [.quoted t.text]
  | .date d => .ok [.quoted d.text]
  | .and children => do
    let parts ← sqlPhrases children
    .ok ((Phrase.join " AND " parts).within "(" ")")
  | .or children => do
    let parts ← sqlPhrases children
    .ok ((Phrase.join " OR " parts).within "(" ")")
  | .not child => do
    let part ← sqlPhrase child
    .ok (part.within "NOT (" ")")
  | .comparison op left right => do
    let right ← sqlPhrase right
    .ok (.bare left.name :: .bare (" " ++ op.symbol ++ " ") :: right)
  | .between subject lower upper => do
    let lower ← sqlPhrase lower
    let upper ← sqlPhrase upper
    .ok (.bare subject.name :: .bare " BETWEEN " :: lower ++ .bare " AND " :: upper)
  | .like subject pattern => .ok [.bare subject.name, .bare " LIKE ", .quoted pattern]
  | .isIn subject values => do
    let parts ← sqlPhrases values
    .ok (.bare subject.name :: (Phrase.join ", " parts).within " IN (" ")")
  | .isNull subject => .ok [.bare subject.name, .bare " IS NULL"]
  | .spatial op _ right => do
    let json ← CatalogFilter.shapeJson right
    .ok [.bare op.symbol, .bare "(", .bare json, .bare ")"]
  | n => .error (Dialect.sql.refuse n)

/-- The renderings of some trees. -/
def sqlPhrases : List Node → Except Error (List Phrase)
  | [] => .ok []
  | n :: rest => do
    let part ← sqlPhrase n
    let parts ← sqlPhrases rest
    .ok (part :: parts)

end

/-- The SQL condition of a tree; quotes inside values are not doubled. -/
def toSql (n : Node) : Except Error String :=
  (sqlPhrase n).map (Phrase.text ['\''])

end Node

end CatalogFilter
