import CatalogFilter.Error
import CatalogFilter.Json.Writer
import CatalogFilter.Document.Writer

/-! # Dialects

* `Dialect`: the forms in which filters are rendered.
* `Dialect.refuse`: the error of a node that a dialect has no form for.
* `Piece`, `Phrase`: rendered text in which the values between quotes are kept apart.
* `Phrase.join`, `Phrase.text`: phrases in a row, and the text of a phrase.
* `shapeJson`: the JSON text of a shape with names in order. -/

namespace CatalogFilter

/-! ## Dialects and what they refuse -/

/-- The forms in which filters are rendered. `blank` has no form for any node. -/
inductive Dialect where
  | blank
  | odata
  | sql
  | text
  | search
  deriving DecidableEq

namespace Dialect

/-- The name of a dialect in messages. -/
def name : Dialect → String
  | .blank => "translator"
  | .odata => "odata"
  | .sql => "sql"
  | .text => "cql2-text"
  | .search => "elasticsearch"

/-- The error of a node that a dialect has no form for. -/
def refuse (d : Dialect) (n : Node) : Error :=
  .unsupportedNode n.variant d.name

end Dialect

/-! ## Phrases -/

/-- A piece of rendered text: a text that stands for itself, or a value between single quotes. -/
inductive Piece where
  | bare (s : String)
  | quoted (s : String)
  deriving DecidableEq

/-- Rendered text piece by piece. -/
abbrev Phrase := List Piece

namespace Piece

/-- The characters of a value between quotes, in which a quote is written as `quote`. -/
def quotedChars (quote : List Char) (s : String) : List Char :=
  '\'' :: s.toList.flatMap (fun c => if c = '\'' then quote else [c]) ++ ['\'']

/-- The characters of a piece, with quotes inside values written as `quote`. -/
def chars (quote : List Char) : Piece → List Char
  | .bare s => s.toList
  | .quoted s => quotedChars quote s

end Piece

namespace Phrase

/-- Phrases in a row with a text between them. -/
def join (separator : String) (phrases : List Phrase) : Phrase :=
  List.intercalate [.bare separator] phrases

/-- A phrase between two texts. -/
def within (before : String) (phrase : Phrase) (after : String) : Phrase :=
  .bare before :: phrase ++ [.bare after]

/-- The characters of a phrase, with quotes inside values written as `quote`. -/
def chars (quote : List Char) (phrase : Phrase) : List Char :=
  phrase.flatMap (Piece.chars quote)

/-- The text of a phrase, with quotes inside values written as `quote`. -/
def text (quote : List Char) (phrase : Phrase) : String :=
  String.ofList (phrase.chars quote)

@[simp] theorem chars_nil (quote : List Char) : chars quote [] = [] := rfl

theorem chars_append (quote : List Char) (p q : Phrase) :
    chars quote (p ++ q) = chars quote p ++ chars quote q := List.flatMap_append

end Phrase

/-! ## Shapes as JSON -/

/-- The JSON text of a decoded value with the names of every object in order. -/
def sortedJson (d : Datum) : Except Error String :=
  match Json.write? .compact (Json.sortNames d) with
  | some text => .ok text
  | none => .error .wrongKind

/-- The JSON text of a shape with names in order. -/
def shapeJson (s : Shape) : Except Error String :=
  sortedJson s.toDocument

/-- The JSON text of a node that is a shape. -/
def Node.shapeJson (n : Node) : Except Error String :=
  match n.shape? with
  | some s => CatalogFilter.shapeJson s
  | none => .error (.unsupportedNode n.variant "geometry")

end CatalogFilter
