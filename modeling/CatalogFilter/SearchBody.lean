import CatalogFilter.Document.Writer
import CatalogFilter.Field
import CatalogFilter.Json.Plain

/-! # Filters in search requests

* `FilterLanguage`: the two languages in which requests carry filters.
* `SearchBody`: the filter of a request and its language, with `SearchBody.toDatum` the members to send.
* `SearchBody.ofNode`, `SearchBody.ofText`, `SearchBody.read`: from a tree, from text in the text form, and from
  a decoded body. -/

namespace CatalogFilter

/-- The languages in which requests carry filters. -/
inductive FilterLanguage where
  | json
  | text
  deriving DecidableEq

namespace FilterLanguage

/-- The written language. -/
def symbol : FilterLanguage → String
  | .json => "cql2-json"
  | .text => "cql2-text"

/-- The language of a symbol. -/
def ofSymbol? : String → Option FilterLanguage :=
  findSymbol symbol [.json, .text]

end FilterLanguage

/-- A filter as requests carry it. -/
inductive SentFilter where
  | document (members : Document.Members)
  | text (s : String)

/-- The filter of a search request. -/
structure SearchBody where
  filter : Option SentFilter
  language : Option FilterLanguage

namespace SentFilter

/-- The filter that a decoded value is. -/
def read : Datum → Except Error SentFilter
  | .object members => .ok (.document members)
  | .str s => .ok (.text s)
  | _ => .error .invalidModel

/-- The decoded form. -/
def toDatum : SentFilter → Except Error Datum
  | .document members => (Json.plainMembers members).map .object
  | .text s => .ok (.str s)

end SentFilter

namespace SearchBody

/-- A request without a filter. -/
def empty : SearchBody := ⟨none, none⟩

/-- A filter in text form. -/
def ofText (s : String) : SearchBody := ⟨some (.text s), some .text⟩

/-- A filter tree, which is sent as its document. -/
def ofNode (n : Node) : Except Error SearchBody :=
  (SentFilter.read n.toDocument).map fun filter => ⟨some filter, some .json⟩

/-- The language that a decoded value names. -/
def readLanguage (d : Datum) : Except Error FilterLanguage := do
  Field.orInvalid (FilterLanguage.ofSymbol? (← Field.text d))

/-- The filter of a decoded body; members that requests do not use are left out. -/
def read (d : Datum) : Except Error SearchBody := do
  let members ← Field.members d
  let filter ← Field.optional SentFilter.read (Document.valueOf members "filter")
  let language ← Field.optional readLanguage
    (Document.valueOf members (Field.keyOf members "filter-lang" "filter_lang"))
  .ok ⟨filter, language⟩

/-- The members to send; without a filter there are none. -/
def toDatum (b : SearchBody) : Except Error Datum :=
  match b.filter with
  | none => .ok (.object [])
  | some filter => do
    let d ← filter.toDatum
    .ok (.object (("filter", d) :: Field.entry "filter-lang" (fun l => .str (FilterLanguage.symbol l)) b.language))

@[simp] theorem toDatum_empty : toDatum empty = .ok (.object []) := rfl

end SearchBody

end CatalogFilter
