import CatalogFilter.Json.Plain
import CatalogFilter.Json.Writer
import CatalogFilter.Node.Walk
import CatalogFilter.Settings

/-! # Queryables

* `Queryables`: the document that declares which properties filters may use; members it does not declare are
  kept.
* `Queryables.read`, `Queryables.readText`, `Queryables.write`: between documents and their decoded forms.
* `Queryables.undefined`: the properties of a filter that are not declared.
* `Queryables.check`: refuses filters with such properties, where the settings ask for it. -/

namespace CatalogFilter

/-- The schema of one property. -/
structure QueryableProperty where
  title : Option String
  description : Option String
  type : Option String
  format : Option String
  ref : Option String
  enum : Option (List Datum)
  minimum : Option Binary64
  maximum : Option Binary64
  others : Document.Members

/-- What is said of properties that are not declared: whether there may be any, or a schema of them. -/
inductive Additional where
  | allowed (b : Bool)
  | schema (members : Document.Members)

/-- A queryables document. -/
structure Queryables where
  schema : Option String
  id : Option String
  type : Option String
  title : Option String
  description : Option String
  properties : Option (List (String × QueryableProperty))
  additional : Option Additional
  others : Document.Members

open Document (Members valueOf)

/-- The members whose names are not among the given ones. -/
def membersBesides (used : List String) (members : Members) : Members :=
  members.filter fun m => !used.contains m.1

/-- The members that are not null, as JSON knows them. -/
def writtenMembers (members : Members) : Except Error Members :=
  Json.plainMembers (members.filter fun m => match m.2 with
    | .null => false
    | _ => true)

namespace QueryableProperty

/-- The schema of a property from its members. -/
def ofMembers (members : Members) : Except Error QueryableProperty := do
  let refKey := Field.keyOf members "$ref" "ref"
  let title ← Field.optional Field.text (valueOf members "title")
  let description ← Field.optional Field.text (valueOf members "description")
  let type ← Field.optional Field.text (valueOf members "type")
  let format ← Field.optional Field.text (valueOf members "format")
  let ref ← Field.optional Field.text (valueOf members refKey)
  let enum ← Field.optional Field.items (valueOf members "enum")
  let minimum ← Field.optional Field.float (valueOf members "minimum")
  let maximum ← Field.optional Field.float (valueOf members "maximum")
  let used := ["title", "description", "type", "format", refKey, "enum", "minimum", "maximum"]
  .ok ⟨title, description, type, format, ref, enum, minimum, maximum, membersBesides used members⟩

/-- The schema of a property from a decoded value. -/
def read (d : Datum) : Except Error QueryableProperty := do
  ofMembers (← Field.members d)

/-- The decoded form of a property's schema: the declared members in order, and then all others. -/
def toDatum (p : QueryableProperty) : Except Error Datum := do
  let enum ← p.enum.mapM Json.plainItems
  let others ← writtenMembers p.others
  .ok
    (.object
      (Field.entry "title" .str p.title ++ Field.entry "description" .str p.description ++
        Field.entry "type" .str p.type ++ Field.entry "format" .str p.format ++
        Field.entry "$ref" .str p.ref ++ Field.entry "enum" .list enum ++
        Field.entry "minimum" (fun x => .num (.float x)) p.minimum ++
        Field.entry "maximum" (fun x => .num (.float x)) p.maximum ++ others))

end QueryableProperty

namespace Additional

/-- What a decoded value says of properties that are not declared. -/
def read : Datum → Except Error Additional
  | .object members => .ok (.schema members)
  | d => (Field.bool d).map .allowed

/-- The decoded form. -/
def toDatum : Additional → Except Error Datum
  | .allowed b => .ok (.bool b)
  | .schema members => (Json.plainMembers members).map .object

end Additional

namespace Queryables

/-! ## Reading and writing -/

/-- The schemas of declared properties. -/
def readProperties : Members → Except Error (List (String × QueryableProperty))
  | [] => .ok []
  | (name, d) :: rest => do
    let p ← QueryableProperty.read d
    let ps ← readProperties rest
    .ok ((name, p) :: ps)

/-- The queryables of a document's members. -/
def ofMembers (members : Members) : Except Error Queryables := do
  let schemaKey := Field.keyOf members "$schema" "schema_"
  let idKey := Field.keyOf members "$id" "id"
  let schema ← Field.optional Field.text (valueOf members schemaKey)
  let id ← Field.optional Field.text (valueOf members idKey)
  let type ← Field.optional Field.text (valueOf members "type")
  let title ← Field.optional Field.text (valueOf members "title")
  let description ← Field.optional Field.text (valueOf members "description")
  let properties ←
    Field.optional (fun d => do readProperties (← Field.members d)) (valueOf members "properties")
  let additional ← Field.optional Additional.read (valueOf members "additionalProperties")
  let used := [schemaKey, idKey, "type", "title", "description", "properties", "additionalProperties"]
  .ok ⟨schema, id, type, title, description, properties, additional, membersBesides used members⟩

/-- The queryables of a decoded document. -/
def readDecoded (d : Datum) : Except Error Queryables := do
  ofMembers (← Field.members d)

/-- The queryables of a document in JSON text. -/
def readText (text : String) : Except Error Queryables :=
  match Json.read .strict text with
  | some d => readDecoded d
  | none => .error .notJson

/-- The queryables of a decoded document, or of JSON text. -/
def read : Datum → Except Error Queryables
  | .str text => readText text
  | d => readDecoded d

/-- The decoded forms of the schemas of declared properties. -/
def writeProperties : List (String × QueryableProperty) → Except Error Members
  | [] => .ok []
  | (name, p) :: rest => do
    let d ← p.toDatum
    let ds ← writeProperties rest
    .ok ((name, d) :: ds)

/-- The decoded form of queryables: the declared members in order, and then all others. -/
def toDatum (q : Queryables) : Except Error Datum := do
  let properties ← q.properties.mapM writeProperties
  let additional ← q.additional.mapM Additional.toDatum
  let others ← writtenMembers q.others
  .ok
    (.object
      (Field.entry "$schema" .str q.schema ++ Field.entry "$id" .str q.id ++
        Field.entry "type" .str q.type ++ Field.entry "title" .str q.title ++
        Field.entry "description" .str q.description ++ Field.entry "properties" .object properties ++
        Field.entry "additionalProperties" (fun d => d) additional ++ others))

/-- The indented JSON text of queryables. -/
def write (q : Queryables) : Except Error String := do
  match Json.write? .indented (← q.toDatum) with
  | some text => .ok text
  | none => .error .wrongKind

/-! ## Checks -/

/-- Checks that a document describes objects and declares properties. -/
def validate (q : Queryables) : Except Error Unit :=
  if q.type ≠ some "object" then .error .queryablesNotObject
  else if q.properties.isNone then .error .queryablesWithoutProperties
  else .ok ()

/-- Whether filters may only use declared properties. -/
def restricts (q : Queryables) : Bool :=
  match q.additional with
  | none => true
  | some (.allowed false) => true
  | _ => false

/-- The names of the declared properties. -/
def names (q : Queryables) : List String :=
  (q.properties.getD []).map (·.1)

/-- The bare names of a filter's properties that are not declared, in order and each once. -/
def undefined (q : Queryables) (n : Node) : List String :=
  if q.restricts then n.properties.filter fun name => !q.names.contains name else []

/-- Refuses a filter with properties that are not declared, where the settings ask for it. -/
def check (q : Queryables) (s : Settings) (n : Node) : Except ParseError Unit :=
  if s.validateQueryables then
    match q.undefined n with
    | [] => .ok ()
    | names => .error (.shape "filter" (.unknownFields names))
  else .ok ()

end Queryables

end CatalogFilter
