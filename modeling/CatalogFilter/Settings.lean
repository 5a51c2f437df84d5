import CatalogFilter.Field
import CatalogFilter.Json.Reader
import CatalogFilter.Json.Writer
import CatalogFilter.Operator
import CatalogFilter.Text.Case

/-! # Settings

* `Settings`: further functions, the layout of JSON text, and whether filters are checked against queryables.
* `Settings.read`: settings from an environment and from given values, which go before it.
* `Settings.functions`: the names of all functions that documents may call.
* `Settings.functionsOr`, `Settings.styleOr`: what a caller asks for, or else what the environment says. -/

namespace CatalogFilter

/-- The settings of the library. -/
structure Settings where
  /-- Further functions: a JSON list, or names with commas between them. -/
  extraFunctions : String
  indent : Bool
  validateQueryables : Bool
  deriving DecidableEq

namespace Settings

/-! ## Reading -/

/-- An environment: names with their texts, in the order in which they were set. -/
abbrev Environment := List (String × String)

/-- The last text whose name is the given one in any case of letters. -/
def fromEnvironment? (env : Environment) (name : String) : Option String :=
  env.reverse.findSome? fun (key, text) => if Text.lower key = Text.lower name then some text else none

/-- The names of the settings. -/
def extraFunctionsName : String := "CQL2_EXTRA_FUNCTIONS"

/-- The name of the setting of the layout. -/
def indentName : String := "CQL2_JSON_INDENT"

/-- The name of the setting of the check. -/
def validateName : String := "CQL2_VALIDATE_QUERYABLES"

/-- The value of a setting: a given one, or else the environment's. -/
def source? (env : Environment) (given : Document.Members) (name : String) : Option Datum :=
  match given.lookup name with
  | some d => some d
  | none => (fromEnvironment? env name).map .str

/-- The spellings of nothing. -/
def nullWords : List String :=
  ["null", "Null", "NULL", "none", "None", "NONE"]

/-- The text of the further functions; a spelling of nothing is empty. -/
def readExtraFunctions : Datum → Except Error String
  | .null => .ok ""
  | .str s => .ok (if nullWords.contains s then "" else s)
  | _ => .error .invalidModel

/-- The value of a setting that is read in the given way, or its default. -/
def readOr {α : Type} (default : α) (read : Datum → Except Error α) : Option Datum → Except Error α
  | some d => read d
  | none => .ok default

/-- The settings of an environment and of given values; one wrong setting fails them all. -/
def read (env : Environment) (given : Document.Members) : Except Error Settings := do
  if given.any fun m => !([extraFunctionsName, indentName, validateName].contains m.1) then
    .error .invalidModel
  else
    let extra ← readOr "" readExtraFunctions (source? env given extraFunctionsName)
    let indent ← readOr false Field.bool (source? env given indentName)
    let validate ← readOr false Field.bool (source? env given validateName)
    .ok ⟨extra, indent, validate⟩

/-! ## Functions -/

/-- The parts of a text between the places of a character. -/
def splitAt (mark : Char) : List Char → List (List Char)
  | [] => [[]]
  | c :: rest =>
    if c = mark then [] :: splitAt mark rest
    else
      match splitAt mark rest with
      | [] => [[c]]
      | first :: others => (c :: first) :: others

/-- The names in the text of the further functions as they are written. -/
def rawNames (text : String) : Except Error (List String) :=
  let stripped := Text.strip text
  if stripped.toList.head? = some '[' then
    match Json.read .lenient stripped with
    | some (.list items) => printing (items.all Datum.isPrintable) (items.map Datum.plain)
    | _ => .error .badFunctionList
  else .ok ((splitAt ',' stripped.toList).map String.ofList)

/-- A name in lower case without blanks around it. -/
def normalName (raw : String) : String :=
  Text.lower (Text.strip raw)

/-- Whether a name is neither empty nor built in. -/
def isFurther (name : String) : Bool :=
  name != "" && !builtInFunctions.contains name

/-- The names of the further functions. -/
def extraNames (s : Settings) : Except Error (List String) :=
  (rawNames s.extraFunctions).map fun raw => (raw.map normalName).filter isFurther

/-- The names of all functions: the built-in ones and then the further ones. -/
def functions (s : Settings) : Except Error (List String) :=
  s.extraNames.map fun names => builtInFunctions ++ names

/-! ## What callers leave to the settings -/

/-- The layout of JSON text with indentation or without. -/
def layout (indent : Bool) : Json.Style :=
  if indent then .indented else .compact

/-- The given functions, or else those of the environment, which is read only then. -/
def functionsOr (env : Environment) : Option (List String) → Except Error (List String)
  | some names => .ok names
  | none => do (← read env []).functions

/-- The layout asked for, or else that of the environment, which is read only then. -/
def styleOr (env : Environment) : Option Bool → Except Error Json.Style
  | some indent => .ok (layout indent)
  | none => (read env []).map fun s => layout s.indent

@[simp] theorem functionsOr_some (env : Environment) (names : List String) :
    functionsOr env (some names) = .ok names := rfl

@[simp] theorem styleOr_some (env : Environment) (indent : Bool) :
    styleOr env (some indent) = .ok (layout indent) := rfl

@[simp] theorem splitAt_nil (mark : Char) : splitAt mark [] = [[]] := rfl

theorem splitAt_ne_nil (mark : Char) (cs : List Char) : splitAt mark cs ≠ [] := by
  cases cs with
  | nil => simp
  | cons c rest =>
    unfold splitAt
    split
    · simp
    · split <;> simp

theorem isFurther_iff (name : String) : isFurther name = true ↔ name ≠ "" ∧ name ∉ builtInFunctions := by
  simp [isFurther]

end Settings

end CatalogFilter
