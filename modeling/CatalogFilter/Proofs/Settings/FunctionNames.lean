import CatalogFilter.Proofs.Document.Reading
import CatalogFilter.Proofs.Json.Texts
import CatalogFilter.Proofs.Text.Stripped

/-!
# Names of further functions

* `Settings.furtherNames` — the names that are left of a list of names as they are written.
* `Settings.extraNames_joined`, `Settings.extraNames_array` — names with commas between them, and names in a JSON array, with or
  without blanks around it.
* `Settings.read_append_extraFunctions` — an entry of the environment behind all others counts.
* `Document.exists_read_call_iff` — which calls without arguments are read.
* `Settings.functionsOr_spellings` — both spellings of the names stand for the same functions.

Blanks may be taken from the whole text first, since a comma is no blank: what is lost at the ends of the text would be lost at
the ends of the first name and the last one.
-/

namespace CatalogFilter

namespace Settings

open Text

/-! ## Texts of names -/

/-- The names in lower case and without blanks at their ends, as far as they are neither empty nor built in. -/
def furtherNames (names : List String) : List String :=
  (names.map fun name => lower (strip name)).filter fun name => name ≠ "" ∧ name ∉ builtInFunctions

/-- Blanks at the ends of names do not count. -/
theorem furtherNames_congr {names names' : List String} (same : names.map strip = names'.map strip) :
    furtherNames names = furtherNames names' := by
  have apart (names : List String) : (names.map fun name => lower (strip name)) = (names.map strip).map lower := by
    rw [List.map_map]
    rfl
  rw [furtherNames, furtherNames, apart, apart, same]

theorem extraNames_eq_ok {s : Settings} {raw : List String} (h : rawNames s.extraFunctions = .ok raw) :
    s.extraNames = .ok (furtherNames raw) := by
  rw [extraNames, h, Except.map, furtherNames]
  refine congrArg Except.ok (List.filter_congr fun name _ => ?_)
  rw [Bool.eq_iff_iff, isFurther_iff, decide_eq_true_iff]

/-- A text that does not begin with a bracket consists of names with commas between them. -/
theorem rawNames_of_commas {text : String} (noBracket : (strip text).toList.head? ≠ some '[') :
    rawNames text = .ok ((splitAt ',' (strip text).toList).map String.ofList) :=
  if_neg noBracket

/-- Names without commas are the parts of the text in which they stand with commas between them. -/
theorem splitAt_joined {names : List String} (nonempty : names ≠ []) (noComma : ∀ name ∈ names, ',' ∉ name.toList) :
    splitAt ',' (String.intercalate "," names).toList = names.map String.toList := by
  rw [String.toList_intercalate, splitAt_eq_splitOn]
  refine List.splitOn_intercalate ',' (fun cs member => ?_) (by simpa using nonempty)
  obtain ⟨name, among, rfl⟩ := List.mem_map.1 member
  exact noComma name among

/-- The parts of a text and the parts of what is left of it without blanks at its ends are the same but for such blanks. -/
theorem map_strip_splitAt_strip (text : String) :
    ((splitAt ',' (strip text).toList).map String.ofList).map strip =
      ((splitAt ',' text.toList).map String.ofList).map strip := by
  have apart (parts : List (List Char)) :
      (parts.map String.ofList).map strip = (parts.map stripList).map String.ofList := by
    rw [List.map_map, List.map_map]
    refine List.map_congr_left fun cs _ => ?_
    rw [Function.comp_apply, Function.comp_apply, strip, String.toList_ofList]
  rw [strip, String.toList_ofList, apart, apart, map_stripList_splitAt (by decide)]

/-- Names with commas between them. -/
theorem extraNames_joined {s : Settings} {names : List String} (noComma : ∀ name ∈ names, ',' ∉ name.toList)
    (text : s.extraFunctions = String.intercalate "," names)
    (noBracket : (strip (String.intercalate "," names)).toList.head? ≠ some '[') :
    s.extraNames = .ok (furtherNames names) := by
  rw [← text] at noBracket
  rw [extraNames_eq_ok (rawNames_of_commas noBracket), furtherNames_congr (map_strip_splitAt_strip _), text]
  by_cases empty : names = []
  · -- No names leave the empty text, of which the only part is no name.
    subst empty
    have part : (splitAt ',' (String.intercalate "," []).toList).map String.ofList = [""] := by simp
    rw [part]
    exact congrArg Except.ok (by decide)
  · have same : String.ofList ∘ String.toList = id := funext fun _ => String.ofList_toList
    rw [splitAt_joined empty noComma, List.map_map, same, List.map_id]

/-- What may stand between the tokens of JSON is blank. -/
theorem isBlank_of_isSpace {c : Char} (h : Json.isSpace c = true) : isBlank c = true := by
  simp only [Json.isSpace, Bool.or_eq_true, decide_eq_true_eq] at h
  rcases h with ((rfl | rfl) | rfl) | rfl <;> decide

/-- A text that is a JSON array but for blanks around it begins with a bracket behind them. -/
theorem head?_strip_of_read_list {text : String} {items : List Datum}
    (array : Json.read .lenient (strip text) = some (.list items)) : (strip text).toList.head? = some '[' := by
  have begins := Json.head?_of_read_list array
  rwa [Json.skipSpace_of_stops] at begins
  rw [strip, String.toList_ofList]
  intro c first
  have noBlank := stops_stripList _ c first
  by_contra space
  rw [isBlank_of_isSpace (by simpa using space)] at noBlank
  cases noBlank

/-- No word for nothing begins with a bracket. -/
theorem not_mem_nullWords_of_bracket {text : String} (bracket : (strip text).toList.head? = some '[') :
    text ∉ nullWords := by
  have each : ∀ word ∈ nullWords, (strip word).toList.head? ≠ some '[' := by decide
  exact fun member => each text member bracket

/-- Names in a JSON array, with or without blanks around it. -/
theorem extraNames_array {s : Settings} {names : List String}
    (array : Json.read .lenient (strip s.extraFunctions) = some (.list (names.map .str))) :
    s.extraNames = .ok (furtherNames names) := by
  refine extraNames_eq_ok ?_
  rw [rawNames, if_pos (head?_strip_of_read_list array), array]
  have same : Datum.plain ∘ Data.str = id := funext Datum.plain_str
  have printable : (names.map Data.str).all Datum.isPrintable = true := by simp [Datum.isPrintable]
  exact printing_eq_ok.2 ⟨printable, by rw [List.map_map, same, List.map_id]⟩

/-- Any blanks may stand around a JSON array of names. -/
theorem read_padded_array (names : List String) (style : Json.Style) (before after : List Char)
    (blank : ∀ c ∈ before, isBlank c = true) (blank' : ∀ c ∈ after, isBlank c = true) :
    Json.read .lenient
        (strip (String.ofList (before ++ Json.write style 0 (.list (names.map .str)) ++ after))) =
      some (.list (names.map .str)) := by
  obtain ⟨inner, written⟩ : ∃ inner, Json.write style 0 (.list (names.map .str)) = '[' :: (inner ++ [']']) := by
    cases names with
    | nil => exact ⟨[], rfl⟩
    | cons name names =>
      rw [List.map_cons, Json.write_list_cons, ← List.append_assoc]
      exact ⟨_, rfl⟩
  have kept : stripList ('[' :: (inner ++ [']'])) = '[' :: (inner ++ [']']) := by
    have bracket : isBlank '[' = false ∧ isBlank ']' = false := by decide
    simp [stripList, bracket]
  have arrays : Json.Rules.lenient.depth ≠ some 0 := by decide
  have back := Json.read_texts .lenient arrays style names
  rw [strip, String.toList_ofList, stripList_append_blank blank', stripList_blank_append blank, written, kept, ← written, back]

/-! ## Environments -/

/-- An entry behind all others counts. -/
theorem fromEnvironment?_append (env : Environment) (key text name : String) :
    fromEnvironment? (env ++ [(key, text)]) name =
      if lower key = lower name then some text else fromEnvironment? env name := by
  by_cases same : lower key = lower name <;> simp [fromEnvironment?, same]

/-- Where the other settings are in order, the text of further functions is what was set last, unless it is a word for nothing. -/
theorem read_append_extraFunctions {env : Environment} {s : Settings} (readable : read env [] = .ok s) {text : String}
    (noWord : text ∉ nullWords) :
    read (env ++ [(extraFunctionsName, text)]) [] = .ok ⟨text, s.indent, s.validateQueryables⟩ := by
  have apart : lower extraFunctionsName ≠ lower indentName ∧ lower extraFunctionsName ≠ lower validateName := by decide
  have word : nullWords.contains text = false := by simpa using noWord
  have given (env : Environment) (name : String) : source? env [] name = (fromEnvironment? env name).map .str := rfl
  rw [read, if_neg (by simp)] at readable ⊢
  simp only [given, fromEnvironment?_append, if_neg apart.1, if_neg apart.2, if_pos] at readable ⊢
  obtain ⟨_, -, readable⟩ := Outcome.bind_eq_ok.1 readable
  obtain ⟨indent, indents, readable⟩ := Outcome.bind_eq_ok.1 readable
  obtain ⟨validate, validates, readable⟩ := Outcome.bind_eq_ok.1 readable
  have kept : readExtraFunctions (.str text) = .ok text := by
    rw [readExtraFunctions, word]
    rfl
  rw [Option.map_some, readOr, kept, indents, validates, ← Except.ok.inj readable]
  rfl

end Settings

namespace Document

open Outcome

/-- The call of a function without arguments. -/
def call (name : String) : Datum :=
  .object [("op", .str name), ("args", .list [])]

/-- A call that is no operator is read just if it has a name and its function is known; letter case does not count. -/
theorem exists_read_call_iff {functions : List String} {name : String} (notCore : Text.lower name ∉ coreOperators) :
    (∃ n, read functions (call name) = .ok n) ↔
      Text.lower name ≠ "" ∧ Text.lower name ∈ functions.map Text.lower := by
  have form (f : String) :
      readForm (functions.map Text.lower) (.function f) [("args", .list [])] = Node.makeFunction f [] := by
    rw [readForm, if_pos rfl, readOperands]
    rfl
  rw [read, call]
  simp only [readChild_eq_ok]
  constructor
  · rintro ⟨n, head, args, known, frame, made⟩
    obtain ⟨_, ⟨⟩, named⟩ := frame.operator
    cases head with
    | core op =>
      refine absurd ((mem_coreOperators_iff _).2 ?_) notCore
      rw [named, Head.name, Operator.ofSymbol?_symbol]
      rfl
    | function f =>
      cases frame.arguments
      rw [form, makeFunction_eq_ok] at made
      rw [named]
      exact ⟨made.1, known.2⟩
  · rintro ⟨nonempty, known⟩
    refine ⟨.function (Text.lower name) [], .function (Text.lower name), [], ⟨notCore, known⟩, ⟨⟨name, rfl, rfl⟩, rfl⟩, ?_⟩
    rw [form, makeFunction_eq_ok, Text.lower_lower]
    exact ⟨nonempty, notCore, rfl⟩

end Document

namespace Settings

open Text

/-- The functions of settings are known under names that are in lower case and not empty. -/
theorem lower_of_mem_functions {names : List String} {f : String} (member : f ∈ builtInFunctions ++ furtherNames names) :
    lower f = f ∧ f ≠ "" := by
  rcases List.mem_append.1 member with builtIn | further
  · have each : ∀ f ∈ builtInFunctions, lower f = f ∧ f ≠ "" := by decide
    exact each f builtIn
  · obtain ⟨among, proper⟩ := List.mem_filter.1 further
    obtain ⟨name, -, rfl⟩ := List.mem_map.1 among
    exact ⟨lower_lower _, (of_decide_eq_true proper).1⟩

/-- The two spellings of further functions agree. Wherever the other settings are in order, names without commas stand for the
same functions whether they are written with commas between them, as long as that text does not begin with a bracket behind
blanks and is no word for nothing, or as a JSON array, with any blanks around it: for the built-in functions, and then for the
names in lower case and without blanks at their ends, in their order, but for empty and built-in ones. With these functions a
call that is no operator is read just if its name in lower case is one of them. -/
theorem functionsOr_spellings (env : Environment) (s : Settings) (readable : read env [] = .ok s) (names : List String)
    (noComma : ∀ name ∈ names, ',' ∉ name.toList)
    (noBracket : (strip (String.intercalate "," names)).toList.head? ≠ some '[')
    (noWord : String.intercalate "," names ∉ nullWords) (array : String)
    (listed : Json.read .lenient (strip array) = some (.list (names.map .str))) :
    ∃ functions,
      functions = builtInFunctions ++
        (names.map fun name => lower (strip name)).filter (fun name => name ≠ "" ∧ name ∉ builtInFunctions) ∧
      functionsOr (env ++ [(extraFunctionsName, String.intercalate "," names)]) none = .ok functions ∧
      functionsOr (env ++ [(extraFunctionsName, array)]) none = .ok functions ∧
      ∀ f, lower f ∉ coreOperators →
        ((∃ n, Document.read functions (Document.call f) = .ok n) ↔ lower f ∈ functions) := by
  have default {text : String} (noWord : text ∉ nullWords)
      (extra : ∀ s : Settings, s.extraFunctions = text → s.extraNames = .ok (furtherNames names)) :
      functionsOr (env ++ [(extraFunctionsName, text)]) none = .ok (builtInFunctions ++ furtherNames names) := by
    rw [functionsOr, read_append_extraFunctions readable noWord, Outcome.ok_bind, Settings.functions, extra _ rfl]
    rfl
  have noWord' : array ∉ nullWords := not_mem_nullWords_of_bracket (head?_strip_of_read_list listed)
  refine ⟨_, rfl, default noWord fun s text => extraNames_joined noComma text noBracket,
    default noWord' fun s text => extraNames_array (text ▸ listed), fun f notCore => ?_⟩
  have settled : (builtInFunctions ++ furtherNames names).map lower = builtInFunctions ++ furtherNames names := by
    rw [List.map_congr_left fun f member => (lower_of_mem_functions member).1, List.map_id']
  rw [Document.exists_read_call_iff notCore, ← furtherNames, settled]
  exact ⟨And.right, fun member => ⟨(lower_of_mem_functions member).2, member⟩⟩

/-- Names with blanks, an empty name and a name that is built in but for its letter case. -/
theorem functionsOr_spellings_area :
    ∃ functions, functions = builtInFunctions ++ ["area", "buffer"] ∧
      functionsOr ([("CQL2_EXTRA_FUNCTIONS", "old")] ++ [(extraFunctionsName, " Area,CASEI,,Buffer ")]) none =
        .ok functions ∧
      functionsOr ([("CQL2_EXTRA_FUNCTIONS", "old")] ++
        [(extraFunctionsName, "\t[\" Area\",\"CASEI\",\"\",\"Buffer \"] ")]) none = .ok functions ∧
      ∀ f, lower f ∉ coreOperators →
        ((∃ n, Document.read functions (Document.call f) = .ok n) ↔ lower f ∈ functions) := by
  have joined : String.intercalate "," [" Area", "CASEI", "", "Buffer "] = " Area,CASEI,,Buffer " := rfl
  have readable : read [("CQL2_EXTRA_FUNCTIONS", "old")] [] = .ok ⟨"old", false, false⟩ := rfl
  have blank : isBlank '\t' = true ∧ isBlank ' ' = true := by decide
  have listed := read_padded_array [" Area", "CASEI", "", "Buffer "] .compact ['\t'] [' '] (by simp [blank])
    (by simp [blank])
  have padded : String.ofList (['\t'] ++
      Json.write .compact 0 (.list ([" Area", "CASEI", "", "Buffer "].map .str)) ++ [' ']) =
        "\t[\" Area\",\"CASEI\",\"\",\"Buffer \"] " := by
    decide
  have left : ([" Area", "CASEI", "", "Buffer "].map fun name => lower (strip name)).filter
      (fun name => name ≠ "" ∧ name ∉ builtInFunctions) = ["area", "buffer"] := by
    decide
  rw [padded] at listed
  rw [← joined, ← left]
  exact functionsOr_spellings _ _ readable _ (by decide) (by decide) (by decide) _ listed

end Settings

end CatalogFilter
