import CatalogFilter.Dialect.Wkt
import CatalogFilter.Proofs.Datum.Printable
import CatalogFilter.Proofs.Dialect.Quotes
import CatalogFilter.Proofs.Json.NumberText
import CatalogFilter.Proofs.Outcome
import CatalogFilter.Proofs.Text.Joined

/-!
# Coordinates as well-known text

* `Wkt.level` — the text of coordinates by the depth of their nesting, of which `Wkt.ring`, `Wkt.rings` and
  `Wkt.groups` are the depths one to three.
* `Wkt.Nested` — coordinates that are nested to a depth around positions of numbers.
* `Geometry.exists_toWkt` — a geometry of one of the six types with such coordinates has a text, without quotes, if its
  numbers have one.
* `Wkt.tells_level` — the text of coordinates tells them, when their positions are non-empty and their numbers finite.
* `Wkt.tells_enclosed` — in parentheses it tells them whatever stands behind it.
* `Geometry.toWkt_append_inj` — with the word in front it tells the type of the geometry as well.
* `Geometry.exists_toWkt_eq_iff` — so two geometries have one text only if types and coordinates are the same.
-/

namespace CatalogFilter

namespace Wkt

/-! ## Depths -/

/-- The text of coordinates that are nested to a depth. -/
def level : ℕ → Datum → Except Error String
  | 0, d => position d
  | k + 1, d => do
    let items ← parts d
    let texts ← items.mapM (level k)
    .ok (listed texts)

/-- The word that a type of geometry is written with, and the depth to which positions are nested in it. -/
def form? : String → Option (String × ℕ)
  | "Point" => some ("POINT", 0)
  | "MultiPoint" => some ("MULTIPOINT", 1)
  | "LineString" => some ("LINESTRING", 1)
  | "MultiLineString" => some ("MULTILINESTRING", 2)
  | "Polygon" => some ("POLYGON", 2)
  | "MultiPolygon" => some ("MULTIPOLYGON", 3)
  | _ => none

/-- Coordinates in parentheses; those of depth zero have none of their own. -/
def enclosed (k : ℕ) (text : String) : String :=
  if k = 0 then "(" ++ text ++ ")" else text

/-- Whether coordinates are nested to a depth around positions, lists of numbers with a property. -/
def Nested (p : List Number → Prop) : ℕ → Datum → Prop
  | 0, .tuple items => ∃ ns : List Number, items = ns.map .num ∧ p ns
  | k + 1, .tuple items => ∀ d ∈ items, Nested p k d
  | _, _ => False

end Wkt

/-- Whether a geometry is of one of the six types and its coordinates are nested to the depth of the type around
positions with a property. -/
def Geometry.HasPositions (p : List Number → Prop) (g : Geometry) : Prop :=
  ∃ word k, Wkt.form? g.type = some (word, k) ∧ Wkt.Nested p k g.coordinates

/-- The text of a geometry is the word of its type and its coordinates in parentheses. -/
theorem Geometry.toWkt_eq {g : Geometry} {word : String} {k : ℕ} (h : Wkt.form? g.type = some (word, k)) :
    g.toWkt = (Wkt.level k g.coordinates).map fun text => word ++ Wkt.enclosed k text := by
  unfold Wkt.form? at h
  split at h <;> rename_i type <;> cases h <;> rw [toWkt, type]
  · have shape (text : String) : "POINT(" ++ text ++ ")" = "POINT" ++ ("(" ++ text ++ ")") := by
      rw [← String.append_assoc, ← String.append_assoc]
      rfl
    simp only [Wkt.enclosed, if_pos, shape]
    rfl
  all_goals rfl

namespace Wkt

variable {p : List Number → Prop} {k : ℕ} {d : Datum}

/-- A property that implies another one on each position implies it on nested ones. -/
theorem Nested.imp {q : List Number → Prop} (h : Nested p k d) (implies : ∀ ns, p ns → q ns) : Nested q k d := by
  induction k generalizing d with
  | zero =>
    cases d with
    | tuple items =>
      obtain ⟨ns, rfl, position⟩ := h
      exact ⟨ns, rfl, implies ns position⟩
    | _ => cases h
  | succ k ih =>
    cases d with
    | tuple items => exact fun d member => ih (h d member)
    | _ => cases h

/-! ## Texts -/

/-- Positions are written as their numbers with spaces between them. -/
theorem position_numbers (ns : List Number) :
    position (.tuple (ns.map .num)) =
      printing (Datum.isPrintable (.tuple (ns.map .num))) (String.intercalate " " (ns.map Number.text)) := by
  have texts : (ns.map Data.num).map Datum.plain = ns.map Number.text := by
    rw [List.map_map]
    exact List.map_congr_left fun n _ => Datum.plain_num n
  rw [← texts, Datum.isPrintable, Datum.allPrintable_eq_all]
  rfl

/-- The text of a position, where it has one. -/
theorem text_of_position {ns : List Number} {text : String} (written : position (.tuple (ns.map .num)) = .ok text) :
    String.intercalate " " (ns.map Number.text) = text := by
  rw [position_numbers] at written
  exact (printing_eq_ok.1 written).2

/-- Coordinates of a depth are written item by item. -/
theorem level_succ_eq_ok {items : List Datum} {text : String} :
    level (k + 1) (.tuple items) = .ok text ↔
      ∃ texts, List.Forall₂ (fun d t => level k d = .ok t) items texts ∧ listed texts = text := by
  have unfolded : level (k + 1) (.tuple items) = items.mapM (level k) >>= fun texts => .ok (listed texts) := rfl
  rw [unfolded, Outcome.bind_eq_ok]
  simp only [Outcome.mapM_eq_ok, Except.ok.injEq]

theorem toList_listed (texts : List String) :
    (listed texts).toList = '(' :: ([',', ' '].intercalate (texts.map String.toList) ++ [')']) := by
  rw [listed, String.toList_append, String.toList_append, String.toList_intercalate]
  rfl

/-- The text of a number has no quote. -/
theorem free_text (n : Number) : Quotes.Free n.text.toList := by
  have finite {m : Number} (h : m.IsFinite) : Quotes.Free m.text.toList := by
    obtain ⟨c, cs, written, -, chars⟩ := Number.exists_text_eq_cons h
    intro quote
    rw [written] at quote
    exact absurd (chars _ quote) (by decide)
  cases n with
  | int i => exact finite trivial
  | float x =>
    cases x with
    | nan => decide
    | infinite negative => cases negative <;> decide
    | finite negative exponent fraction => exact finite rfl

/-- A row of texts without quotes has none, if the separator has none. -/
theorem free_intercalate {separator : List Char} {texts : List (List Char)} (between : Quotes.Free separator)
    (each : ∀ cs ∈ texts, Quotes.Free cs) : Quotes.Free (separator.intercalate texts) := by
  intro quote
  rcases Text.mem_of_mem_intercalate quote with h | ⟨cs, member, h⟩
  · exact between h
  · exact each cs member h

/-- Coordinates nested to a depth have a text of that depth if their numbers have one, and it has no quote. -/
theorem exists_level (h : Nested p k d) :
    ∃ text, level k d = printing d.isPrintable text ∧ Quotes.Free text.toList := by
  induction k generalizing d with
  | zero =>
    cases d with
    | tuple items =>
      obtain ⟨ns, rfl, -⟩ := h
      refine ⟨_, position_numbers ns, ?_⟩
      rw [String.toList_intercalate, List.map_map]
      refine free_intercalate (by decide) fun cs member => ?_
      obtain ⟨n, -, rfl⟩ := List.mem_map.1 member
      exact free_text n
    | _ => cases h
  | succ k ih =>
    cases d with
    | tuple items =>
      obtain ⟨texts, each⟩ := Outcome.exists_forall₂ fun d member => ih (h d member)
      have written : List.Forall₂ (fun d t => level k d = printing d.isPrintable t) items texts :=
        each.imp fun _ _ => And.left
      have free : ∀ text ∈ texts, Quotes.Free text.toList := by
        intro text member
        obtain ⟨d, -, -, free⟩ := Outcome.exists_of_mem_right each text member
        exact free
      have whole : level (k + 1) (.tuple items) = (items.mapM (level k)).map listed := rfl
      refine ⟨listed texts, ?_, ?_⟩
      · rw [whole, mapM_printing written, printing_map, Datum.isPrintable, Datum.allPrintable_eq_all]
      have row : Quotes.Free ([',', ' '].intercalate (texts.map String.toList)) := by
        refine free_intercalate (by decide) fun cs member => ?_
        obtain ⟨text, among, rfl⟩ := List.mem_map.1 member
        exact free text among
      rw [toList_listed]
      simpa [Quotes.Free] using row
    | _ => cases h

end Wkt

/-- A geometry of one of the six types with coordinates nested to the depth of its type has a text without quotes, if its
numbers have one. -/
theorem Geometry.exists_toWkt {p : List Number → Prop} {g : Geometry} (h : g.HasPositions p) :
    ∃ text, g.toWkt = printing g.coordinates.isPrintable text ∧ Quotes.Free text.toList := by
  obtain ⟨word, k, form, nested⟩ := h
  obtain ⟨text, written, free⟩ := Wkt.exists_level nested
  have plain : Quotes.Free word.toList := by
    unfold Wkt.form? at form
    split at form <;> cases form <;> decide
  refine ⟨word ++ Wkt.enclosed k text, by rw [toWkt_eq form, written, printing_map], ?_⟩
  unfold Wkt.enclosed
  unfold Quotes.Free at *
  split <;> simp [plain, free]

/-- It has a text exactly if they have. -/
theorem Geometry.exists_toWkt_iff {p : List Number → Prop} {g : Geometry} (h : g.HasPositions p) :
    (∃ text, g.toWkt = .ok text) ↔ g.coordinates.isPrintable = true := by
  obtain ⟨text, written, -⟩ := exists_toWkt h
  rw [written]
  simp only [printing_eq_ok, exists_and_left, exists_eq', and_true]

/-! ## Texts that tell coordinates -/

namespace Wkt

/-- Whether a position has numbers, all of them finite. -/
def IsPosition (ns : List Number) : Prop :=
  ns ≠ [] ∧ ∀ n ∈ ns, n.IsFinite

/-- A finite number and its text. -/
def NumberWritten (n : Number) (cs : List Char) : Prop :=
  n.IsFinite ∧ n.text.toList = cs

/-- Coordinates nested to a depth around positions of finite numbers, and their text of that depth. -/
def Written (k : ℕ) (d : Datum) (cs : List Char) : Prop :=
  Nested IsPosition k d ∧ ∃ text, level k d = .ok text ∧ text.toList = cs

/-- Whether a text begins with a closing parenthesis. -/
def Closes (rest : List Char) : Prop :=
  ∃ more, rest = ')' :: more

/-- Whether a text begins with a comma or a closing parenthesis. -/
def Ends (rest : List Char) : Prop :=
  ∃ c more, rest = c :: more ∧ (c = ',' ∨ c = ')')

theorem Closes.ends {rest : List Char} (h : Closes rest) : Ends rest := by
  obtain ⟨more, rfl⟩ := h
  exact ⟨')', more, rfl, .inr rfl⟩

theorem Ends.numeral {rest : List Char} (h : Ends rest) : Json.Numeral.Ends rest := by
  obtain ⟨c, more, rfl, rfl | rfl⟩ := h
  · exact Text.stops_cons.2 rfl
  · exact Text.stops_cons.2 rfl

/-- Finite numbers and their texts. -/
theorem forall₂_numberWritten {ns : List Number} (finite : ∀ n ∈ ns, n.IsFinite) :
    List.Forall₂ NumberWritten ns (ns.map (String.toList ∘ Number.text)) := by
  rw [List.forall₂_map_right_iff, List.forall₂_same]
  exact fun n member => ⟨finite n member, rfl⟩

/-- A finite number is told by its text. -/
theorem tells_number (n : Number) : Text.Tells NumberWritten Eq Json.Numeral.Ends n := by
  rintro m cs ds rest rest' ⟨finite, rfl⟩ ⟨finite', rfl⟩ ends ends' same
  exact Number.text_append_inj finite finite' ends ends' same

/-- The text of a number begins neither with a separator nor with what closes a row. -/
theorem NumberWritten.begins {n : Number} {cs : List Char} (h : NumberWritten n cs) :
    ∃ c more, cs = c :: more ∧ (c.isDigit = true ∨ c = '-') := by
  obtain ⟨finite, rfl⟩ := h
  obtain ⟨c, more, written, first, -⟩ := Number.exists_text_eq_cons finite
  exact ⟨c, more, written, first⟩

/-- Numbers with spaces between them. -/
theorem rows_position : Text.Rows NumberWritten Json.Numeral.Ends Ends [' '] where
  between rest := Text.stops_cons.2 rfl
  behind rest h := h.numeral
  notSeparator rest more h same := by
    obtain ⟨c, others, rfl, rfl | rfl⟩ := h
    · cases same
    · cases same
  notItem n ds written rest more _ h same := by
    obtain ⟨c, others, rfl, first⟩ := written.begins
    obtain ⟨c', others', rfl, rfl | rfl⟩ := h
    · cases same
      revert first
      decide
    · cases same
      revert first
      decide

/-- The text of coordinates begins neither with a comma nor with a closing parenthesis. -/
theorem Written.begins {cs : List Char} (h : Written k d cs) :
    ∃ c more, cs = c :: more ∧ c ≠ ',' ∧ c ≠ ')' := by
  obtain ⟨nested, text, written, rfl⟩ := h
  cases k with
  | zero =>
    cases d with
    | tuple items =>
      obtain ⟨ns, rfl, nonempty, finite⟩ := nested
      cases ns with
      | nil => exact absurd rfl nonempty
      | cons n ns =>
        have shape := text_of_position written
        obtain ⟨c, more, begins, first⟩ := NumberWritten.begins ⟨finite n List.mem_cons_self, rfl⟩
        have row : text.toList = (c :: more) ++
            if (ns.map Number.text).map String.toList = [] then []
            else " ".toList ++ " ".toList.intercalate ((ns.map Number.text).map String.toList) := by
          rw [← shape, String.toList_intercalate, List.map_cons, List.map_cons, Text.intercalate_cons, begins]
        refine ⟨c, _, row.trans List.cons_append, ?_, ?_⟩
        · rintro rfl
          revert first
          decide
        · rintro rfl
          revert first
          decide
    | _ => cases nested
  | succ k =>
    cases d with
    | tuple items =>
      obtain ⟨texts, -, rfl⟩ := level_succ_eq_ok.1 written
      exact ⟨'(', _, toList_listed texts, by decide, by decide⟩
    | _ => cases nested

/-- Coordinates with commas between them. -/
theorem rows_level (k : ℕ) : Text.Rows (Written k) Ends Closes [',', ' '] where
  between rest := ⟨',', _, rfl, .inl rfl⟩
  behind rest h := h.ends
  notSeparator rest more h same := by
    obtain ⟨others, rfl⟩ := h
    cases same
  notItem d ds written rest more _ h same := by
    obtain ⟨c, others, rfl, -, notClosing⟩ := written.begins
    obtain ⟨others', rfl⟩ := h
    cases same
    exact notClosing rfl

/-- The texts of the items of nested coordinates. -/
theorem forall₂_written {items : List Datum} {texts : List String} (nested : Nested IsPosition (k + 1) (.tuple items))
    (each : List.Forall₂ (fun d t => level k d = .ok t) items texts) :
    List.Forall₂ (Written k) items (texts.map String.toList) := by
  rw [List.forall₂_map_right_iff]
  change ∀ d ∈ items, Nested IsPosition k d at nested
  induction each with
  | nil => exact .nil
  | @cons d text items texts first others ih =>
    refine .cons ⟨nested d List.mem_cons_self, text, first, rfl⟩ (ih fun e h => nested e (List.mem_cons_of_mem d h))

/-- Positions are told by their text. -/
theorem tells_position (d : Datum) : Text.Tells (Written 0) Eq Ends d := by
  rintro e cs ds rest rest' ⟨nested, text, written, rfl⟩ ⟨nested', text', written', rfl⟩ ends ends' same
  cases d with
  | tuple items =>
    cases e with
    | tuple items' =>
      obtain ⟨ns, rfl, -, finite⟩ := nested
      obtain ⟨ms, rfl, -, finite'⟩ := nested'
      rw [← text_of_position written, ← text_of_position written', String.toList_intercalate,
        String.toList_intercalate, List.map_map, List.map_map] at same
      obtain ⟨equal, rests⟩ := Text.Tells.row rows_position (fun n _ => tells_number n) (forall₂_numberWritten finite)
        (forall₂_numberWritten finite') ends ends' same
      rw [List.forall₂_eq_eq_eq] at equal
      exact ⟨by rw [equal], rests⟩
    | _ => cases nested'
  | _ => cases nested

/-- Coordinates in parentheses are told by their text, whatever stands behind it, if their items are. -/
theorem tells_listed (each : ∀ d, Text.Tells (Written k) Eq Ends d) (d : Datum) :
    Text.Tells (Written (k + 1)) Eq (fun _ => True) d := by
  rintro e cs ds rest rest' ⟨nested, text, written, rfl⟩ ⟨nested', text', written', rfl⟩ - - same
  cases d with
  | tuple items =>
    cases e with
    | tuple items' =>
      obtain ⟨texts, parts, rfl⟩ := level_succ_eq_ok.1 written
      obtain ⟨texts', parts', rfl⟩ := level_succ_eq_ok.1 written'
      rw [toList_listed, toList_listed, List.cons_append, List.cons_append, List.append_assoc, List.append_assoc] at same
      obtain ⟨equal, rests⟩ := Text.Tells.row (rows_level k) (fun d _ => each d) (forall₂_written nested parts)
        (forall₂_written nested' parts') ⟨rest, rfl⟩ ⟨rest', rfl⟩ (List.cons.inj same).2
      rw [List.forall₂_eq_eq_eq] at equal
      exact ⟨by rw [equal], (List.cons.inj rests).2⟩
    | _ => cases nested'
  | _ => cases nested

/-- Coordinates nested to a depth are told by their text. -/
theorem tells_level (k : ℕ) (d : Datum) : Text.Tells (Written k) Eq Ends d := by
  induction k generalizing d with
  | zero => exact tells_position d
  | succ k ih => exact (tells_listed ih d).imp fun _ _ => trivial

/-- Coordinates nested to a depth around positions of finite numbers, and their text in parentheses. -/
def Enclosed (k : ℕ) (d : Datum) (cs : List Char) : Prop :=
  Nested IsPosition k d ∧ ∃ text, level k d = .ok text ∧ (enclosed k text).toList = cs

theorem toList_enclosed_zero (text : String) : (enclosed 0 text).toList = '(' :: (text.toList ++ [')']) := by
  rw [enclosed, if_pos rfl, String.toList_append, String.toList_append]
  rfl

/-- Coordinates in parentheses begin with one. -/
theorem Enclosed.begins {cs : List Char} (h : Enclosed k d cs) : ∃ more, cs = '(' :: more := by
  obtain ⟨nested, text, written, rfl⟩ := h
  cases k with
  | zero => exact ⟨_, toList_enclosed_zero text⟩
  | succ k =>
    cases d with
    | tuple items =>
      obtain ⟨texts, -, rfl⟩ := level_succ_eq_ok.1 written
      exact ⟨_, toList_listed texts⟩
    | _ => cases nested

/-- They are told by their text, whatever stands behind it. -/
theorem tells_enclosed (k : ℕ) (d : Datum) : Text.Tells (Enclosed k) Eq (fun _ => True) d := by
  rintro e cs ds rest rest' ⟨nested, text, written, rfl⟩ ⟨nested', text', written', rfl⟩ - - same
  cases k with
  | zero =>
    rw [toList_enclosed_zero, toList_enclosed_zero, List.cons_append, List.cons_append, List.append_assoc,
      List.append_assoc] at same
    obtain ⟨equal, rests⟩ := tells_position d ⟨nested, text, written, rfl⟩ ⟨nested', text', written', rfl⟩
      ⟨')', _, rfl, .inr rfl⟩ ⟨')', _, rfl, .inr rfl⟩ (List.cons.inj same).2
    exact ⟨equal, (List.cons.inj rests).2⟩
  | succ k =>
    exact tells_listed (tells_level k) d ⟨nested, text, written, rfl⟩ ⟨nested', text', written', rfl⟩ trivial trivial same

end Wkt

/-- The text of a geometry is the word of its type and its coordinates in parentheses. -/
theorem Geometry.exists_enclosed {g : Geometry} {word text : String} {k : ℕ} (form : Wkt.form? g.type = some (word, k))
    (nested : Wkt.Nested Wkt.IsPosition k g.coordinates) (written : g.toWkt = .ok text) :
    ∃ cs, text.toList = word.toList ++ cs ∧ Wkt.Enclosed k g.coordinates cs := by
  rw [toWkt_eq form] at written
  obtain ⟨inside, level, rfl⟩ := Outcome.map_eq_ok.1 written
  exact ⟨_, String.toList_append, nested, inside, level, rfl⟩

/-! ## Texts that tell geometries -/

/-- No two types have one word. -/
theorem Wkt.form?_inj {type type' word : String} {k k' : ℕ} (form : form? type = some (word, k))
    (form' : form? type' = some (word, k')) : type = type' ∧ k = k' := by
  unfold form? at form form'
  split at form <;> cases form
  all_goals
    -- All types but one have another word.
    split at form' <;> simp only [Option.some.injEq, Prod.mk.injEq, String.reduceEq, false_and, reduceCtorEq] at form'
    exact ⟨rfl, form'.2⟩

/-- The word of a type has no parenthesis. -/
theorem Wkt.ne_parenthesis_of_mem_word {type word : String} {k : ℕ} (form : form? type = some (word, k)) {c : Char}
    (member : c ∈ word.toList) : (c != '(') = true := by
  have free : '(' ∉ word.toList := by
    unfold form? at form
    split at form <;> cases form <;> decide
  exact bne_iff_ne.2 (ne_of_mem_of_not_mem member free)

/-- A geometry is told by its text, whatever stands behind it. -/
theorem Geometry.toWkt_append_inj {g h : Geometry} {text text' : String} {rest rest' : List Char}
    (positions : g.HasPositions Wkt.IsPosition) (positions' : h.HasPositions Wkt.IsPosition) (written : g.toWkt = .ok text)
    (written' : h.toWkt = .ok text') (same : text.toList ++ rest = text'.toList ++ rest') :
    g.type = h.type ∧ g.coordinates = h.coordinates ∧ rest = rest' := by
  obtain ⟨word, k, form, nested⟩ := positions
  obtain ⟨word', k', form', nested'⟩ := positions'
  obtain ⟨cs, begins, coordinates⟩ := exists_enclosed form nested written
  obtain ⟨cs', begins', coordinates'⟩ := exists_enclosed form' nested' written'
  rw [begins, begins', List.append_assoc, List.append_assoc] at same
  -- Both words end where the first parenthesis stands.
  have stops {cs : List Char} (opens : ∃ more, cs = '(' :: more) (rest : List Char) :
      Text.Stops (· != '(') (cs ++ rest) := by
    obtain ⟨more, rfl⟩ := opens
    exact Text.stops_cons.2 rfl
  obtain ⟨words, behind⟩ := Text.run_append_inj (fun _ => Wkt.ne_parenthesis_of_mem_word form)
    (fun _ => Wkt.ne_parenthesis_of_mem_word form') (stops coordinates.begins rest) (stops coordinates'.begins rest') same
  obtain rfl := String.toList_inj.1 words
  obtain ⟨types, rfl⟩ := Wkt.form?_inj form form'
  obtain ⟨equal, rests⟩ := Wkt.tells_enclosed k _ coordinates coordinates' trivial trivial behind
  exact ⟨types, equal, rests⟩

/-- The text of a geometry determines it. Of two geometries of the six types whose coordinates are nested to the depth of
their type, around positions of one or more finite numbers, each has a text exactly if its numbers have one, and the texts
are the same only if the types and the coordinates are. The lists around positions may be of any length, and empty. -/
theorem Geometry.exists_toWkt_eq_iff {g h : Geometry} (positions : g.HasPositions Wkt.IsPosition)
    (positions' : h.HasPositions Wkt.IsPosition) :
    ((∃ text, g.toWkt = .ok text) ↔ g.coordinates.isPrintable = true) ∧
      ((∃ text, h.toWkt = .ok text) ↔ h.coordinates.isPrintable = true) ∧
      ∀ text text', g.toWkt = .ok text → h.toWkt = .ok text' →
        (text = text' ↔ g.type = h.type ∧ g.coordinates = h.coordinates) := by
  refine ⟨exists_toWkt_iff positions, exists_toWkt_iff positions', fun text text' written written' => ⟨?_, ?_⟩⟩
  · rintro rfl
    obtain ⟨types, coordinates, -⟩ := toWkt_append_inj positions positions' written written' (Eq.refl (text.toList ++ []))
    exact ⟨types, coordinates⟩
  · rintro ⟨types, coordinates⟩
    have same : g.toWkt = h.toWkt := by rw [toWkt, toWkt, types, coordinates]
    exact Except.ok.inj (written.symm.trans (same.trans written'))

/-- Without a number in each position the text leaves it open how many there are. -/
example : (⟨"MultiPoint", .tuple [.tuple []], none⟩ : Geometry).toWkt = (⟨"MultiPoint", .tuple [], none⟩ : Geometry).toWkt :=
  rfl

/-- Areas with whole numbers as their positions. -/
def Wkt.areas (polygons : List (List (List (List ℤ)))) : Geometry where
  type := "MultiPolygon"
  coordinates := .tuple <| polygons.map fun rings => .tuple <| rings.map fun ring => .tuple <|
    ring.map fun position => .tuple ((position.map Number.int).map .num)
  bbox := none

/-- An area with a second ring that has no positions. -/
def Wkt.ringInside : Geometry :=
  areas [[[[0, 0], [1, 2, 3]], []]]

/-- An area, and another one with a ring that has no positions. -/
def Wkt.ringApart : Geometry :=
  areas [[[[0, 0], [1, 2, 3]]], [[]]]

/-- Areas have positions if each position has a number. -/
theorem Wkt.hasPositions_areas {polygons : List (List (List (List ℤ)))}
    (numbers : ∀ rings ∈ polygons, ∀ ring ∈ rings, [] ∉ ring) : (areas polygons).HasPositions IsPosition := by
  refine ⟨"MULTIPOLYGON", 3, rfl, ?_⟩
  simp only [areas, Nested, List.forall_mem_map]
  intro rings among ring inside position within
  refine ⟨position.map Number.int, rfl, ?_, ?_⟩
  · intro none
    rw [List.map_eq_nil_iff] at none
    exact numbers rings among ring inside (none ▸ within)
  · intro n member
    obtain ⟨i, -, rfl⟩ := List.mem_map.1 member
    trivial

/-- A ring without positions is told from an area that consists of one. -/
theorem Geometry.exists_toWkt_eq_iff_emptyRing :
    Wkt.ringInside.HasPositions Wkt.IsPosition ∧ Wkt.ringApart.HasPositions Wkt.IsPosition ∧
      ∃ text text', Wkt.ringInside.toWkt = .ok text ∧ Wkt.ringApart.toWkt = .ok text' ∧
        (text = text' ↔
          Wkt.ringInside.type = Wkt.ringApart.type ∧ Wkt.ringInside.coordinates = Wkt.ringApart.coordinates) := by
  have inside : Wkt.ringInside.HasPositions Wkt.IsPosition := Wkt.hasPositions_areas (by decide)
  have apart : Wkt.ringApart.HasPositions Wkt.IsPosition := Wkt.hasPositions_areas (by decide)
  obtain ⟨first, second, same⟩ := exists_toWkt_eq_iff inside apart
  obtain ⟨text, written⟩ := first.2 (by decide +kernel)
  obtain ⟨text', written'⟩ := second.2 (by decide +kernel)
  exact ⟨inside, apart, text, text', written, written', same text text' written written'⟩

end CatalogFilter
