import CatalogFilter.Proofs.Calendar.Distinct
import CatalogFilter.Proofs.Dialect.Wkt
import CatalogFilter.Proofs.Json.RoundTrip

/-!
# Texts without quotes

* `OffsetDateTime.free_text`, `Date.free_text` — written times and dates have no single quote, whatever their offset is.
* `Datum.Texts` — every text of a decoded value, at any depth and names of members included, has a property.
* `Json.free_write` — the JSON text of a value whose texts have no single quote has none either: what the writer adds is
  brackets, commas, colons, double quotes, escapes, digits and words.
-/

namespace CatalogFilter

open Quotes

/-! ## Texts in a row -/

namespace Quotes

@[simp] theorem free_nil : Free [] :=
  List.not_mem_nil

@[simp] theorem free_cons {c : Char} {cs : List Char} : Free (c :: cs) ↔ c ≠ '\'' ∧ Free cs := by
  simp [Free, eq_comm]

@[simp] theorem free_append {cs ds : List Char} : Free (cs ++ ds) ↔ Free cs ∧ Free ds := by
  simp [Free]

/-- Characters that are each written without a quote are written without a quote together. -/
theorem free_flatMap {f : Char → List Char} {cs : List Char} (each : ∀ c ∈ cs, Free (f c)) : Free (cs.flatMap f) := by
  intro quote
  obtain ⟨c, member, among⟩ := List.mem_flatMap.1 quote
  exact each c member among

end Quotes

/-! ## Numbers, dates and times -/

@[simp] theorem Digits.free_padded (width n : ℕ) : Free (Digits.padded width n) := by
  intro quote
  have digit := Digits.isDigit_of_mem_padded quote
  exact absurd digit (by decide)

@[simp] theorem Date.free_chars (d : Date) : Free d.chars := by
  simp [Date.chars_eq]

/-- A written date has no quote. -/
theorem Date.free_text (d : Date) : Free d.text.toList := by
  simp

/-- No character of a written timestamp is a quote. -/
theorem Timestamp.free_of_isWritten {cs : List Char} (h : ∀ c ∈ cs, IsWritten c) : Free cs := by
  intro quote
  rcases h _ quote with digit | mark
  · exact absurd digit (by decide)
  · exact absurd mark (by decide)

@[simp] theorem TimeOfDay.free_chars (t : TimeOfDay) : Free (t.chars .auto) :=
  Timestamp.free_of_isWritten fun _ => isWritten_chars

@[simp] theorem LocalDateTime.free_chars (d : LocalDateTime) : Free (d.chars 'T' .auto) := by
  simp [LocalDateTime.chars]

/-- A written time has no quote. -/
theorem OffsetDateTime.free_text (t : OffsetDateTime) : Free t.text.toList :=
  Timestamp.free_of_isWritten (t.isWritten_textAt .auto)

/-! ## Texts of a value -/

namespace Datum

mutual

/-- Whether every text of a value has a property, the names of members included. -/
def Texts (p : String → Prop) : Datum → Prop
  | .str s => p s
  | .list items => AllTexts p items
  | .tuple items => AllTexts p items
  | .object members => MemberTexts p members
  | _ => True

/-- `Texts` of each item. -/
def AllTexts (p : String → Prop) : List Datum → Prop
  | [] => True
  | d :: rest => Texts p d ∧ AllTexts p rest

/-- `Texts` of each member's value, and the property of its name. -/
def MemberTexts (p : String → Prop) : List (String × Datum) → Prop
  | [] => True
  | (name, d) :: rest => (p name ∧ Texts p d) ∧ MemberTexts p rest

end

variable {p : String → Prop}

mutual

/-- Thawing changes no text. -/
theorem texts_thaw (d : Datum) (h : d.Texts p) : d.thaw.Texts p := by
  cases d with
  | list items => exact allTexts_thawAll items h
  | tuple items => exact allTexts_thawAll items h
  | _ => exact h

theorem allTexts_thawAll (items : List Datum) (h : AllTexts p items) : AllTexts p (thawAll items) := by
  cases items with
  | nil => trivial
  | cons d rest => exact ⟨texts_thaw d h.1, allTexts_thawAll rest h.2⟩

end

theorem memberTexts_insertByName {m : String × Datum} {members : List (String × Datum)}
    (first : p m.1 ∧ m.2.Texts p) (h : MemberTexts p members) : MemberTexts p (Json.insertByName m members) := by
  induction members with
  | nil => exact ⟨first, h⟩
  | cons n rest ih =>
    unfold Json.insertByName
    split
    · exact ⟨first, h⟩
    · exact ⟨h.1, ih h.2⟩

mutual

/-- Members in another order have the same texts. -/
theorem texts_sortNames (d : Datum) (h : d.Texts p) : (Json.sortNames d).Texts p := by
  cases d with
  | list items => exact allTexts_sortNamesAll items h
  | tuple items => exact allTexts_sortNamesAll items h
  | object members => exact memberTexts_sortMembers members h
  | _ => exact h

theorem allTexts_sortNamesAll (items : List Datum) (h : AllTexts p items) : AllTexts p (Json.sortNamesAll items) := by
  cases items with
  | nil => trivial
  | cons d rest => exact ⟨texts_sortNames d h.1, allTexts_sortNamesAll rest h.2⟩

theorem memberTexts_sortMembers (members : List (String × Datum)) (h : MemberTexts p members) :
    MemberTexts p (Json.sortMembers members) := by
  cases members with
  | nil => trivial
  | cons m rest =>
    obtain ⟨name, d⟩ := m
    exact memberTexts_insertByName ⟨h.1.1, texts_sortNames d h.1.2⟩ (memberTexts_sortMembers rest h.2)

end

/-- A list of numbers has no text. -/
theorem allTexts_numbers (ns : List Number) : AllTexts p (ns.map .num) := by
  induction ns with
  | nil => trivial
  | cons n rest ih => exact ⟨trivial, ih⟩

end Datum

/-! ## JSON text -/

namespace Json

/-- A number has no quote. -/
theorem free_numberChars (n : Number) : Free (numberChars n) := by
  -- the numerals of both kinds have the characters of numbers only, and a quote is none
  have signed {cs : List Char} (written : ∃ negative m, cs = signed negative m) : Free cs := by
    obtain ⟨negative, m, rfl⟩ := written
    intro quote
    exact absurd (isNumberChar_of_mem_signed quote) (by decide)
  cases n with
  | int i =>
    obtain ⟨m, written, -⟩ := exists_intText i
    exact signed ⟨_, m, written⟩
  | float x =>
    cases x with
    | finite negative exponent fraction =>
      obtain ⟨m, written, -⟩ := exists_write numbers negative exponent fraction
      exact signed ⟨_, m, written⟩
    | nan => decide
    | infinite negative => simp [numberChars]

/-- An escape has a quote only for a quote. -/
theorem free_escapeChar {c : Char} (other : c ≠ '\'') : Free (escapeChar c) := by
  have digit : ∀ n < 16, Nat.digitChar n ≠ '\'' := by decide
  have low : Nat.digitChar (c.toNat % 16) ≠ '\'' := digit _ (Nat.mod_lt _ (by decide))
  have high (control : c.toNat < 0x20) : Nat.digitChar (c.toNat / 16) ≠ '\'' := digit _ (by omega)
  unfold escapeChar
  split_ifs <;> simp [*]

theorem free_stringChars {s : String} (h : Free s.toList) : Free (stringChars s) := by
  have inside : Free (s.toList.flatMap escapeChar) := by
    apply free_flatMap
    intro c member
    apply free_escapeChar
    rintro rfl
    exact h member
  simp [stringChars, inside]

theorem free_dateTimeChars (d : DateTime) : Free (dateTimeChars d) := by
  have zone : Free ((d.offset?.map offsetChars).getD []) := by
    cases d.offset? with
    | none => exact free_nil
    | some o =>
      show Free (offsetChars o)
      unfold offsetChars
      split <;> simp
  simp [dateTimeChars, zone]

theorem free_lineBreak (s : Style) (level : ℕ) : Free (s.lineBreak level) := by
  cases s with
  | compact => exact free_nil
  | indented => simp [Style.lineBreak, Free, List.mem_replicate]

theorem free_colon (s : Style) : Free s.colon := by
  cases s <;> decide

/-- An array has no quote if the row of its items has none. -/
theorem free_array {s : Style} {level : ℕ} {items : List Datum} (h : Free (writeItems s (level + 1) items)) :
    Free (write s level (.list items)) := by
  cases items with
  | nil => simp [write]
  | cons d rest =>
    rw [write_list_cons]
    simp [h, free_lineBreak]

mutual

/-- The JSON text of a value whose texts have no quote has none. -/
theorem free_write (s : Style) (level : ℕ) (d : Datum) (h : d.Texts fun t => Free t.toList) :
    Free (write s level d) := by
  cases d with
  | null => simp [write]
  | bool b => cases b <;> simp [write]
  | num n => exact free_numberChars n
  | str t => exact free_stringChars h
  | list items => exact free_array (free_writeItems s (level + 1) items h)
  | tuple items =>
    rw [write_tuple]
    exact free_array (free_writeItems s (level + 1) items h)
  | object members =>
    cases members with
    | nil => simp [write]
    | cons m rest =>
      rw [write_object_cons]
      simp [free_writeMembers s (level + 1) (m :: rest) h, free_lineBreak]
  | datetime d => exact free_dateTimeChars d
  | date d => simp [write]
  | other a => exact free_nil

/-- So has a row of items. -/
theorem free_writeItems (s : Style) (level : ℕ) (items : List Datum)
    (h : Datum.AllTexts (fun t => Free t.toList) items) : Free (writeItems s level items) := by
  cases items with
  | nil => exact free_nil
  | cons d rest =>
    have first := free_write s level d h.1
    have others := free_writeItems s level rest h.2
    rw [writeItems_cons]
    split <;> simp [free_lineBreak, first, others]

/-- So has a row of members. -/
theorem free_writeMembers (s : Style) (level : ℕ) (members : List (String × Datum))
    (h : Datum.MemberTexts (fun t => Free t.toList) members) : Free (writeMembers s level members) := by
  cases members with
  | nil => exact free_nil
  | cons m rest =>
    obtain ⟨name, d⟩ := m
    have key := free_stringChars h.1.1
    have first := free_write s level d h.1.2
    have others := free_writeMembers s level rest h.2
    rw [writeMembers_cons]
    split <;> simp [free_lineBreak, free_colon, key, first, others]

end

end Json

/-! ## Shapes -/

/-- The JSON text of a shape has no quote if the type and the coordinates of a geometry have none. -/
theorem free_shapeJson {s : Shape} {json : String} (written : shapeJson s = .ok json)
    (h : ∀ g, s = .geometry g → Free g.type.toList ∧ g.coordinates.Texts fun t => Free t.toList) : Free json.toList := by
  have texts : s.toDocument.Texts fun t => Free t.toList := by
    cases s with
    | bbox extent => exact ⟨⟨by decide, Datum.allTexts_numbers extent⟩, trivial⟩
    | geometry g =>
      obtain ⟨type, coordinates⟩ := h g rfl
      have own := Datum.texts_thaw _ coordinates
      show (g.toGeoJson true).Texts fun t => Free t.toList
      unfold Geometry.toGeoJson
      split
      · exact ⟨⟨by decide, type⟩, ⟨by decide, own⟩, ⟨by decide, Datum.allTexts_numbers _⟩, trivial⟩
      · exact ⟨⟨by decide, type⟩, ⟨by decide, own⟩, trivial⟩
  unfold shapeJson sortedJson at written
  split at written
  · rename_i text found
    unfold Json.write? at found
    split at found
    · cases written
      cases found
      rw [String.toList_ofList]
      exact Json.free_write _ _ _ (Datum.texts_sortNames _ texts)
    · cases found
  · cases written

end CatalogFilter
