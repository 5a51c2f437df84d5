import CatalogFilter.Proofs.Outcome
import CatalogFilter.Proofs.Queryables.Slots

/-!
# Schemas of properties that are written and read back

* `readField` — the value of a field under one of its names; where there is no null, it is missing only if the object has no such
  member.
* `Slot.fits_text`, `Slot.fits_float`, `Slot.fits_items` — fields that were read fit the object that they were read from.
* `Slot.Rewrites.text`, `Slot.Rewrites.float`, `Slot.Rewrites.items` — fields that were written are read back.
* `Slot.writtenMembers_membersBesides` — all other members are written as they are.
* `QueryableProperty.Reads` — which schema is read from which members.
* `QueryableProperty.exists_rewritten` — a schema is read back from what is written of it, but for bounds that are not finite.
* `QueryableProperty.withFiniteBounds_eq_self` — only bounds that were given as texts can be such.
-/

namespace CatalogFilter

open Document (Members valueOf valueOf_of_lookup)
open Json (IsJson isJson_list_iff isJson_object_iff nulled depth depthAll depthMembers)
open Outcome
open Slot (depthMembers_le_iff)

/-! ## Fields -/

/-- The value of a field that may be null and stands under one of two names. -/
def readField {α : Type} (members : Members) (label synonym : String) (read : Datum → Except Error α) :
    Except Error (Option α) :=
  Field.optional read (valueOf members (Field.keyOf members label synonym))

section Fields

variable {members : Members} {label synonym : String} {α : Type} {read : Datum → Except Error α}

theorem optional_of_ne_null {d : Datum} (h : d ≠ .null) : Field.optional read d = (read d).map some := by
  unfold Field.optional
  split
  · exact absurd rfl h
  · rfl

/-- A value that is not null is the value of a member. -/
theorem lookup_of_valueOf {name : String} {d : Datum} (value : valueOf members name = d) (given : d ≠ .null) :
    members.lookup name = some d := by
  rw [valueOf] at value
  cases there : members.lookup name with
  | none => exact absurd (by rw [← value, there]; rfl) given
  | some e => rw [← value, there, Option.getD_some]

/-- A field with one name. -/
theorem readField_self (members : Members) (name : String) (read : Datum → Except Error α) :
    readField members name name read = Field.optional read (valueOf members name) := by
  rw [readField, Field.keyOf, ite_self]

/-- Where there is no null, a field without a value is one that the object has not. -/
theorem lookup_of_readField_none (noNull : ∀ m ∈ members, m.2 ≠ .null)
    (found : readField members label synonym read = .ok none) :
    members.lookup (Field.keyOf members label synonym) = none := by
  cases there : members.lookup (Field.keyOf members label synonym) with
  | none => rfl
  | some d =>
    rw [readField, valueOf_of_lookup there, optional_of_ne_null (noNull _ (mem_of_lookup there)), map_eq_ok] at found
    obtain ⟨_, -, absurd⟩ := found
    cases absurd

/-- A field with a value is one that the object has. -/
theorem exists_of_readField_some {a : α} (found : readField members label synonym read = .ok (some a)) :
    ∃ d, members.lookup (Field.keyOf members label synonym) = some d ∧ read d = .ok a := by
  rw [readField] at found
  cases there : members.lookup (Field.keyOf members label synonym) with
  | none =>
    rw [valueOf, there] at found
    cases found
  | some d =>
    rw [valueOf_of_lookup there] at found
    unfold Field.optional at found
    split at found
    · cases found
    · obtain ⟨_, isRead, same⟩ := map_eq_ok.1 found
      rw [← Option.some.inj same]
      exact ⟨d, rfl, isRead⟩

/-- Items are no deeper than their list. -/
theorem depthAll_le_depth (items : List Datum) : depthAll items ≤ depth (.list items) := by
  cases items with
  | nil => exact le_rfl
  | cons d rest => exact Nat.le_succ _

/-- The members of a field are those of an object. -/
theorem members_eq_ok {d : Datum} {members : Members} : Field.members d = .ok members ↔ d = .object members := by
  cases d <;> simp [Field.members]

/-- Items of a value of JSON are those of a list. -/
theorem items_eq_ok {d : Datum} {items : List Datum} (json : IsJson d) (h : Field.items d = .ok items) : d = .list items := by
  cases d with
  | list all => exact congrArg Data.list (Except.ok.inj h)
  | tuple all => cases json.keyed
  | other f => cases json.keyed
  | _ => cases h

/-- The numbers of fields are finite, but for those that a text stands for. -/
theorem isFinite_of_float {d : Datum} {x : Binary64} (json : IsJson d) (isRead : Field.float d = .ok x)
    (text : ∀ s, d = .str s → Field.floatOfText? s = some x → x.isFinite = true) : x.isFinite = true := by
  have given {o : Option Binary64} (h : Field.orInvalid o = .ok x) : o = some x := by
    cases o with
    | none => cases h
    | some y => exact congrArg some (Except.ok.inj h)
  cases d with
  | bool b =>
    cases isRead
    cases b <;> decide
  | num n =>
    cases n with
    | int i =>
      have rounded : Field.floatOfInt? i = some x := given isRead
      unfold Field.floatOfInt? at rounded
      dsimp only at rounded
      split at rounded
      · rename_i finite
        rwa [← Option.some.inj rounded]
      · cases rounded
    | float y =>
      cases isRead
      exact json.numbers
  | str s => exact text s rfl (given isRead)
  | _ => cases isRead

end Fields

namespace Slot

variable {members written : Members} {label synonym : String}

/-! ## Slots that fit -/

/-- A slot without a value fits an object that has no such member. -/
theorem fits_none (absent : members.lookup (Field.keyOf members label synonym) = none) : Fits members ⟨label, synonym, none⟩ :=
  ⟨fun _ => absent, fun _ given => by cases given⟩

/-- A slot fits by its value. -/
theorem fits_some {d : Datum} (json : IsJson (nulled d)) (shallow : depth d ≤ depthMembers members) :
    Fits members ⟨label, synonym, some d⟩ := by
  refine ⟨(by cases ·), ?_⟩
  rintro _ ⟨⟩
  exact ⟨json, shallow⟩

/-- A value that a field has fits if each such value does. -/
theorem fits_of_readField {α : Type} {read : Datum → Except Error α} {o : Option α} {write : α → Datum}
    (noNull : ∀ m ∈ members, m.2 ≠ .null) (found : readField members label synonym read = .ok o)
    (value : ∀ a, o = some a → IsJson (nulled (write a)) ∧ depth (write a) ≤ depthMembers members) :
    Fits members ⟨label, synonym, o.map write⟩ := by
  cases o with
  | none => exact fits_none (lookup_of_readField_none noNull found)
  | some a => exact fits_some (value a rfl).1 (value a rfl).2

theorem fits_text {o : Option String} (noNull : ∀ m ∈ members, m.2 ≠ .null)
    (found : readField members label synonym Field.text = .ok o) : Fits members ⟨label, synonym, o.map .str⟩ :=
  fits_of_readField noNull found fun _ _ => ⟨⟨trivial, trivial⟩, Nat.zero_le _⟩

theorem fits_float {o : Option Binary64} (noNull : ∀ m ∈ members, m.2 ≠ .null)
    (found : readField members label synonym Field.float = .ok o) :
    Fits members ⟨label, synonym, o.map fun x => .num (.float x)⟩ := by
  refine fits_of_readField noNull found fun x _ => ⟨?_, Nat.zero_le _⟩
  rw [Json.nulled_float]
  split
  · rename_i finite
    exact ⟨trivial, finite⟩
  · exact ⟨trivial, trivial⟩

/-- Items that are read are those of a list in the object. -/
theorem isJson_of_readField_items {items : List Datum} (json : IsJson (.object members))
    (found : readField members label synonym Field.items = .ok (some items)) :
    IsJson (.list items) ∧ depth (.list items) ≤ depthMembers members := by
  obtain ⟨d, there, isRead⟩ := exists_of_readField_some found
  have isJson : IsJson d := (isJson_object_iff.1 json).2 _ (mem_of_lookup there)
  have shallow : depth d ≤ depthMembers members := depthMembers_le_iff.1 le_rfl _ (mem_of_lookup there)
  have list := items_eq_ok isJson isRead
  rw [list] at isJson shallow
  exact ⟨isJson, shallow⟩

theorem fits_items {o : Option (List Datum)} (json : IsJson (.object members)) (noNull : ∀ m ∈ members, m.2 ≠ .null)
    (found : readField members label synonym Field.items = .ok o) : Fits members ⟨label, synonym, o.map .list⟩ := by
  refine fits_of_readField noNull found fun items some => ?_
  obtain ⟨isJson, shallow⟩ := isJson_of_readField_items json (some ▸ found)
  rw [Json.nulled_of_isJson _ isJson]
  exact ⟨isJson, shallow⟩

/-! ## Slots that are read back -/

variable {slots : List Slot} {s : Slot}

/-- A declared member is read from the value that was written. -/
theorem Rewrites.readField_eq {α : Type} (h : Rewrites slots members written) (member : s ∈ slots)
    (read : Datum → Except Error α) :
    readField written s.label s.synonym read = Field.optional read ((s.value.map nulled).getD .null) :=
  congrArg (Field.optional read) (h.declared s member)

/-- Texts are read back. -/
theorem Rewrites.text {o : Option String} (h : Rewrites slots members written)
    (member : ⟨label, synonym, o.map .str⟩ ∈ slots) : readField written label synonym Field.text = .ok o := by
  rw [h.readField_eq member]
  cases o <;> rfl

/-- Numbers are read back if they are finite. -/
theorem Rewrites.float {o : Option Binary64} (h : Rewrites slots members written)
    (member : ⟨label, synonym, o.map fun x => .num (.float x)⟩ ∈ slots) :
    readField written label synonym Field.float = .ok (o.filter Binary64.isFinite) := by
  rw [h.readField_eq member]
  cases o with
  | none => rfl
  | some x =>
    rw [Option.map_some, Option.map_some, Option.getD_some, Json.nulled_float, Option.filter_some]
    split <;> rfl

/-- Items are read back. -/
theorem Rewrites.items {o : Option (List Datum)} (h : Rewrites slots members written)
    (member : ⟨label, synonym, o.map .list⟩ ∈ slots) (json : ∀ items, o = some items → IsJson (.list items)) :
    readField written label synonym Field.items = .ok o := by
  rw [h.readField_eq member]
  cases o with
  | none => rfl
  | some items =>
    rw [Option.map_some, Option.map_some, Option.getD_some, Json.nulled_of_isJson _ (json items rfl)]
    rfl

/-! ## Slots that are written -/

theorem entry_eq {α : Type} (name : String) (write : α → Datum) (o : Option α) :
    Field.entry name write o = (o.map write).toList.map (name, ·) := by
  cases o <;> rfl

/-- What is left of an object without null is written as it is. -/
theorem writtenMembers_membersBesides (used : List String) (json : IsJson (.object members))
    (noNull : ∀ m ∈ members, m.2 ≠ .null) (shallow : depthMembers members ≤ 254) :
    writtenMembers (membersBesides used members) = .ok (membersBesides used members) := by
  have left (m : String × Datum) (h : m ∈ membersBesides used members) : m ∈ members := mem_of_mem_membersBesides h
  have kept : writtenMembers (membersBesides used members) = Json.plainMembers (membersBesides used members) := by
    refine congrArg Json.plainMembers (List.filter_eq_self.2 fun m member => ?_)
    split
    · rename_i null
      exact absurd null (noNull m (left m member))
    · rfl
  have within : depthMembers (membersBesides used members) < Json.levels :=
    Nat.lt_succ_of_le (depthMembers_le_iff.2 fun m h => depthMembers_le_iff.1 shallow m (left m h))
  rw [kept]
  exact Json.plainNamed_of_isJson _ Json.levels (fun m h => (isJson_object_iff.1 json).2 m (left m h)) within

end Slot

/-! ## Schemas of properties -/

namespace QueryableProperty

/-- The declared members of a property's schema. -/
def slots (p : QueryableProperty) : List Slot :=
  [⟨"title", "title", p.title.map .str⟩, ⟨"description", "description", p.description.map .str⟩,
    ⟨"type", "type", p.type.map .str⟩, ⟨"format", "format", p.format.map .str⟩, ⟨"$ref", "ref", p.ref.map .str⟩,
    ⟨"enum", "enum", p.enum.map .list⟩, ⟨"minimum", "minimum", p.minimum.map fun x => .num (.float x)⟩,
    ⟨"maximum", "maximum", p.maximum.map fun x => .num (.float x)⟩]

theorem apart_slots (p : QueryableProperty) : Slot.Apart p.slots := by
  constructor
  · have labels : p.slots.map Slot.label =
        ["title", "description", "type", "format", "$ref", "enum", "minimum", "maximum"] := rfl
    rw [labels]
    decide
  · simp [slots]

/-- Which schema is read from which members. -/
structure Reads (members : Members) (p : QueryableProperty) : Prop where
  title : readField members "title" "title" Field.text = .ok p.title
  description : readField members "description" "description" Field.text = .ok p.description
  type : readField members "type" "type" Field.text = .ok p.type
  format : readField members "format" "format" Field.text = .ok p.format
  ref : readField members "$ref" "ref" Field.text = .ok p.ref
  enum : readField members "enum" "enum" Field.items = .ok p.enum
  minimum : readField members "minimum" "minimum" Field.float = .ok p.minimum
  maximum : readField members "maximum" "maximum" Field.float = .ok p.maximum
  others : membersBesides (p.slots.map (Slot.key members)) members = p.others

/-- A schema is read member by member. -/
theorem ofMembers_eq_ok {members : Members} {p : QueryableProperty} : ofMembers members = .ok p ↔ Reads members p := by
  have used : p.slots.map (Slot.key members) =
      ["title", "description", "type", "format", Field.keyOf members "$ref" "ref", "enum", "minimum", "maximum"] := by
    simp [slots, Slot.key, Field.keyOf]
  unfold ofMembers
  simp only [bind_eq_ok]
  constructor
  · rintro ⟨title, ht, description, hd, type, hy, format, hf, ref, hr, enum, he, minimum, hn, maximum, hx, h⟩
    cases h
    exact ⟨by rwa [readField_self], by rwa [readField_self], by rwa [readField_self], by rwa [readField_self], hr,
      by rwa [readField_self], by rwa [readField_self], by rwa [readField_self], by rw [used]⟩
  · rintro ⟨title, description, type, format, ref, enum, minimum, maximum, others⟩
    rw [readField_self] at title description type format enum minimum maximum
    rw [used] at others
    refine ⟨_, title, _, description, _, type, _, format, _, ref, _, enum, _, minimum, _, maximum, ?_⟩
    rw [others]

/-- The schema without bounds that are not finite. -/
def withFiniteBounds (p : QueryableProperty) : QueryableProperty :=
  { p with minimum := p.minimum.filter Binary64.isFinite, maximum := p.maximum.filter Binary64.isFinite }

variable {members written : Members} {p : QueryableProperty}

/-- The declared members of a schema fit the object that it is read from. -/
theorem fits_slots (json : IsJson (.object members)) (noNull : ∀ m ∈ members, m.2 ≠ .null) (reads : Reads members p) :
    ∀ s ∈ p.slots, s.Fits members := by
  simp only [slots, List.forall_mem_cons]
  exact ⟨Slot.fits_text noNull reads.title, Slot.fits_text noNull reads.description, Slot.fits_text noNull reads.type,
    Slot.fits_text noNull reads.format, Slot.fits_text noNull reads.ref, Slot.fits_items json noNull reads.enum,
    Slot.fits_float noNull reads.minimum, Slot.fits_float noNull reads.maximum, nofun⟩

/-- A schema that is read back is the same but for bounds that are not finite. -/
theorem reads_written (json : IsJson (.object members)) (reads : Reads members p)
    (rewrites : Slot.Rewrites p.slots members written) : Reads written p.withFiniteBounds where
  title := rewrites.text (o := p.title) (by simp [slots])
  description := rewrites.text (o := p.description) (by simp [slots])
  type := rewrites.text (o := p.type) (by simp [slots])
  format := rewrites.text (o := p.format) (by simp [slots])
  ref := rewrites.text (o := p.ref) (by simp [slots])
  enum := rewrites.items (o := p.enum) (by simp [slots]) fun items some =>
    (Slot.isJson_of_readField_items json (some ▸ reads.enum)).1
  minimum := rewrites.float (by simp [slots])
  maximum := rewrites.float (by simp [slots])
  others := rewrites.others.trans reads.others

/-- A schema is written as its declared members and all others. -/
theorem toDatum_eq (json : IsJson (.object members)) (noNull : ∀ m ∈ members, m.2 ≠ .null)
    (shallow : depthMembers members ≤ 254) (reads : Reads members p) :
    p.toDatum = .ok (.object (Slot.entries p.slots ++ p.others)) := by
  have others : writtenMembers p.others = .ok p.others :=
    reads.others ▸ Slot.writtenMembers_membersBesides _ json noNull shallow
  have enum : p.enum.mapM Json.plainItems = .ok p.enum := by
    cases given : p.enum with
    | none => rfl
    | some items =>
      obtain ⟨isJson, inside⟩ := Slot.isJson_of_readField_items json (given ▸ reads.enum)
      have within : depthAll items < Json.levels := by
        have := depthAll_le_depth items
        simp only [Json.levels]
        omega
      rw [Option.mapM_some, Json.plainItems, Json.plainAll_of_isJson items _ (isJson_list_iff.1 isJson) within]
      rfl
  rw [toDatum, enum, others]
  simp only [Slot.entries, slots, Slot.entry_eq, List.flatMap_cons, List.flatMap_nil, List.append_assoc, List.nil_append,
    ok_bind]

/-- A schema is read back from what is written of it. -/
theorem exists_rewritten (json : IsJson (.object members)) (noNull : ∀ m ∈ members, m.2 ≠ .null)
    (shallow : depthMembers members ≤ 254) (isRead : ofMembers members = .ok p) :
    ∃ d written, p.toDatum = .ok d ∧ nulled d = .object written ∧ Slot.Rewrites p.slots members written ∧
      ofMembers written = .ok p.withFiniteBounds := by
  have reads := ofMembers_eq_ok.1 isRead
  obtain ⟨written, same, rewrites⟩ := Slot.exists_rewrites p.apart_slots json (fits_slots json noNull reads)
  rw [reads.others] at same
  exact ⟨_, written, toDatum_eq json noNull shallow reads, same, rewrites,
    ofMembers_eq_ok.2 (reads_written json reads rewrites)⟩

/-- The names of the declared members, each with the other one under which it may stand. -/
def memberNames : List String :=
  ["title", "description", "type", "format", "$ref", "ref", "enum", "minimum", "maximum"]

theorem mem_names_slots {p : QueryableProperty} {name : String} : name ∈ Slot.names p.slots ↔ name ∈ memberNames := by
  simp [Slot.names, slots, memberNames]

/-! ## Finite bounds -/

/-- Whether no bound among some members is a text that stands for a number that is not finite. -/
def FiniteBounds (members : Members) : Prop :=
  ∀ name s x, name = "minimum" ∨ name = "maximum" → members.lookup name = some (.str s) → Field.floatOfText? s = some x →
    x.isFinite = true

/-- Bounds that are no such texts are finite. -/
theorem filter_isFinite {o : Option Binary64} {name : String} (json : IsJson (.object members))
    (found : readField members name name Field.float = .ok o)
    (text : ∀ s x, members.lookup name = some (.str s) → Field.floatOfText? s = some x → x.isFinite = true) :
    o.filter Binary64.isFinite = o := by
  cases o with
  | none => rfl
  | some x =>
    obtain ⟨d, there, isRead⟩ := exists_of_readField_some found
    have isJson := (isJson_object_iff.1 json).2 _ (mem_of_lookup there)
    rw [Field.keyOf, ite_self] at there
    have finite := isFinite_of_float isJson isRead fun s same => text s x (same ▸ there)
    rw [Option.filter_some, if_pos finite]

/-- Where all bounds are finite, none is left out. -/
theorem withFiniteBounds_eq_self (json : IsJson (.object members)) (isRead : ofMembers members = .ok p)
    (finite : FiniteBounds members) : p.withFiniteBounds = p := by
  have reads := ofMembers_eq_ok.1 isRead
  have minimum := filter_isFinite json reads.minimum fun s x => finite "minimum" s x (.inl rfl)
  have maximum := filter_isFinite json reads.maximum fun s x => finite "maximum" s x (.inr rfl)
  rw [withFiniteBounds, minimum, maximum]

end QueryableProperty

end CatalogFilter
