import CatalogFilter.Proofs.Queryables.Schemas

/-!
# Queryables that are written and read back

* `Datum.NoNull` — a value without null.
* `Queryables.KeepsSchema` — schemas of one name in which all members that are not declared are the same.
* `Queryables.exists_rewritten_properties` — the schemas of declared properties are read back from what is written of them.
* `Queryables.Reads` — which queryables are read from which members.
* `Queryables.exists_readBack` — queryables are read back from their text, but for bounds that are not finite.
* `Queryables.write_read_back` — where no bound is the text for such a number, they are the same, and in any case the same names
  are reported of every filter.

A member that is null is not written, and a declared one is read as if it were missing, so there must be none.
-/

namespace CatalogFilter

open Document (Members valueOf)
open Json (IsJson isJson_object_iff nulled depth depthMembers)
open Outcome
open Slot (depthMembers_le_iff)

/-! ## Values without null -/

namespace Datum

mutual

/-- Whether there is no null in a value, at any depth. -/
def NoNull : Datum → Prop
  | .null => False
  | .list items => AllNoNull items
  | .tuple items => AllNoNull items
  | .object members => MembersNoNull members
  | _ => True

/-- `NoNull` of each item. -/
def AllNoNull : List Datum → Prop
  | [] => True
  | d :: rest => NoNull d ∧ AllNoNull rest

/-- `NoNull` of each member's value. -/
def MembersNoNull : Members → Prop
  | [] => True
  | (_, d) :: rest => NoNull d ∧ MembersNoNull rest

end

/-- The members of an object one by one. -/
theorem noNull_object_iff {members : Members} : NoNull (.object members) ↔ ∀ m ∈ members, m.2.NoNull := by
  rw [NoNull]
  induction members with
  | nil => simp [MembersNoNull]
  | cons m rest ih => rw [MembersNoNull, ih, List.forall_mem_cons]

theorem NoNull.ne_null {d : Datum} (h : d.NoNull) : d ≠ .null := by
  rintro rfl
  exact h

end Datum

namespace Additional

/-- A schema of properties that are not declared is an object. -/
theorem read_eq_schema {d : Datum} {members : Members} (isRead : read d = .ok (.schema members)) : d = .object members := by
  unfold read at isRead
  split at isRead
  · cases isRead
    rfl
  · obtain ⟨_, -, absurd⟩ := map_eq_ok.1 isRead
    cases absurd

/-- What is said of properties that are not declared is read back from what is written of it. -/
theorem exists_toDatum {d : Datum} {a : Additional} (json : IsJson d) (shallow : depth d ≤ 254) (isRead : read d = .ok a) :
    ∃ w, a.toDatum = .ok w ∧ IsJson w ∧ depth w ≤ depth d ∧ Field.optional read w = .ok (some a) := by
  cases a with
  | allowed b => exact ⟨.bool b, rfl, ⟨trivial, trivial⟩, Nat.zero_le _, rfl⟩
  | schema members =>
    have object := read_eq_schema isRead
    subst object
    have inner : depthMembers members + 1 ≤ 254 := shallow
    have written : Json.plainMembers members = .ok members :=
      Json.plainNamed_of_isJson members Json.levels (isJson_object_iff.1 json).2 (by simp only [Json.levels]; omega)
    refine ⟨.object members, ?_, json, le_rfl, rfl⟩
    rw [toDatum, written]
    rfl

end Additional

namespace Queryables

/-! ## Declared properties -/

/-- The schemas of a field. -/
def schemasOf (d : Datum) : Except Error (List (String × QueryableProperty)) := do
  readProperties (← Field.members d)

/-- The schemas without bounds that are not finite. -/
def finiteBounds (ps : List (String × QueryableProperty)) : List (String × QueryableProperty) :=
  ps.map fun p => (p.1, p.2.withFiniteBounds)

/-- A schema that is read back for another one of the same name: members that are not declared are the same. -/
structure KeepsSchema (m w : String × Datum) : Prop where
  name : w.1 = m.1
  members : ∃ members written, m.2 = .object members ∧ w.2 = .object written ∧
    ∀ name, name ∉ QueryableProperty.memberNames → written.lookup name = members.lookup name

/-- Schemas that are read back for others have their names. -/
theorem map_fst_of_keepsSchema {schemas written : Members} (keep : List.Forall₂ KeepsSchema schemas written) :
    written.map Prod.fst = schemas.map Prod.fst := by
  induction keep with
  | nil => rfl
  | cons first _ ih => rw [List.map_cons, List.map_cons, first.name, ih]

/-- Schemas are read back from what is written of them. -/
theorem exists_rewritten_properties {schemas : Members} (json : ∀ m ∈ schemas, IsJson m.2)
    (noNull : ∀ m ∈ schemas, m.2.NoNull) (shallow : depthMembers schemas ≤ 254) {ps : List (String × QueryableProperty)}
    (isRead : readProperties schemas = .ok ps) :
    ∃ ds, writeProperties ps = .ok ds ∧
      readProperties (Json.nulledMembers ds) = .ok (finiteBounds ps) ∧
      (∀ w ∈ Json.nulledMembers ds, IsJson w.2) ∧ depthMembers (Json.nulledMembers ds) ≤ depthMembers schemas ∧
      List.Forall₂ KeepsSchema schemas (Json.nulledMembers ds) := by
  induction schemas generalizing ps with
  | nil =>
    cases isRead
    exact ⟨[], rfl, rfl, nofun, le_rfl, .nil⟩
  | cons m rest ih =>
    obtain ⟨name, d⟩ := m
    rw [List.forall_mem_cons] at json noNull
    rw [depthMembers, Nat.max_le] at shallow
    obtain ⟨p, first, isRead⟩ := bind_eq_ok.1 isRead
    obtain ⟨others, further, isRead⟩ := bind_eq_ok.1 isRead
    cases isRead
    obtain ⟨ds, writes, reads, isJson, inside, keep⟩ := ih json.2 noNull.2 shallow.2 further
    obtain ⟨members, object, first⟩ := bind_eq_ok.1 first
    obtain rfl := members_eq_ok.1 object
    have within : depthMembers members ≤ 254 := le_trans (Nat.le_succ _) shallow.1
    obtain ⟨w, written, writes', same, rewrites, reads'⟩ := QueryableProperty.exists_rewritten json.1
      (fun m h => (Datum.noNull_object_iff.1 noNull.1 m h).ne_null) within first
    refine ⟨(name, w) :: ds, ?_, ?_, ?_, ?_, ?_⟩
    · rw [writeProperties, writes', ok_bind, writes]
      rfl
    · rw [Json.nulledMembers, same, readProperties, reads, QueryableProperty.read, Field.members, ok_bind, reads']
      rfl
    · rw [Json.nulledMembers, same]
      exact List.forall_mem_cons.2 ⟨rewrites.json, isJson⟩
    · rw [Json.nulledMembers, same, depthMembers, depthMembers]
      exact max_le_max (Nat.succ_le_succ rewrites.shallow) inside
    · rw [Json.nulledMembers, same]
      refine .cons ⟨rfl, members, written, rfl, rfl, fun name undeclared => ?_⟩ keep
      exact rewrites.kept name fun declared => undeclared (QueryableProperty.mem_names_slots.1 declared)

section Fields

variable {members : Members} (json : IsJson (.object members)) (noNull : ∀ m ∈ members, m.2.NoNull)
  (shallow : depthMembers members ≤ 200)

include json noNull shallow

/-- Schemas that are read from the member of declared properties fit it, and are read back. -/
theorem exists_properties {o : Option (List (String × QueryableProperty))}
    (found : readField members "properties" "properties" schemasOf = .ok o) :
    ∃ ds : Option Members, o.mapM writeProperties = .ok ds ∧
      Slot.Fits members ⟨"properties", "properties", ds.map .object⟩ ∧
      Field.optional schemasOf (((ds.map .object).map nulled).getD .null) = .ok (o.map finiteBounds) ∧
      ∀ schemas, members.lookup "properties" = some (.object schemas) →
        ∃ written, (ds.map .object).map nulled = some (.object written) ∧ List.Forall₂ KeepsSchema schemas written := by
  have plain : ∀ m ∈ members, m.2 ≠ .null := fun m h => (noNull m h).ne_null
  cases o with
  | none =>
    have absent := lookup_of_readField_none plain found
    refine ⟨none, rfl, Slot.fits_none absent, rfl, fun schemas present => ?_⟩
    rw [Field.keyOf, ite_self, present] at absent
    cases absent
  | some ps =>
    obtain ⟨d, there, isRead⟩ := exists_of_readField_some found
    obtain ⟨schemas, object, isRead⟩ := bind_eq_ok.1 isRead
    rw [Field.keyOf, ite_self] at there
    have member := mem_of_lookup there
    obtain rfl := members_eq_ok.1 object
    have schemasJson := isJson_object_iff.1 ((isJson_object_iff.1 json).2 _ member)
    have inner : depthMembers schemas + 1 ≤ depthMembers members := depthMembers_le_iff.1 le_rfl _ member
    obtain ⟨ds, writes, reads, isJson, inside, keep⟩ := exists_rewritten_properties schemasJson.2
      (Datum.noNull_object_iff.1 (noNull _ member)) (by omega) isRead
    refine ⟨some ds, ?_, Slot.fits_some ?_ ?_, ?_, ?_⟩
    · rw [Option.mapM_some, writes]
      rfl
    · exact isJson_object_iff.2 ⟨map_fst_of_keepsSchema keep ▸ schemasJson.1, isJson⟩
    · rw [← Json.depth_nulled]
      exact le_trans (Nat.succ_le_succ inside) inner
    · have value : schemasOf (.object (Json.nulledMembers ds)) = .ok (finiteBounds ps) := reads
      exact congrArg (Except.map some) value
    · intro schemas' found'
      rw [there] at found'
      cases found'
      exact ⟨_, rfl, keep⟩

/-- What is read from the member about properties that are not declared fits it, and is read back. -/
theorem exists_additional {o : Option Additional}
    (found : readField members "additionalProperties" "additionalProperties" Additional.read = .ok o) :
    ∃ d : Option Datum, o.mapM Additional.toDatum = .ok d ∧
      Slot.Fits members ⟨"additionalProperties", "additionalProperties", d⟩ ∧
      Field.optional Additional.read ((d.map nulled).getD .null) = .ok o := by
  have plain : ∀ m ∈ members, m.2 ≠ .null := fun m h => (noNull m h).ne_null
  cases o with
  | none => exact ⟨none, rfl, Slot.fits_none (lookup_of_readField_none plain found), rfl⟩
  | some a =>
    obtain ⟨d, there, isRead⟩ := exists_of_readField_some found
    have isJson := (isJson_object_iff.1 json).2 _ (mem_of_lookup there)
    have inside : depth d ≤ depthMembers members := depthMembers_le_iff.1 le_rfl _ (mem_of_lookup there)
    have within : depth d ≤ 254 := by omega
    obtain ⟨w, written, isJson', inside', value⟩ := Additional.exists_toDatum isJson within isRead
    have settled := Json.nulled_of_isJson w isJson'
    refine ⟨some w, ?_, Slot.fits_some (settled.symm ▸ isJson') (le_trans inside' inside), ?_⟩
    · rw [Option.mapM_some, written]
      rfl
    · rw [Option.map_some, Option.getD_some, settled, value]

end Fields

/-- The declared members of queryables. -/
def slots (q : Queryables) (properties : Option Members) (additional : Option Datum) : List Slot :=
  [⟨"$schema", "schema_", q.schema.map .str⟩, ⟨"$id", "id", q.id.map .str⟩, ⟨"type", "type", q.type.map .str⟩,
    ⟨"title", "title", q.title.map .str⟩, ⟨"description", "description", q.description.map .str⟩,
    ⟨"properties", "properties", properties.map .object⟩, ⟨"additionalProperties", "additionalProperties", additional⟩]

/-- The names of the declared members, each with the other one under which it may stand. -/
def memberNames : List String :=
  ["$schema", "schema_", "$id", "id", "type", "title", "description", "properties", "additionalProperties"]

section Slots

variable {q : Queryables} {properties : Option Members} {additional : Option Datum}

theorem apart_slots : Slot.Apart (q.slots properties additional) := by
  constructor
  · have labels : (q.slots properties additional).map Slot.label =
        ["$schema", "$id", "type", "title", "description", "properties", "additionalProperties"] := rfl
    rw [labels]
    decide
  · simp [slots]

theorem mem_names_slots {name : String} : name ∈ Slot.names (q.slots properties additional) ↔ name ∈ memberNames := by
  simp [Slot.names, slots, memberNames]

theorem map_key_slots (members : Members) :
    (q.slots properties additional).map (Slot.key members) =
      [Field.keyOf members "$schema" "schema_", Field.keyOf members "$id" "id", "type", "title", "description", "properties",
        "additionalProperties"] := by
  simp [slots, Slot.key, Field.keyOf]

end Slots

/-- Which queryables are read from which members. -/
structure Reads (members : Members) (q : Queryables) : Prop where
  schema : readField members "$schema" "schema_" Field.text = .ok q.schema
  id : readField members "$id" "id" Field.text = .ok q.id
  type : readField members "type" "type" Field.text = .ok q.type
  title : readField members "title" "title" Field.text = .ok q.title
  description : readField members "description" "description" Field.text = .ok q.description
  properties : readField members "properties" "properties" schemasOf = .ok q.properties
  additional : readField members "additionalProperties" "additionalProperties" Additional.read = .ok q.additional
  others : ∀ properties additional, membersBesides ((q.slots properties additional).map (Slot.key members)) members = q.others

/-- Queryables are read member by member. -/
theorem ofMembers_eq_ok {members : Members} {q : Queryables} : ofMembers members = .ok q ↔ Reads members q := by
  unfold ofMembers
  simp only [bind_eq_ok]
  constructor
  · rintro ⟨schema, hs, id, hi, type, hy, title, ht, description, hd, properties, hp, additional, ha, h⟩
    cases h
    exact ⟨hs, hi, by rwa [readField_self], by rwa [readField_self], by rwa [readField_self], by rwa [readField_self],
      by rwa [readField_self], fun _ _ => by rw [map_key_slots]⟩
  · rintro ⟨schema, id, type, title, description, properties, additional, others⟩
    rw [readField_self] at type title description properties additional
    have rest := others none none
    rw [map_key_slots] at rest
    refine ⟨_, schema, _, id, _, type, _, title, _, description, _, properties, _, additional, ?_⟩
    rw [rest]

/-- The queryables without bounds that are not finite. -/
def withFiniteBounds (q : Queryables) : Queryables :=
  { q with properties := q.properties.map finiteBounds }

variable {members written : Members} {q : Queryables}

/-- Queryables are written as their declared members and all others. -/
theorem toDatum_eq {properties : Option Members} {additional : Option Datum} (json : IsJson (.object members))
    (noNull : ∀ m ∈ members, m.2 ≠ .null) (shallow : depthMembers members ≤ 254) (reads : Reads members q)
    (schemas : q.properties.mapM writeProperties = .ok properties)
    (others : q.additional.mapM Additional.toDatum = .ok additional) :
    q.toDatum = .ok (.object (Slot.entries (q.slots properties additional) ++ q.others)) := by
  have rest : writtenMembers q.others = .ok q.others :=
    reads.others none none ▸ Slot.writtenMembers_membersBesides _ json noNull shallow
  rw [toDatum, schemas, others, rest]
  simp only [Slot.entries, slots, Slot.entry_eq, List.flatMap_cons, List.flatMap_nil, List.append_assoc, List.nil_append,
    ok_bind, Option.map_id']

/-- Queryables that are read back are the same but for bounds that are not finite. -/
theorem reads_written {properties : Option Members} {additional : Option Datum} (reads : Reads members q)
    (rewrites : Slot.Rewrites (q.slots properties additional) members written)
    (schemas : Field.optional schemasOf (((properties.map .object).map nulled).getD .null) = .ok (q.properties.map finiteBounds))
    (others : Field.optional Additional.read ((additional.map nulled).getD .null) = .ok q.additional) :
    Reads written q.withFiniteBounds where
  schema := rewrites.text (o := q.schema) (by simp [slots])
  id := rewrites.text (o := q.id) (by simp [slots])
  type := rewrites.text (o := q.type) (by simp [slots])
  title := rewrites.text (o := q.title) (by simp [slots])
  description := rewrites.text (o := q.description) (by simp [slots])
  properties := by
    have member : ⟨"properties", "properties", properties.map .object⟩ ∈ q.slots properties additional := by simp [slots]
    exact (rewrites.readField_eq member schemasOf).trans schemas
  additional := by
    have member : ⟨"additionalProperties", "additionalProperties", additional⟩ ∈ q.slots properties additional := by
      simp [slots]
    exact (rewrites.readField_eq member Additional.read).trans others
  others := fun _ _ => by
    have rest := rewrites.others.trans (reads.others properties additional)
    rw [map_key_slots] at rest ⊢
    exact rest

/-- Queryables are read back from their text, with all members that are not declared. -/
theorem exists_readBack (json : IsJson (.object members)) (noNull : Datum.NoNull (.object members))
    (shallow : depth (.object members) ≤ 200) (accepted : read (.object members) = .ok q) :
    ∃ text written, q.write = .ok text ∧ Json.read .strict text = some (.object written) ∧
      read (.str text) = .ok q.withFiniteBounds ∧
      (∀ name, name ∉ memberNames → written.lookup name = members.lookup name) ∧
      ∀ schemas, members.lookup "properties" = some (.object schemas) →
        ∃ schemas', written.lookup "properties" = some (.object schemas') ∧ List.Forall₂ KeepsSchema schemas schemas' := by
  have each := Datum.noNull_object_iff.1 noNull
  have plain : ∀ m ∈ members, m.2 ≠ .null := fun m h => (each m h).ne_null
  have inner : depthMembers members + 1 ≤ 200 := shallow
  have within : depthMembers members ≤ 200 := by omega
  have reads : Reads members q := ofMembers_eq_ok.1 accepted
  obtain ⟨properties, schemas, fits, schemasBack, kept⟩ := exists_properties json each within reads.properties
  obtain ⟨additional, others, fits', othersBack⟩ := exists_additional json each within reads.additional
  have fits : ∀ s ∈ q.slots properties additional, s.Fits members := by
    simp only [slots, List.forall_mem_cons]
    exact ⟨Slot.fits_text plain reads.schema, Slot.fits_text plain reads.id, Slot.fits_text plain reads.type,
      Slot.fits_text plain reads.title, Slot.fits_text plain reads.description, fits, fits', nofun⟩
  obtain ⟨written, same, rewrites⟩ := Slot.exists_rewrites apart_slots json fits
  rw [reads.others] at same
  have datum := toDatum_eq json plain (by omega) reads schemas others
  have deep : depth (nulled (.object (Slot.entries (q.slots properties additional) ++ q.others))) ≤ 254 := by
    rw [same]
    exact le_trans (Nat.succ_le_succ rewrites.shallow) (le_trans inner (by decide))
  obtain ⟨text, writes, back⟩ := Json.write?_of_nulled .indented (same ▸ rewrites.json) deep
  rw [same] at back
  have again : ofMembers written = .ok q.withFiniteBounds :=
    ofMembers_eq_ok.2 (reads_written reads rewrites schemasBack othersBack)
  refine ⟨text, written, ?_, back, ?_, ?_, ?_⟩
  · rw [write, datum, ok_bind, writes]
  · rw [read, readText, back]
    exact again
  · exact fun name undeclared => rewrites.kept name fun declared => undeclared (mem_names_slots.1 declared)
  · intro found present
    obtain ⟨schemas', value, keep⟩ := kept found present
    refine ⟨schemas', ?_, keep⟩
    have there := rewrites.declared ⟨"properties", "properties", properties.map .object⟩ (by simp [slots])
    rw [Slot.key_self, value, Option.getD_some] at there
    exact lookup_of_valueOf there nofun

/-- What is reported of a filter does not depend on bounds. -/
theorem undefined_withFiniteBounds (q : Queryables) (n : Node) : q.withFiniteBounds.undefined n = q.undefined n := by
  have names : q.withFiniteBounds.names = q.names := by
    rw [Queryables.names, Queryables.names, withFiniteBounds]
    cases q.properties with
    | none => rfl
    | some ps => exact List.map_map
  rw [undefined, undefined, names]
  rfl

/-! ## Finite bounds -/

/-- Whether no bound of a declared property is a text that stands for a number that is not finite. -/
def FiniteBounds (members : Members) : Prop :=
  ∀ schemas name schema, members.lookup "properties" = some (.object schemas) → (name, .object schema) ∈ schemas →
    QueryableProperty.FiniteBounds schema

theorem finiteBounds_eq_self {schemas : Members} {ps : List (String × QueryableProperty)} (json : ∀ m ∈ schemas, IsJson m.2)
    (finite : ∀ name schema, (name, .object schema) ∈ schemas → QueryableProperty.FiniteBounds schema)
    (isRead : readProperties schemas = .ok ps) : finiteBounds ps = ps := by
  induction schemas generalizing ps with
  | nil =>
    cases isRead
    rfl
  | cons m rest ih =>
    obtain ⟨name, d⟩ := m
    rw [List.forall_mem_cons] at json
    obtain ⟨p, first, isRead⟩ := bind_eq_ok.1 isRead
    obtain ⟨others, further, isRead⟩ := bind_eq_ok.1 isRead
    cases isRead
    obtain ⟨members, object, first⟩ := bind_eq_ok.1 first
    obtain rfl := members_eq_ok.1 object
    have same := QueryableProperty.withFiniteBounds_eq_self json.1 first (finite name members List.mem_cons_self)
    have others := ih json.2 (fun name schema member => finite name schema (List.mem_cons_of_mem _ member)) further
    rw [finiteBounds] at others ⊢
    rw [List.map_cons, same, others]

/-- Where all bounds are finite, none is left out. -/
theorem withFiniteBounds_eq_self (json : IsJson (.object members)) (accepted : read (.object members) = .ok q)
    (finite : FiniteBounds members) : q.withFiniteBounds = q := by
  have reads : Reads members q := ofMembers_eq_ok.1 accepted
  have same : q.properties.map finiteBounds = q.properties := by
    cases given : q.properties with
    | none => rfl
    | some ps =>
      obtain ⟨d, there, isRead⟩ := exists_of_readField_some (given ▸ reads.properties)
      have isJson := (isJson_object_iff.1 json).2 _ (mem_of_lookup there)
      rw [Field.keyOf, ite_self] at there
      obtain ⟨schemas, object, isRead⟩ := bind_eq_ok.1 isRead
      obtain rfl := members_eq_ok.1 object
      rw [Option.map_some, finiteBounds_eq_self (isJson_object_iff.1 isJson).2 (finite schemas · · there) isRead]
  rw [withFiniteBounds, same]

/-! ## Round trip -/

/-- Queryables survive a write and a read. A JSON object without null and of at most 200 levels that is read as queryables is
written as a text, which is read as the same queryables, but that bounds are missing that were given as texts and are not finite:
where there are no such texts, nothing is missing. All members that are not declared, of the object and of the schemas of its
properties, have the same values in the text, and the same names are reported of every filter. -/
theorem write_read_back (members : Members) (json : IsJson (.object members)) (noNull : Datum.NoNull (.object members))
    (shallow : depth (.object members) ≤ 200) (q : Queryables) (accepted : read (.object members) = .ok q) :
    ∃ text written q', q.write = .ok text ∧ Json.read .strict text = some (.object written) ∧ read (.str text) = .ok q' ∧
      q' = q.withFiniteBounds ∧ (FiniteBounds members → q' = q) ∧
      (∀ name, name ∉ memberNames → written.lookup name = members.lookup name) ∧
      (∀ schemas, members.lookup "properties" = some (.object schemas) →
        ∃ schemas', written.lookup "properties" = some (.object schemas') ∧ List.Forall₂ KeepsSchema schemas schemas') ∧
      ∀ n, q'.undefined n = q.undefined n := by
  obtain ⟨text, written, writes, back, again, kept, schemas⟩ := exists_readBack json noNull shallow accepted
  exact ⟨text, written, q.withFiniteBounds, writes, back, again, rfl, withFiniteBounds_eq_self json accepted, kept, schemas,
    undefined_withFiniteBounds q⟩

/-- Queryables with members of both names of a declared member, and with members that are not declared. -/
def sampleMembers : Members :=
  [("id", .str "kept"), ("$id", .str "read"), ("type", .str "object"), ("provider", .list [.int 1, .bool true]),
    ("properties", .object [("datetime", .object [("ref", .str "dates"), ("maximum", .bool true), ("unit", .str "day")])]),
    ("additionalProperties", .int 0)]

/-- They are read back as they were. -/
theorem write_read_back_sampleMembers :
    IsJson (.object sampleMembers) ∧ Datum.NoNull (.object sampleMembers) ∧ depth (.object sampleMembers) ≤ 200 ∧
      FiniteBounds sampleMembers ∧
      ∃ q text, read (.object sampleMembers) = .ok q ∧ q.write = .ok text ∧ read (.str text) = .ok q ∧
        ∃ written, Json.read .strict text = some (.object written) ∧
          written.lookup "provider" = some (.list [.int 1, .bool true]) := by
  have json : IsJson (.object sampleMembers) := by
    constructor
    · simp [sampleMembers, Data.int, Json.Keyed, Json.AllKeyed, Json.MembersKeyed]
    · simp [sampleMembers, Data.int, Datum.Numbers, Datum.AllNumbers, Datum.MemberNumbers, Json.IsJsonNumber]
      decide
  have noNull : Datum.NoNull (.object sampleMembers) := by
    simp [sampleMembers, Data.int, Datum.NoNull, Datum.AllNoNull, Datum.MembersNoNull]
  have shallow : depth (.object sampleMembers) ≤ 200 := by decide
  have finite : FiniteBounds sampleMembers := by
    rintro schemas name schema found member bound s x (rfl | rfl) given
    all_goals
      cases found
      cases List.mem_singleton.1 member
      cases given
  have accepted : read (.object sampleMembers) = .ok ⟨none, some "read", some "object", none, none,
      some [("datetime", ⟨none, none, none, none, some "dates", none, none, some (.ofInt 1), [("unit", .str "day")]⟩)],
      some (.allowed false), [("id", .str "kept"), ("provider", .list [.int 1, .bool true])]⟩ := rfl
  obtain ⟨text, written, q', writes, back, again, -, same, kept, -, -⟩ :=
    write_read_back sampleMembers json noNull shallow _ accepted
  refine ⟨json, noNull, shallow, finite, _, text, accepted, writes, ?_, written, back, ?_⟩
  · rw [again, same finite]
  · rw [kept "provider" (by decide)]
    rfl

/-- A bound that is given as the text for an infinite number. -/
def infiniteBound : Members :=
  [("properties", .object [("height", .object [("minimum", .str "inf")])])]

/-- It is not read back. -/
theorem write_read_back_infiniteBound :
    IsJson (.object infiniteBound) ∧ Datum.NoNull (.object infiniteBound) ∧ depth (.object infiniteBound) ≤ 200 ∧
      ∃ q text q', read (.object infiniteBound) = .ok q ∧ q.write = .ok text ∧ read (.str text) = .ok q' ∧ q' ≠ q := by
  have json : IsJson (.object infiniteBound) := by
    simp [isJson_object_iff, infiniteBound]
    exact ⟨trivial, trivial⟩
  have noNull : Datum.NoNull (.object infiniteBound) := by
    simp [infiniteBound, Datum.NoNull, Datum.MembersNoNull]
  have shallow : depth (.object infiniteBound) ≤ 200 := by decide
  have accepted : read (.object infiniteBound) = .ok ⟨none, none, none, none, none,
      some [("height", ⟨none, none, none, none, none, none, some (.infinite false), none, []⟩)], none, []⟩ := rfl
  obtain ⟨text, written, writes, -, again, -, -⟩ := exists_readBack json noNull shallow accepted
  refine ⟨json, noNull, shallow, _, text, _, accepted, writes, again, fun same => ?_⟩
  have bound := congrArg Queryables.properties same
  simp [withFiniteBounds, finiteBounds, QueryableProperty.withFiniteBounds, Binary64.isFinite] at bound

end Queryables

end CatalogFilter
