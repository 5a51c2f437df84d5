import CatalogFilter.Proofs.Document.Argument
import CatalogFilter.Proofs.Json.Finite
import CatalogFilter.Queryables

/-!
# Declared members and all others

An object is read as declared members, each under one of two names, and all others. It is written with the declared members that
have a value under their first names, and then the others.

* `Slot` — a declared member with its two names; `Slot.entries` are the members that are written for some slots.
* `Slot.Apart` — slots that have no name in common, but that both names of a slot may be one.
* `Slot.Frees` — other members among which no name is found under which a slot would be read.
* `Slot.frees_membersBesides` — what is left of an object that was read is such.
* `Slot.valueOf_key`, `Slot.membersBesides_keys` — the object that is written is read as the same declared members and others.
* `Slot.lookup_of_undeclared` — members of other names are found where they were.
* `Slot.exists_rewrites` — slots that fit an object are written as one that is read back with the same members, but for numbers
  that are not finite.
-/

namespace CatalogFilter

open Document (Members has valueOf has_eq_false has_eq_isSome)

/-! ## Members that are left -/

theorem membersBesides_cons (used : List String) (m : String × Datum) (members : Members) :
    membersBesides used (m :: members) =
      if m.1 ∈ used then membersBesides used members else m :: membersBesides used members := by
  by_cases among : m.1 ∈ used <;> simp [membersBesides, among]

/-- A member is left unless its name is used. -/
theorem lookup_membersBesides (used : List String) (members : Members) (name : String) :
    (membersBesides used members).lookup name = if name ∈ used then none else members.lookup name := by
  induction members with
  | nil => simp [membersBesides]
  | cons m rest ih =>
    obtain ⟨key, value⟩ := m
    rw [membersBesides_cons]
    by_cases same : name = key
    · subst same
      by_cases among : name ∈ used
      · rw [if_pos among, ih, if_pos among, if_pos among]
      · rw [if_neg among, if_neg among, List.lookup_cons_self, List.lookup_cons_self]
    · have other : (name == key) = false := beq_eq_false_iff_ne.2 same
      rw [List.lookup_cons, other]
      split
      · exact ih
      · rw [List.lookup_cons, other]
        exact ih

theorem mem_of_mem_membersBesides {used : List String} {members : Members} {m : String × Datum}
    (h : m ∈ membersBesides used members) : m ∈ members :=
  (List.mem_filter.1 h).1

/-- The value of a member that is there is the value of a member. -/
theorem mem_of_lookup {members : Members} {name : String} {value : Datum} (found : members.lookup name = some value) :
    (name, value) ∈ members := by
  obtain ⟨before, behind, rfl, -⟩ := List.lookup_eq_some_iff.1 found
  simp

/-- A member whose name is among no names is not found. -/
theorem lookup_eq_none_iff_notMem {members : Members} {name : String} :
    members.lookup name = none ↔ name ∉ members.map Prod.fst := by
  rw [List.lookup_eq_none_iff, List.mem_map]
  constructor
  · rintro none ⟨m, member, rfl⟩
    simpa using none m member
  · intro none m member
    exact bne_iff_ne.2 fun same => none ⟨m, member, same.symm⟩

/-! ## Slots -/

/-- A declared member of an object: the name under which it is written, another name under which it may be read, and its value. -/
structure Slot where
  label : String
  synonym : String
  value : Option Datum

namespace Slot

/-- The name under which the member stands in an object. -/
def key (members : Members) (s : Slot) : String :=
  Field.keyOf members s.label s.synonym

/-- The members that are written for some slots. -/
def entries (slots : List Slot) : Members :=
  slots.flatMap fun s => s.value.toList.map (s.label, ·)

/-- Whether slots have no name in common, but that both names of a slot may be one. -/
structure Apart (slots : List Slot) : Prop where
  labels : (slots.map label).Nodup
  synonyms : ∀ s ∈ slots, ∀ t ∈ slots, s.synonym = t.label → s.label = t.label

/-- Whether no slot would be read from some other members, behind the members that are written for the slots. -/
def Frees (others : Members) (slots : List Slot) : Prop :=
  ∀ s ∈ slots, others.lookup s.label = none ∧ (s.value = none → others.lookup s.synonym = none)

/-- The names of slots. -/
def names (slots : List Slot) : List String :=
  slots.flatMap fun s => [s.label, s.synonym]

/-- A slot with its number null if it is not finite. -/
def withNulls (s : Slot) : Slot :=
  { s with value := s.value.map Json.nulled }

variable {slots : List Slot} {members others : Members} {s : Slot}

theorem key_mem_names (members : Members) (h : s ∈ slots) : s.key members ∈ names slots := by
  refine List.mem_flatMap.2 ⟨s, h, ?_⟩
  unfold key Field.keyOf
  split <;> simp

/-- A slot of one name stands under that name. -/
theorem key_self (members : Members) (label : String) (value : Option Datum) : (Slot.mk label label value).key members = label :=
  ite_self _

/-- What is left of an object holds no member under whose name a slot would be read, if the slots without a value are those that
the object has not. -/
theorem frees_membersBesides (absent : ∀ s ∈ slots, s.value = none → members.lookup (s.key members) = none) :
    Frees (membersBesides (slots.map (key members)) members) slots := by
  intro s member
  have used : s.key members ∈ slots.map (key members) := List.mem_map_of_mem member
  rw [lookup_membersBesides, lookup_membersBesides]
  cases there : has members s.label with
  | true =>
    have named : s.key members = s.label := if_pos there
    rw [named] at used
    refine ⟨if_pos used, fun none => ?_⟩
    have missing := absent s member none
    rw [named, ← has_eq_false, there] at missing
    cases missing
  | false =>
    have named : s.key members = s.synonym := if_neg (by simp [there])
    rw [named] at used
    refine ⟨?_, fun _ => if_pos used⟩
    rw [has_eq_false.1 there, ite_self]

/-! ## Written objects -/

theorem entries_cons (s : Slot) (slots : List Slot) : entries (s :: slots) = s.value.toList.map (s.label, ·) ++ entries slots :=
  rfl

/-- What is written are values of slots under their first names. -/
theorem mem_entries {m : String × Datum} : m ∈ entries slots ↔ ∃ s ∈ slots, s.label = m.1 ∧ s.value = some m.2 := by
  rw [entries, List.mem_flatMap]
  refine exists_congr fun s => and_congr_right fun _ => ?_
  rw [List.mem_map]
  constructor
  · rintro ⟨d, given, rfl⟩
    exact ⟨rfl, Option.mem_toList.1 given⟩
  · rintro ⟨named, given⟩
    exact ⟨m.2, Option.mem_toList.2 given, Prod.ext named rfl⟩

/-- Under another name than the first ones of slots nothing is written. -/
theorem lookup_entries_of_ne {name : String} (other : ∀ s ∈ slots, s.label ≠ name) : (entries slots).lookup name = none := by
  rw [lookup_eq_none_iff_notMem]
  intro named
  obtain ⟨m, written, rfl⟩ := List.mem_map.1 named
  obtain ⟨s, member, named, -⟩ := mem_entries.1 written
  exact other s member named

/-- The value of each slot is written under its first name. -/
theorem lookup_entries (distinct : (slots.map label).Nodup) (h : s ∈ slots) : (entries slots).lookup s.label = s.value := by
  induction slots with
  | nil => cases h
  | cons t rest ih =>
    rw [List.map_cons, List.nodup_cons] at distinct
    rw [entries_cons, List.lookup_append]
    rcases List.mem_cons.1 h with rfl | later
    · have further : (entries rest).lookup s.label = none :=
        lookup_entries_of_ne fun t member same => distinct.1 (same ▸ List.mem_map_of_mem member)
      rw [further, Option.or_none]
      cases s.value <;> simp
    · have differ : (s.label == t.label) = false :=
        beq_eq_false_iff_ne.2 fun same => distinct.1 (same ▸ List.mem_map_of_mem later)
      rw [ih distinct.2 later]
      cases t.value <;> simp [List.lookup_cons, differ]

/-- The name of a slot in the object that is written: the first one if it has a value, else the second. -/
theorem key_written (apart : Apart slots) (frees : Frees others slots) (h : s ∈ slots) :
    s.key (entries slots ++ others) = if s.value.isSome then s.label else s.synonym := by
  have found : has (entries slots ++ others) s.label = s.value.isSome := by
    rw [has_eq_isSome, List.lookup_append, lookup_entries apart.labels h, (frees s h).1, Option.or_none]
  rw [key, Field.keyOf, found]

/-- The object that is written is read as the values of the slots. -/
theorem valueOf_key (apart : Apart slots) (frees : Frees others slots) (h : s ∈ slots) :
    valueOf (entries slots ++ others) (s.key (entries slots ++ others)) = s.value.getD .null := by
  rw [key_written apart frees h, valueOf, List.lookup_append]
  cases given : s.value with
  | some d =>
    rw [if_pos (by rfl), lookup_entries apart.labels h, given]
    rfl
  | none =>
    -- The second name may be the first name of no slot but this one, which has no value.
    have unwritten : (entries slots).lookup s.synonym = none := by
      by_cases labelled : ∃ t ∈ slots, t.label = s.synonym
      · obtain ⟨t, member, same⟩ := labelled
        rw [← same, ← apart.synonyms s h t member same.symm, lookup_entries apart.labels h, given]
      · exact lookup_entries_of_ne fun t member same => labelled ⟨t, member, same⟩
    rw [if_neg (by simp), unwritten, (frees s h).2 given]
    rfl

/-- The object that is written has the other members besides those that are read. -/
theorem membersBesides_keys (apart : Apart slots) (frees : Frees others slots) :
    membersBesides (slots.map (key (entries slots ++ others))) (entries slots ++ others) = others := by
  have declared : (entries slots).filter (fun m => !(slots.map (key (entries slots ++ others))).contains m.1) = [] := by
    rw [List.filter_eq_nil_iff]
    intro m member
    obtain ⟨s, among, named, given⟩ := mem_entries.1 member
    have found : s.key (entries slots ++ others) = m.1 := by
      rw [key_written apart frees among, given, ← named]
      rfl
    have used : m.1 ∈ slots.map (key (entries slots ++ others)) := List.mem_map.2 ⟨s, among, found⟩
    rw [Bool.not_eq_true, Bool.not_eq_false', List.contains_iff_mem]
    exact used
  have kept : others.filter (fun m => !(slots.map (key (entries slots ++ others))).contains m.1) = others := by
    rw [List.filter_eq_self]
    intro m member
    have present : others.lookup m.1 ≠ none := fun none =>
      lookup_eq_none_iff_notMem.1 none (List.mem_map_of_mem member)
    rw [Bool.not_eq_true', ← Bool.not_eq_true, List.contains_iff_mem, List.mem_map]
    rintro ⟨s, among, named⟩
    rw [key_written apart frees among] at named
    split at named
    · exact present (named ▸ (frees s among).1)
    · rename_i none
      exact present (named ▸ (frees s among).2 (by simpa using none))
  rw [membersBesides, List.filter_append, declared, kept, List.nil_append]

/-- Members of other names than those of the slots are found in the object that is written as they were in the object that was
read. -/
theorem lookup_of_undeclared {name : String} (undeclared : name ∉ names slots) :
    (entries slots ++ membersBesides (slots.map (key members)) members).lookup name = members.lookup name := by
  have unwritten : (entries slots).lookup name = none := by
    refine lookup_entries_of_ne fun s member same => undeclared ?_
    exact List.mem_flatMap.2 ⟨s, member, by simp [same]⟩
  have unread : name ∉ slots.map (key members) := by
    rintro used
    obtain ⟨s, member, rfl⟩ := List.mem_map.1 used
    exact undeclared (key_mem_names members member)
  rw [List.lookup_append, unwritten, Option.none_or, lookup_membersBesides, if_neg unread]

/-- The first names of slots are written in their order, but for those of slots without a value. -/
theorem sublist_labels (slots : List Slot) : ((entries slots).map Prod.fst).Sublist (slots.map label) := by
  induction slots with
  | nil => exact .slnil
  | cons s rest ih =>
    rw [entries_cons, List.map_cons]
    cases s.value with
    | none => exact ih.cons s.label
    | some d => exact ih.cons_cons s.label

/-- The names of the object that is written are distinct if those of the others are. -/
theorem nodup_written (apart : Apart slots) (frees : Frees others slots) (distinct : (others.map Prod.fst).Nodup) :
    ((entries slots ++ others).map Prod.fst).Nodup := by
  rw [List.map_append, List.nodup_append]
  refine ⟨apart.labels.sublist (sublist_labels slots), distinct, ?_⟩
  rintro name written name' there rfl
  obtain ⟨m, member, rfl⟩ := List.mem_map.1 written
  obtain ⟨s, among, named, -⟩ := mem_entries.1 member
  exact lookup_eq_none_iff_notMem.1 (named ▸ (frees s among).1) there

/-! ## Written objects that are read back -/

open Json (IsJson isJson_object_iff depth depthMembers nulledMembers nulledMembers_eq_map)

/-- Nulls for numbers leave the names of slots as they are. -/
theorem Apart.withNulls (apart : Apart slots) : Apart (slots.map withNulls) := by
  refine ⟨by rw [List.map_map]; exact apart.labels, ?_⟩
  rw [List.forall_mem_map]
  simp only [List.forall_mem_map]
  exact apart.synonyms

theorem Frees.withNulls (frees : Frees others slots) : Frees others (slots.map withNulls) := by
  rw [Frees, List.forall_mem_map]
  intro s member
  refine ⟨(frees s member).1, fun none => (frees s member).2 ?_⟩
  exact Option.map_eq_none_iff.1 none

theorem map_key_withNulls (members : Members) (slots : List Slot) :
    (slots.map withNulls).map (key members) = slots.map (key members) :=
  List.map_map

/-- The members that are written for slots, with null for numbers. -/
theorem nulledMembers_entries (slots : List Slot) : nulledMembers (entries slots) = entries (slots.map withNulls) := by
  rw [nulledMembers_eq_map]
  induction slots with
  | nil => rfl
  | cons s rest ih =>
    rw [List.map_cons, entries_cons, entries_cons, List.map_append, ih, withNulls]
    cases s.value <;> rfl

/-- The members of an object are nested as deep as the deepest of them. -/
theorem depthMembers_le_iff {n : ℕ} : depthMembers members ≤ n ↔ ∀ m ∈ members, depth m.2 ≤ n := by
  induction members with
  | nil => simp [depthMembers]
  | cons m rest ih => rw [depthMembers, Nat.max_le, ih, List.forall_mem_cons]

/-- Whether a slot fits an object: it is without a value only if the object has no such member, and its value is no deeper than the
object and a value of JSON, but for numbers that are not finite. -/
structure Fits (members : Members) (s : Slot) : Prop where
  absent : s.value = none → members.lookup (s.key members) = none
  value : ∀ d, s.value = some d → IsJson (Json.nulled d) ∧ depth d ≤ depthMembers members

/-- An object that is read back for one that was written with the declared members of slots and all others of some members. -/
structure Rewrites (slots : List Slot) (members written : Members) : Prop where
  json : IsJson (.object written)
  shallow : depthMembers written ≤ depthMembers members
  /-- Members of other names are the same. -/
  kept : ∀ name, name ∉ names slots → written.lookup name = members.lookup name
  /-- Declared members are found under the name under which they are read. -/
  declared : ∀ s ∈ slots, valueOf written (s.key written) = (s.value.map Json.nulled).getD .null
  /-- Nothing else is left. -/
  others : membersBesides (slots.map (key written)) written = membersBesides (slots.map (key members)) members

/-- An object that is written with slots that fit it is read back as it was, but for numbers that are not finite. -/
theorem exists_rewrites (apart : Apart slots) (json : IsJson (.object members)) (fits : ∀ s ∈ slots, s.Fits members) :
    ∃ written,
      Json.nulled (.object (entries slots ++ membersBesides (slots.map (key members)) members)) = .object written ∧
        Rewrites slots members written := by
  obtain ⟨distinct, each⟩ := isJson_object_iff.1 json
  have frees := frees_membersBesides fun s member => (fits s member).absent
  have left (m : String × Datum) (h : m ∈ membersBesides (slots.map (key members)) members) : m ∈ members :=
    mem_of_mem_membersBesides h
  have written : Json.nulled (.object (entries slots ++ membersBesides (slots.map (key members)) members)) =
      .object (entries (slots.map withNulls) ++ membersBesides (slots.map (key members)) members) := by
    have rest := Json.nulledMembers_of_isJson _ fun m h => each m (left m h)
    rw [nulledMembers_eq_map] at rest
    rw [Json.nulled, nulledMembers_eq_map, List.map_append, ← nulledMembers_eq_map, rest, nulledMembers_entries]
  have value {m : String × Datum} (h : m ∈ entries (slots.map withNulls)) :
      IsJson m.2 ∧ depth m.2 ≤ depthMembers members := by
    obtain ⟨_, among, -, given⟩ := mem_entries.1 h
    obtain ⟨s, member, rfl⟩ := List.mem_map.1 among
    obtain ⟨d, given', same⟩ := Option.map_eq_some_iff.1 given
    obtain ⟨isJson, shallow⟩ := (fits s member).value d given'
    rw [← same]
    exact ⟨isJson, Json.depth_nulled d ▸ shallow⟩
  refine ⟨_, written, ?_, ?_, ?_, ?_, ?_⟩
  · refine isJson_object_iff.2 ⟨?_, fun m h => ?_⟩
    · exact nodup_written apart.withNulls frees.withNulls (distinct.sublist (List.filter_sublist.map Prod.fst))
    · rcases List.mem_append.1 h with declared | other
      · exact (value declared).1
      · exact each m (left m other)
  · refine depthMembers_le_iff.2 fun m h => ?_
    rcases List.mem_append.1 h with declared | other
    · exact (value declared).2
    · exact depthMembers_le_iff.1 le_rfl m (left m other)
  · intro name undeclared
    have names : names (slots.map withNulls) = names slots := List.flatMap_map ..
    rw [← map_key_withNulls, lookup_of_undeclared (names ▸ undeclared)]
  · intro s member
    exact valueOf_key apart.withNulls frees.withNulls (List.mem_map_of_mem member)
  · have besides := membersBesides_keys apart.withNulls frees.withNulls
    rwa [map_key_withNulls] at besides

end Slot

end CatalogFilter
