import CatalogFilter.Json.Plain
import CatalogFilter.Proofs.Json.RoundTrip

/-!
# Numbers that are not finite

* `Json.nulled` — a value with null in the place of each number that is not finite.
* `Json.write_nulled` — a value has the same text as with these nulls, since such numbers have none.
* `Json.write?_of_nulled` — so a value that is a value of JSON but for such numbers has a text, which is read back as the value
  with nulls.
* `Json.plain_of_isJson` — a value of JSON is as JSON knows it.
-/

namespace CatalogFilter.Json

/-! ## Nulls for numbers -/

mutual

/-- The value with null in the place of each number that is not finite. -/
def nulled : Datum → Datum
  | .num (.float x) => if x.isFinite then .num (.float x) else .null
  | .list items => .list (nulledAll items)
  | .tuple items => .tuple (nulledAll items)
  | .object members => .object (nulledMembers members)
  | d => d

/-- `nulled` of each item. -/
def nulledAll : List Datum → List Datum
  | [] => []
  | d :: rest => nulled d :: nulledAll rest

/-- `nulled` of each member's value. -/
def nulledMembers : List (String × Datum) → List (String × Datum)
  | [] => []
  | (name, d) :: rest => (name, nulled d) :: nulledMembers rest

end

theorem nulledMembers_eq_map (members : List (String × Datum)) :
    nulledMembers members = members.map fun m => (m.1, nulled m.2) := by
  induction members with
  | nil => rfl
  | cons m rest ih => rw [nulledMembers, ih, List.map_cons]

/-- Null stands for a number that is not finite. -/
theorem nulled_float (x : Binary64) : nulled (.num (.float x)) = if x.isFinite then .num (.float x) else .null := rfl

/-- What is written of a float that is not finite. -/
theorem write_null_of_not_finite (s : Style) (level : ℕ) {x : Binary64} (h : x.isFinite = false) :
    write s level (.num (.float x)) = write s level .null := by
  cases x with
  | finite negative exponent fraction => cases h
  | _ => rfl

theorem nulledAll_eq_nil_iff {items : List Datum} : nulledAll items = [] ↔ items = [] := by
  cases items <;> simp [nulledAll]

theorem nulledMembers_eq_nil_iff {members : List (String × Datum)} : nulledMembers members = [] ↔ members = [] := by
  cases members <;> simp [nulledMembers]

mutual

/-- A value has the same text as with nulls. -/
theorem write_nulled (s : Style) (level : ℕ) (d : Datum) : write s level (nulled d) = write s level d := by
  cases d with
  | num n =>
    cases n with
    | int i => rfl
    | float x =>
      rw [nulled_float]
      split
      · rfl
      · rename_i notFinite
        exact (write_null_of_not_finite s level (by simpa using notFinite)).symm
  | list items =>
    cases items with
    | nil => rfl
    | cons d rest =>
      rw [nulled, nulledAll, write_list_cons, write_list_cons, ← nulledAll, writeItems_nulledAll]
  | tuple items =>
    cases items with
    | nil => rfl
    | cons d rest =>
      rw [nulled, nulledAll, write_tuple, write_tuple, write_list_cons, write_list_cons, ← nulledAll, writeItems_nulledAll]
  | object members =>
    cases members with
    | nil => rfl
    | cons m rest =>
      rw [nulled, nulledMembers, write_object_cons, write_object_cons, ← nulledMembers, writeMembers_nulledMembers]
  | _ => rfl

theorem writeItems_nulledAll (s : Style) (level : ℕ) (items : List Datum) :
    writeItems s level (nulledAll items) = writeItems s level items := by
  cases items with
  | nil => rfl
  | cons d rest =>
    rw [nulledAll, writeItems_cons, writeItems_cons, write_nulled s level d, writeItems_nulledAll s level rest]
    simp only [nulledAll_eq_nil_iff]

theorem writeMembers_nulledMembers (s : Style) (level : ℕ) (members : List (String × Datum)) :
    writeMembers s level (nulledMembers members) = writeMembers s level members := by
  cases members with
  | nil => rfl
  | cons m rest =>
    obtain ⟨name, d⟩ := m
    rw [nulledMembers, writeMembers_cons, writeMembers_cons, write_nulled s level d, writeMembers_nulledMembers s level rest]
    simp only [nulledMembers_eq_nil_iff]

end

mutual

/-- Nulls are nested as deep as the numbers are. -/
theorem depth_nulled (d : Datum) : depth (nulled d) = depth d := by
  cases d with
  | num n =>
    cases n with
    | int i => rfl
    | float x =>
      rw [nulled_float]
      split <;> rfl
  | list items =>
    cases items with
    | nil => rfl
    | cons d rest => exact congrArg (· + 1) (depthAll_nulledAll (d :: rest))
  | tuple items =>
    cases items with
    | nil => rfl
    | cons d rest => exact congrArg (· + 1) (depthAll_nulledAll (d :: rest))
  | object members => exact congrArg (· + 1) (depthMembers_nulledMembers members)
  | _ => rfl

theorem depthAll_nulledAll (items : List Datum) : depthAll (nulledAll items) = depthAll items := by
  cases items with
  | nil => rfl
  | cons d rest => rw [nulledAll, depthAll, depthAll, depth_nulled d, depthAll_nulledAll rest]

theorem depthMembers_nulledMembers (members : List (String × Datum)) :
    depthMembers (nulledMembers members) = depthMembers members := by
  cases members with
  | nil => rfl
  | cons m rest => rw [nulledMembers, depthMembers, depthMembers, depth_nulled m.2, depthMembers_nulledMembers rest]

end

mutual

/-- Nulls can be written as the numbers can. -/
theorem plainLeaves_nulled (d : Datum) : plainLeaves (nulled d) = plainLeaves d := by
  cases d with
  | num n =>
    cases n with
    | int i => rfl
    | float x =>
      rw [nulled_float]
      split <;> rfl
  | list items => exact plainLeavesAll_nulledAll items
  | tuple items => exact plainLeavesAll_nulledAll items
  | object members => exact plainLeavesMembers_nulledMembers members
  | _ => rfl

theorem plainLeavesAll_nulledAll (items : List Datum) : plainLeavesAll (nulledAll items) = plainLeavesAll items := by
  cases items with
  | nil => rfl
  | cons d rest => rw [nulledAll, plainLeavesAll, plainLeavesAll, plainLeaves_nulled d, plainLeavesAll_nulledAll rest]

theorem plainLeavesMembers_nulledMembers (members : List (String × Datum)) :
    plainLeavesMembers (nulledMembers members) = plainLeavesMembers members := by
  cases members with
  | nil => rfl
  | cons m rest =>
    rw [nulledMembers, plainLeavesMembers, plainLeavesMembers, plainLeaves_nulled m.2, plainLeavesMembers_nulledMembers rest]

end

/-- A value that is one of JSON once numbers that are not finite are null has a text, and the text is read back as the value with
nulls. -/
theorem write?_of_nulled (s : Style) {d : Datum} (json : IsJson (nulled d)) (shallow : depth (nulled d) ≤ 254) :
    ∃ text, write? s d = some text ∧ read .strict text = some (nulled d) := by
  have encodable : Encodable d := ⟨depth_nulled d ▸ shallow, plainLeaves_nulled d ▸ plainLeaves_of_isJson _ json⟩
  refine ⟨String.ofList (write s 0 d), if_pos encodable, ?_⟩
  rw [← write_nulled]
  exact read_write s json (by omega)

mutual

/-- A value of JSON has no numbers to be null. -/
theorem nulled_of_isJson (d : Datum) (json : IsJson d) : nulled d = d := by
  cases d with
  | num n =>
    cases n with
    | int i => rfl
    | float x => exact if_pos json.numbers
  | list items => exact congrArg Data.list (nulledAll_of_isJson items (isJson_list_iff.1 json))
  | object members => exact congrArg Data.object (nulledMembers_of_isJson members (isJson_object_iff.1 json).2)
  | tuple items => cases json.keyed
  | _ => rfl

theorem nulledAll_of_isJson (items : List Datum) (json : ∀ d ∈ items, IsJson d) : nulledAll items = items := by
  cases items with
  | nil => rfl
  | cons d rest =>
    rw [List.forall_mem_cons] at json
    rw [nulledAll, nulled_of_isJson d json.1, nulledAll_of_isJson rest json.2]

theorem nulledMembers_of_isJson (members : List (String × Datum)) (json : ∀ m ∈ members, IsJson m.2) :
    nulledMembers members = members := by
  cases members with
  | nil => rfl
  | cons m rest =>
    rw [List.forall_mem_cons] at json
    rw [nulledMembers, nulled_of_isJson m.2 json.1, nulledMembers_of_isJson rest json.2]

end

/-! ## Values as JSON knows them -/

mutual

/-- A value of JSON is as JSON knows it. -/
theorem plain_of_isJson (d : Datum) (room : ℕ) (json : IsJson d) (shallow : depth d < room) : plain room d = .ok d := by
  cases room with
  | zero => omega
  | succ room =>
    cases d with
    | num n =>
      cases n with
      | int i => rfl
      | float x => exact congrArg Except.ok (if_pos json.numbers)
    | list items =>
      cases items with
      | nil => rfl
      | cons d rest =>
        have inner : depthAll (d :: rest) < room := Nat.lt_of_succ_lt_succ shallow
        rw [plain, plainAll_of_isJson _ room (isJson_list_iff.1 json) inner]
        rfl
    | object members =>
      cases members with
      | nil => rfl
      | cons m rest =>
        have inner : depthMembers (m :: rest) < room := Nat.lt_of_succ_lt_succ shallow
        rw [plain, plainNamed_of_isJson _ room (isJson_object_iff.1 json).2 inner]
        rfl
    | tuple items => cases json.keyed
    | datetime d => cases json.keyed
    | date d => cases json.keyed
    | other f => cases json.keyed
    | _ => rfl

theorem plainAll_of_isJson (items : List Datum) (room : ℕ) (json : ∀ d ∈ items, IsJson d) (shallow : depthAll items < room) :
    plainAll room items = .ok items := by
  cases items with
  | nil => rfl
  | cons d rest =>
    rw [List.forall_mem_cons] at json
    rw [depthAll, Nat.max_lt] at shallow
    rw [plainAll, plain_of_isJson d room json.1 shallow.1, plainAll_of_isJson rest room json.2 shallow.2]
    rfl

theorem plainNamed_of_isJson (members : List (String × Datum)) (room : ℕ) (json : ∀ m ∈ members, IsJson m.2)
    (shallow : depthMembers members < room) : plainNamed room members = .ok members := by
  cases members with
  | nil => rfl
  | cons m rest =>
    rw [List.forall_mem_cons] at json
    rw [depthMembers, Nat.max_lt] at shallow
    rw [plainNamed, plain_of_isJson m.2 room json.1 shallow.1, plainNamed_of_isJson rest room json.2 shallow.2]
    rfl

end

end CatalogFilter.Json
