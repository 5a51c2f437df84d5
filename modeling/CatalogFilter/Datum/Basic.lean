import CatalogFilter.Calendar.DateTime
import CatalogFilter.Datum.TypedGeometry
import CatalogFilter.Number.Basic

/-! # Decoded values

* `Data α`: what a document or a caller may hold: null, booleans, numbers, texts, lists, tuples, objects, dates
  and times, and anything else as an `α`.
* `Datum`: decoded values in which of anything else only what messages and documents show is known.
* `Data.map`: exchanges the other values.
* `Datum.freeze`, `Datum.thaw`: turn the lists outside objects into tuples, and back.
* `Datum.thaw_freeze`: after freezing, thawing gives what thawing alone gives. -/

namespace CatalogFilter

/-- A decoded value with other values of type `α`. Members of an object keep their order; of two members of
one name the first counts. -/
inductive Data (α : Type) where
  | null
  | bool (b : Bool)
  | num (n : Number)
  | str (s : String)
  | list (items : List (Data α))
  | tuple (items : List (Data α))
  | object (members : List (String × Data α))
  | datetime (d : DateTime)
  | date (d : Date)
  | other (a : α)

/-- What is known of a value that is no data: the name of its kind, its text in messages, whether that text can be made,
and the geometry that it is, if it is a typed one. -/
structure Foreign where
  kind : String
  text : String
  isPrintable : Bool
  geometry : Option TypedGeometry

/-- A decoded value. -/
abbrev Datum := Data Foreign

instance {α : Type} : Inhabited (Data α) := ⟨.null⟩

namespace Data

variable {α β : Type}

/-- The integer `i` as a decoded value. -/
def int (i : Int) : Data α :=
  .num (.int i)

mutual

/-- Exchanges the other values. -/
def map (f : α → β) : Data α → Data β
  | .null => .null
  | .bool b => .bool b
  | .num n => .num n
  | .str s => .str s
  | .list items => .list (mapAll f items)
  | .tuple items => .tuple (mapAll f items)
  | .object members => .object (mapMembers f members)
  | .datetime d => .datetime d
  | .date d => .date d
  | .other a => .other (f a)

/-- `map` on each item. -/
def mapAll (f : α → β) : List (Data α) → List (Data β)
  | [] => []
  | d :: rest => map f d :: mapAll f rest

/-- `map` on each member's value. -/
def mapMembers (f : α → β) : List (String × Data α) → List (String × Data β)
  | [] => []
  | (name, d) :: rest => (name, map f d) :: mapMembers f rest

end

/-- What iterating a value gives, if it can be iterated: items, characters, or member names. -/
def iterate? : Data α → Option (List (Data α))
  | .list items => some items
  | .tuple items => some items
  | .str s => some (s.toList.map fun c => .str (String.singleton c))
  | .object members => some (members.map fun m => .str m.1)
  | _ => none

theorem mapAll_eq_map (f : α → β) (items : List (Data α)) : mapAll f items = items.map (map f) := by
  induction items with
  | nil => rfl
  | cons d rest ih => rw [mapAll, ih, List.map_cons]

variable {f : α → β} {g : β → α}

mutual

/-- Exchanging the other values and exchanging them back changes nothing. -/
theorem map_map_of_inverse (inverse : ∀ a, g (f a) = a) (d : Data α) : map g (map f d) = d := by
  cases d with
  | list items => rw [map, map, mapAll_mapAll_of_inverse inverse items]
  | tuple items => rw [map, map, mapAll_mapAll_of_inverse inverse items]
  | object members => rw [map, map, mapMembers_mapMembers_of_inverse inverse members]
  | other a => rw [map, map, inverse]
  | _ => rfl

theorem mapAll_mapAll_of_inverse (inverse : ∀ a, g (f a) = a) (items : List (Data α)) :
    mapAll g (mapAll f items) = items := by
  cases items with
  | nil => rfl
  | cons d rest => rw [mapAll, mapAll, map_map_of_inverse inverse d, mapAll_mapAll_of_inverse inverse rest]

theorem mapMembers_mapMembers_of_inverse (inverse : ∀ a, g (f a) = a) (members : List (String × Data α)) :
    mapMembers g (mapMembers f members) = members := by
  cases members with
  | nil => rfl
  | cons m rest =>
    obtain ⟨name, d⟩ := m
    rw [mapMembers, mapMembers, map_map_of_inverse inverse d,
      mapMembers_mapMembers_of_inverse inverse rest]

end

end Data

namespace Datum

/-! ## Lists and tuples -/

mutual

/-- Turns the lists outside objects into tuples. -/
def freeze : Datum → Datum
  | .list items => .tuple (freezeAll items)
  | .tuple items => .tuple (freezeAll items)
  | d => d

/-- `freeze` on each item. -/
def freezeAll : List Datum → List Datum
  | [] => []
  | d :: rest => freeze d :: freezeAll rest

end

mutual

/-- Turns the tuples outside objects into lists. -/
def thaw : Datum → Datum
  | .list items => .list (thawAll items)
  | .tuple items => .list (thawAll items)
  | d => d

/-- `thaw` on each item. -/
def thawAll : List Datum → List Datum
  | [] => []
  | d :: rest => thaw d :: thawAll rest

end

mutual

/-- Whether no list stands outside an object. -/
def IsFrozen : Datum → Prop
  | .list _ => False
  | .tuple items => AllFrozen items
  | _ => True

/-- `IsFrozen` of each item. -/
def AllFrozen : List Datum → Prop
  | [] => True
  | d :: rest => IsFrozen d ∧ AllFrozen rest

end

mutual

theorem isFrozen_freeze (d : Datum) : (freeze d).IsFrozen := by
  cases d with
  | list items => exact allFrozen_freezeAll items
  | tuple items => exact allFrozen_freezeAll items
  | _ => trivial

theorem allFrozen_freezeAll (items : List Datum) : AllFrozen (freezeAll items) := by
  cases items with
  | nil => trivial
  | cons d rest => exact ⟨isFrozen_freeze d, allFrozen_freezeAll rest⟩

end

mutual

/-- On a frozen value, freezing undoes thawing. -/
theorem freeze_thaw (d : Datum) (h : d.IsFrozen) : freeze (thaw d) = d := by
  cases d with
  | list items => exact h.elim
  | tuple items => rw [thaw, freeze, freezeAll_thawAll items h]
  | _ => rfl

theorem freezeAll_thawAll (items : List Datum) (h : AllFrozen items) :
    freezeAll (thawAll items) = items := by
  cases items with
  | nil => rfl
  | cons d rest => rw [thawAll, freezeAll, freeze_thaw d h.1, freezeAll_thawAll rest h.2]

end

mutual

theorem thaw_freeze (d : Datum) : thaw (freeze d) = thaw d := by
  cases d with
  | list items => rw [freeze, thaw, thaw, thawAll_freezeAll items]
  | tuple items => rw [freeze, thaw, thaw, thawAll_freezeAll items]
  | _ => rfl

theorem thawAll_freezeAll (items : List Datum) : thawAll (freezeAll items) = thawAll items := by
  cases items with
  | nil => rfl
  | cons d rest => rw [freezeAll, thawAll, thawAll, thaw_freeze d, thawAll_freezeAll rest]

end

end Datum

end CatalogFilter
