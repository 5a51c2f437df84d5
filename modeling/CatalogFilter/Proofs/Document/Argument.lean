import CatalogFilter.Document.Argument
import CatalogFilter.Proofs.Outcome

/-!
# What the parts of a document are read as

* `ReadsProperty`, `ReadsGeometry`, `ReadsBox`, `ReadsShape` — which decoded values stand for which properties and
  shapes.
* `ReadsTimestamp`, `ReadsDate`, `ReadsBound`, `ReadsInterval`, `ReadsInstant` — the same for times.
* `readProperty_eq_ok`, `readGeometry_eq_ok` and their like — a reader returns exactly what its relation allows.

A relation names no operator: which operator an error would mention has no influence on a success.
-/

namespace CatalogFilter.Document

open Outcome

/-! ## First members -/

/-- Of some names, the first that an object has a member of, with the value of the member. -/
def leading? (keys : List String) (members : Members) : Option (String × Datum) :=
  keys.findSome? fun key => (members.lookup key).map (key, ·)

/-- An object has a member exactly when looking for it finds one. -/
theorem has_eq_isSome (members : Members) (name : String) : has members name = (members.lookup name).isSome := by
  induction members with
  | nil => rfl
  | cons m rest ih =>
    obtain ⟨key, value⟩ := m
    rw [has, List.any_cons, List.lookup_cons]
    by_cases same : key = name
    · subst same
      simp
    · have other : (name == key) = false := by simpa using fun h => same h.symm
      rw [other, beq_eq_false_iff_ne.2 same, Bool.false_or]
      exact ih

/-- Without a member there is no value. -/
theorem has_eq_false {members : Members} {name : String} :
    has members name = false ↔ members.lookup name = none := by
  rw [has_eq_isSome, Option.isSome_eq_false_iff, Option.isNone_iff_eq_none]

/-- With a member there is its value. -/
theorem has_eq_true {members : Members} {name : String} :
    has members name = true ↔ ∃ value, members.lookup name = some value := by
  rw [has_eq_isSome, Option.isSome_iff_exists]

/-- The value of a member that is there. -/
theorem valueOf_of_lookup {members : Members} {name : String} {value : Datum}
    (found : members.lookup name = some value) : valueOf members name = value := by
  rw [valueOf, found, Option.getD_some]

/-- No name, no member. -/
@[simp] theorem leading?_nil (members : Members) : leading? [] members = none := rfl

/-- The first name leads where it has a member; where it has none, the others decide. -/
@[simp] theorem leading?_cons (first : String) (keys : List String) (members : Members) (key : String)
    (value : Datum) :
    leading? (first :: keys) members = some (key, value) ↔
      (first = key ∧ members.lookup key = some value) ∨
        (has members first = false ∧ leading? keys members = some (key, value)) := by
  unfold leading?
  rw [List.findSome?_cons, has_eq_isSome]
  cases found : members.lookup first with
  | none =>
    refine ⟨fun h => .inr ⟨rfl, h⟩, ?_⟩
    rintro (⟨rfl, h⟩ | ⟨-, h⟩)
    · rw [found] at h
      cases h
    · exact h
  | some _ =>
    constructor
    · intro h
      cases h
      exact .inl ⟨rfl, found⟩
    · rintro (⟨rfl, h⟩ | ⟨h, -⟩)
      · rw [found] at h
        cases h
        rfl
      · cases h

/-- The leading name has a member. -/
theorem lookup_of_leading? {keys : List String} {members : Members} {key : String} {value : Datum}
    (leads : leading? keys members = some (key, value)) : members.lookup key = some value := by
  induction keys with
  | nil => cases leads
  | cons first keys ih =>
    rw [leading?_cons] at leads
    rcases leads with ⟨-, found⟩ | ⟨-, leads⟩
    · exact found
    · exact ih leads

/-- The leading name is one of the names. -/
theorem mem_of_leading? {keys : List String} {members : Members} {key : String} {value : Datum}
    (leads : leading? keys members = some (key, value)) : key ∈ keys := by
  induction keys with
  | nil => cases leads
  | cons first keys ih =>
    rw [leading?_cons] at leads
    rcases leads with ⟨rfl, -⟩ | ⟨-, leads⟩
    · exact List.mem_cons_self
    · exact List.mem_cons_of_mem _ (ih leads)

section

variable {α : Type} {members : Members} {hit : String → Datum → Except ParseError α} {missing : ParseError}

/-- What is made of an object by its leading name; without one, an error. -/
def readFirst (keys : List String) (members : Members) (hit : String → Datum → Except ParseError α)
    (missing : ParseError) : Except ParseError α :=
  match leading? keys members with
  | some (key, value) => hit key value
  | none => .error missing

/-- No name leads to the error. -/
@[simp] theorem readFirst_nil : readFirst [] members hit missing = .error missing := rfl

/-- The first name decides where it has a member, and the others where it has none. -/
@[simp] theorem readFirst_cons {key : String} {keys : List String} :
    readFirst (key :: keys) members hit missing =
      if has members key then hit key (valueOf members key) else readFirst keys members hit missing := by
  unfold readFirst leading?
  rw [List.findSome?_cons, has_eq_isSome]
  cases found : members.lookup key with
  | none => rfl
  | some value =>
    rw [valueOf_of_lookup found]
    rfl

/-- Something is made of an object exactly when it is made of the leading name's value. -/
theorem readFirst_eq_ok {keys : List String} {a : α} :
    readFirst keys members hit missing = .ok a ↔
      ∃ key value, leading? keys members = some (key, value) ∧ hit key value = .ok a := by
  unfold readFirst
  cases leads : leading? keys members with
  | none =>
    constructor
    · intro h
      cases h
    · rintro ⟨key, value, h, -⟩
      cases h
  | some first =>
    constructor
    · intro h
      exact ⟨first.1, first.2, rfl, h⟩
    · rintro ⟨key, value, same, h⟩
      cases same
      exact h

end

/-! ## Properties -/

/-- A value stands for a property: an object whose member `property` is its name, which is not empty. -/
inductive ReadsProperty : Datum → Property → Prop where
  | intro {members : Members} {p : Property} (named : members.lookup "property" = some (.str p.name))
      (notEmpty : p.name ≠ "") : ReadsProperty (.object members) p

/-- No read property has the empty name. -/
theorem ReadsProperty.name_ne_empty {d : Datum} {p : Property} (h : ReadsProperty d p) : p.name ≠ "" := by
  cases h with
  | intro _ notEmpty => exact notEmpty

/-- The name of a property is a text that is not empty. -/
theorem readPropertyName_eq_ok {op : String} {value : Datum} {p : Property} :
    readPropertyName op value = .ok p ↔ value = .str p.name ∧ p.name ≠ "" := by
  cases value with
  | str name =>
    rw [readPropertyName]
    split
    · rename_i empty
      subst empty
      exact ⟨nofun, fun ⟨h, notEmpty⟩ => absurd (Data.str.inj h).symm notEmpty⟩
    · rename_i notEmpty
      constructor
      · intro h
        cases h
        exact ⟨rfl, notEmpty⟩
      · rintro ⟨h, -⟩
        cases h
        rfl
  | _ => exact ⟨nofun, fun h => nomatch h.1⟩

theorem readProperty_eq_ok {op what : String} {value : Datum} {p : Property} :
    readProperty op value what = .ok p ↔ ReadsProperty value p := by
  cases value with
  | object members =>
    rw [readProperty]
    split
    · rename_i name found
      rw [readPropertyName_eq_ok]
      constructor
      · rintro ⟨rfl, notEmpty⟩
        exact .intro found notEmpty
      · rintro ⟨named, notEmpty⟩
        rw [found] at named
        exact ⟨Option.some.inj named, notEmpty⟩
    · rename_i missing
      constructor
      · exact nofun
      · rintro ⟨named, -⟩
        rw [missing] at named
        cases named
  | _ => exact ⟨nofun, nofun⟩

/-! ## Extents -/

/-- A list of numbers only, and which numbers they are. -/
theorem numbersOf_eq_ok {items : List Datum} {ns : List Number} :
    numbersOf items = .ok ns ↔ items = ns.map .num := by
  induction items generalizing ns with
  | nil =>
    cases ns with
    | nil => exact ⟨fun _ => rfl, fun _ => rfl⟩
    | cons n rest =>
      constructor
      · intro h
        cases h
      · intro h
        cases h
  | cons d rest ih =>
    cases d with
    | num n =>
      rw [numbersOf, map_eq_ok]
      constructor
      · rintro ⟨ms, hms, rfl⟩
        rw [ih.1 hms, List.map_cons]
      · intro h
        cases ns with
        | nil => cases h
        | cons m ms =>
          rw [List.map_cons, List.cons.injEq] at h
          cases h.1
          exact ⟨ms, ih.2 h.2, rfl⟩
    | _ =>
      constructor
      · intro h
        cases h
      · intro h
        cases ns <;> cases h

/-- Only a list of numbers is an extent, and only where their count is not a wrong one; which errors the other lists
lead to has no influence. -/
theorem extent_eq_ok (wrong : Nat → Prop) [DecidablePred wrong] {items : List Datum} {extent : List Number}
    (count other : ParseError) (notScalar : String → ParseError) :
    (if wrong items.length then .error count
      else
        match numbersOf items with
        | .ok ns => .ok ns
        | .error .otherScalar => .error other
        | .error (.notScalar kind) => .error (notScalar kind) : Except ParseError (List Number)) = .ok extent ↔
      items = extent.map .num ∧ ¬ wrong extent.length := by
  have length (h : items = extent.map .num) : items.length = extent.length := by rw [h, List.length_map]
  split
  · rename_i refused
    constructor
    · exact nofun
    · rintro ⟨numbers, right⟩
      rw [length numbers] at refused
      exact absurd refused right
  · rename_i right
    rw [← numbersOf_eq_ok]
    constructor
    · intro h
      have numbers : numbersOf items = .ok extent := by
        cases read : numbersOf items with
        | ok ns =>
          rw [read] at h
          cases h
          rfl
        | error fault =>
          rw [read] at h
          cases fault <;> cases h
      rw [length (numbersOf_eq_ok.1 numbers)] at right
      exact ⟨numbers, right⟩
    · rintro ⟨numbers, -⟩
      rw [numbers]

/-- The items of a box are four or six numbers. -/
theorem makeBox_eq_ok {items : List Datum} {extent : List Number} :
    Node.makeBox items = .ok extent ↔
      items = extent.map .num ∧ (extent.length = 4 ∨ extent.length = 6) := by
  refine (extent_eq_ok (fun n => n ≠ 4 ∧ n ≠ 6) _ _ _).trans (and_congr_right fun _ => ?_)
  omega

/-- The items of a geometry's own box are an even number of numbers, at least four. -/
theorem makeOwnBox_eq_ok {items : List Datum} {extent : List Number} :
    Geometry.makeBox items = .ok extent ↔
      items = extent.map .num ∧ 4 ≤ extent.length ∧ extent.length % 2 = 0 := by
  refine (extent_eq_ok (fun n => n < 4 ∨ n % 2 = 1) _ _ _).trans (and_congr_right fun _ => ?_)
  omega

/-! ## Shapes -/

/-- A value stands for a box: a list of four or six numbers. -/
inductive ReadsBox : Datum → List Number → Prop where
  | intro {items : List Datum} {extent : List Number} (numbers : items = extent.map .num)
      (count : extent.length = 4 ∨ extent.length = 6) : ReadsBox (.list items) extent

theorem readBox_eq_ok {op : String} {value : Datum} {extent : List Number} :
    readBox op value = .ok extent ↔ ReadsBox value extent := by
  cases value with
  | list items =>
    rw [readBox, makeBox_eq_ok]
    exact ⟨fun h => .intro h.1 h.2, fun ⟨numbers, count⟩ => ⟨numbers, count⟩⟩
  | _ => exact ⟨nofun, nofun⟩

/-- A value stands for a geometry's own box: null for none, or a list or tuple of an even number of numbers, at
least four. -/
inductive ReadsOwnBox : Datum → Option (List Number) → Prop where
  | none : ReadsOwnBox .null none
  | list {items : List Datum} {extent : List Number} (numbers : items = extent.map .num)
      (count : 4 ≤ extent.length ∧ extent.length % 2 = 0) : ReadsOwnBox (.list items) (some extent)
  | tuple {items : List Datum} {extent : List Number} (numbers : items = extent.map .num)
      (count : 4 ≤ extent.length ∧ extent.length % 2 = 0) : ReadsOwnBox (.tuple items) (some extent)

/-- A list or tuple stands for the box of its items. -/
theorem exists_readsOwnBox_iff {value : Datum} {items : List Datum}
    (listed : value = .list items ∨ value = .tuple items) {P : Option (List Number) → Prop} :
    (∃ box, ReadsOwnBox value box ∧ P box) ↔ ∃ extent, Geometry.makeBox items = .ok extent ∧ P (some extent) := by
  constructor
  · rintro ⟨box, reads, holds⟩
    rcases listed with rfl | rfl
    · cases reads with
      | list numbers count => exact ⟨_, makeOwnBox_eq_ok.2 ⟨numbers, count⟩, holds⟩
    · cases reads with
      | tuple numbers count => exact ⟨_, makeOwnBox_eq_ok.2 ⟨numbers, count⟩, holds⟩
  · rintro ⟨extent, made, holds⟩
    obtain ⟨numbers, count⟩ := makeOwnBox_eq_ok.1 made
    refine ⟨some extent, ?_, holds⟩
    rcases listed with rfl | rfl
    · exact .list numbers count
    · exact .tuple numbers count

/-- A value stands for a geometry: an object with a type that is no empty text, with coordinates that are not
null, and with a box of its own or none. -/
inductive ReadsGeometry : Datum → Geometry → Prop where
  | intro {members : Members} {g : Geometry} (typed : valueOf members "type" = .str g.type) (notEmpty : g.type ≠ "")
      (located : valueOf members "coordinates" ≠ .null)
      (frozen : g.coordinates = (valueOf members "coordinates").freeze)
      (boxed : ReadsOwnBox (valueOf members "bbox") g.bbox) : ReadsGeometry (.object members) g

/-- With a type and coordinates, only the box of its own can stand in a geometry's way. -/
theorem makeGeometry_eq {type : String} {coordinates : Datum} (typed : type ≠ "") (located : coordinates ≠ .null) :
    Geometry.make type coordinates none = .ok ⟨type, coordinates.freeze, none⟩ ∧
      ∀ items, Geometry.make type coordinates (some items) =
        (Geometry.makeBox items).map fun extent => ⟨type, coordinates.freeze, some extent⟩ := by
  unfold Geometry.make
  rw [if_neg typed]
  cases coordinates with
  | null => exact absurd rfl located
  | _ => exact ⟨rfl, fun items => if_neg typed⟩

/-- With a type and coordinates, an object stands for the geometries that its box allows. -/
theorem readsGeometry_iff {members : Members} {type : String} {g : Geometry}
    (typed : valueOf members "type" = .str type) (notEmpty : type ≠ "")
    (located : valueOf members "coordinates" ≠ .null) :
    ReadsGeometry (.object members) g ↔
      ∃ box, ReadsOwnBox (valueOf members "bbox") box ∧ ⟨type, (valueOf members "coordinates").freeze, box⟩ = g := by
  constructor
  · rintro ⟨typed', -, -, frozen, boxed⟩
    rw [typed] at typed'
    refine ⟨g.bbox, boxed, ?_⟩
    rw [Data.str.inj typed', ← frozen]
  · rintro ⟨box, boxed, rfl⟩
    exact .intro typed notEmpty located rfl boxed

theorem readGeometry_eq_ok {op : String} {value : Datum} {g : Geometry} :
    readGeometry op value = .ok g ↔ ReadsGeometry value g := by
  cases value with
  | object members =>
    rw [readGeometry]
    split
    · rename_i type typed
      split
      · rename_i empty
        refine ⟨nofun, fun ⟨typed', notEmpty, _, _, _⟩ => ?_⟩
        rw [typed] at typed'
        exact absurd ((Data.str.inj typed').symm.trans empty) notEmpty
      · rename_i notEmpty
        split
        · rename_i missing
          exact ⟨nofun, fun ⟨_, _, located, _, _⟩ => absurd missing located⟩
        · rename_i located
          rw [readsGeometry_iff typed notEmpty located]
          obtain ⟨plain, boxed⟩ := makeGeometry_eq notEmpty located
          split
          · rename_i unboxed
            rw [plain, unboxed]
            constructor
            · exact fun h => ⟨none, .none, Except.ok.inj h⟩
            · rintro ⟨_, ⟨⟩, h⟩
              exact congrArg Except.ok h
          · rename_i items listed
            rw [boxed, map_eq_ok, exists_readsOwnBox_iff (.inl listed)]
          · rename_i items listed
            rw [boxed, map_eq_ok, exists_readsOwnBox_iff (.inr listed)]
          · rename_i notNull notList notTuple
            constructor
            · exact nofun
            · rintro ⟨box, reads, -⟩
              generalize valueOf members "bbox" = value at reads notNull notList notTuple
              cases reads with
              | none => exact absurd rfl notNull
              | list => exact absurd rfl (notList _)
              | tuple => exact absurd rfl (notTuple _)
    · rename_i untyped
      exact ⟨nofun, fun ⟨typed, _, _, _, _⟩ => absurd typed (untyped _)⟩
  | _ => exact ⟨nofun, nofun⟩

/-- A value stands for the right side of a spatial relation: a box where it has a member `bbox` and no type, else a
geometry. -/
inductive ReadsShape : Datum → Shape → Prop where
  | bbox {members : Members} {value : Datum} {extent : List Number} (untyped : members.lookup "type" = none)
      (found : members.lookup "bbox" = some value) (reads : ReadsBox value extent) :
      ReadsShape (.object members) (.bbox extent)
  | geometry {value : Datum} {g : Geometry} (reads : ReadsGeometry value g) : ReadsShape value (.geometry g)

/-- A geometry has a type among its members. -/
theorem has_type_of_readsGeometry {members : Members} {g : Geometry} (h : ReadsGeometry (.object members) g) :
    has members "type" = true := by
  obtain ⟨typed, -, -, -, -⟩ := h
  unfold valueOf at typed
  rw [has_eq_true]
  cases found : members.lookup "type" with
  | none =>
    rw [found] at typed
    cases typed
  | some value => exact ⟨value, rfl⟩

theorem readShape_eq_ok {op : String} {value : Datum} {s : Shape} :
    readShape op value = .ok s ↔ ReadsShape value s := by
  cases value with
  | object members =>
    rw [readShape]
    split
    · rename_i h
      rw [Bool.and_eq_true, Bool.not_eq_true', has_eq_true, has_eq_false] at h
      obtain ⟨⟨value, found⟩, untyped⟩ := h
      rw [valueOf_of_lookup found, map_eq_ok]
      constructor
      · rintro ⟨extent, read, rfl⟩
        exact .bbox untyped found (readBox_eq_ok.1 read)
      · intro h
        cases h with
        | bbox _ found' reads =>
          rw [found] at found'
          cases found'
          exact ⟨_, readBox_eq_ok.2 reads, rfl⟩
        | geometry reads =>
          have typed := has_type_of_readsGeometry reads
          rw [has_eq_isSome, untyped] at typed
          cases typed
    · rename_i h
      rw [map_eq_ok]
      constructor
      · rintro ⟨g, read, rfl⟩
        exact .geometry (readGeometry_eq_ok.1 read)
      · intro reads
        cases reads with
        | bbox untyped found reads =>
          rw [has_eq_true.2 ⟨_, found⟩, has_eq_false.2 untyped] at h
          exact absurd rfl h
        | geometry reads => exact ⟨_, readGeometry_eq_ok.2 reads, rfl⟩
  | _ =>
    refine ⟨nofun, fun h => ?_⟩
    cases h with
    | geometry reads => cases reads

/-! ## Times -/

/-- A value stands for a time: a text with the form of a timestamp. -/
inductive ReadsTimestamp : Datum → OffsetDateTime → Prop where
  | intro {text : String} {t : OffsetDateTime} (read : Timestamp.read text = .ok t) : ReadsTimestamp (.str text) t

theorem readTimestamp_eq_ok {op : String} {value : Datum} {t : OffsetDateTime} :
    readTimestamp op value = .ok t ↔ ReadsTimestamp value t := by
  cases value with
  | str text =>
    rw [readTimestamp, mapError_eq_ok]
    exact ⟨.intro, fun ⟨read⟩ => read⟩
  | _ => exact ⟨nofun, nofun⟩

/-- A value stands for a date: a text of ten characters that is one. -/
inductive ReadsDate : Datum → Date → Prop where
  | intro {text : String} {d : Date} (length : text.length = 10) (read : Date.read text = .ok d) :
      ReadsDate (.str text) d

theorem readDate_eq_ok {op : String} {value : Datum} {d : Date} :
    readDate op value = .ok d ↔ ReadsDate value d := by
  cases value with
  | str text =>
    rw [readDate]
    split
    · rename_i length
      rw [mapError_eq_ok]
      exact ⟨.intro length, fun ⟨_, read⟩ => read⟩
    · rename_i length
      exact ⟨nofun, fun ⟨length', _⟩ => absurd length' length⟩
  | _ => exact ⟨nofun, nofun⟩

/-- Two points are no time. -/
theorem not_readsTimestamp_openBound {t : OffsetDateTime} : ¬ ReadsTimestamp (.str openBound) t := by
  have refused : Timestamp.read openBound = .error .notTimestamp := by cbv
  rintro ⟨read⟩
  rw [refused] at read
  cases read

/-- A value stands for one end of an interval: null or two points for an open one, or a time. -/
inductive ReadsBound : Datum → Option OffsetDateTime → Prop where
  | null : ReadsBound .null none
  | open : ReadsBound (.str openBound) none
  | closed {value : Datum} {t : OffsetDateTime} (reads : ReadsTimestamp value t) : ReadsBound value (some t)

theorem readBound_eq_ok {op : String} {value : Datum} {bound : Option OffsetDateTime} :
    readBound op value = .ok bound ↔ ReadsBound value bound := by
  have closed (notOpen : value ≠ .str openBound) (notNull : value ≠ .null) :
      (readTimestamp op value).map some = .ok bound ↔ ReadsBound value bound := by
    rw [map_eq_ok]
    constructor
    · rintro ⟨t, read, rfl⟩
      exact .closed (readTimestamp_eq_ok.1 read)
    · intro h
      cases h with
      | null => exact absurd rfl notNull
      | «open» => exact absurd rfl notOpen
      | closed reads => exact ⟨_, readTimestamp_eq_ok.2 reads, rfl⟩
  cases value with
  | null =>
    refine ⟨fun h => ?_, fun h => ?_⟩
    · cases h
      exact .null
    · cases h with
      | null => rfl
      | closed reads => cases reads
  | str text =>
    rw [readBound]
    split
    · rename_i isOpen
      subst isOpen
      refine ⟨fun h => ?_, fun h => ?_⟩
      · cases h
        exact .open
      · cases h with
        | «open» => rfl
        | closed reads => exact absurd reads not_readsTimestamp_openBound
    · rename_i notOpen
      exact closed (fun h => notOpen (Data.str.inj h)) nofun
  | _ => exact closed nofun nofun

/-- A value stands for an interval: a list of both ends. -/
inductive ReadsInterval : Datum → Option OffsetDateTime → Option OffsetDateTime → Prop where
  | intro {first second : Datum} {start stop : Option OffsetDateTime} (lower : ReadsBound first start)
      (upper : ReadsBound second stop) : ReadsInterval (.list [first, second]) start stop

theorem readInterval_eq_ok {op : String} {value : Datum} {start stop : Option OffsetDateTime} :
    readInterval op value = .ok (start, stop) ↔ ReadsInterval value start stop := by
  cases value with
  | list items =>
    match items with
    | [] => exact ⟨nofun, nofun⟩
    | [_] => exact ⟨nofun, nofun⟩
    | [first, second] =>
      rw [readInterval, bind_eq_ok]
      constructor
      · rintro ⟨_, lower, h⟩
        obtain ⟨_, upper, same⟩ := bind_eq_ok.1 h
        cases same
        exact .intro (readBound_eq_ok.1 lower) (readBound_eq_ok.1 upper)
      · rintro ⟨lower, upper⟩
        exact ⟨_, readBound_eq_ok.2 lower, bind_eq_ok.2 ⟨_, readBound_eq_ok.2 upper, rfl⟩⟩
    | _ :: _ :: _ :: _ => exact ⟨nofun, nofun⟩
  | _ => exact ⟨nofun, nofun⟩

/-- The members that a time is read by, the deciding one first. -/
def instantKeys : List String :=
  ["interval", "timestamp", "date"]

/-- A value stands for the right side of a temporal relation: an object read by its first member for a time. -/
inductive ReadsInstant : Datum → Instant → Prop where
  | interval {members : Members} {value : Datum} {start stop : Option OffsetDateTime}
      (leads : leading? instantKeys members = some ("interval", value)) (reads : ReadsInterval value start stop) :
      ReadsInstant (.object members) (.interval start stop)
  | timestamp {members : Members} {value : Datum} {t : OffsetDateTime}
      (leads : leading? instantKeys members = some ("timestamp", value)) (reads : ReadsTimestamp value t) :
      ReadsInstant (.object members) (.timestamp t)
  | date {members : Members} {value : Datum} {d : Date}
      (leads : leading? instantKeys members = some ("date", value)) (reads : ReadsDate value d) :
      ReadsInstant (.object members) (.date d)

/-- What an instant is by its leading name. -/
def instantBy (op : String) : String → Datum → Except ParseError Instant
  | "interval", value => (readInterval op value).map fun (start, stop) => .interval start stop
  | "timestamp", value => (readTimestamp op value).map .timestamp
  | _, value => (readDate op value).map .date

/-- Objects are read as instants by their leading name. -/
theorem readInstant_object {op : String} {members : Members} :
    readInstant op (.object members) =
      readFirst instantKeys members (instantBy op) (.shape op .notTemporalOperand) := by
  simp only [instantKeys, readFirst_cons, readFirst_nil]
  rfl

theorem readInstant_eq_ok {op : String} {value : Datum} {t : Instant} :
    readInstant op value = .ok t ↔ ReadsInstant value t := by
  cases value with
  | object members =>
    rw [readInstant_object, readFirst_eq_ok]
    constructor
    · rintro ⟨key, value, leads, read⟩
      have among := mem_of_leading? leads
      simp only [instantKeys, List.mem_cons, List.not_mem_nil, or_false] at among
      rcases among with rfl | rfl | rfl
      · obtain ⟨⟨start, stop⟩, bounds, rfl⟩ := map_eq_ok.1 read
        exact .interval leads (readInterval_eq_ok.1 bounds)
      · obtain ⟨t, time, rfl⟩ := map_eq_ok.1 read
        exact .timestamp leads (readTimestamp_eq_ok.1 time)
      · obtain ⟨d, day, rfl⟩ := map_eq_ok.1 read
        exact .date leads (readDate_eq_ok.1 day)
    · intro h
      cases h with
      | interval leads bounds => exact ⟨_, _, leads, map_eq_ok.2 ⟨_, readInterval_eq_ok.2 bounds, rfl⟩⟩
      | timestamp leads time => exact ⟨_, _, leads, map_eq_ok.2 ⟨_, readTimestamp_eq_ok.2 time, rfl⟩⟩
      | date leads day => exact ⟨_, _, leads, map_eq_ok.2 ⟨_, readDate_eq_ok.2 day, rfl⟩⟩
  | _ => exact ⟨nofun, nofun⟩

end CatalogFilter.Document
