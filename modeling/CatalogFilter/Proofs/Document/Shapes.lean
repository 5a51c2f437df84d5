import CatalogFilter.Proofs.Document.Reading

/-!
# Shapes that are refused

* `HidesNonScalar` — a geometry is in order up to a value in its own box that is no scalar.
* `readGeometry_eq_error` — every other value that is no geometry is refused as one.
* `read_spatial` — what a spatial relation is read as whose right side is a geometry or refused.

The numbers of a box are looked for by a classifier of scalars. It has an error of its own, for what is no scalar, and this
error is raised where a box of a geometry is checked.
-/

namespace CatalogFilter.Document

open Outcome

/-! ## Values in boxes -/

/-- In a list a value that is no scalar comes behind numbers only. -/
inductive NonScalarBehindNumbers (d : Datum) : List Datum → Prop where
  | here {rest : List Datum} (noScalar : Scalar.ofData? d = none) : NonScalarBehindNumbers d (d :: rest)
  | behind {n : Number} {rest : List Datum} (later : NonScalarBehindNumbers d rest) :
      NonScalarBehindNumbers d (.num n :: rest)

/-- Lists of numbers are looked through up to the first value that is no number, and it is told whether that is a scalar. -/
theorem numbersOf_eq_notScalar {items : List Datum} {kind : String} :
    numbersOf items = .error (.notScalar kind) ↔ ∃ d, NonScalarBehindNumbers d items ∧ d.kindName = kind := by
  induction items with
  | nil =>
    constructor
    · intro h
      cases h
    · rintro ⟨d, found, -⟩
      cases found
  | cons first rest ih =>
    cases first with
    | num n =>
      rw [numbersOf, map_eq_error, ih]
      constructor
      · rintro ⟨d, later, named⟩
        exact ⟨d, .behind later, named⟩
      · rintro ⟨d, found, named⟩
        cases found with
        | here noScalar => cases noScalar
        | behind later => exact ⟨d, later, named⟩
    | bool b =>
      constructor
      · intro h
        cases h
      · rintro ⟨d, found, -⟩
        cases found with
        | here noScalar => cases noScalar
    | str s =>
      constructor
      · intro h
        cases h
      · rintro ⟨d, found, -⟩
        cases found with
        | here noScalar => cases noScalar
    | _ =>
      constructor
      · intro h
        cases h
        exact ⟨_, .here rfl, rfl⟩
      · rintro ⟨d, found, rfl⟩
        cases found with
        | here => rfl

/-- A geometry's own box is refused as one, unless a value that is no scalar is met in a box of a right length. -/
theorem makeOwnBox_eq_error {items : List Datum} {e : ParseError} (failed : Geometry.makeBox items = .error e) :
    (∃ fault, e = .geometry "geometry" fault) ∨
      ∃ d, (4 ≤ items.length ∧ items.length % 2 = 0) ∧ NonScalarBehindNumbers d items ∧ e = notScalarError d.kindName := by
  unfold Geometry.makeBox at failed
  split at failed
  · cases failed
    exact .inl ⟨_, rfl⟩
  · rename_i count
    split at failed
    · cases failed
    · cases failed
      exact .inl ⟨_, rfl⟩
    · rename_i kind fault
      cases failed
      obtain ⟨d, found, rfl⟩ := numbersOf_eq_notScalar.1 fault
      exact .inr ⟨d, by omega, found, rfl⟩

/-- Such a value is always met. -/
theorem makeOwnBox_of_nonScalar {items : List Datum} {d : Datum} (count : 4 ≤ items.length ∧ items.length % 2 = 0)
    (found : NonScalarBehindNumbers d items) : Geometry.makeBox items = .error (notScalarError d.kindName) := by
  unfold Geometry.makeBox
  rw [if_neg (by omega), numbersOf_eq_notScalar.2 ⟨d, found, rfl⟩]

/-! ## Geometries -/

/-- A value is a geometry up to its own box: a list or tuple of a right length, in which a value that is no scalar comes behind
numbers only. -/
inductive HidesNonScalar (d : Datum) : Datum → Prop where
  | intro {members : Members} {type : String} {items : List Datum} (typed : valueOf members "type" = .str type)
      (notEmpty : type ≠ "") (located : valueOf members "coordinates" ≠ .null)
      (listed : valueOf members "bbox" = .list items ∨ valueOf members "bbox" = .tuple items)
      (count : 4 ≤ items.length ∧ items.length % 2 = 0) (found : NonScalarBehindNumbers d items) :
      HidesNonScalar d (.object members)

/-- With a type and coordinates, a geometry is refused for its own box only. -/
theorem makeGeometry_eq_error {type : String} {coordinates : Datum} {items : List Datum} {e : ParseError} (typed : type ≠ "")
    (located : coordinates ≠ .null) :
    Geometry.make type coordinates (some items) = .error e ↔ Geometry.makeBox items = .error e := by
  rw [(makeGeometry_eq typed located).2, map_eq_error]

/-- What is no geometry is refused as one, unless it is a geometry up to a value in its own box that is no scalar. -/
theorem readGeometry_eq_error {op : String} {value : Datum} {e : ParseError} (failed : readGeometry op value = .error e) :
    (∃ place fault, e = .geometry place fault) ∨ ∃ d, HidesNonScalar d value ∧ e = notScalarError d.kindName := by
  cases value with
  | object members =>
    have ownBox {type : String} {items : List Datum} (typed : valueOf members "type" = .str type) (notEmpty : type ≠ "")
        (located : valueOf members "coordinates" ≠ .null)
        (listed : valueOf members "bbox" = .list items ∨ valueOf members "bbox" = .tuple items)
        (failed : Geometry.make type (valueOf members "coordinates") (some items) = .error e) :
        (∃ place fault, e = .geometry place fault) ∨
          ∃ d, HidesNonScalar d (.object members) ∧ e = notScalarError d.kindName := by
      rw [makeGeometry_eq_error notEmpty located] at failed
      rcases makeOwnBox_eq_error failed with ⟨fault, rfl⟩ | ⟨d, count, found, rfl⟩
      · exact .inl ⟨_, fault, rfl⟩
      · exact .inr ⟨d, .intro typed notEmpty located listed count found, rfl⟩
    rw [readGeometry] at failed
    split at failed
    · rename_i type typed
      split at failed
      · cases failed
        exact .inl ⟨_, _, rfl⟩
      · rename_i notEmpty
        split at failed
        · cases failed
          exact .inl ⟨_, _, rfl⟩
        · rename_i located
          split at failed
          · rw [(makeGeometry_eq notEmpty located).1] at failed
            cases failed
          · rename_i listed
            exact ownBox typed notEmpty located (.inl listed) failed
          · rename_i listed
            exact ownBox typed notEmpty located (.inr listed) failed
          · cases failed
            exact .inl ⟨_, _, rfl⟩
    · cases failed
      exact .inl ⟨_, _, rfl⟩
  | _ =>
    cases failed
    exact .inl ⟨_, _, rfl⟩

/-- Such a value is named by its kind. -/
theorem readGeometry_of_hidesNonScalar {op : String} {value d : Datum} (hides : HidesNonScalar d value) :
    readGeometry op value = .error (notScalarError d.kindName) := by
  cases hides with
  | @intro members type items typed notEmpty located listed count found =>
    have refused := (makeGeometry_eq_error notEmpty located).2 (makeOwnBox_of_nonScalar count found)
    rw [readGeometry, typed]
    dsimp only
    rw [if_neg notEmpty]
    split
    · rename_i missing
      exact absurd missing located
    · rcases listed with listed | listed
      · rw [listed]
        exact refused
      · rw [listed]
        exact refused

/-! ## Spatial relations -/

/-- A value is read as a box and not as a geometry: an object with a member `bbox` and without a type. -/
def IsBoxObject (value : Datum) : Prop :=
  ∃ members, value = .object members ∧ has members "bbox" = true ∧ has members "type" = false

/-- All other values are read as geometries. -/
theorem readShape_of_not_isBoxObject {op : String} {value : Datum} (noBox : ¬ IsBoxObject value) :
    readShape op value = (readGeometry op value).map .geometry := by
  cases value with
  | object members =>
    rw [readShape]
    split
    · rename_i boxed
      rw [Bool.and_eq_true, Bool.not_eq_true'] at boxed
      exact absurd ⟨members, rfl, boxed.1, boxed.2⟩ noBox
    · rfl
  | _ => rfl

variable (names : List String) {members : Members} {op : SpatialOp} {subject value : Datum} {p : Property}

/-- A spatial relation of a property is read as its right side is. -/
theorem read_of_spatialFrame (frame : HasFrame members op.symbol [subject, value]) (tested : ReadsProperty subject p) :
    read names (.object members) = (readShape op.symbol value).map (.spatial op p) := by
  have known : Head.Known (names.map Text.lower) (.core (.spatial op)) := trivial
  rw [read, readChild_of_frame known frame, readForm, if_pos rfl]
  show (readProperty _ _ _ >>= _) = _
  rw [readProperty_eq_ok.2 tested]
  rfl

/-- A spatial relation of a property to a value that is no box is read exactly if the value is a geometry. Otherwise it is the
geometry that is refused, unless this is in order up to a value in its own box that is no scalar: then that value is refused, as a
literal. -/
theorem read_spatial (frame : HasFrame members op.symbol [subject, value]) (tested : ReadsProperty subject p)
    (noBox : ¬ IsBoxObject value) :
    (∀ n, read names (.object members) = .ok n ↔ ∃ g, ReadsGeometry value g ∧ n = .spatial op p (.geometry g)) ∧
    (∀ e, read names (.object members) = .error e → (∃ place fault, e = .geometry place fault) ∨
      ∃ d, HidesNonScalar d value ∧ e = .shape "literal" (.notScalar d.kindName)) ∧
    (∀ d, HidesNonScalar d value →
      read names (.object members) = .error (.shape "literal" (.notScalar d.kindName))) := by
  rw [read_of_spatialFrame names frame tested, readShape_of_not_isBoxObject noBox]
  refine ⟨?_, ?_, ?_⟩
  · intro n
    rw [map_eq_ok]
    constructor
    · rintro ⟨_, read, rfl⟩
      obtain ⟨g, made, rfl⟩ := map_eq_ok.1 read
      exact ⟨g, readGeometry_eq_ok.1 made, rfl⟩
    · rintro ⟨g, reads, rfl⟩
      exact ⟨_, map_eq_ok.2 ⟨g, readGeometry_eq_ok.2 reads, rfl⟩, rfl⟩
  · intro e failed
    rw [map_eq_error, map_eq_error] at failed
    exact readGeometry_eq_error failed
  · intro d hides
    rw [readGeometry_of_hidesNonScalar hides]
    rfl

/-- The members of a document that asks for intersection with a shape. -/
def intersecting (shape : Datum) : Members :=
  [("op", .str "S_Intersects"), ("args", .list [.object [("property", .str "geometry")], shape])]

/-- Upper case letters in the operator do not count. -/
theorem hasFrame_intersecting (shape : Datum) :
    HasFrame (intersecting shape) SpatialOp.intersects.symbol [.object [("property", .str "geometry")], shape] :=
  ⟨⟨_, rfl, by decide⟩, rfl⟩

/-- A text is no geometry. -/
theorem read_spatial_text :
    ∃ place fault, read [] (.object (intersecting (.str "POINT(0 0)"))) = .error (.geometry place fault) := by
  have noBox : ¬ IsBoxObject (.str "POINT(0 0)") := nofun
  have tested : ReadsProperty (.object [("property", .str "geometry")]) ⟨"geometry"⟩ := .intro rfl (by decide)
  obtain ⟨accepted, refused, -⟩ := read_spatial [] (hasFrame_intersecting _) tested noBox
  cases outcome : read [] (.object (intersecting (.str "POINT(0 0)"))) with
  | ok n =>
    obtain ⟨g, reads, -⟩ := (accepted n).1 outcome
    cases reads
  | error e =>
    rcases refused e outcome with ⟨place, fault, rfl⟩ | ⟨d, hides, -⟩
    · exact ⟨place, fault, rfl⟩
    · cases hides

/-- A point with null in its own box is no box object, and it is not refused as a geometry. -/
theorem read_intersecting_null :
    let point : Datum := .object [("type", .str "Point"), ("coordinates", .list [.int 1, .int 2]),
      ("bbox", .list [.int 1, .int 2, .int 3, .null])]
    ¬ IsBoxObject point ∧
      read [] (.object (intersecting point)) = .error (.shape "literal" (.notScalar "NoneType")) := by
  refine ⟨?_, by cbv⟩
  rintro ⟨_, ⟨⟩, -, untyped⟩
  exact absurd untyped (by decide)

end CatalogFilter.Document
