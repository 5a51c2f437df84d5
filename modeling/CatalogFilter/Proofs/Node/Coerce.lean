import CatalogFilter.Coerce
import CatalogFilter.Proofs.Document.Image
import CatalogFilter.Proofs.Node.Construct

/-!
# What values are coerced to

* `Value.Sound` — every node inside a value, at any depth, keeps the rules.
* `Coerce.compare_eq_ok`, `Coerce.spatial_eq_ok` and their like — the predicates that a coercion can lead to, and the
  coerced parts that they have.
* `Coerce.wellFormed_operand`, `Coerce.wellFormed_shape` and their like — sound values are coerced to nodes that keep
  the rules. An operand may be a list of operands, so that proof follows the value; the others look at it once.
-/

namespace CatalogFilter

open Outcome

/-! ## Sound values -/

namespace Value

/-- Whether a node stands inside a value: it is the value, or it is reached through items, the values of members, and what
iterating an object gives. -/
inductive Holds : Value → Node → Prop where
  | node (n : Node) : Holds (.ofNode n) n
  | list {items : List Value} {v : Value} {n : Node} (mem : v ∈ items) (inside : Holds v n) : Holds (.list items) n
  | tuple {items : List Value} {v : Value} {n : Node} (mem : v ∈ items) (inside : Holds v n) : Holds (.tuple items) n
  | member {members : List (String × Value)} {name : String} {v : Value} {n : Node} (mem : (name, v) ∈ members)
      (inside : Holds v n) : Holds (.object members) n
  | iterable {f : Foreign} {items : List Value} {v : Value} {n : Node} (mem : v ∈ items) (inside : Holds v n) :
      Holds (.other (.iterable f items)) n

/-- Whether every node inside a value keeps the rules. -/
def Sound (v : Value) : Prop :=
  ∀ n, v.Holds n → n.WellFormed

/-- A node as a value is as sound as the node. -/
theorem sound_ofNode {n : Node} : (ofNode n).Sound ↔ n.WellFormed := by
  constructor
  · exact fun sound => sound n (.node n)
  · rintro wellFormed m ⟨⟩
    exact wellFormed

@[simp] theorem sound_str (s : String) : Sound (.str s) := nofun

theorem sound_list {items : List Value} : Sound (.list items) ↔ ∀ v ∈ items, v.Sound := by
  constructor
  · exact fun sound v mem n inside => sound n (.list mem inside)
  · rintro each n (_ | ⟨mem, inside⟩)
    exact each _ mem n inside

theorem sound_tuple {items : List Value} : Sound (.tuple items) ↔ ∀ v ∈ items, v.Sound := by
  constructor
  · exact fun sound v mem n inside => sound n (.tuple mem inside)
  · rintro each n (_ | _ | ⟨mem, inside⟩)
    exact each _ mem n inside

/-- Numbers are no nodes. -/
theorem not_holds_numbers {numbers : List Binary64} {n : Node} :
    ¬ Holds (.tuple (numbers.map fun x => .num (.float x))) n := by
  rintro (_ | _ | ⟨mem, inside⟩)
  obtain ⟨x, -, rfl⟩ := List.mem_map.1 mem
  cases inside

end Value

mutual

/-- Coordinates hold numbers only. -/
theorem Coordinates.not_holds_toData (c : Coordinates) {n : Node} : ¬ Value.Holds c.toData n := by
  cases c with
  | position numbers => exact Value.not_holds_numbers
  | list items =>
    rintro (_ | ⟨mem, inside⟩)
    exact Coordinates.not_holds_toAll items mem inside

theorem Coordinates.not_holds_toAll (items : List Coordinates) {v : Value} (mem : v ∈ Coordinates.toAll items)
    {n : Node} : ¬ v.Holds n := by
  cases items with
  | nil => cases mem
  | cons c rest =>
    rcases List.mem_cons.1 mem with rfl | mem
    · exact Coordinates.not_holds_toData c
    · exact Coordinates.not_holds_toAll rest mem

end

/-- The fields of a typed geometry hold numbers and texts only. -/
theorem TypedGeometry.sound_fields (g : TypedGeometry) {name : String} {v : Value} (h : (name, v) ∈ g.fields) :
    v.Sound := by
  unfold fields at h
  rcases List.mem_append.1 h with h | h
  · rcases List.mem_cons.1 h with h | h
    · cases h
      cases g.box with
      | none => exact nofun
      | some numbers => exact fun n inside => absurd inside Value.not_holds_numbers
    · rw [List.mem_singleton] at h
      cases h
      exact nofun
  · rw [Option.mem_toList, Option.map_eq_some_iff] at h
    obtain ⟨c, -, same⟩ := h
    cases same
    exact fun n inside => absurd inside c.not_holds_toData

/-- Iterating a sound value gives sound values. -/
theorem Value.sound_items {v : Value} {items : List Value} (sound : v.Sound) (h : v.items = .ok items) :
    ∀ item ∈ items, item.Sound := by
  cases v with
  | list all =>
    cases h
    exact sound_list.1 sound
  | tuple all =>
    cases h
    exact sound_tuple.1 sound
  | str s =>
    cases h
    intro item mem
    obtain ⟨c, -, rfl⟩ := List.mem_map.1 mem
    exact nofun
  | object members =>
    cases h
    intro item mem
    obtain ⟨m, -, rfl⟩ := List.mem_map.1 mem
    exact nofun
  | other a =>
    cases a with
    | typed g =>
      cases h
      intro item mem
      obtain ⟨⟨name, field⟩, isField, rfl⟩ := List.mem_map.1 mem
      refine sound_tuple.2 fun part isPart => ?_
      rcases List.mem_cons.1 isPart with rfl | isPart
      · exact nofun
      · rw [List.mem_singleton] at isPart
        subst isPart
        exact g.sound_fields isField
    | iterable f all =>
      cases h
      exact fun item mem n inside => sound n (.iterable mem inside)
    | _ => cases h
  | _ => cases h

namespace Coerce

/-! ## Predicates and their parts -/

section Predicates

variable {n : Node}

/-- A comparison is between the subject and the operand that values stand for. -/
theorem compare_eq_ok {op left right : Value} :
    compare op left right = .ok n ↔
      ∃ s o p m, op = .str s ∧ ComparisonOp.ofSymbol? s = some o ∧ subject left = .ok p ∧ operand right = .ok m ∧
        .comparison o p m = n := by
  unfold compare
  simp only [bind_eq_ok, liftParse_eq_ok, Construct.comparison_eq_ok]
  constructor
  · rintro ⟨p, tested, m, coerced, s, o, p', m', rfl, named, same, same', rfl⟩
    cases same
    cases same'
    exact ⟨s, o, p, m, rfl, named, tested, coerced, rfl⟩
  · rintro ⟨s, o, p, m, rfl, named, tested, coerced, rfl⟩
    exact ⟨p, tested, m, coerced, s, o, p, m, rfl, named, rfl, rfl, rfl⟩

/-- A range test is of the subject and the two operands that values stand for. -/
theorem between_eq_ok {v lower upper : Value} :
    between v lower upper = .ok n ↔
      ∃ p l u, subject v = .ok p ∧ operand lower = .ok l ∧ operand upper = .ok u ∧ .between p l u = n := by
  unfold between
  simp only [bind_eq_ok, liftParse_eq_ok]
  constructor
  · rintro ⟨p, tested, l, low, u, up, h⟩
    exact ⟨p, l, u, tested, low, up, Except.ok.inj h⟩
  · rintro ⟨p, l, u, tested, low, up, rfl⟩
    exact ⟨p, tested, l, low, u, up, rfl⟩

/-- A pattern match is of the subject that a value stands for and a text. -/
theorem like_eq_ok {v pattern : Value} :
    like v pattern = .ok n ↔ ∃ p s, subject v = .ok p ∧ pattern = .str s ∧ .like p s = n := by
  unfold like
  simp only [bind_eq_ok, liftParse_eq_ok, Construct.like_eq_ok]
  constructor
  · rintro ⟨p, tested, p', s, same, rfl, rfl⟩
    cases same
    exact ⟨p, s, tested, rfl, rfl⟩
  · rintro ⟨p, s, tested, rfl, rfl⟩
    exact ⟨p, tested, p, s, rfl, rfl, rfl⟩

/-- A membership test is of the subject and the operands that a value and the items of another stand for. -/
theorem isIn_eq_ok {v values : Value} :
    isIn v values = .ok n ↔
      ∃ p items ns, subject v = .ok p ∧ values.items = .ok items ∧ operands items = .ok ns ∧ .isIn p ns = n := by
  unfold isIn
  simp only [bind_eq_ok, liftParse_eq_ok]
  constructor
  · rintro ⟨p, tested, items, listed, ns, coerced, h⟩
    exact ⟨p, items, ns, tested, listed, coerced, Except.ok.inj h⟩
  · rintro ⟨p, items, ns, tested, listed, coerced, rfl⟩
    exact ⟨p, tested, items, listed, ns, coerced, rfl⟩

/-- A test for no value is of the subject that a value stands for. -/
theorem isNull_eq_ok {v : Value} : isNull v = .ok n ↔ ∃ p, subject v = .ok p ∧ .isNull p = n := by
  unfold isNull
  rw [liftParse_eq_ok, map_eq_ok]

/-- A spatial relation is between a subject and a node that is a shape. -/
theorem spatial_eq_ok {op left right : Value} :
    spatial op left right = .ok n ↔
      ∃ s o p m found, op = .str s ∧ SpatialOp.ofSymbol? s = some o ∧ subject left = .ok p ∧ shape right = .ok m ∧
        m.shape? = some found ∧ .spatial o p found = n := by
  unfold spatial
  simp only [bind_eq_ok, liftParse_eq_ok, Construct.spatial_eq_ok]
  constructor
  · rintro ⟨p, tested, m, coerced, s, o, p', m', found, rfl, named, same, same', isShape, rfl⟩
    cases same
    cases same'
    exact ⟨s, o, p, m, found, rfl, named, tested, coerced, isShape, rfl⟩
  · rintro ⟨s, o, p, m, found, rfl, named, tested, coerced, isShape, rfl⟩
    exact ⟨p, tested, m, coerced, s, o, p, m, found, rfl, named, rfl, rfl, isShape, rfl⟩

/-- A temporal relation is between a subject and a node that is a time. -/
theorem temporal_eq_ok {op left right : Value} :
    temporal op left right = .ok n ↔
      ∃ s o p m t, op = .str s ∧ TemporalOp.ofSymbol? s = some o ∧ subject left = .ok p ∧ instant right = .ok m ∧
        m.instant? = some t ∧ .temporal o p t = n := by
  unfold temporal
  simp only [bind_eq_ok, liftParse_eq_ok, Construct.temporal_eq_ok]
  constructor
  · rintro ⟨p, tested, m, coerced, s, o, p', m', t, rfl, named, same, same', isInstant, rfl⟩
    cases same
    cases same'
    exact ⟨s, o, p, m, t, rfl, named, tested, coerced, isInstant, rfl⟩
  · rintro ⟨s, o, p, m, t, rfl, named, tested, coerced, isInstant, rfl⟩
    exact ⟨p, tested, m, coerced, s, o, p, m, t, rfl, named, rfl, rfl, isInstant, rfl⟩

/-- An array relation is between operands that may be its sides; a text there has been put for a property. -/
theorem array_eq_ok {op left right : Value} :
    array op left right = .ok n ↔
      ∃ s o l r first second, op = .str s ∧ ArrayOp.ofSymbol? s = some o ∧ arraySide left = .ok first ∧
        arraySide right = .ok second ∧ operand first = .ok l ∧ operand second = .ok r ∧ l.isArraySide = true ∧
        r.isArraySide = true ∧ .arrayComparison o l r = n := by
  unfold array
  simp only [bind_eq_ok, liftParse_eq_ok, Construct.arrayComparison_eq_ok]
  constructor
  · rintro ⟨first, put, second, put', l, coerced, r, coerced', s, o, l', r', rfl, named, same, leftSide, same',
      rightSide, rfl⟩
    cases same
    cases same'
    exact ⟨s, o, l, r, first, second, rfl, named, put, put', coerced, coerced', leftSide, rightSide, rfl⟩
  · rintro ⟨s, o, l, r, first, second, rfl, named, put, put', coerced, coerced', leftSide, rightSide, rfl⟩
    exact ⟨first, put, second, put', l, coerced, r, coerced', s, o, l, r, rfl, named, rfl, leftSide, rfl, rightSide,
      rfl⟩

/-- A function call has a lower-case name that is no operator's, and the operands that values stand for. -/
theorem function_eq_ok {name : Value} {args : List Value} :
    function name args = .ok n ↔
      ∃ s ns, name = .str s ∧ operands args = .ok ns ∧ Text.lower s ≠ "" ∧ Text.lower s ∉ coreOperators ∧
        .function (Text.lower s) ns = n := by
  cases name with
  | str s =>
    unfold function
    simp only [bind_eq_ok, liftParse_eq_ok, Document.makeFunction_eq_ok, Text.lower_lower]
    constructor
    · rintro ⟨ns, coerced, notEmpty, notCore, rfl⟩
      exact ⟨s, ns, rfl, coerced, notEmpty, notCore, rfl⟩
    · rintro ⟨_, ns, same, coerced, notEmpty, notCore, rfl⟩
      cases same
      exact ⟨ns, coerced, notEmpty, notCore, rfl⟩
  | _ => exact ⟨nofun, nofun⟩

end Predicates

/-! ## Rules that coerced values keep -/

/-- The property of a subject has a name. -/
theorem name_ne_empty_of_subject {v : Value} {p : Property} (sound : v.Sound) (h : subject v = .ok p) :
    p.name ≠ "" := by
  unfold subject at h
  split at h
  · rename_i name
    obtain ⟨same, notEmpty⟩ := Property.make_name_ne_empty h
    rw [same]
    exact notEmpty
  · cases h
    exact Value.sound_ofNode.1 sound
  · cases h

/-- Geometries of GeoJSON forms keep the rules. -/
theorem wellFormed_geometryOfForm {form : Datum} {n : Node} (h : geometryOfForm form = .ok n) : n.WellFormed := by
  unfold geometryOfForm at h
  split at h
  · obtain ⟨g, read, rfl⟩ := map_eq_ok.1 h
    exact (Document.readGeometry_eq_ok.1 read).valid
  · cases h

theorem wellFormed_geometry {v coordinates : Value} {n : Node} (h : geometry v coordinates = .ok n) :
    n.WellFormed := by
  unfold geometry at h
  split at h
  all_goals exact wellFormed_geometryOfForm h

/-- Boxes of values have four or six numbers. -/
theorem wellFormed_box {items : List Value} {n : Node} (h : box items = .ok n) : n.WellFormed := by
  obtain ⟨extent, made, rfl⟩ := map_eq_ok.1 h
  exact (Document.makeBox_eq_ok.1 made).2

mutual

/-- Operands keep the rules. -/
theorem wellFormed_operand (v : Value) {n : Node} (sound : v.Sound) (h : operand v = .ok n) : n.WellFormed := by
  cases v with
  | null => cases h
  | bool b =>
    cases h
    trivial
  | num x =>
    cases h
    trivial
  | str s =>
    cases h
    trivial
  | list items =>
    obtain ⟨ns, coerced, rfl⟩ := map_eq_ok.1 h
    exact (Node.allWellFormed_iff ns).2 (wellFormed_operands items (Value.sound_list.1 sound) coerced)
  | tuple items =>
    obtain ⟨ns, coerced, rfl⟩ := map_eq_ok.1 h
    exact (Node.allWellFormed_iff ns).2 (wellFormed_operands items (Value.sound_tuple.1 sound) coerced)
  | object members =>
    rw [operand] at h
    exact wellFormed_geometry h
  | datetime d =>
    cases h
    trivial
  | date d =>
    cases h
    trivial
  | other a =>
    cases a with
    -- A node is taken as it is, so here its soundness is used.
    | node m =>
      cases h
      exact Value.sound_ofNode.1 sound
    | geoObject form => cases h
    | iterable f items => cases h
    | foreign f => cases h
    | typed g =>
      rw [operand] at h
      split at h
      · exact wellFormed_geometryOfForm h
      · cases h

theorem wellFormed_operands (items : List Value) {ns : List Node} (sound : ∀ v ∈ items, v.Sound)
    (h : operands items = .ok ns) : ∀ n ∈ ns, n.WellFormed := by
  cases items with
  | nil =>
    cases h
    exact nofun
  | cons v rest =>
    obtain ⟨n, first, h⟩ := bind_eq_ok.1 h
    obtain ⟨others, coerced, h⟩ := bind_eq_ok.1 h
    cases h
    rw [List.forall_mem_cons] at sound ⊢
    exact ⟨wellFormed_operand v sound.1 first, wellFormed_operands rest sound.2 coerced⟩

end

/-- Shapes keep the rules. -/
theorem wellFormed_shape {v : Value} {n : Node} (sound : v.Sound) (h : shape v = .ok n) : n.WellFormed := by
  unfold shape at h
  split at h
  · cases h
    exact Value.sound_ofNode.1 sound
  · exact wellFormed_box h
  · exact wellFormed_box h
  · exact wellFormed_geometry h

/-- The shape that a node is keeps the rules if the node does. -/
theorem valid_of_shape? {n : Node} {s : Shape} (wellFormed : n.WellFormed) (h : n.shape? = some s) : s.Valid := by
  cases n <;> cases h <;> exact wellFormed

/-- A time that is built or read is a node of its own, and times have no rules but those of their types. -/
theorem wellFormed_timestamp {v : Value} {n : Node} (h : timestamp v = .ok n) : n.WellFormed := by
  unfold timestamp Construct.timestamp at h
  split at h
  · rw [liftParse_eq_ok, map_eq_ok] at h
    obtain ⟨t, -, rfl⟩ := h
    trivial
  · split at h
    · cases h
      trivial
    · cases h

theorem wellFormed_date {v : Value} {n : Node} (h : date v = .ok n) : n.WellFormed := by
  unfold date Construct.date at h
  split at h
  · rw [liftParse_eq_ok, map_eq_ok] at h
    obtain ⟨d, -, rfl⟩ := h
    trivial
  · split at h
    · cases h
      trivial
    · cases h

theorem wellFormed_interval {start stop : Value} {n : Node} (h : interval start stop = .ok n) : n.WellFormed := by
  unfold interval at h
  simp only [bind_eq_ok] at h
  obtain ⟨_, -, _, -, first, -, last, -, h⟩ := h
  cases h
  trivial

theorem wellFormed_instant {v : Value} {n : Node} (sound : v.Sound) (h : instant v = .ok n) : n.WellFormed := by
  unfold instant at h
  split at h
  · cases h
    exact Value.sound_ofNode.1 sound
  · exact wellFormed_timestamp h
  · exact wellFormed_date h
  · split at h
    · exact wellFormed_date h
    · exact wellFormed_timestamp h
  · exact wellFormed_interval h
  · exact wellFormed_interval h
  · cases h

/-- A side that a text names is a property with a name. -/
theorem sound_arraySide {v side : Value} (sound : v.Sound) (h : arraySide v = .ok side) : side.Sound := by
  unfold arraySide at h
  split at h
  · obtain ⟨p, made, rfl⟩ := map_eq_ok.1 h
    obtain ⟨same, notEmpty⟩ := Property.make_name_ne_empty made
    rw [Value.sound_ofNode, Node.WellFormed, same]
    exact notEmpty
  · cases h
    exact sound

/-! ## Rules that coerced predicates keep -/

section Predicates

variable {n : Node}

theorem wellFormed_compare {op left right : Value} (leftSound : left.Sound) (rightSound : right.Sound)
    (h : compare op left right = .ok n) : n.WellFormed := by
  obtain ⟨s, o, p, m, -, -, tested, coerced, rfl⟩ := compare_eq_ok.1 h
  exact ⟨name_ne_empty_of_subject leftSound tested, wellFormed_operand right rightSound coerced⟩

theorem wellFormed_between {v lower upper : Value} (sound : v.Sound) (lowerSound : lower.Sound)
    (upperSound : upper.Sound) (h : between v lower upper = .ok n) : n.WellFormed := by
  obtain ⟨p, l, u, tested, low, up, rfl⟩ := between_eq_ok.1 h
  exact ⟨name_ne_empty_of_subject sound tested, wellFormed_operand lower lowerSound low,
    wellFormed_operand upper upperSound up⟩

theorem wellFormed_like {v pattern : Value} (sound : v.Sound) (h : like v pattern = .ok n) : n.WellFormed := by
  obtain ⟨p, s, tested, -, rfl⟩ := like_eq_ok.1 h
  exact name_ne_empty_of_subject sound tested

theorem wellFormed_isIn {v values : Value} (sound : v.Sound) (valuesSound : values.Sound)
    (h : isIn v values = .ok n) : n.WellFormed := by
  obtain ⟨p, items, ns, tested, listed, coerced, rfl⟩ := isIn_eq_ok.1 h
  have itemsSound := Value.sound_items valuesSound listed
  exact ⟨name_ne_empty_of_subject sound tested,
    (Node.allWellFormed_iff ns).2 (wellFormed_operands items itemsSound coerced)⟩

theorem wellFormed_isNull {v : Value} (sound : v.Sound) (h : isNull v = .ok n) : n.WellFormed := by
  obtain ⟨p, tested, rfl⟩ := isNull_eq_ok.1 h
  exact name_ne_empty_of_subject sound tested

theorem wellFormed_spatial {op left right : Value} (leftSound : left.Sound) (rightSound : right.Sound)
    (h : spatial op left right = .ok n) : n.WellFormed := by
  obtain ⟨s, o, p, m, found, -, -, tested, coerced, isShape, rfl⟩ := spatial_eq_ok.1 h
  have wellFormed : m.WellFormed := wellFormed_shape rightSound coerced
  exact ⟨name_ne_empty_of_subject leftSound tested, valid_of_shape? wellFormed isShape⟩

theorem wellFormed_temporal {op left right : Value} (sound : left.Sound) (h : temporal op left right = .ok n) :
    n.WellFormed := by
  obtain ⟨s, o, p, m, t, -, -, tested, -, -, rfl⟩ := temporal_eq_ok.1 h
  exact name_ne_empty_of_subject sound tested

theorem wellFormed_array {op left right : Value} (leftSound : left.Sound) (rightSound : right.Sound)
    (h : array op left right = .ok n) : n.WellFormed := by
  obtain ⟨s, o, l, r, first, second, -, -, put, put', coerced, coerced', leftSide, rightSide, rfl⟩ :=
    array_eq_ok.1 h
  have firstSound : first.Sound := sound_arraySide leftSound put
  have secondSound : second.Sound := sound_arraySide rightSound put'
  exact ⟨wellFormed_operand first firstSound coerced, leftSide, wellFormed_operand second secondSound coerced',
    rightSide⟩

theorem wellFormed_function {name : Value} {args : List Value} (sound : ∀ v ∈ args, v.Sound)
    (h : function name args = .ok n) : n.WellFormed := by
  obtain ⟨s, ns, -, coerced, notEmpty, notCore, rfl⟩ := function_eq_ok.1 h
  have wellFormed : ∀ m ∈ ns, m.WellFormed := wellFormed_operands args sound coerced
  refine ⟨notEmpty, ?_, (Node.allWellFormed_iff ns).2 wellFormed⟩
  -- The rule is about the name in lower case, and the name is in lower case.
  rw [Text.lower_lower]
  exact notCore

end Predicates

end Coerce

end CatalogFilter
