import CatalogFilter.Factory
import CatalogFilter.Proofs.Node.Connectives
import CatalogFilter.Proofs.Node.Coerce

/-!
# What factories build

* `Arguments.Offers` — a value stands among the positional or the named arguments of a call.
* `Factory.one_eq_ok`, `Factory.two_eq_ok`, `Factory.three_eq_ok` — a function of so many arguments is applied to
  values that were offered.
* `Factory.isLeaf_of_call` — factories of predicates build no conjunctions and no disjunctions.
* `Factory.wellFormed_of_call` — from sound arguments factories build nodes that keep the rules.
-/

namespace CatalogFilter

open Outcome

/-! ## Arguments -/

namespace Arguments

/-- Whether a value stands among the arguments. -/
def Offers (args : Arguments) (v : Value) : Prop :=
  v ∈ args.positional ∨ ∃ name, (name, v) ∈ args.named

/-- Whether every node inside an argument keeps the rules. -/
def Sound (args : Arguments) : Prop :=
  ∀ v, args.Offers v → v.Sound

/-- Positional arguments are sound one by one. -/
theorem sound_positional {values : List Value} : Sound ⟨values, []⟩ ↔ ∀ v ∈ values, v.Sound := by
  simp [Sound, Offers]

/-- Parameters are bound to arguments. -/
theorem offers_of_bind {args : Arguments} {parameters : List String} {required : Nat} {values : List (Option Value)}
    (h : args.bind parameters required = .ok values) {v : Value} (bound : some v ∈ values) : args.Offers v := by
  unfold bind at h
  dsimp only at h
  split_ifs at h
  cases h
  rcases List.mem_append.1 bound with positional | named
  · obtain ⟨a, mem, same⟩ := List.mem_map.1 positional
    cases same
    exact .inl mem
  · obtain ⟨name, -, found⟩ := List.mem_map.1 named
    obtain ⟨before, after, split, -⟩ := List.lookup_eq_some_iff.1 found
    refine .inr ⟨name, ?_⟩
    rw [split]
    exact List.mem_append_right before List.mem_cons_self

/-- Positional arguments are arguments. -/
theorem offers_of_allPositional {args : Arguments} {values : List Value} (h : args.allPositional = .ok values)
    {v : Value} (mem : v ∈ values) : args.Offers v := by
  unfold allPositional at h
  split at h
  · cases h
    exact .inl mem
  · cases h

end Arguments

namespace Factory

section Applied

variable {args : Arguments} {n : Node}

/-- A function of one argument is applied to an argument. -/
theorem one_eq_ok {parameter : String} {f : Value → Except Error Node} (h : one args parameter f = .ok n) :
    ∃ a, args.Offers a ∧ f a = .ok n := by
  obtain ⟨values, bound, h⟩ := bind_eq_ok.1 h
  split at h
  · exact ⟨_, Arguments.offers_of_bind bound (by simp), h⟩
  · cases h

/-- A function of two arguments is applied to arguments. -/
theorem two_eq_ok {first second : String} {f : Value → Value → Except Error Node}
    (h : two args first second f = .ok n) : ∃ a b, args.Offers a ∧ args.Offers b ∧ f a b = .ok n := by
  obtain ⟨values, bound, h⟩ := bind_eq_ok.1 h
  have offered {v : Value} := Arguments.offers_of_bind bound (v := v)
  split at h
  · exact ⟨_, _, offered (by simp), offered (by simp), h⟩
  · cases h

/-- A function of three arguments is applied to arguments. -/
theorem three_eq_ok {first second third : String} {f : Value → Value → Value → Except Error Node}
    (h : three args first second third f = .ok n) :
    ∃ a b c, args.Offers a ∧ args.Offers b ∧ args.Offers c ∧ f a b c = .ok n := by
  obtain ⟨values, bound, h⟩ := bind_eq_ok.1 h
  have offered {v : Value} := Arguments.offers_of_bind bound (v := v)
  split at h
  · exact ⟨_, _, _, offered (by simp), offered (by simp), offered (by simp), h⟩
  · cases h

/-! ## Predicates -/

/-- Whether a factory builds predicates only. -/
def isPredicate : Factory → Bool
  | .compare | .comparison _ | .between | .like | .isIn | .isNull | .spatial | .spatialRelation _ | .temporal
  | .temporalRelation _ | .array | .arrayRelation _ | .function | .wrapper _ => true
  | _ => false

/-- What compares is no connective. -/
theorem isLeaf_compare {op left right : Value} (h : Coerce.compare op left right = .ok n) : n.IsLeaf := by
  obtain ⟨s, o, p, m, -, -, -, -, rfl⟩ := Coerce.compare_eq_ok.1 h
  trivial

theorem isLeaf_spatial {op left right : Value} (h : Coerce.spatial op left right = .ok n) : n.IsLeaf := by
  obtain ⟨s, o, p, m, found, -, -, -, -, -, rfl⟩ := Coerce.spatial_eq_ok.1 h
  trivial

theorem isLeaf_temporal {op left right : Value} (h : Coerce.temporal op left right = .ok n) : n.IsLeaf := by
  obtain ⟨s, o, p, m, t, -, -, -, -, -, rfl⟩ := Coerce.temporal_eq_ok.1 h
  trivial

theorem isLeaf_array {op left right : Value} (h : Coerce.array op left right = .ok n) : n.IsLeaf := by
  obtain ⟨s, o, l, r, first, second, -, -, -, -, -, -, -, -, rfl⟩ := Coerce.array_eq_ok.1 h
  trivial

theorem isLeaf_function {name : Value} {items : List Value} (h : Coerce.function name items = .ok n) :
    n.IsLeaf := by
  obtain ⟨s, ns, -, -, -, -, rfl⟩ := Coerce.function_eq_ok.1 h
  trivial

/-- A call by name is applied to arguments: a name in front of others, or a name alone. -/
theorem function_eq_ok (h : Factory.function.call args = .ok n) :
    ∃ name items, args.Offers name ∧ (∀ v ∈ items, args.Offers v) ∧ Coerce.function name items = .ok n := by
  unfold call at h
  dsimp only at h
  split at h
  · rename_i name rest positional
    have offered : ∀ v ∈ name :: rest, args.Offers v := by
      rw [← positional]
      exact fun v mem => .inl mem
    split at h
    · exact ⟨name, rest, offered name List.mem_cons_self, fun v mem => offered v (List.mem_cons_of_mem name mem), h⟩
    · cases h
  · obtain ⟨name, offered, built⟩ := one_eq_ok h
    exact ⟨name, [], offered, nofun, built⟩

/-- Factories of predicates build predicates, which are leaves. -/
theorem isLeaf_of_call {f : Factory} (predicate : f.isPredicate = true) (h : f.call args = .ok n) : n.IsLeaf := by
  cases f with
  | compare =>
    obtain ⟨op, left, right, -, -, -, built⟩ := three_eq_ok h
    exact isLeaf_compare built
  | comparison o =>
    obtain ⟨left, right, -, -, built⟩ := two_eq_ok h
    exact isLeaf_compare built
  | between =>
    obtain ⟨v, lower, upper, -, -, -, built⟩ := three_eq_ok h
    obtain ⟨p, l, u, -, -, -, rfl⟩ := Coerce.between_eq_ok.1 built
    trivial
  | like =>
    obtain ⟨v, pattern, -, -, built⟩ := two_eq_ok h
    obtain ⟨p, s, -, -, rfl⟩ := Coerce.like_eq_ok.1 built
    trivial
  | isIn =>
    obtain ⟨v, values, -, -, built⟩ := two_eq_ok h
    obtain ⟨p, items, ns, -, -, -, rfl⟩ := Coerce.isIn_eq_ok.1 built
    trivial
  | isNull =>
    obtain ⟨v, -, built⟩ := one_eq_ok h
    obtain ⟨p, -, rfl⟩ := Coerce.isNull_eq_ok.1 built
    trivial
  | spatial =>
    obtain ⟨op, left, right, -, -, -, built⟩ := three_eq_ok h
    exact isLeaf_spatial built
  | spatialRelation o =>
    obtain ⟨left, right, -, -, built⟩ := two_eq_ok h
    exact isLeaf_spatial built
  | temporal =>
    obtain ⟨op, left, right, -, -, -, built⟩ := three_eq_ok h
    exact isLeaf_temporal built
  | temporalRelation o =>
    obtain ⟨left, right, -, -, built⟩ := two_eq_ok h
    exact isLeaf_temporal built
  | array =>
    obtain ⟨op, left, right, -, -, -, built⟩ := three_eq_ok h
    exact isLeaf_array built
  | arrayRelation o =>
    obtain ⟨left, right, -, -, built⟩ := two_eq_ok h
    exact isLeaf_array built
  | function =>
    obtain ⟨name, items, -, -, built⟩ := function_eq_ok h
    exact isLeaf_function built
  | wrapper name =>
    obtain ⟨v, -, built⟩ := one_eq_ok h
    exact isLeaf_function built
  | _ => cases predicate

/-! ## The rules of nodes -/

variable (sound : args.Sound)

include sound

/-- Expressions among sound arguments make a connective that keeps the rules. -/
theorem forall_wellFormed_of_map {values : List Value} {ns : List Node} (offered : ∀ v ∈ values, args.Offers v)
    (held : values = ns.map .ofNode) : ∀ m ∈ ns, m.WellFormed := by
  intro m hm
  have mem : Value.ofNode m ∈ values := by
    rw [held]
    exact List.mem_map_of_mem hm
  exact Value.sound_ofNode.1 (sound _ (offered _ mem))

/-- Factories build nodes that keep the rules, whichever values they are given. -/
theorem wellFormed_of_call {f : Factory} (h : f.call args = .ok n) : n.WellFormed := by
  cases f with
  | property =>
    obtain ⟨name, -, built⟩ := one_eq_ok h
    obtain ⟨s, rfl, notEmpty, rfl⟩ := Construct.property_eq_ok.1 built
    exact notEmpty
  | subject =>
    obtain ⟨v, offered, built⟩ := one_eq_ok h
    obtain ⟨p, coerced, rfl⟩ := map_eq_ok.1 (liftParse_eq_ok.1 built)
    exact Coerce.name_ne_empty_of_subject (sound v offered) coerced
  | operand =>
    obtain ⟨v, offered, built⟩ := one_eq_ok h
    exact Coerce.wellFormed_operand v (sound v offered) (liftParse_eq_ok.1 built)
  | shape =>
    obtain ⟨v, offered, built⟩ := one_eq_ok h
    exact Coerce.wellFormed_shape (sound v offered) (liftParse_eq_ok.1 built)
  | instant =>
    obtain ⟨v, offered, built⟩ := one_eq_ok h
    exact Coerce.wellFormed_instant (sound v offered) built
  | timestamp =>
    obtain ⟨v, -, built⟩ := one_eq_ok h
    exact Coerce.wellFormed_timestamp built
  | date =>
    obtain ⟨v, -, built⟩ := one_eq_ok h
    exact Coerce.wellFormed_date built
  | interval =>
    obtain ⟨values, -, built⟩ := bind_eq_ok.1 h
    split at built
    · exact Coerce.wellFormed_interval built
    · cases built
  | bbox =>
    obtain ⟨values, -, built⟩ := bind_eq_ok.1 h
    exact Coerce.wellFormed_box (liftParse_eq_ok.1 built)
  | geometry =>
    obtain ⟨values, -, built⟩ := bind_eq_ok.1 h
    split at built
    · exact Coerce.wellFormed_geometry (liftParse_eq_ok.1 built)
    · cases built
  | and =>
    obtain ⟨values, bound, built⟩ := bind_eq_ok.1 h
    obtain ⟨ns, held, expressions, rfl⟩ := Construct.conjunction_eq_ok.1 (liftParse_eq_ok.1 built)
    have wellFormed := forall_wellFormed_of_map sound (fun v => Arguments.offers_of_allPositional bound) held
    exact ⟨(Node.allWellFormed_iff ns).2 wellFormed, expressions⟩
  | or =>
    obtain ⟨values, bound, built⟩ := bind_eq_ok.1 h
    obtain ⟨ns, held, expressions, rfl⟩ := Construct.disjunction_eq_ok.1 (liftParse_eq_ok.1 built)
    have wellFormed := forall_wellFormed_of_map sound (fun v => Arguments.offers_of_allPositional bound) held
    exact ⟨(Node.allWellFormed_iff ns).2 wellFormed, expressions⟩
  | not =>
    obtain ⟨v, offered, built⟩ := one_eq_ok h
    obtain ⟨m, rfl, isExpression, rfl⟩ := Construct.negation_eq_ok.1 (liftParse_eq_ok.1 built)
    exact ⟨Value.sound_ofNode.1 (sound _ offered), isExpression⟩
  | compare =>
    obtain ⟨op, left, right, -, tested, compared, built⟩ := three_eq_ok h
    exact Coerce.wellFormed_compare (sound left tested) (sound right compared) built
  | comparison o =>
    obtain ⟨left, right, tested, compared, built⟩ := two_eq_ok h
    exact Coerce.wellFormed_compare (sound left tested) (sound right compared) built
  | between =>
    obtain ⟨v, lower, upper, tested, low, up, built⟩ := three_eq_ok h
    exact Coerce.wellFormed_between (sound v tested) (sound lower low) (sound upper up) built
  | like =>
    obtain ⟨v, pattern, tested, -, built⟩ := two_eq_ok h
    exact Coerce.wellFormed_like (sound v tested) built
  | isIn =>
    obtain ⟨v, values, tested, listed, built⟩ := two_eq_ok h
    exact Coerce.wellFormed_isIn (sound v tested) (sound values listed) built
  | isNull =>
    obtain ⟨v, tested, built⟩ := one_eq_ok h
    exact Coerce.wellFormed_isNull (sound v tested) built
  | spatial =>
    obtain ⟨op, left, right, -, tested, related, built⟩ := three_eq_ok h
    exact Coerce.wellFormed_spatial (sound left tested) (sound right related) built
  | spatialRelation o =>
    obtain ⟨left, right, tested, related, built⟩ := two_eq_ok h
    exact Coerce.wellFormed_spatial (sound left tested) (sound right related) built
  | temporal =>
    obtain ⟨op, left, right, -, tested, related, built⟩ := three_eq_ok h
    exact Coerce.wellFormed_temporal (sound left tested) built
  | temporalRelation o =>
    obtain ⟨left, right, tested, related, built⟩ := two_eq_ok h
    exact Coerce.wellFormed_temporal (sound left tested) built
  | array =>
    obtain ⟨op, left, right, -, first, second, built⟩ := three_eq_ok h
    exact Coerce.wellFormed_array (sound left first) (sound right second) built
  | arrayRelation o =>
    obtain ⟨left, right, first, second, built⟩ := two_eq_ok h
    exact Coerce.wellFormed_array (sound left first) (sound right second) built
  | function =>
    obtain ⟨name, items, -, offered, built⟩ := function_eq_ok h
    exact Coerce.wellFormed_function (fun v mem => sound v (offered v mem)) built
  | wrapper name =>
    obtain ⟨v, offered, built⟩ := one_eq_ok h
    refine Coerce.wellFormed_function (fun u mem => ?_) built
    rw [List.mem_singleton] at mem
    subst mem
    exact sound u offered

end Applied

end Factory

end CatalogFilter
