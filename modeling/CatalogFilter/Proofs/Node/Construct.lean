import CatalogFilter.Construct
import CatalogFilter.Proofs.Document.Argument

/-!
# What the constructors of nodes accept

* `Construct.node_eq_ok`, `Construct.subject_eq_ok`, `Construct.expression_eq_ok` and their like — a field is
  accepted exactly when it holds a node of the right class.
* `Construct.comparison_eq_ok`, `Construct.isIn_eq_ok`, `Construct.conjunction_eq_ok` and their like — a
  constructor makes a node exactly from values that are its parts.

Later proofs take a made node apart by these equivalences and never look into a constructor.
-/

namespace CatalogFilter

open Outcome

/-! ## Nodes as values -/

namespace Value

/-- A value is a node exactly when it was made of the node. -/
theorem node?_eq_some_iff {v : Value} {n : Node} : v.node? = some n ↔ v = ofNode n := by
  constructor
  · intro h
    unfold node? at h
    split at h
    · cases h
      rfl
    · cases h
  · rintro rfl
    exact node?_ofNode n

/-- Different nodes are different values. -/
theorem ofNode_injective : Function.Injective ofNode := by
  intro n m same
  have h := congrArg node? same
  rw [node?_ofNode, node?_ofNode] at h
  exact Option.some.inj h

/-- A first value and others are nodes if the first is one and the others are. -/
theorem cons_eq_map_ofNode {v : Value} {vs : List Value} {ns : List Node} :
    v :: vs = ns.map ofNode ↔ ∃ n rest, v = ofNode n ∧ vs = rest.map ofNode ∧ ns = n :: rest := by
  rw [eq_comm, List.map_eq_cons_iff]
  constructor
  · rintro ⟨n, rest, rfl, rfl, rfl⟩
    exact ⟨n, rest, rfl, rfl, rfl⟩
  · rintro ⟨n, rest, rfl, rfl, rfl⟩
    exact ⟨n, rest, rfl, rfl, rfl⟩

end Value

/-- An error of reading stays an error. -/
theorem liftParse_eq_ok {α : Type} {x : Except ParseError α} {a : α} : liftParse x = .ok a ↔ x = .ok a :=
  mapError_eq_ok

namespace Construct

/-! ## Fields -/

/-- A field holds a node. -/
theorem node_eq_ok {visit field : String} {v : Value} {n : Node} : node visit field v = .ok n ↔ v = .ofNode n := by
  unfold node
  rw [← Value.node?_eq_some_iff]
  cases v.node? <;> simp

/-- A field holds a property. -/
theorem subject_eq_ok {visit op field : String} {v : Value} {p : Property} :
    subject visit op field v = .ok p ↔ v = .ofNode (.property p) := by
  unfold subject
  rw [bind_eq_ok]
  constructor
  · rintro ⟨n, held, h⟩
    rw [node_eq_ok] at held
    split at h
    · cases h
      exact held
    · cases h
  · intro held
    exact ⟨_, node_eq_ok.2 held, rfl⟩

/-- A field holds a connective or a predicate. -/
theorem expression_eq_ok {visit field : String} {v : Value} {n : Node} :
    expression visit field v = .ok n ↔ v = .ofNode n ∧ n.isExpression = true := by
  unfold expression
  rw [bind_eq_ok]
  constructor
  · rintro ⟨m, held, h⟩
    rw [node_eq_ok] at held
    split at h
    · rename_i isExpression
      cases h
      exact ⟨held, isExpression⟩
    · cases h
  · rintro ⟨held, isExpression⟩
    refine ⟨n, node_eq_ok.2 held, ?_⟩
    rw [if_pos isExpression]

/-- A field holds a side of an array relation. -/
theorem arraySide_eq_ok {op field : String} {v : Value} {n : Node} :
    arraySide op field v = .ok n ↔ v = .ofNode n ∧ n.isArraySide = true := by
  unfold arraySide
  rw [bind_eq_ok]
  constructor
  · rintro ⟨m, held, h⟩
    rw [node_eq_ok] at held
    split at h
    · rename_i isSide
      cases h
      exact ⟨held, isSide⟩
    · cases h
  · rintro ⟨held, isSide⟩
    refine ⟨n, node_eq_ok.2 held, ?_⟩
    rw [if_pos isSide]

/-- A list of fields is accepted exactly when each of them is. -/
theorem each_eq_ok {check : Value → Except ParseError Node} {vs : List Value} {ns : List Node} :
    each check vs = .ok ns ↔ List.Forall₂ (fun v n => check v = .ok n) vs ns := by
  have byItem : each check vs = vs.mapM check := by
    induction vs with
    | nil => rfl
    | cons v rest ih =>
      rw [each, ih, List.mapM_cons]
      rfl
  rw [byItem, mapM_eq_ok]

/-- A list of fields holds nodes. -/
theorem each_node_eq_ok {visit field : String} {vs : List Value} {ns : List Node} :
    each (node visit field) vs = .ok ns ↔ vs = ns.map .ofNode := by
  simp only [each_eq_ok, node_eq_ok]
  induction ns generalizing vs with
  | nil => simp
  | cons n rest ih => simp [List.forall₂_cons_right_iff, ih]

/-- A list of fields holds connectives and predicates. -/
theorem each_expression_eq_ok {visit field : String} {vs : List Value} {ns : List Node} :
    each (expression visit field) vs = .ok ns ↔ vs = ns.map .ofNode ∧ ∀ n ∈ ns, n.isExpression = true := by
  simp only [each_eq_ok, expression_eq_ok]
  induction ns generalizing vs with
  | nil => simp
  | cons n rest ih =>
    rw [List.forall₂_cons_right_iff, List.forall_mem_cons, List.map_cons]
    constructor
    · rintro ⟨v, others, ⟨rfl, isExpression⟩, held, rfl⟩
      obtain ⟨rfl, each⟩ := ih.1 held
      exact ⟨rfl, isExpression, each⟩
    · rintro ⟨rfl, isExpression, each⟩
      exact ⟨_, _, ⟨rfl, isExpression⟩, ih.2 ⟨rfl, each⟩, rfl⟩

/-- A member of a vocabulary is named by a text. -/
theorem symbol_eq_ok {α : Type} {vocabulary : String} {ofSymbol? : String → Option α} {v : Value} {a : α} :
    symbol vocabulary ofSymbol? v = .ok a ↔ ∃ s, v = .str s ∧ ofSymbol? s = some a := by
  unfold symbol
  cases v with
  | str s =>
    dsimp only
    split
    · rename_i b found
      constructor
      · intro h
        cases h
        exact ⟨s, rfl, found⟩
      · rintro ⟨_, same, named⟩
        cases same
        rw [found] at named
        rw [Option.some.inj named]
    · rename_i unknown
      refine ⟨nofun, ?_⟩
      rintro ⟨_, same, named⟩
      cases same
      rw [unknown] at named
      cases named
  | _ => exact ⟨nofun, nofun⟩

/-! ## Connectives -/

/-- A conjunction is made of connectives and predicates. -/
theorem conjunction_eq_ok {vs : List Value} {n : Node} :
    conjunction vs = .ok n ↔ ∃ ns, vs = ns.map .ofNode ∧ (∀ m ∈ ns, m.isExpression = true) ∧ .and ns = n := by
  unfold conjunction
  simp only [map_eq_ok, each_expression_eq_ok, and_assoc]

/-- A disjunction is made of connectives and predicates. -/
theorem disjunction_eq_ok {vs : List Value} {n : Node} :
    disjunction vs = .ok n ↔ ∃ ns, vs = ns.map .ofNode ∧ (∀ m ∈ ns, m.isExpression = true) ∧ .or ns = n := by
  unfold disjunction
  simp only [map_eq_ok, each_expression_eq_ok, and_assoc]

/-- A negation is made of a connective or predicate. -/
theorem negation_eq_ok {v : Value} {n : Node} :
    negation v = .ok n ↔ ∃ m, v = .ofNode m ∧ m.isExpression = true ∧ .not m = n := by
  unfold negation
  simp only [map_eq_ok, expression_eq_ok, and_assoc]

/-! ## Predicates -/

/-- A comparison is made of an operator's symbol, a property and a node. -/
theorem comparison_eq_ok {op left right : Value} {n : Node} :
    comparison op left right = .ok n ↔
      ∃ s o p m, op = .str s ∧ ComparisonOp.ofSymbol? s = some o ∧ left = .ofNode (.property p) ∧
        right = .ofNode m ∧ .comparison o p m = n := by
  unfold comparison
  simp only [bind_eq_ok, symbol_eq_ok, liftParse_eq_ok, subject_eq_ok, node_eq_ok]
  constructor
  · rintro ⟨o, ⟨s, rfl, named⟩, p, rfl, m, rfl, h⟩
    cases h
    exact ⟨s, o, p, m, rfl, named, rfl, rfl, rfl⟩
  · rintro ⟨s, o, p, m, rfl, named, rfl, rfl, rfl⟩
    exact ⟨o, ⟨s, rfl, named⟩, p, rfl, m, rfl, rfl⟩

/-- A range test is made of a property and two nodes. -/
theorem between_eq_ok {subj lower upper : Value} {n : Node} :
    between subj lower upper = .ok n ↔
      ∃ p l u, subj = .ofNode (.property p) ∧ lower = .ofNode l ∧ upper = .ofNode u ∧ .between p l u = n := by
  unfold between
  simp only [bind_eq_ok, liftParse_eq_ok, subject_eq_ok, node_eq_ok]
  constructor
  · rintro ⟨p, rfl, l, rfl, u, rfl, h⟩
    cases h
    exact ⟨p, l, u, rfl, rfl, rfl, rfl⟩
  · rintro ⟨p, l, u, rfl, rfl, rfl, rfl⟩
    exact ⟨p, rfl, l, rfl, u, rfl, rfl⟩

/-- A pattern match is made of a property and a text. -/
theorem like_eq_ok {subj pattern : Value} {n : Node} :
    like subj pattern = .ok n ↔ ∃ p s, subj = .ofNode (.property p) ∧ pattern = .str s ∧ .like p s = n := by
  unfold like
  simp only [bind_eq_ok, liftParse_eq_ok, subject_eq_ok]
  constructor
  · rintro ⟨p, rfl, h⟩
    split at h
    · cases h
      exact ⟨p, _, rfl, rfl, rfl⟩
    · cases h
  · rintro ⟨p, s, rfl, rfl, rfl⟩
    exact ⟨p, rfl, rfl⟩

/-- A membership test is made of a property and something whose items are nodes. -/
theorem isIn_eq_ok {subj values : Value} {n : Node} :
    isIn subj values = .ok n ↔
      ∃ p ns, subj = .ofNode (.property p) ∧ values.items = .ok (ns.map .ofNode) ∧ .isIn p ns = n := by
  unfold isIn
  simp only [bind_eq_ok, liftParse_eq_ok, subject_eq_ok, map_eq_ok, each_node_eq_ok]
  constructor
  · rintro ⟨items, listed, p, rfl, ns, rfl, rfl⟩
    exact ⟨p, ns, rfl, listed, rfl⟩
  · rintro ⟨p, ns, rfl, listed, rfl⟩
    exact ⟨_, listed, p, rfl, ns, rfl, rfl⟩

/-- A test for null is made of a property. -/
theorem isNull_eq_ok {subj : Value} {n : Node} :
    isNull subj = .ok n ↔ ∃ p, subj = .ofNode (.property p) ∧ .isNull p = n := by
  unfold isNull
  simp only [liftParse_eq_ok, map_eq_ok, subject_eq_ok]

/-- A spatial relation is made of an operator's symbol, a property and a shape. -/
theorem spatial_eq_ok {op left right : Value} {n : Node} :
    spatial op left right = .ok n ↔
      ∃ s o p m shape, op = .str s ∧ SpatialOp.ofSymbol? s = some o ∧ left = .ofNode (.property p) ∧
        right = .ofNode m ∧ m.shape? = some shape ∧ .spatial o p shape = n := by
  unfold spatial
  simp only [bind_eq_ok, symbol_eq_ok, liftParse_eq_ok, subject_eq_ok, node_eq_ok]
  constructor
  · rintro ⟨o, ⟨s, rfl, named⟩, p, rfl, m, rfl, h⟩
    split at h
    · rename_i shape found
      cases h
      exact ⟨s, o, p, m, shape, rfl, named, rfl, rfl, found, rfl⟩
    · cases h
  · rintro ⟨s, o, p, m, shape, rfl, named, rfl, rfl, found, rfl⟩
    refine ⟨o, ⟨s, rfl, named⟩, p, rfl, m, rfl, ?_⟩
    rw [found]

/-- A temporal relation is made of an operator's symbol, a property and a time. -/
theorem temporal_eq_ok {op left right : Value} {n : Node} :
    temporal op left right = .ok n ↔
      ∃ s o p m t, op = .str s ∧ TemporalOp.ofSymbol? s = some o ∧ left = .ofNode (.property p) ∧
        right = .ofNode m ∧ m.instant? = some t ∧ .temporal o p t = n := by
  unfold temporal
  simp only [bind_eq_ok, symbol_eq_ok, liftParse_eq_ok, subject_eq_ok, node_eq_ok]
  constructor
  · rintro ⟨o, ⟨s, rfl, named⟩, p, rfl, m, rfl, h⟩
    split at h
    · rename_i t found
      cases h
      exact ⟨s, o, p, m, t, rfl, named, rfl, rfl, found, rfl⟩
    · cases h
  · rintro ⟨s, o, p, m, t, rfl, named, rfl, rfl, found, rfl⟩
    refine ⟨o, ⟨s, rfl, named⟩, p, rfl, m, rfl, ?_⟩
    rw [found]

/-- An array relation is made of an operator's symbol and two sides. -/
theorem arrayComparison_eq_ok {op left right : Value} {n : Node} :
    arrayComparison op left right = .ok n ↔
      ∃ s o l r, op = .str s ∧ ArrayOp.ofSymbol? s = some o ∧ left = .ofNode l ∧ l.isArraySide = true ∧
        right = .ofNode r ∧ r.isArraySide = true ∧ .arrayComparison o l r = n := by
  unfold arrayComparison
  simp only [bind_eq_ok, symbol_eq_ok, liftParse_eq_ok, arraySide_eq_ok]
  constructor
  · rintro ⟨o, ⟨s, rfl, named⟩, l, ⟨rfl, leftSide⟩, r, ⟨rfl, rightSide⟩, h⟩
    cases h
    exact ⟨s, o, l, r, rfl, named, rfl, leftSide, rfl, rightSide, rfl⟩
  · rintro ⟨s, o, l, r, rfl, named, rfl, leftSide, rfl, rightSide, rfl⟩
    exact ⟨o, ⟨s, rfl, named⟩, l, ⟨rfl, leftSide⟩, r, ⟨rfl, rightSide⟩, rfl⟩

/-! ## Operands -/

/-- A property is made of a text that is not empty. -/
theorem property_eq_ok {name : Value} {n : Node} :
    property name = .ok n ↔ ∃ s, name = .str s ∧ s ≠ "" ∧ .property ⟨s⟩ = n := by
  cases name with
  | str s =>
    unfold property Property.make
    rw [liftParse_eq_ok, map_eq_ok]
    by_cases empty : s = ""
    · simp [empty]
    · simp [empty, eq_comm]
  | _ => exact ⟨nofun, nofun⟩

end Construct

end CatalogFilter
