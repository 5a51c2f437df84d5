import CatalogFilter.Node.Walk
import CatalogFilter.Proofs.Node.Connectives
import CatalogFilter.Proofs.Node.Construct
import CatalogFilter.Proofs.Node.Places

/-!
# Conjunctions taken apart

* `Node.conjunctAt?` — the node that a path of child indices leads to through conjunctions.
* `Node.placedConjuncts`, `Node.conjuncts` — the nodes besides conjunctions that are reached so, from left to right.
* `Node.mem_placedConjuncts_iff`, `Node.pairwise_placedConjuncts` — none is missing, and their paths ascend.
* `Node.terminals?_eq` — taking a tree apart gives its conjuncts, or names the first that is a disjunction or negation.
* `Node.terminals?_flattens` — what a tree is taken apart into keeps its truth and its order.

A path tells the occurrences of a node apart, so that nothing is lost or doubled where equal nodes stand side by side.
-/

namespace CatalogFilter.Node

/-! ## Places -/

/-- Whether a node is a conjunction. -/
def isConjunction : Node → Bool
  | .and _ => true
  | _ => false

/-- Whether a node is a connective that has no conjuncts: a disjunction or negation. -/
def isIndivisible : Node → Bool
  | .or _ => true
  | .not _ => true
  | _ => false

/-- The node that a path of child indices leads to through conjunctions. -/
def conjunctAt? (n : Node) : List ℕ → Option Node
  | [] => some n
  | i :: path =>
    match n with
    | .and children => children[i]?.bind fun c => c.conjunctAt? path
    | _ => none

mutual

/-- The nodes besides conjunctions that are reached through conjunctions, from left to right and with their paths. -/
def placedConjuncts : Node → List (List ℕ × Node)
  | .and children => placedFrom 0 children
  | n => [([], n)]

/-- The same for some trees, of which the first is the child of the given index. -/
def placedFrom (i : ℕ) : List Node → List (List ℕ × Node)
  | [] => []
  | n :: rest => (placedConjuncts n).map (fun x => (i :: x.1, x.2)) ++ placedFrom (i + 1) rest

end

/-- The nodes besides conjunctions that are reached through conjunctions, from left to right. -/
def conjuncts (n : Node) : List Node :=
  n.placedConjuncts.map (·.2)

variable {n m : Node} {ns : List Node}

/-- What conjunctions have if all their children have it, and all other nodes have, every tree has. -/
theorem byConjuncts {P : Node → Prop} (conjunction : ∀ children, (∀ c ∈ children, P c) → P (.and children))
    (other : ∀ n, n.isConjunction = false → P n) (n : Node) : P n := by
  induction n using byChildren with
  | step n ih =>
    cases n with
    | and children => exact conjunction children ih
    | _ => exact other _ rfl

theorem conjunctAt?_and_cons {i : ℕ} {path : List ℕ} :
    (Node.and ns).conjunctAt? (i :: path) = some m ↔ ∃ c, ns[i]? = some c ∧ c.conjunctAt? path = some m :=
  Option.bind_eq_some_iff

/-- No path leads into any other node. -/
theorem conjunctAt?_other (h : n.isConjunction = false) {path : List ℕ} :
    n.conjunctAt? path = some m ↔ path = [] ∧ n = m := by
  cases path with
  | nil => simp [conjunctAt?]
  | cons i path =>
    cases n with
    | and children => cases h
    | _ => simp [conjunctAt?]

theorem placedFrom_eq_flatMap (i : ℕ) (ns : List Node) :
    placedFrom i ns = (ns.zipIdx i).flatMap fun (c, j) => c.placedConjuncts.map fun x => (j :: x.1, x.2) := by
  induction ns generalizing i with
  | nil => rfl
  | cons n rest ih => rw [placedFrom, ih, List.zipIdx_cons, List.flatMap_cons]

theorem placedConjuncts_and (ns : List Node) : (Node.and ns).placedConjuncts = underIndices placedConjuncts ns := by
  rw [placedConjuncts, placedFrom_eq_flatMap, underIndices]

/-- Any other node is its only conjunct. -/
theorem placedConjuncts_other (h : n.isConjunction = false) : n.placedConjuncts = [([], n)] := by
  cases n with
  | and children => cases h
  | _ => rfl

/-- The conjuncts are all the nodes besides conjunctions that paths lead to. -/
theorem mem_placedConjuncts_iff {path : List ℕ} :
    (path, m) ∈ n.placedConjuncts ↔ n.conjunctAt? path = some m ∧ m.isConjunction = false := by
  induction n using byConjuncts generalizing path with
  | other n whole =>
    rw [placedConjuncts_other whole, conjunctAt?_other whole, List.mem_singleton, Prod.mk.injEq]
    constructor
    · rintro ⟨rfl, rfl⟩
      exact ⟨⟨rfl, rfl⟩, whole⟩
    · rintro ⟨⟨rfl, rfl⟩, -⟩
      exact ⟨rfl, rfl⟩
  | conjunction children ih =>
    rw [placedConjuncts_and]
    cases path with
    | nil =>
      refine iff_of_false (nil_notMem_underIndices m) ?_
      rintro ⟨same, whole⟩
      cases same
      cases whole
    | cons i path =>
      rw [mem_underIndices, conjunctAt?_and_cons, ← exists_and_right]
      refine exists_congr fun c => ?_
      rw [and_assoc]
      exact and_congr_right fun child => ih c (List.mem_of_getElem? child)

/-- The paths of the conjuncts ascend from left to right, so each occurrence is there once. -/
theorem pairwise_placedConjuncts (n : Node) : n.placedConjuncts.Pairwise fun x y => x.1 < y.1 := by
  induction n using byConjuncts with
  | other n whole =>
    rw [placedConjuncts_other whole]
    exact List.pairwise_singleton _ _
  | conjunction children ih =>
    rw [placedConjuncts_and]
    exact pairwise_underIndices ih

/-! ## Conjuncts -/

/-- The conjuncts of a conjunction are those of its children. -/
theorem conjuncts_and (ns : List Node) : (Node.and ns).conjuncts = ns.flatMap conjuncts := by
  rw [conjuncts, placedConjuncts_and, map_snd_underIndices]
  rfl

theorem conjuncts_other (h : n.isConjunction = false) : n.conjuncts = [n] := by
  rw [conjuncts, placedConjuncts_other h, List.map_singleton]

/-- No conjunct is a conjunction. -/
theorem isConjunction_of_mem_conjuncts (h : m ∈ n.conjuncts) : m.isConjunction = false := by
  obtain ⟨_, placed, rfl⟩ := List.mem_map.1 h
  exact (mem_placedConjuncts_iff.1 placed).2

/-- A conjunction of other nodes has them as its conjuncts. -/
theorem conjuncts_and_of_forall (h : ∀ m ∈ ns, m.isConjunction = false) : (Node.and ns).conjuncts = ns := by
  rw [conjuncts_and, List.flatMap_congr fun m member => conjuncts_other (h m member), List.flatMap_singleton']

/-- A tree is true if all its conjuncts are. -/
theorem truth_eq_all_conjuncts (v : Node → Bool) (n : Node) : n.truth v = n.conjuncts.all (truth v) := by
  induction n using byConjuncts with
  | other n whole => rw [conjuncts_other whole, List.all_cons, List.all_nil, Bool.and_true]
  | conjunction children ih =>
    rw [truth, allTrue_eq_all, conjuncts_and, List.all_flatMap, Bool.eq_iff_iff, List.all_eq_true, List.all_eq_true]
    exact forall₂_congr fun c child => by rw [ih c child]

/-- The conjuncts of an expression are expressions. -/
theorem isExpression_of_mem_conjuncts (wellFormed : n.WellFormed) (expression : n.isExpression = true) :
    ∀ m ∈ n.conjuncts, m.isExpression = true := by
  induction n using byConjuncts with
  | other n whole =>
    rw [conjuncts_other whole]
    exact List.forall_mem_singleton.2 expression
  | conjunction children ih =>
    intro m member
    rw [conjuncts_and, List.mem_flatMap] at member
    obtain ⟨c, child, among⟩ := member
    exact ih c child ((allWellFormed_iff _).1 wellFormed.1 c child) (wellFormed.2 c child) m among

/-! ## Taking apart -/

/-- Nodes among which no disjunction or negation is; the first one that there is stands in the way. -/
def divided (ns : List Node) : Except Error (List Node) :=
  match ns.find? isIndivisible with
  | some m => .error (.unsupportedNode m.variant "terminal operations")
  | none => .ok ns

theorem divided_append (xs ys : List Node) :
    divided (xs ++ ys) = (do
      let first ← divided xs
      let others ← divided ys
      .ok (first ++ others)) := by
  unfold divided
  rw [List.find?_append]
  cases xs.find? isIndivisible with
  | some m => rfl
  | none => cases ys.find? isIndivisible <;> rfl

theorem allTerminals?_eq (h : ∀ c ∈ ns, c.terminals? = divided c.conjuncts) :
    allTerminals? ns = divided (ns.flatMap conjuncts) := by
  induction ns with
  | nil => rfl
  | cons n rest ih =>
    have others := ih fun c member => h c (List.mem_cons_of_mem n member)
    rw [allTerminals?, h n List.mem_cons_self, others, List.flatMap_cons, divided_append]

/-- Taking a tree apart gives its conjuncts, unless a disjunction or negation is among them; it names the first. -/
theorem terminals?_eq (n : Node) : n.terminals? = divided n.conjuncts := by
  induction n using byConjuncts with
  | other n whole =>
    rw [conjuncts_other whole]
    cases n with
    | and children => cases whole
    | _ => rfl
  | conjunction children ih => rw [terminals?, allTerminals?_eq ih, conjuncts_and]

theorem isConjunction_of_isIndivisible (h : m.isIndivisible = true) : m.isConjunction = false := by
  cases m with
  | and children => cases h
  | _ => rfl

/-- A disjunction or negation that a path leads to is a conjunct. -/
theorem mem_placedConjuncts_of_isIndivisible {path : List ℕ} (found : n.conjunctAt? path = some m)
    (whole : m.isIndivisible = true) : (path, m) ∈ n.placedConjuncts :=
  mem_placedConjuncts_iff.2 ⟨found, isConjunction_of_isIndivisible whole⟩

theorem divided_eq_ok {ms : List Node} :
    divided ns = .ok ms ↔ (∀ m ∈ ns, m.isIndivisible = false) ∧ ns = ms := by
  unfold divided
  cases found : ns.find? isIndivisible with
  | some m =>
    have blocked : ¬ ∀ m ∈ ns, m.isIndivisible = false := fun none =>
      Bool.false_ne_true ((none m (List.mem_of_find?_eq_some found)).symm.trans (List.find?_some found))
    simp [blocked]
  | none =>
    have free : ∀ m ∈ ns, m.isIndivisible = false := by simpa using found
    rw [Except.ok.injEq]
    exact ⟨fun same => ⟨free, same⟩, And.right⟩

theorem divided_eq_error {e : Error} :
    divided ns = .error e ↔
      ∃ m, ns.find? isIndivisible = some m ∧ e = .unsupportedNode m.variant "terminal operations" := by
  unfold divided
  cases ns.find? isIndivisible with
  | some m => simp [eq_comm]
  | none => simp

/-- The first disjunction or negation among the conjuncts is at the least path that leads to any. -/
theorem exists_least_path (h : n.conjuncts.find? isIndivisible = some m) :
    ∃ path, n.conjunctAt? path = some m ∧ m.isIndivisible = true ∧
      ∀ path' m', n.conjunctAt? path' = some m' → m'.isIndivisible = true → path' = path ∨ path < path' := by
  rw [conjuncts, List.find?_map, Option.map_eq_some_iff] at h
  obtain ⟨⟨path, _⟩, first, rfl⟩ := h
  obtain ⟨whole, before, behind, split, earlier⟩ := List.find?_eq_some_iff_append.1 first
  have ascending := n.pairwise_placedConjuncts
  rw [split, List.pairwise_append, List.pairwise_cons] at ascending
  have place : (path, _) ∈ n.placedConjuncts := split ▸ List.mem_append_right before List.mem_cons_self
  refine ⟨path, (mem_placedConjuncts_iff.1 place).1, whole, fun path' m' found whole' => ?_⟩
  have place' := mem_placedConjuncts_of_isIndivisible found whole'
  rw [split, List.mem_append, List.mem_cons] at place'
  rcases place' with early | same | late
  · have free := earlier _ early
    simp [whole'] at free
  · exact .inl (Prod.mk.inj same).1
  · exact .inr (ascending.2.1.1 _ late)

/-- Whether nodes are what a tree consists of as a conjunction. -/
structure Flattens (n : Node) (ns : List Node) : Prop where
  /-- They are the nodes besides conjunctions that are reached through conjunctions, each occurrence once and from left to
  right. -/
  placed : ∃ places : List (List ℕ), places.Pairwise (· < ·) ∧
    (∀ path, path ∈ places ↔ ∃ m, n.conjunctAt? path = some m ∧ m.isConjunction = false) ∧
    places.map n.conjunctAt? = ns.map some
  plain : ∀ m ∈ ns, m.isConjunction = false ∧ m.isIndivisible = false
  truth_eq : ∀ v, (Node.and ns).truth v = n.truth v
  again : (Node.and ns).terminals? = .ok ns
  /-- Their conjunction may be built if the tree may. -/
  constructs : n.WellFormed → n.isExpression = true → Construct.conjunction (ns.map .ofNode) = .ok (.and ns)

/-- The conjuncts of a tree are what it consists of, if none of them is a disjunction or negation. -/
theorem flattens_conjuncts (free : ∀ m ∈ n.conjuncts, m.isIndivisible = false) : n.Flattens n.conjuncts where
  placed := by
    refine ⟨n.placedConjuncts.map (·.1), List.pairwise_map.2 n.pairwise_placedConjuncts, fun path => ?_, ?_⟩
    · simp [← mem_placedConjuncts_iff]
    · rw [conjuncts, List.map_map, List.map_map]
      exact List.map_congr_left fun x placed => (mem_placedConjuncts_iff.1 placed).1
  plain m member := ⟨isConjunction_of_mem_conjuncts member, free m member⟩
  truth_eq v := by rw [truth, allTrue_eq_all, ← truth_eq_all_conjuncts]
  again := by
    rw [terminals?_eq, conjuncts_and_of_forall fun m => isConjunction_of_mem_conjuncts]
    exact divided_eq_ok.2 ⟨free, rfl⟩
  constructs wellFormed expression :=
    Construct.conjunction_eq_ok.2 ⟨_, rfl, isExpression_of_mem_conjuncts wellFormed expression, rfl⟩

/-- Taking a conjunction apart keeps its truth and its order. It fails exactly if a disjunction or negation is reached
through conjunctions, and names the first of these; otherwise the tree is flattened. -/
theorem terminals?_flattens (n : Node) :
    ((∃ e, n.terminals? = .error e) ↔ ∃ path m, n.conjunctAt? path = some m ∧ m.isIndivisible = true) ∧
      (∀ e, n.terminals? = .error e →
        ∃ path m, n.conjunctAt? path = some m ∧ m.isIndivisible = true ∧
          (∀ path' m', n.conjunctAt? path' = some m' → m'.isIndivisible = true → path' = path ∨ path < path') ∧
          e = .unsupportedNode m.variant "terminal operations") ∧
      ∀ ns, n.terminals? = .ok ns → n.Flattens ns := by
  rw [terminals?_eq]
  refine ⟨⟨?_, ?_⟩, ?_, ?_⟩
  · rintro ⟨e, failed⟩
    obtain ⟨m, first, -⟩ := divided_eq_error.1 failed
    obtain ⟨path, found, whole, -⟩ := exists_least_path first
    exact ⟨path, m, found, whole⟩
  · rintro ⟨path, m, found, whole⟩
    have member : m ∈ n.conjuncts := List.mem_map.2 ⟨_, mem_placedConjuncts_of_isIndivisible found whole, rfl⟩
    obtain ⟨first, isFirst⟩ := Option.isSome_iff_exists.1 (List.find?_isSome.2 ⟨m, member, whole⟩)
    exact ⟨_, divided_eq_error.2 ⟨first, isFirst, rfl⟩⟩
  · intro e failed
    obtain ⟨m, first, rfl⟩ := divided_eq_error.1 failed
    obtain ⟨path, found, whole, least⟩ := exists_least_path first
    exact ⟨path, m, found, whole, least, rfl⟩
  · intro ns flat
    obtain ⟨free, rfl⟩ := divided_eq_ok.1 flat
    exact flattens_conjuncts free

/-- A conjunction without children leaves nothing behind, and a predicate that stands twice is there twice. -/
example : (Node.and [.and [], .isNull ⟨"a"⟩, .and [.and [.isNull ⟨"a"⟩], .isNull ⟨"b"⟩]]).terminals? =
    .ok [.isNull ⟨"a"⟩, .isNull ⟨"a"⟩, .isNull ⟨"b"⟩] :=
  rfl

end CatalogFilter.Node
