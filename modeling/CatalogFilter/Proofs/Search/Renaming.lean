import CatalogFilter.Dialect.Search
import CatalogFilter.Proofs.Node.Each
import Mathlib.Data.List.Basic

/-!
# Fields by other names

* `Node.rename` — a tree with each property named as its index field.
* `Node.preorder_rename` — the nodes of the renamed tree are those of the tree, renamed one by one.
* `Node.toQuery_rename`, `Node.wellFormed_rename` — the renamed tree has the same query without a map, and keeps the rules.
* `Node.toQuery_isRenaming` — all together: looking up fields does no more than to rename the tree's properties.

A property may stand where a node is refused, be it as an operand or in a list. Refusals give the variant of a node and not its
name, so the same ones are left after renaming.
-/

namespace CatalogFilter

/-- A property that is named as its index field. -/
def Property.rename (m : FieldMap) (p : Property) : Property :=
  ⟨m.field p⟩

/-- A renamed property is its own field. -/
theorem FieldMap.field_rename (m : FieldMap) (p : Property) : FieldMap.field [] (p.rename m) = m.field p := rfl

/-- If no field is nameless, renaming leaves no property without a name. -/
theorem Property.rename_name_ne {m : FieldMap} (named : ∀ entry ∈ m, entry.2 ≠ "") {p : Property} (h : p.name ≠ "") :
    (p.rename m).name ≠ "" := by
  show (m.lookup p.name).getD p.name ≠ ""
  cases found : m.lookup p.name with
  | none => exact h
  | some field =>
    obtain ⟨before, after, rfl, -⟩ := List.lookup_eq_some_iff.1 found
    exact named (p.name, field) (by simp)

namespace Node

/-! ## Renamed trees -/

mutual

/-- A tree with each property named as its index field. -/
def rename (m : FieldMap) : Node → Node
  | .property p => .property (p.rename m)
  | .literal value => .literal value
  | .timestamp t => .timestamp t
  | .date d => .date d
  | .interval start stop => .interval start stop
  | .geometry g => .geometry g
  | .bbox extent => .bbox extent
  | .array elements => .array (renameAll m elements)
  | .and children => .and (renameAll m children)
  | .or children => .or (renameAll m children)
  | .not child => .not (rename m child)
  | .comparison op left right => .comparison op (left.rename m) (rename m right)
  | .between subject lower upper => .between (subject.rename m) (rename m lower) (rename m upper)
  | .like subject pattern => .like (subject.rename m) pattern
  | .isIn subject values => .isIn (subject.rename m) (renameAll m values)
  | .isNull subject => .isNull (subject.rename m)
  | .spatial op left right => .spatial op (left.rename m) right
  | .temporal op left right => .temporal op (left.rename m) right
  | .arrayComparison op left right => .arrayComparison op (rename m left) (rename m right)
  | .function name args => .function name (renameAll m args)

/-- `rename` of each tree. -/
def renameAll (m : FieldMap) : List Node → List Node
  | [] => []
  | n :: rest => rename m n :: renameAll m rest

end

variable {m : FieldMap}

theorem renameAll_eq_map (ns : List Node) : renameAll m ns = ns.map (rename m) := by
  induction ns with
  | nil => rfl
  | cons n rest ih => rw [renameAll, ih, List.map_cons]

/-- Renaming makes no other variant. -/
@[simp] theorem variant_rename (n : Node) : (n.rename m).variant = n.variant := by
  cases n <;> rfl

@[simp] theorem isExpression_rename (n : Node) : (n.rename m).isExpression = n.isExpression := by
  cases n <;> rfl

@[simp] theorem isArraySide_rename (n : Node) : (n.rename m).isArraySide = n.isArraySide := by
  cases n <;> rfl

/-- The operands of a renamed node are its operands, renamed. -/
theorem children_rename (n : Node) : (n.rename m).children = n.children.map (rename m) := by
  cases n with
  | array ns | and ns | or ns | function name ns => exact renameAll_eq_map ns
  | isIn subject values => exact congrArg (_ :: ·) (renameAll_eq_map values)
  | spatial op left right => cases right <;> rfl
  | temporal op left right => cases right <;> rfl
  | _ => rfl

/-- The nodes of a renamed tree are the nodes of the tree, renamed one by one. -/
theorem preorder_rename (n : Node) : (n.rename m).preorder = n.preorder.map (rename m) := by
  induction n using byChildren with
  | step n ih =>
    rw [preorder_eq, preorder_eq n, List.map_cons, children_rename, List.flatMap_map, List.map_flatMap]
    exact congrArg (_ :: ·) (List.flatMap_congr ih)

mutual

/-- If no field is nameless, renaming keeps the rules of trees. -/
theorem wellFormed_rename (named : ∀ entry ∈ m, entry.2 ≠ "") (n : Node) (h : n.WellFormed) :
    (n.rename m).WellFormed := by
  cases n with
  | property p => exact Property.rename_name_ne named h
  | array elements => exact allWellFormed_rename named elements h
  | and children | or children =>
    refine ⟨allWellFormed_rename named children h.1, ?_⟩
    rw [renameAll_eq_map, List.forall_mem_map]
    simpa using h.2
  | not child => exact ⟨wellFormed_rename named child h.1, (isExpression_rename child).trans h.2⟩
  | comparison op left right => exact ⟨Property.rename_name_ne named h.1, wellFormed_rename named right h.2⟩
  | between subject lower upper =>
    exact ⟨Property.rename_name_ne named h.1, wellFormed_rename named lower h.2.1, wellFormed_rename named upper h.2.2⟩
  | like subject pattern | isNull subject => exact Property.rename_name_ne named h
  | isIn subject values => exact ⟨Property.rename_name_ne named h.1, allWellFormed_rename named values h.2⟩
  | spatial op left right => exact ⟨Property.rename_name_ne named h.1, h.2⟩
  | temporal op left right => exact Property.rename_name_ne named h
  | arrayComparison op left right =>
    obtain ⟨first, firstSide, second, secondSide⟩ := h
    exact ⟨wellFormed_rename named left first, (isArraySide_rename left).trans firstSide,
      wellFormed_rename named right second, (isArraySide_rename right).trans secondSide⟩
  | function name args => exact ⟨h.1, h.2.1, allWellFormed_rename named args h.2.2⟩
  | _ => exact h

theorem allWellFormed_rename (named : ∀ entry ∈ m, entry.2 ≠ "") (ns : List Node) (h : AllWellFormed ns) :
    AllWellFormed (renameAll m ns) := by
  cases ns with
  | nil => trivial
  | cons n rest => exact ⟨wellFormed_rename named n h.1, allWellFormed_rename named rest h.2⟩

end

/-! ## Queries of renamed trees -/

/-- A refusal does not tell names. -/
theorem refuse_rename (d : Dialect) (n : Node) : d.refuse (n.rename m) = d.refuse n :=
  congrArg (Error.unsupportedNode · d.name) (variant_rename n)

mutual

/-- No property is part of a value. -/
theorem toOperand_rename (n : Node) : (n.rename m).toOperand = n.toOperand := by
  cases n with
  | array elements => rw [rename, toOperand, toOperand, toOperands_rename elements]
  | _ => rfl

theorem toOperands_rename (ns : List Node) : toOperands (renameAll m ns) = toOperands ns := by
  cases ns with
  | nil => rfl
  | cons n rest => rw [renameAll, toOperands, toOperands, toOperand_rename n, toOperands_rename rest]

end

mutual

/-- A renamed tree has without a map the query that the tree has with it. -/
theorem toQuery_rename (n : Node) : (n.rename m).toQuery [] = n.toQuery m := by
  cases n with
  | and children | or children => rw [rename, toQuery, toQuery, toQueries_rename children]
  | not child => rw [rename, toQuery, toQuery, toQuery_rename child]
  | comparison op left right => rw [rename, toQuery, toQuery, toOperand_rename, FieldMap.field_rename]
  | between subject lower upper =>
    rw [rename, toQuery, toQuery, toOperand_rename, toOperand_rename, FieldMap.field_rename]
  | like subject pattern | isNull subject => rfl
  | isIn subject values => rw [rename, toQuery, toQuery, toOperands_rename, FieldMap.field_rename]
  | spatial op left right | temporal op left right => rfl
  | arrayComparison op left right =>
    cases left with
    | property p =>
      rw [rename, rename, toQuery, toQuery, toOperand_rename, FieldMap.field_rename, refuse_rename]
      rfl
    | _ => rfl
  | _ => rfl

theorem toQueries_rename (ns : List Node) : toQueries [] (renameAll m ns) = toQueries m ns := by
  cases ns with
  | nil => rfl
  | cons n rest => rw [renameAll, toQueries, toQueries, toQuery_rename n, toQueries_rename rest]

end

/-- Looking up fields does no more than to rename the properties of a tree. The renamed tree has the nodes of the tree, each
renamed where it stands. If no field is nameless, it keeps the rules as the tree does, and it has without a map the query that
the tree has with it, or fails by the same error. -/
theorem toQuery_isRenaming (m : FieldMap) (named : ∀ entry ∈ m, entry.2 ≠ "") (n : Node) (h : n.WellFormed) :
    (n.rename m).preorder = n.preorder.map (rename m) ∧ (n.rename m).WellFormed ∧
      n.toQuery m = (n.rename m).toQuery [] :=
  ⟨preorder_rename n, wellFormed_rename named n h, (toQuery_rename n).symm⟩

/-- Two properties whose fields are named as the other one is. -/
def tradedFields : FieldMap :=
  [("start", "end"), ("end", "start")]

/-- A filter on both, one of them below a negation and beside a list. -/
def tradeFilter : Node :=
  .and [.isNull ⟨"start"⟩, .not (.arrayComparison .overlaps (.property ⟨"end"⟩) (.array [.literal (.str "x")]))]

/-- Each is looked up once: its field is not looked up in turn. -/
theorem toQuery_isRenaming_tradeFilter :
    (∀ entry ∈ tradedFields, entry.2 ≠ "") ∧ tradeFilter.WellFormed ∧ (tradeFilter.rename tradedFields).WellFormed ∧
      (tradeFilter.rename tradedFields).toQuery [] =
        .ok (.must [.mustNot (.exists "end"), .mustNot (.terms "start" [.scalar (.str "x")])]) := by
  have named : ∀ entry ∈ tradedFields, entry.2 ≠ "" := by decide
  have rules : tradeFilter.WellFormed := by
    simp [tradeFilter, WellFormed, AllWellFormed, isExpression, isArraySide]
  obtain ⟨-, kept, same⟩ := toQuery_isRenaming tradedFields named tradeFilter rules
  exact ⟨named, rules, kept, same.symm.trans rfl⟩

end Node

end CatalogFilter
