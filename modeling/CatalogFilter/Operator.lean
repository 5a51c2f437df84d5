/-! # The operators of the filter language

* `LogicalOp`, `ComparisonOp`, `AdvancedOp`, `SpatialOp`, `TemporalOp`, `ArrayOp`: the operators by group,
  each with its `symbol` and the operator of a symbol, `ofSymbol?`.
* `Operator`: an operator of any group; `Operator.ofSymbol?` finds it.
* `coreOperators`: all symbols; `builtInFunctions`: the functions known without settings.
* `LiteralKind`: the kinds of scalar values. -/

namespace CatalogFilter

/-- Connectives of predicates. -/
inductive LogicalOp where
  | and
  | or
  | not
  deriving DecidableEq

/-- Comparisons of a property with an operand. -/
inductive ComparisonOp where
  | eq
  | neq
  | lt
  | lte
  | gt
  | gte
  deriving DecidableEq

/-- Tests of a property with an argument form of their own. -/
inductive AdvancedOp where
  | like
  | between
  | isIn
  | isNull
  deriving DecidableEq

/-- Relations of a property to a shape. -/
inductive SpatialOp where
  | intersects
  | equals
  | disjoint
  | touches
  | within
  | overlaps
  | crosses
  | contains
  deriving DecidableEq

/-- Relations of a property to a time. -/
inductive TemporalOp where
  | after
  | before
  | contains
  | disjoint
  | during
  | equals
  | intersects
  deriving DecidableEq

/-- Relations of two arrays. -/
inductive ArrayOp where
  | equals
  | contains
  | containedBy
  | overlaps
  deriving DecidableEq

/-- The kinds of scalar values. -/
inductive LiteralKind where
  | string
  | number
  | boolean
  deriving DecidableEq

/-! ## Symbols -/

/-- The first of some values that has the given symbol. -/
def findSymbol {α : Type} (symbol : α → String) (all : List α) (s : String) : Option α :=
  all.find? fun a => symbol a == s

theorem symbol_of_findSymbol {α : Type} {symbol : α → String} {all : List α} {s : String} {a : α}
    (h : findSymbol symbol all s = some a) : symbol a = s := by
  have := List.find?_some h
  simpa using this

namespace LogicalOp

/-- The written operator. -/
def symbol : LogicalOp → String
  | .and => "and"
  | .or => "or"
  | .not => "not"

/-- Every operator of the group. -/
def all : List LogicalOp := [.and, .or, .not]

/-- The operator of a symbol. -/
def ofSymbol? : String → Option LogicalOp := findSymbol symbol all

end LogicalOp

namespace ComparisonOp

/-- The written operator. -/
def symbol : ComparisonOp → String
  | .eq => "="
  | .neq => "<>"
  | .lt => "<"
  | .lte => "<="
  | .gt => ">"
  | .gte => ">="

/-- Every operator of the group. -/
def all : List ComparisonOp := [.eq, .neq, .lt, .lte, .gt, .gte]

/-- The operator of a symbol. -/
def ofSymbol? : String → Option ComparisonOp := findSymbol symbol all

end ComparisonOp

namespace AdvancedOp

/-- The written operator. -/
def symbol : AdvancedOp → String
  | .like => "like"
  | .between => "between"
  | .isIn => "in"
  | .isNull => "isnull"

/-- Every operator of the group. -/
def all : List AdvancedOp := [.like, .between, .isIn, .isNull]

/-- The operator of a symbol. -/
def ofSymbol? : String → Option AdvancedOp := findSymbol symbol all

end AdvancedOp

namespace SpatialOp

/-- The written operator. -/
def symbol : SpatialOp → String
  | .intersects => "s_intersects"
  | .equals => "s_equals"
  | .disjoint => "s_disjoint"
  | .touches => "s_touches"
  | .within => "s_within"
  | .overlaps => "s_overlaps"
  | .crosses => "s_crosses"
  | .contains => "s_contains"

/-- Every operator of the group. -/
def all : List SpatialOp :=
  [.intersects, .equals, .disjoint, .touches, .within, .overlaps, .crosses, .contains]

/-- The operator of a symbol. -/
def ofSymbol? : String → Option SpatialOp := findSymbol symbol all

end SpatialOp

namespace TemporalOp

/-- The written operator. -/
def symbol : TemporalOp → String
  | .after => "t_after"
  | .before => "t_before"
  | .contains => "t_contains"
  | .disjoint => "t_disjoint"
  | .during => "t_during"
  | .equals => "t_equals"
  | .intersects => "t_intersects"

/-- Every operator of the group. -/
def all : List TemporalOp := [.after, .before, .contains, .disjoint, .during, .equals, .intersects]

/-- The operator of a symbol. -/
def ofSymbol? : String → Option TemporalOp := findSymbol symbol all

end TemporalOp

namespace ArrayOp

/-- The written operator. -/
def symbol : ArrayOp → String
  | .equals => "a_equals"
  | .contains => "a_contains"
  | .containedBy => "a_containedby"
  | .overlaps => "a_overlaps"

/-- Every operator of the group. -/
def all : List ArrayOp := [.equals, .contains, .containedBy, .overlaps]

/-- The operator of a symbol. -/
def ofSymbol? : String → Option ArrayOp := findSymbol symbol all

end ArrayOp

namespace LiteralKind

/-- The written kind. -/
def symbol : LiteralKind → String
  | .string => "string"
  | .number => "number"
  | .boolean => "boolean"

/-- Every kind. -/
def all : List LiteralKind := [.string, .number, .boolean]

/-- The kind of a symbol. -/
def ofSymbol? : String → Option LiteralKind := findSymbol symbol all

end LiteralKind

/-! ## All groups together -/

/-- An operator of any group. -/
inductive Operator where
  | logical (op : LogicalOp)
  | comparison (op : ComparisonOp)
  | advanced (op : AdvancedOp)
  | spatial (op : SpatialOp)
  | temporal (op : TemporalOp)
  | array (op : ArrayOp)
  deriving DecidableEq

namespace Operator

/-- The written operator. -/
def symbol : Operator → String
  | .logical op => op.symbol
  | .comparison op => op.symbol
  | .advanced op => op.symbol
  | .spatial op => op.symbol
  | .temporal op => op.symbol
  | .array op => op.symbol

/-- Every operator. -/
def all : List Operator :=
  LogicalOp.all.map .logical ++ ComparisonOp.all.map .comparison ++ AdvancedOp.all.map .advanced ++
    SpatialOp.all.map .spatial ++ TemporalOp.all.map .temporal ++ ArrayOp.all.map .array

/-- The operator of a symbol. -/
def ofSymbol? : String → Option Operator := findSymbol symbol all

theorem ofSymbol?_symbol (op : Operator) : ofSymbol? op.symbol = some op := by
  rcases op with op | op | op | op | op | op <;> cases op <;> decide

theorem mem_all (op : Operator) : op ∈ all := by
  rcases op with op | op | op | op | op | op <;> cases op <;> decide

theorem symbol_of_ofSymbol? {s : String} {op : Operator} (h : ofSymbol? s = some op) : op.symbol = s :=
  symbol_of_findSymbol h

end Operator

/-- The symbols of all operators; no function has one of these names. -/
def coreOperators : List String :=
  Operator.all.map Operator.symbol

/-- The functions that are known without settings. -/
def builtInFunctions : List String :=
  ["casei", "accenti"]

theorem mem_coreOperators_iff (s : String) : s ∈ coreOperators ↔ (Operator.ofSymbol? s).isSome = true := by
  constructor
  · intro h
    obtain ⟨op, _, rfl⟩ := List.mem_map.1 h
    rw [Operator.ofSymbol?_symbol]
    rfl
  · intro h
    obtain ⟨op, hop⟩ := Option.isSome_iff_exists.1 h
    exact List.mem_map.2 ⟨op, op.mem_all, Operator.symbol_of_ofSymbol? hop⟩

end CatalogFilter
