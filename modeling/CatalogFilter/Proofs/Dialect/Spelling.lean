import CatalogFilter.Proofs.Dialect.Phrases
import CatalogFilter.Proofs.Dialect.Wkt
import CatalogFilter.Proofs.Node.Each

/-!
# The text form from the texts of the operands

* `IsName` — a small letter, and behind it small letters, digits, underscores, colons and points.
* `Node.IsLegible` — what a node has to keep for its text to tell it.
* `Node.compose` — the text of a node made from the texts of its operands; connectives stand in parentheses.
* `Node.Spelled` — a tree of legible nodes and its text as an operand of a connective.
* `Node.Spelled.exists_texts` — such a text is composed of the texts of the operands.

Subjects and shapes count as operands here. What the text form writes for a relation, a function or an array is then one
thing, a word with operands in parentheses behind it.
-/

namespace CatalogFilter

/-! ## Names and operands -/

/-- Whether a character may stand in a name. -/
def isNameChar (c : Char) : Bool :=
  c.isLower || c.isDigit || c == '_' || c == ':' || c == '.'

/-- Whether a text is a character of one class with characters of another one behind it. -/
def leads (first other : Char → Bool) (s : String) : Bool :=
  match s.toList with
  | [] => false
  | c :: cs => first c && cs.all other

theorem exists_cons_of_leads {first other : Char → Bool} {s : String} (h : leads first other s = true) :
    ∃ c cs, s.toList = c :: cs ∧ first c = true ∧ ∀ d ∈ cs, other d = true := by
  unfold leads at h
  split at h
  · cases h
  · rename_i c cs whole
    rw [Bool.and_eq_true, List.all_eq_true] at h
    exact ⟨c, cs, whole, h⟩

/-- Whether a text is a small letter with characters of names behind it. -/
def IsName (s : String) : Prop :=
  leads Char.isLower isNameChar s = true

instance : DecidablePred IsName := fun s => inferInstanceAs (Decidable (leads Char.isLower isNameChar s = true))

namespace Node

/-- Whether a node may be an operand of a predicate, an element of an array or an argument of a function. -/
def isOperand : Node → Bool
  | .property _ | .literal _ | .timestamp _ | .date _ | .interval _ _ | .geometry _ | .bbox _ | .array _
  | .function _ _ => true
  | _ => false

/-- Whether the names of a node are names, its numbers are finite, its geometry is one of the six types without a box of
its own and with numbers nested to its depth, a conjunction or disjunction has at least two operands, and the operands
of everything but a connective are no expressions other than functions. -/
def IsLegible : Node → Prop
  | .property p => IsName p.name
  | .literal (.num m) => m.IsFinite
  | .bbox extent => ∀ m ∈ extent, m.IsFinite
  | .geometry g => g.bbox = none ∧ g.HasPositions Wkt.IsPosition
  | .and children => 2 ≤ children.length
  | .or children => 2 ≤ children.length
  | .not _ => True
  | .function name args => IsName name ∧ ∀ c ∈ args, c.isOperand = true
  | n => ∀ c ∈ n.children, c.isOperand = true

/-! ## Composition -/

/-- The characters of a value between quotes, with quotes inside it doubled. -/
abbrev quoted (s : String) : List Char :=
  Piece.quotedChars ['\'', '\''] s

/-- Texts in a row with a separator between them. -/
def row (separator : String) (texts : List (List Char)) : List Char :=
  separator.toList.intercalate texts

/-- A text in parentheses behind a word. -/
def call (word : String) (inside : List Char) : List Char :=
  word.toList ++ '(' :: (inside ++ [')'])

/-- Two texts with a word between them. -/
def linked (before : List Char) (word : String) (after : List Char) : List Char :=
  before ++ (word.toList ++ after)

/-- The text of a scalar. -/
def scalarChars : Scalar → List Char
  | .bool true => "TRUE".toList
  | .bool false => "FALSE".toList
  | .num m => m.text.toList
  | .str s => quoted s

/-- The text of a geometry, if it has one. -/
def geometryChars (g : Geometry) : List Char :=
  match g.toWkt with
  | .ok text => text.toList
  | .error _ => []

theorem geometryChars_eq {g : Geometry} {text : String} (h : g.toWkt = .ok text) : geometryChars g = text.toList := by
  rw [geometryChars, h]

/-- The text of a node from the texts of its operands. -/
def compose (n : Node) (texts : List (List Char)) : List Char :=
  match n with
  | .property p => p.name.toList
  | .literal value => scalarChars value
  | .timestamp t => call "TIMESTAMP" (quoted t.text)
  | .date d => call "DATE" (quoted d.text)
  | .interval start stop =>
    call "INTERVAL" (row "," [quoted (Document.writeBound start), quoted (Document.writeBound stop)])
  | .geometry g => geometryChars g
  | .bbox extent => call "BBOX" (row "," (extent.map fun m => m.text.toList))
  | .array _ => call "" (row ", " texts)
  | .and _ => call "" (row " AND " texts)
  | .or _ => call "" (row " OR " texts)
  | .not _ => linked [] "NOT " texts.flatten
  | .comparison op _ _ => row (" " ++ op.symbol ++ " ") texts
  | .between _ _ _ => linked (texts.headD []) " BETWEEN " (row " AND " texts.tail)
  | .like _ pattern => linked texts.flatten " LIKE " (quoted pattern)
  | .isIn _ _ => linked (texts.headD []) " IN " (call "" (row ", " texts.tail))
  | .isNull _ => linked texts.flatten " IS NULL" []
  | .spatial op _ _ => call (Text.upperAscii op.symbol) (row ", " texts)
  | .temporal op _ _ => call (Text.upperAscii op.symbol) (row ", " texts)
  | .arrayComparison op _ _ => call (Text.upperAscii op.symbol) (row ", " texts)
  | .function name _ => call (functionWord name) (row ", " texts)

/-- A tree of legible nodes, and its text as an operand of a connective. -/
def Spelled (n : Node) (cs : List Char) : Prop :=
  n.Each IsLegible ∧ ∃ p, n.textPhrase = .ok p ∧ (grouped n p).chars ['\'', '\''] = cs

variable {n : Node} {cs : List Char}

theorem isGroup_of_isOperand (h : n.isOperand = true) : n.isGroup = false := by
  cases n <;> first | rfl | cases h

/-- Only conjunctions and disjunctions stand in parentheses. -/
theorem grouped_single (single : n.isGroup = false) (p : Phrase) : grouped n p = p := by
  simp [grouped, single]

theorem grouped_group (group : n.isGroup = true) (p : Phrase) : grouped n p = p.within "(" ")" := by
  simp [grouped, group]

/-- The text of a node that is no connective. -/
theorem Spelled.of_not_isGroup {p : Phrase} (legible : n.Each IsLegible) (single : n.isGroup = false)
    (written : n.textPhrase = .ok p) : n.Spelled (p.chars ['\'', '\'']) :=
  ⟨legible, p, written, by rw [grouped_single single]⟩

/-- Operands are spelled as they are rendered. -/
theorem forall₂_spelled {ns : List Node} {ps : List Phrase} (legible : ∀ n ∈ ns, n.Each IsLegible)
    (operands : ∀ n ∈ ns, n.isOperand = true) (written : textPhrases ns = .ok ps) :
    List.Forall₂ Spelled ns (ps.map (Phrase.chars ['\'', '\''])) := by
  rw [textPhrases_eq_mapM, Outcome.mapM_eq_ok] at written
  rw [List.forall₂_map_right_iff]
  induction written with
  | nil => exact .nil
  | @cons n p ns ps first _ ih =>
    refine .cons (.of_not_isGroup (legible n List.mem_cons_self) ?_ first) (ih ?_ ?_)
    · exact isGroup_of_isOperand (operands n List.mem_cons_self)
    · exact fun m member => legible m (List.mem_cons_of_mem n member)
    · exact fun m member => operands m (List.mem_cons_of_mem n member)

/-- So are the operands of a connective, in parentheses where they are connectives. -/
theorem forall₂_spelled_grouped {ns : List Node} {ps : List Phrase} (legible : ∀ n ∈ ns, n.Each IsLegible)
    (written : groupedPhrases ns = .ok ps) : List.Forall₂ Spelled ns (ps.map (Phrase.chars ['\'', '\''])) := by
  rw [groupedPhrases_eq_mapM, Outcome.mapM_eq_ok] at written
  rw [List.forall₂_map_right_iff]
  induction written with
  | nil => exact .nil
  | @cons n p ns ps first _ ih =>
    obtain ⟨part, rendered, rfl⟩ := Outcome.map_eq_ok.1 first
    refine .cons ⟨legible n List.mem_cons_self, part, rendered, rfl⟩ (ih ?_)
    exact fun m member => legible m (List.mem_cons_of_mem n member)

theorem chars_callPhrase (word : String) (ps : List Phrase) :
    (callPhrase word ps).chars ['\'', '\''] = call word (row ", " (ps.map (Phrase.chars ['\'', '\'']))) := by
  rw [callPhrase, Phrase.chars_bare_cons, Phrase.chars_within, Phrase.chars_join]
  rfl

/-- The property that a predicate is about is spelled as its name. -/
theorem spelled_property {p : Property} (legible : (Node.property p).Each IsLegible) :
    (Node.property p).Spelled p.name.toList := by
  have spelled := Spelled.of_not_isGroup (p := [.bare p.name]) legible rfl rfl
  rwa [Phrase.chars_bare_cons, Phrase.chars_nil, List.append_nil] at spelled

/-- A shape is spelled as it is rendered. -/
theorem spelled_shape {s : Shape} {p : Phrase} (legible : s.toNode.Each IsLegible) (written : s.textPhrase = .ok p) :
    s.toNode.Spelled (p.chars ['\'', '\'']) := by
  cases s <;> exact .of_not_isGroup legible rfl written

/-- So is a time. -/
theorem spelled_instant {t : Instant} (legible : t.toNode.Each IsLegible) :
    t.toNode.Spelled (t.textPhrase.chars ['\'', '\'']) := by
  cases t <;> exact .of_not_isGroup legible rfl rfl

/-- A node that stands in no parentheses has the texts of its operands in what it is rendered as. -/
theorem exists_texts_single {p : Phrase} {texts : List (List Char)} (single : n.isGroup = false)
    (each : List.Forall₂ Spelled n.children texts) (same : n.compose texts = p.chars ['\'', '\'']) :
    ∃ texts, List.Forall₂ Spelled n.children texts ∧ n.compose texts = (grouped n p).chars ['\'', '\''] :=
  ⟨texts, each, by rw [grouped_single single, same]⟩

/-- A scalar is written as it is rendered. -/
theorem scalarChars_eq (value : Scalar) : scalarChars value = value.textPhrase.chars ['\'', '\''] := by
  cases value with
  | bool b => cases b <;> simp [scalarChars, Scalar.textPhrase]
  | num m => simp [scalarChars, Scalar.textPhrase]
  | str s => simp [scalarChars, Scalar.textPhrase]

/-- A conjunction or disjunction has the texts of its operands in parentheses. -/
theorem exists_texts_group {s : String} {ns : List Node} {ps : List Phrase} (group : n.isGroup = true)
    (operands : n.children = ns) (composed : ∀ texts, n.compose texts = call "" (row s texts))
    (legible : ∀ c ∈ ns, c.Each IsLegible) (rendered : groupedPhrases ns = .ok ps) :
    ∃ texts, List.Forall₂ Spelled n.children texts ∧
      n.compose texts = (grouped n (Phrase.join s ps)).chars ['\'', '\''] := by
  refine ⟨_, by rw [operands]; exact forall₂_spelled_grouped legible rendered, ?_⟩
  rw [grouped_group group, Phrase.chars_within, Phrase.chars_join, composed]
  rfl

/-- The text of a node is composed of the texts of its operands. -/
theorem Spelled.exists_texts (h : n.Spelled cs) :
    ∃ texts, List.Forall₂ Spelled n.children texts ∧ n.compose texts = cs := by
  obtain ⟨legible, p, written, rfl⟩ := h
  have below : ∀ c ∈ n.children, c.Each IsLegible := fun c child => legible.child child
  have own : n.IsLegible := legible.root
  cases n with
  | property q =>
    cases written
    exact exists_texts_single rfl .nil (by simp [compose])
  | literal value =>
    obtain ⟨-, rfl⟩ := printing_eq_ok.1 written
    exact exists_texts_single rfl .nil (scalarChars_eq value)
  | timestamp t =>
    cases written
    exact exists_texts_single rfl .nil (by simp [compose, call, Instant.textPhrase])
  | date d =>
    cases written
    exact exists_texts_single rfl .nil (by simp [compose, call, Instant.textPhrase])
  | interval start stop =>
    cases written
    exact exists_texts_single rfl .nil (by simp [compose, call, row, Instant.textPhrase])
  | geometry g =>
    obtain ⟨text, found, rfl⟩ := Outcome.map_eq_ok.1 written
    exact exists_texts_single rfl .nil (by simp [compose, geometryChars_eq found])
  | bbox extent =>
    obtain ⟨-, rfl⟩ := printing_eq_ok.1 written
    refine exists_texts_single rfl .nil ?_
    simp [compose, call, row, String.toList_intercalate, Function.comp_def]
  | array elements =>
    obtain ⟨ps, rendered, written⟩ := Outcome.bind_eq_ok.1 written
    cases written
    refine exists_texts_single rfl (forall₂_spelled below own rendered) ?_
    rw [Phrase.chars_within, Phrase.chars_join]
    rfl
  | and children =>
    obtain ⟨ps, rendered, written⟩ := Outcome.bind_eq_ok.1 written
    cases written
    exact exists_texts_group rfl rfl (fun _ => rfl) below rendered
  | or children =>
    obtain ⟨ps, rendered, written⟩ := Outcome.bind_eq_ok.1 written
    cases written
    exact exists_texts_group rfl rfl (fun _ => rfl) below rendered
  | not child =>
    obtain ⟨p, rendered, written⟩ := Outcome.bind_eq_ok.1 written
    cases written
    have spelled : child.Spelled _ := ⟨below child List.mem_cons_self, p, rendered, rfl⟩
    exact exists_texts_single (n := .not child) rfl (.cons spelled .nil) (by simp [compose, linked])
  | comparison op left right =>
    obtain ⟨p, rendered, written⟩ := Outcome.bind_eq_ok.1 written
    cases written
    simp only [children, List.forall_mem_cons, IsLegible] at below own
    have spelled := Spelled.of_not_isGroup below.2.1 (isGroup_of_isOperand own.2.1) rendered
    exact exists_texts_single rfl (.cons (spelled_property below.1) (.cons spelled .nil)) (by simp [compose, row])
  | between subject lower upper =>
    obtain ⟨p, renderedLower, written⟩ := Outcome.bind_eq_ok.1 written
    obtain ⟨q, renderedUpper, written⟩ := Outcome.bind_eq_ok.1 written
    cases written
    simp only [children, List.forall_mem_cons, IsLegible] at below own
    have spelledLower := Spelled.of_not_isGroup below.2.1 (isGroup_of_isOperand own.2.1) renderedLower
    have spelledUpper := Spelled.of_not_isGroup below.2.2.1 (isGroup_of_isOperand own.2.2.1) renderedUpper
    refine exists_texts_single rfl (.cons (spelled_property below.1) (.cons spelledLower (.cons spelledUpper .nil))) ?_
    simp [compose, linked, row, Phrase.chars_append]
  | like subject pattern =>
    cases written
    simp only [children, List.forall_mem_cons] at below
    exact exists_texts_single rfl (.cons (spelled_property below.1) .nil) (by simp [compose, linked])
  | isIn subject values =>
    obtain ⟨ps, rendered, written⟩ := Outcome.bind_eq_ok.1 written
    cases written
    simp only [children, List.forall_mem_cons, IsLegible] at below own
    refine exists_texts_single rfl (.cons (spelled_property below.1) (forall₂_spelled below.2 own.2 rendered)) ?_
    rw [Phrase.chars_bare_cons, Phrase.chars_within, Phrase.chars_join]
    rfl
  | isNull subject =>
    cases written
    simp only [children, List.forall_mem_cons] at below
    exact exists_texts_single rfl (.cons (spelled_property below.1) .nil) (by simp [compose, linked])
  | spatial op left right =>
    obtain ⟨p, rendered, written⟩ := Outcome.bind_eq_ok.1 written
    cases written
    simp only [children, List.forall_mem_cons] at below
    refine exists_texts_single rfl (.cons (spelled_property below.1) (.cons (spelled_shape below.2.1 rendered) .nil)) ?_
    rw [chars_callPhrase]
    simp [compose, row]
  | temporal op left right =>
    cases written
    simp only [children, List.forall_mem_cons] at below
    refine exists_texts_single rfl (.cons (spelled_property below.1) (.cons (spelled_instant below.2.1) .nil)) ?_
    rw [chars_callPhrase]
    simp [compose, row]
  | arrayComparison op left right =>
    obtain ⟨p, renderedLeft, written⟩ := Outcome.bind_eq_ok.1 written
    obtain ⟨q, renderedRight, written⟩ := Outcome.bind_eq_ok.1 written
    cases written
    simp only [children, List.forall_mem_cons, IsLegible] at below own
    have spelledLeft := Spelled.of_not_isGroup below.1 (isGroup_of_isOperand own.1) renderedLeft
    have spelledRight := Spelled.of_not_isGroup below.2.1 (isGroup_of_isOperand own.2.1) renderedRight
    refine exists_texts_single rfl (.cons spelledLeft (.cons spelledRight .nil)) ?_
    rw [chars_callPhrase]
    rfl
  | function name args =>
    obtain ⟨ps, rendered, written⟩ := Outcome.bind_eq_ok.1 written
    cases written
    exact exists_texts_single rfl (forall₂_spelled below own.2 rendered) (chars_callPhrase _ _).symm

end Node

end CatalogFilter
