import CatalogFilter.Proofs.Dialect.QuoteFree
import CatalogFilter.Proofs.Node.Each

/-!
# Values in SQL conditions

* `Quotes.marks_of_scan` — the number of quotes in a text, from the values that a scan finds in it.
* `Phrase.Holds.scan_plain_iff` — a scan of a phrase whose values stand between quotes as they are finds just these values
  exactly if none of them has a quote.
* `Node.renderedTexts` — the texts of the values and patterns of a tree, in the order of the tree.
* `Node.scan_toSql_iff` — for which trees a scan of the SQL condition finds just these texts.

A quote inside a value may be swallowed by the quote that closes the value, or by the one that opens the next value, so
where a scan goes astray and whether it comes back depends on all that follows. Counting does not: every value that a
scan finds has cost two quotes and two more for each quote in it, while a value that is written as it is brings in two
quotes and only one more for each quote in it.
-/

namespace CatalogFilter

open Quotes

/-! ## Counting quotes -/

namespace Quotes

/-- The number of quotes in a text. -/
def marks (cs : List Char) : ℕ :=
  cs.count '\''

/-- The quotes that a scan has passed for the value that it is inside of. -/
def opened : Option (List Char) → ℕ
  | none => 0
  | some found => 2 * marks found + 1

/-- The quotes of values between quotes, in which two stand for one. -/
def doubled (vs : List String) : ℕ :=
  (vs.map fun v => 2 * marks v.toList + 2).sum

/-- The quotes of values between quotes, in which they stand as they are. -/
def plain (vs : List String) : ℕ :=
  (vs.map fun v => marks v.toList + 2).sum

@[simp] theorem marks_nil : marks [] = 0 := rfl

@[simp] theorem marks_quote_cons (cs : List Char) : marks ('\'' :: cs) = marks cs + 1 :=
  List.count_cons_self

theorem marks_cons {c : Char} (other : c ≠ '\'') (cs : List Char) : marks (c :: cs) = marks cs :=
  List.count_cons_of_ne other

@[simp] theorem marks_append (cs ds : List Char) : marks (cs ++ ds) = marks cs + marks ds :=
  List.count_append

theorem marks_eq_zero_iff {cs : List Char} : marks cs = 0 ↔ Free cs :=
  List.count_eq_zero

theorem doubled_cons (v : String) (vs : List String) : doubled (v :: vs) = 2 * marks v.toList + 2 + doubled vs :=
  List.sum_cons

theorem plain_cons (v : String) (vs : List String) : plain (v :: vs) = marks v.toList + 2 + plain vs :=
  List.sum_cons

/-- A text has as many quotes as the values that a scan finds in it have, when they are written with quotes doubled. -/
theorem marks_of_scan {state : Option (List Char)} {cs : List Char} {vs : List String} (h : scan state cs = some vs) :
    marks cs + opened state = doubled vs := by
  fun_induction scan state cs generalizing vs with
  | case1 =>
    cases h
    rfl
  | case2 rest ih =>
    rw [← ih h]
    simp [opened]
  | case3 c rest other ih =>
    rw [← ih h, marks_cons other]
  | case4 => cases h
  | case5 found rest ih =>
    rw [← ih h]
    simp only [opened, marks_quote_cons, marks_append, marks_nil]
    omega
  | case6 found rest single ih =>
    obtain ⟨ws, scanned, rfl⟩ := Option.map_eq_some_iff.1 h
    have others := ih scanned
    simp only [opened, marks_quote_cons, doubled_cons, String.toList_ofList] at others ⊢
    omega
  | case7 found c rest notPair other ih =>
    rw [← ih h, marks_cons other]
    simp [opened, marks_cons other]

/-- Quotes that are doubled are as many as quotes as they are only where there are none. -/
theorem plain_eq_doubled_iff {vs : List String} : plain vs = doubled vs ↔ ∀ v ∈ vs, Free v.toList := by
  have sum : doubled vs = plain vs + (vs.map fun v => marks v.toList).sum := by
    rw [doubled, plain, ← List.sum_map_add]
    congr 1
    apply List.map_congr_left
    intro v _
    omega
  rw [sum, left_eq_add, List.sum_eq_zero_iff, List.forall_mem_map]
  simp only [marks_eq_zero_iff]

end Quotes

namespace Phrase

variable {p : Phrase} {vs : List String}

theorem marks_quotedChars (s : String) : marks (Piece.quotedChars ['\''] s) = marks s.toList + 2 := by
  have same : s.toList.flatMap (fun c => if c = '\'' then ['\''] else [c]) = s.toList := by
    have single : (fun c => if c = '\'' then ['\''] else [c]) = fun c : Char => [c] := by
      funext c
      split <;> simp [*]
    rw [single, List.flatMap_singleton']
  rw [Piece.quotedChars, same]
  simp

/-- A phrase has the quotes of its values, and those around them. -/
theorem Holds.marks_chars (h : Holds p vs) : marks (p.chars ['\'']) = plain vs := by
  induction h with
  | nil => rfl
  | bare free _ ih => rw [chars_bare_cons, marks_append, marks_eq_zero_iff.2 free, ih, zero_add]
  | quoted s => rw [chars_quoted_cons, marks_append, marks_quotedChars, plain_cons]; rfl
  | quotedBare s _ _ ih => rw [chars_quoted_cons, marks_append, marks_quotedChars, ih, plain_cons]

/-- Where no value has a quote, it does not matter how quotes inside values are written. -/
theorem Holds.chars_eq (h : Holds p vs) (free : ∀ v ∈ vs, Free v.toList) (quote quote' : List Char) :
    p.chars quote = p.chars quote' := by
  have quoted {s : String} (free : Free s.toList) : Piece.quotedChars quote s = Piece.quotedChars quote' s := by
    have same : ∀ c ∈ s.toList, (if c = '\'' then quote else [c]) = if c = '\'' then quote' else [c] := by
      intro c member
      have other : c ≠ '\'' := fun same => free (same ▸ member)
      rw [if_neg other, if_neg other]
    rw [Piece.quotedChars, Piece.quotedChars, List.flatMap_congr same]
  induction h with
  | nil => rfl
  | bare _ _ ih => rw [chars_bare_cons, chars_bare_cons, ih free]
  | quoted s => rw [chars_quoted_cons, chars_quoted_cons, quoted (free s List.mem_cons_self), chars_nil, chars_nil]
  | quotedBare s _ _ ih =>
    have others := ih fun v member => free v (List.mem_cons_of_mem s member)
    rw [chars_quoted_cons, chars_quoted_cons, quoted (free s List.mem_cons_self), others]

/-- A scan of a phrase whose values stand between quotes as they are finds just these values exactly if none of them has
a quote. -/
theorem Holds.scan_plain_iff (h : Holds p vs) : scan none (p.chars ['\'']) = some vs ↔ ∀ v ∈ vs, Free v.toList := by
  constructor
  · intro found
    have count := marks_of_scan found
    rw [h.marks_chars] at count
    exact plain_eq_doubled_iff.1 count
  · intro free
    rw [h.chars_eq free ['\''] ['\'', '\'']]
    exact h.scan_chars

end Phrase

/-! ## Trees -/

namespace Node

/-- The text that a node itself has as a value or pattern. -/
def renderedText? : Node → Option String
  | .literal (.str s) => some s
  | .literal (.num m) => some m.text
  | .literal (.bool b) => some (if b then "true" else "false")
  | .timestamp t => some t.text
  | .date d => some d.text
  | .like _ pattern => some pattern
  | _ => none

/-- The texts of the values and patterns of a tree: texts and patterns as they are, numbers, truth values, times and dates
as they are written. -/
def renderedTexts (n : Node) : List String :=
  n.preorder.filterMap renderedText?

/-- Whether the name of a property, or the type and the coordinates of a geometry, have no quote. -/
def HasQuoteFreeNames : Node → Prop
  | .property p => Free p.name.toList
  | .geometry g => Free g.type.toList ∧ g.coordinates.Texts fun t => Free t.toList
  | _ => True

/-- Whether a node is no text with a quote, and has no pattern with one. -/
def HasQuoteFreeValue : Node → Prop
  | .literal (.str s) => Free s.toList
  | .like _ pattern => Free pattern.toList
  | _ => True

theorem renderedTexts_eq (n : Node) :
    n.renderedTexts = n.renderedText?.toList ++ n.children.flatMap renderedTexts := by
  rw [renderedTexts, preorder_eq, List.filterMap_cons, List.filterMap_flatMap]
  cases n.renderedText? <;> rfl

@[simp] theorem renderedTexts_property (p : Property) : renderedTexts (.property p) = [] := rfl

@[simp] theorem renderedTexts_shape (s : Shape) : renderedTexts s.toNode = [] := by
  cases s <;> rfl

/-- The name of a property that stands below a node of quote-free names has no quote. -/
theorem free_subject {n : Node} (h : n.Each HasQuoteFreeNames) {p : Property} (child : .property p ∈ n.children) :
    Free p.name.toList :=
  (h.child child).root

/-- Whether a phrase of a tree holds the texts of its values, where no name in it has a quote. -/
def SqlHolds (n : Node) : Prop :=
  ∀ p, n.sqlPhrase = .ok p → n.Each HasQuoteFreeNames → p.Holds n.renderedTexts

/-- Phrases of the operands of a node hold the texts of each. -/
theorem holds_sqlPhrases {ns : List Node} {ps : List Phrase} (each : ∀ n ∈ ns, n.SqlHolds)
    (free : ∀ n ∈ ns, n.Each HasQuoteFreeNames) (written : sqlPhrases ns = .ok ps) :
    List.Forall₂ Phrase.Holds ps (ns.map renderedTexts) := by
  rw [sqlPhrases_eq_mapM, Outcome.mapM_eq_ok] at written
  rw [List.forall₂_map_right_iff]
  have both : ∀ n ∈ ns, n.SqlHolds ∧ n.Each HasQuoteFreeNames := fun n member => ⟨each n member, free n member⟩
  apply List.Forall₂.flip
  apply ((List.forall₂_and_left _ _).2 ⟨both, written⟩).imp
  rintro n p ⟨⟨holds, free⟩, written⟩
  exact holds p written free

/-- Every tree's phrase holds the texts of its values, as long as no name in it has a quote. -/
theorem sqlHolds (n : Node) : n.SqlHolds := by
  induction n using byChildren with | step n ih
  intro p written free
  have below : ∀ c ∈ n.children, c.Each HasQuoteFreeNames := fun c child => free.child child
  rw [renderedTexts_eq]
  cases n with
  | property p =>
    cases written
    exact .bare free.root .nil
  | literal value =>
    obtain ⟨-, rfl⟩ := printing_eq_ok.1 written
    cases value with
    | bool b => cases b <;> exact .quoted _
    | _ => exact .quoted _
  | timestamp t =>
    cases written
    exact .quoted _
  | date d =>
    cases written
    exact .quoted _
  | and children =>
    obtain ⟨ps, parts, written⟩ := Outcome.bind_eq_ok.1 written
    cases written
    have each := holds_sqlPhrases ih below parts
    exact (Phrase.Holds.join " AND " (by decide) (by decide) each).within "(" ")" (by decide) (by decide) (by decide)
  | or children =>
    obtain ⟨ps, parts, written⟩ := Outcome.bind_eq_ok.1 written
    cases written
    have each := holds_sqlPhrases ih below parts
    exact (Phrase.Holds.join " OR " (by decide) (by decide) each).within "(" ")" (by decide) (by decide) (by decide)
  | not child =>
    obtain ⟨part, inside, written⟩ := Outcome.bind_eq_ok.1 written
    cases written
    have holds := ih child List.mem_cons_self part inside (below child List.mem_cons_self)
    simpa [renderedText?, children] using holds.within "NOT (" ")" (by decide) (by decide) (by decide)
  | comparison op left right =>
    obtain ⟨part, inside, written⟩ := Outcome.bind_eq_ok.1 written
    cases written
    have symbol : Free (" " ++ op.symbol ++ " ").toList := by cases op <;> decide
    have operand : right ∈ (comparison op left right).children := by simp [children]
    have holds := ih right operand part inside (below right operand)
    simpa [renderedText?, children] using Phrase.Holds.bare (free_subject free List.mem_cons_self) (.bare symbol holds)
  | between subject lower upper =>
    obtain ⟨low, insideLow, written⟩ := Outcome.bind_eq_ok.1 written
    obtain ⟨high, insideHigh, written⟩ := Outcome.bind_eq_ok.1 written
    cases written
    have first : lower ∈ (between subject lower upper).children := by simp [children]
    have second : upper ∈ (between subject lower upper).children := by simp [children]
    have holdsLow := ih lower first low insideLow (below lower first)
    have holdsHigh := ih upper second high insideHigh (below upper second)
    have bounds := holdsLow.append_bare (s := " AND ") (by decide) (by decide) holdsHigh
    simpa [renderedText?, children] using
      Phrase.Holds.bare (free_subject free List.mem_cons_self) (.bare (s := " BETWEEN ") (by decide) bounds)
  | like subject pattern =>
    cases written
    exact .bare (free_subject free List.mem_cons_self) (.bare (by decide) (.quoted pattern))
  | isIn subject values =>
    obtain ⟨ps, parts, written⟩ := Outcome.bind_eq_ok.1 written
    cases written
    have each := holds_sqlPhrases (fun n member => ih n (List.mem_cons_of_mem _ member))
      (fun n member => below n (List.mem_cons_of_mem _ member)) parts
    have row := (Phrase.Holds.join ", " (by decide) (by decide) each).within " IN (" ")" (by decide) (by decide) (by decide)
    exact .bare (free_subject free List.mem_cons_self) row
  | isNull subject =>
    cases written
    exact .bare (free_subject free List.mem_cons_self) (.bare (by decide) .nil)
  | spatial op left right =>
    obtain ⟨json, shape, written⟩ := Outcome.bind_eq_ok.1 written
    cases written
    have symbol : Free op.symbol.toList := by cases op <;> decide
    have geometry : Free json.toList := by
      apply free_shapeJson shape
      rintro g rfl
      exact (below (.geometry g) (by simp [children, Shape.toNode])).root
    simpa [renderedText?, children] using
      Phrase.Holds.bare symbol (.bare (s := "(") (by decide) (.bare geometry (.bare (s := ")") (by decide) .nil)))
  | _ => cases written

/-- Whether values are without quotes is a matter of texts and patterns only: numbers, truth values, times and dates are
written without any. -/
theorem forall_renderedTexts_iff (n : Node) :
    (∀ text ∈ n.renderedTexts, Free text.toList) ↔ n.Each HasQuoteFreeValue := by
  have own (m : Node) : (∀ text, m.renderedText? = some text → Free text.toList) ↔ HasQuoteFreeValue m := by
    cases m with
    | literal value =>
      cases value with
      | bool b => cases b <;> simp [renderedText?, HasQuoteFreeValue]
      | num m => simp [renderedText?, HasQuoteFreeValue, Wkt.free_text]
      | str s => simp [renderedText?, HasQuoteFreeValue]
    | timestamp t => simp [renderedText?, HasQuoteFreeValue, OffsetDateTime.free_text]
    | date d => simp [renderedText?, HasQuoteFreeValue]
    | like subject pattern => simp [renderedText?, HasQuoteFreeValue]
    | _ => simp [renderedText?, HasQuoteFreeValue]
  simp only [renderedTexts, List.mem_filterMap, Each, ← own]
  exact ⟨fun free m member text shown => free text ⟨m, member, shown⟩,
    fun free text ⟨m, member, shown⟩ => free m member text shown⟩

/-- Exactly when values keep to their quotes. Of every tree that has an SQL condition, and in which the names of properties
and the types and coordinates of geometries have no quote, a scan of the condition from left to right ends outside of
quotes and finds just the texts of the tree's values and patterns, in their order, if and only if no text and no pattern in
the tree has a quote. -/
theorem scan_toSql_iff (n : Node) {text : String} (rendered : n.toSql = .ok text) (names : n.Each HasQuoteFreeNames) :
    scan none text.toList = some n.renderedTexts ↔ n.Each HasQuoteFreeValue := by
  obtain ⟨p, written, rfl⟩ := Outcome.map_eq_ok.1 rendered
  rw [Phrase.text, String.toList_ofList, (sqlHolds n p written names).scan_plain_iff]
  exact forall_renderedTexts_iff n

/-- A filter with a value that closes its quotes and opens them again, beside a pattern, numbers and a shape. -/
def injectedFilter : Node :=
  .and
    [.comparison .eq ⟨"name"⟩ (.literal (.str "x' OR 'a' = 'a")), .not (.like ⟨"title"⟩ "it%"),
      .isIn ⟨"cloud"⟩ [.literal (.num (.int 3)), .literal (.bool true)],
      .spatial .within ⟨"geometry"⟩ (.geometry ⟨"Point", .tuple [.num (.int 1), .num (.int 2)], none⟩)]

/-- The condition of the sample filter. -/
def injectedText : String :=
  "(name = 'x' OR 'a' = 'a' AND NOT (title LIKE 'it%') AND cloud IN ('3', 'true') AND " ++
    "s_within(\x7b\"coordinates\":[1,2],\"type\":\"Point\"\x7d))"

/-- A scan of it does not find the values of the filter. -/
theorem scan_toSql_iff_injectedFilter :
    injectedFilter.toSql = .ok injectedText ∧ injectedFilter.Each HasQuoteFreeNames ∧
      scan none injectedText.toList ≠ some ["x' OR 'a' = 'a", "it%", "3", "true"] := by
  have rendered : injectedFilter.toSql = .ok injectedText := by cbv
  have names : injectedFilter.Each HasQuoteFreeNames := by
    have each : ∀ name ∈ ["name", "title", "cloud", "geometry", "Point"], Free name.toList := by decide
    simp only [List.forall_mem_cons] at each
    obtain ⟨name, title, cloud, geometry, point, -⟩ := each
    simp only [injectedFilter, Each, preorder, preorders, Shape.toNode, List.cons_append, List.nil_append,
      List.forall_mem_cons, List.not_mem_nil, false_implies, implies_true, and_true]
    exact ⟨trivial, trivial, name, trivial, trivial, trivial, title, trivial, cloud, trivial, trivial, trivial, geometry,
      point, trivial, trivial, trivial⟩
  have values : injectedFilter.renderedTexts = ["x' OR 'a' = 'a", "it%", "3", "true"] := by cbv
  refine ⟨rendered, names, fun found => ?_⟩
  rw [← values, scan_toSql_iff injectedFilter rendered names] at found
  have free := found (.literal (.str "x' OR 'a' = 'a")) (by simp [injectedFilter, preorder, preorders])
  exact absurd free (show ¬ Free _ by decide)

end Node

end CatalogFilter
