import CatalogFilter.Proofs.Dialect.Refusal

/-!
# Values in the text form of filters

* `Node.quotedValues` — the values that the text form of a tree puts between quotes, in the order of the tree.
* `Node.IsQuotable` — a name without quotes, or a geometry that has a text.
* `Node.textHolds` — a phrase of a tree of such names and geometries holds its values.
* `Node.exists_toText_iff` — such a tree has a text if its numbers have one.
* `Node.scan_toText` — and a scan of the text finds just these values.

No value can end its quotes or run into the next one: quotes inside values are doubled, and between any two values stands
a text without quotes.
-/

namespace CatalogFilter

open Quotes

namespace Node

/-! ## Values of a tree -/

/-- The values that a node itself has between quotes. -/
def ownValues : Node → List String
  | .literal (.str s) => [s]
  | .timestamp t => [t.text]
  | .date d => [d.text]
  | .interval start stop => [Document.writeBound start, Document.writeBound stop]
  | .like _ pattern => [pattern]
  | _ => []

/-- The values that a tree has between quotes: texts and patterns, times and dates, and both ends of each interval. -/
def quotedValues (n : Node) : List String :=
  n.preorder.flatMap ownValues

/-- Whether the name of a property or function has no quote, and a geometry has one of the six types with numbers nested
to its depth. -/
def IsQuotable : Node → Prop
  | .property p => Free p.name.toList
  | .function name _ => Free name.toList
  | .geometry g => g.HasPositions fun _ => True
  | _ => True

theorem quotedValues_eq (n : Node) : n.quotedValues = n.ownValues ++ n.children.flatMap quotedValues := by
  rw [quotedValues, preorder_eq, List.flatMap_cons, List.flatMap_assoc]
  rfl

/-- Properties, geometries and boxes have nothing between quotes. -/
@[simp] theorem quotedValues_property (p : Property) : quotedValues (.property p) = [] := rfl

@[simp] theorem quotedValues_shape (s : Shape) : quotedValues s.toNode = [] := by
  cases s <;> rfl

@[simp] theorem quotedValues_instant (t : Instant) : quotedValues t.toNode = t.toNode.ownValues := by
  cases t <;> rfl

end Node

/-! ## Words -/

theorem free_bare {s : String} (h : Free s.toList) : Phrase.Holds [.bare s] [] :=
  .bare h .nil

/-- Only the 26 small letters of ASCII have capitals of their own. -/
theorem toNat_toUpper (c : Char) :
    c.toUpper.toNat = if 97 ≤ c.toNat ∧ c.toNat ≤ 122 then c.toNat - 32 else c.toNat := by
  unfold Char.toUpper
  split
  · rename_i letter
    have low : 97 ≤ c.toNat := letter.1
    have high : c.toNat ≤ 122 := letter.2
    have sum : (c.val + ('A'.val - 'a'.val)).toNat = (c.toNat + 4294967264) % 4294967296 := UInt32.toNat_add _ _
    rw [if_pos ⟨low, high⟩]
    change (c.val + ('A'.val - 'a'.val)).toNat = c.toNat - 32
    rw [sum]
    omega
  · rename_i other
    rw [if_neg]
    exact fun h => other ⟨h.1, h.2⟩

/-- Capitals bring no quote into a text. -/
theorem free_upperAscii {s : String} (h : Free s.toList) : Free (Text.upperAscii s).toList := by
  have only (c : Char) (quote : c.toUpper = '\'') : c = '\'' := by
    have value := toNat_toUpper c
    rw [quote] at value
    change 39 = _ at value
    split at value
    · omega
    · exact Char.toNat_inj.1 value.symm
  rw [Text.upperAscii, String.toList_map]
  intro quote
  obtain ⟨c, member, same⟩ := List.mem_map.1 quote
  rw [only c same] at member
  exact h member

theorem free_functionWord {name : String} (h : Free name.toList) : Free (functionWord name).toList := by
  unfold functionWord
  split
  · exact free_upperAscii h
  · exact h

/-! ## Phrases of the text form -/

/-- A call holds the values of its arguments. -/
theorem holds_callPhrase {name : String} (h : Free name.toList) {args : List Phrase} {vss : List (List String)}
    (each : List.Forall₂ Phrase.Holds args vss) : (callPhrase name args).Holds vss.flatten := by
  have inside := (Phrase.Holds.join ", " (by decide) (by decide) each).within "(" ")" (by decide) (by decide) (by decide)
  exact .bare h inside

theorem Scalar.holds_textPhrase (value : Scalar) : value.textPhrase.Holds (Node.literal value).ownValues := by
  cases value with
  | bool b => cases b <;> exact free_bare (by decide)
  | num n => exact free_bare (Wkt.free_text n)
  | str s => exact .quoted s

theorem Instant.holds_textPhrase (t : Instant) : t.textPhrase.Holds t.toNode.ownValues := by
  cases t with
  | timestamp t => exact .bare (by decide) (.quotedBare _ (by decide) (free_bare (by decide)))
  | date d => exact .bare (by decide) (.quotedBare _ (by decide) (free_bare (by decide)))
  | interval start stop =>
    have stop' : Phrase.Holds [.quoted (Document.writeBound stop), .bare ")"] [Document.writeBound stop] :=
      .quotedBare _ (by decide) (free_bare (by decide))
    exact .bare (by decide) (.quotedBare _ (by decide) (.bare (by decide) stop'))

theorem holds_boxPhrase {extent : List Number} {p : Phrase} (written : boxPhrase extent = .ok p) : p.Holds [] := by
  obtain ⟨-, rfl⟩ := printing_eq_ok.1 written
  have numbers : Free (String.intercalate "," (extent.map Number.text)).toList := by
    rw [String.toList_intercalate, List.map_map]
    refine Wkt.free_intercalate (by decide) fun cs member => ?_
    obtain ⟨n, -, rfl⟩ := List.mem_map.1 member
    exact Wkt.free_text n
  exact .bare (by decide) (.bare numbers (free_bare (by decide)))

theorem Shape.holds_textPhrase {s : Shape} {p : Phrase} (h : s.toNode.IsQuotable) (written : s.textPhrase = .ok p) :
    p.Holds [] := by
  cases s with
  | geometry g =>
    obtain ⟨text, whole, free⟩ := Geometry.exists_toWkt h
    rw [textPhrase, whole, printing_map] at written
    obtain ⟨-, rfl⟩ := printing_eq_ok.1 written
    exact free_bare free
  | bbox extent => exact holds_boxPhrase written

/-! ## Trees -/

namespace Node

/-- Whether a phrase of a tree in the text form, if there is one, holds its quoted values. -/
def TextHolds (n : Node) : Prop :=
  ∀ p, n.textPhrase = .ok p → p.Holds n.quotedValues

theorem holds_grouped {n : Node} {p : Phrase} {vs : List String} (h : p.Holds vs) : (grouped n p).Holds vs := by
  unfold grouped
  split
  · exact h.within "(" ")" (by decide) (by decide) (by decide)
  · exact h

/-- Phrases of the operands of a node hold the values of each. -/
theorem holds_textPhrases {ns : List Node} {ps : List Phrase} (each : ∀ n ∈ ns, n.TextHolds)
    (written : textPhrases ns = .ok ps) : List.Forall₂ Phrase.Holds ps (ns.map quotedValues) := by
  rw [textPhrases_eq_mapM, Outcome.mapM_eq_ok] at written
  rw [List.forall₂_map_right_iff]
  apply List.Forall₂.flip
  exact ((List.forall₂_and_left _ _).2 ⟨each, written⟩).imp fun n p ⟨holds, single⟩ => holds p single

/-- So do those of the operands of a connective. -/
theorem holds_groupedPhrases {ns : List Node} {ps : List Phrase} (each : ∀ n ∈ ns, n.TextHolds)
    (written : groupedPhrases ns = .ok ps) : List.Forall₂ Phrase.Holds ps (ns.map quotedValues) := by
  rw [groupedPhrases_eq_mapM, Outcome.mapM_eq_ok] at written
  rw [List.forall₂_map_right_iff]
  apply List.Forall₂.flip
  refine ((List.forall₂_and_left _ _).2 ⟨each, written⟩).imp fun n q ⟨holds, single⟩ => ?_
  obtain ⟨p, inside, rfl⟩ := Outcome.map_eq_ok.1 single
  exact holds_grouped (holds p inside)

/-- The name of a property that stands below a quotable node has no quote. -/
theorem free_name {n : Node} (h : n.Each IsQuotable) {p : Property} (child : .property p ∈ n.children) :
    Free p.name.toList :=
  (h.child child).root

/-- A phrase of a tree of quotable names and geometries holds its quoted values. -/
theorem textHolds (n : Node) (h : n.Each IsQuotable) : n.TextHolds := by
  induction n using byChildren with | step n ih
  intro p written
  have operand : ∀ c ∈ n.children, c.TextHolds := fun c child => ih c child (h.child child)
  rw [quotedValues_eq]
  cases n with
  | property p =>
    cases written
    exact free_bare h.root
  | literal value =>
    obtain ⟨-, rfl⟩ := printing_eq_ok.1 written
    simpa [children] using value.holds_textPhrase
  | timestamp t =>
    cases written
    exact (Instant.timestamp t).holds_textPhrase
  | date d =>
    cases written
    exact (Instant.date d).holds_textPhrase
  | interval start stop =>
    cases written
    exact (Instant.interval start stop).holds_textPhrase
  | geometry g => exact Shape.holds_textPhrase (s := .geometry g) h.root written
  | bbox extent => exact holds_boxPhrase written
  | array elements =>
    obtain ⟨ps, parts, written⟩ := Outcome.bind_eq_ok.1 written
    cases written
    have each := holds_textPhrases operand parts
    exact (Phrase.Holds.join ", " (by decide) (by decide) each).within "(" ")" (by decide) (by decide) (by decide)
  | and children =>
    obtain ⟨ps, parts, written⟩ := Outcome.bind_eq_ok.1 written
    cases written
    exact Phrase.Holds.join " AND " (by decide) (by decide) (holds_groupedPhrases operand parts)
  | or children =>
    obtain ⟨ps, parts, written⟩ := Outcome.bind_eq_ok.1 written
    cases written
    exact Phrase.Holds.join " OR " (by decide) (by decide) (holds_groupedPhrases operand parts)
  | not child =>
    obtain ⟨part, inside, written⟩ := Outcome.bind_eq_ok.1 written
    cases written
    have holds := operand child List.mem_cons_self part inside
    simpa [ownValues, children] using Phrase.Holds.bare (s := "NOT ") (by decide) (holds_grouped holds)
  | comparison op left right =>
    obtain ⟨part, inside, written⟩ := Outcome.bind_eq_ok.1 written
    cases written
    have symbol : Free (" " ++ op.symbol ++ " ").toList := by cases op <;> decide
    have holds := operand right (by simp [children]) part inside
    simpa [ownValues, children] using Phrase.Holds.bare (free_name h List.mem_cons_self) (.bare symbol holds)
  | between subject lower upper =>
    obtain ⟨low, insideLow, written⟩ := Outcome.bind_eq_ok.1 written
    obtain ⟨high, insideHigh, written⟩ := Outcome.bind_eq_ok.1 written
    cases written
    have holdsLow := operand lower (by simp [children]) low insideLow
    have holdsHigh := operand upper (by simp [children]) high insideHigh
    have bounds := holdsLow.append_bare (s := " AND ") (by decide) (by decide) holdsHigh
    simpa [ownValues, children] using
      Phrase.Holds.bare (free_name h List.mem_cons_self) (.bare (s := " BETWEEN ") (by decide) bounds)
  | like subject pattern =>
    cases written
    exact .bare (free_name h List.mem_cons_self) (.bare (by decide) (.quoted pattern))
  | isIn subject values =>
    obtain ⟨ps, parts, written⟩ := Outcome.bind_eq_ok.1 written
    cases written
    have each := holds_textPhrases (fun n member => operand n (List.mem_cons_of_mem _ member)) parts
    have row := (Phrase.Holds.join ", " (by decide) (by decide) each).within " IN (" ")" (by decide) (by decide) (by decide)
    exact .bare (free_name h List.mem_cons_self) row
  | isNull subject =>
    cases written
    exact .bare (free_name h List.mem_cons_self) (free_bare (by decide))
  | spatial op left right =>
    obtain ⟨part, inside, written⟩ := Outcome.bind_eq_ok.1 written
    cases written
    have word : Free (Text.upperAscii op.symbol).toList := free_upperAscii (by cases op <;> decide)
    have first := free_bare (free_name h (p := left) List.mem_cons_self)
    have holds := Shape.holds_textPhrase (h.child (c := right.toNode) (by simp [children])).root inside
    simpa [ownValues, children] using holds_callPhrase word (.cons first (.cons holds .nil))
  | temporal op left right =>
    cases written
    have word : Free (Text.upperAscii op.symbol).toList := free_upperAscii (by cases op <;> decide)
    have first := free_bare (free_name h (p := left) List.mem_cons_self)
    simpa [ownValues, children] using holds_callPhrase word (.cons first (.cons right.holds_textPhrase .nil))
  | arrayComparison op left right =>
    obtain ⟨first, insideFirst, written⟩ := Outcome.bind_eq_ok.1 written
    obtain ⟨second, insideSecond, written⟩ := Outcome.bind_eq_ok.1 written
    cases written
    have word : Free (Text.upperAscii op.symbol).toList := free_upperAscii (by cases op <;> decide)
    have holdsFirst := operand left (by simp [children]) first insideFirst
    have holdsSecond := operand right (by simp [children]) second insideSecond
    simpa [ownValues, children] using holds_callPhrase word (.cons holdsFirst (.cons holdsSecond .nil))
  | function name args =>
    obtain ⟨ps, parts, written⟩ := Outcome.bind_eq_ok.1 written
    cases written
    exact holds_callPhrase (free_functionWord h.root) (holds_textPhrases operand parts)

/-- A quotable geometry is of one of the six types. -/
theorem IsQuotable.isForeign_eq_false {n : Node} (h : n.IsQuotable) : n.isForeign = false := by
  cases n with
  | geometry g =>
    obtain ⟨word, k, form, -⟩ := h
    rw [isForeign, form, Option.isNone_some]
  | _ => rfl

/-- Quotable geometries are nested to the depth of their types. -/
theorem nestsGeometries_of_isQuotable {n : Node} (h : n.Each IsQuotable) : n.NestsGeometries := by
  intro g member word k form
  obtain ⟨word', k', form', nested⟩ := h (.geometry g) member
  cases form.symm.trans form'
  exact nested.deep

/-- A tree of quotable names and geometries has a text exactly if all its numbers have one. -/
theorem exists_toText_iff {n : Node} (h : n.Each IsQuotable) :
    (∃ text, n.toText = .ok text) ↔ n.Each fun m => m.hasOwnText = true := by
  have refuses : Refuses n.toText n.preorder isForeign shapeName Dialect.text.name :=
    .of_endsBy (n.endsBy_textPhrase (nestsGeometries_of_isQuotable h)).map
  rw [refuses.exists_ok_iff]
  exact forall₂_congr fun m member => and_iff_right (h m member).isForeign_eq_false

/-- No value breaks out of its quotes. Of every tree whose property and function names have no quote, and whose geometries
are of the six types with numbers nested to their depth, the text form exists unless a number in the tree has no text, and
a scan of it from left to right ends outside of quotes and finds just the texts, patterns, times, dates and ends of
intervals of the tree, in their order, whatever characters the texts and patterns have. -/
theorem scan_toText (n : Node) (h : n.Each IsQuotable) :
    ((∃ text, n.toText = .ok text) ↔ n.Each fun m => m.hasOwnText = true) ∧
      ∀ text, n.toText = .ok text → scan none text.toList = some n.quotedValues := by
  refine ⟨exists_toText_iff h, fun text rendered => ?_⟩
  obtain ⟨p, written, rfl⟩ := Outcome.map_eq_ok.1 rendered
  rw [Phrase.text, String.toList_ofList]
  exact (textHolds n h p written).scan_chars

/-- A filter with values that begin, end and consist of quotes. -/
def quoteFilter : Node :=
  .or
    [.comparison .eq ⟨"name"⟩ (.literal (.str "' OR '")), .not (.like ⟨"title"⟩ "''"),
      .isIn ⟨"id"⟩ [.literal (.str "'"), .function "casei" [.literal (.str ")'")]],
      .spatial .within ⟨"geometry"⟩ (.geometry ⟨"Point", .tuple [.num (.int 1), .num (.int 2)], none⟩)]

/-- Its values are found as they are. -/
theorem scan_toText_quoteFilter :
    quoteFilter.Each IsQuotable ∧
      ∃ text, quoteFilter.toText = .ok text ∧ scan none text.toList = some ["' OR '", "''", "'", ")'"] := by
  have quotable : quoteFilter.Each IsQuotable := by
    have point : IsQuotable (.geometry ⟨"Point", .tuple [.num (.int 1), .num (.int 2)], none⟩) :=
      ⟨"POINT", 0, rfl, [.int 1, .int 2], rfl, trivial⟩
    have names : ∀ name ∈ ["name", "title", "id", "casei", "geometry"], Free name.toList := by decide
    simp only [List.forall_mem_cons] at names
    obtain ⟨name, title, id, casei, geometry, -⟩ := names
    simp only [quoteFilter, Each, preorder, preorders, Shape.toNode, List.cons_append, List.nil_append,
      List.forall_mem_cons, List.not_mem_nil, false_implies, implies_true, and_true]
    exact ⟨trivial, trivial, name, trivial, trivial, trivial, title, trivial, id, trivial, casei, trivial, trivial,
      geometry, point⟩
  have numbers : quoteFilter.Each fun m => m.hasOwnText = true := by
    have point : Datum.isPrintable (.tuple [.num (.int 1), .num (.int 2)]) = true := by decide +kernel
    simp [quoteFilter, Each, preorder, preorders, Shape.toNode, hasOwnText, Scalar.isPrintable, point]
  obtain ⟨exists_iff, found⟩ := scan_toText quoteFilter quotable
  obtain ⟨text, rendered⟩ := exists_iff.2 numbers
  exact ⟨quotable, text, rendered, found text rendered⟩

end Node

end CatalogFilter
