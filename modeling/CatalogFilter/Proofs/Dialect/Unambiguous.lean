import CatalogFilter.Proofs.Calendar.Distinct
import CatalogFilter.Proofs.Dialect.Leads
import CatalogFilter.Proofs.Node.Parts

/-!
# The text form is unambiguous

* `Node.Told` — the text of a tree tells it, up to the zones of its times, and where it ends, in front of all that may stand
  behind an operand.
* `Node.Clash` — two trees with the same text up to what stands behind them; `Node.Clash.lead` says that they have the
  same lead, so that only trees of one variant are left to be compared.
* `Node.told_bracket`, `Node.told_comparison`, `Node.told_function` and their like — a node is told if its operands are.
* `Node.told` — so every tree is told, by induction on its operands.
* `Node.sameButZones_of_toText` — legible trees with the same text are the same but for the zones of their times.
* `Node.equal_iff_of_toText` — they are equal exactly if the zones of the times at each place agree.

What is told is the text of a tree as an operand of a connective, in which conjunctions and disjunctions stand in
parentheses. Only the outermost one stands without them; it is told from other trees by its first operand, behind which
a connective goes on.
-/

namespace CatalogFilter

/-! ## Parts -/

theorem Number.not_isNan {m : Number} (h : m.IsFinite) : ¬ m.IsNan := by
  rintro rfl
  cases h

/-- Coordinates around positions of finite numbers have no numbers that are not numbers. -/
theorem Wkt.nanFree {k : ℕ} {d : Datum} (h : Wkt.Nested Wkt.IsPosition k d) : d.NanFree := by
  induction k generalizing d with
  | zero =>
    cases d with
    | tuple items =>
      obtain ⟨ns, rfl, -, finite⟩ := h
      refine (Datum.allNumbers_iff _).2 fun d member => ?_
      obtain ⟨n, among, rfl⟩ := List.mem_map.1 member
      exact Number.not_isNan (finite n among)
    | _ => cases h
  | succ k ih =>
    cases d with
    | tuple items => exact (Datum.allNumbers_iff _).2 fun d member => ih (h d member)
    | _ => cases h

/-- Times with the same text are the same but for their zones. -/
theorem OffsetDateTime.named_of_text {t u : OffsetDateTime} (same : t.text = u.text) : t.named = u.named := by
  obtain ⟨clock, offset⟩ := text_inj same
  rw [named, named, clock, offset]

/-- So are ends of intervals with the same text: no time is written like an open end. -/
theorem map_named_of_writeBound {a b : Option OffsetDateTime} (same : Document.writeBound a = Document.writeBound b) :
    a.map OffsetDateTime.named = b.map OffsetDateTime.named := by
  have other (t : OffsetDateTime) : t.text ≠ Document.openBound := by
    intro dots
    have lengths := congrArg (fun s => s.toList.length) dots
    rw [OffsetDateTime.toList_text, List.length_append, Date.length_chars] at lengths
    have two : Document.openBound.toList.length = 2 := rfl
    omega
  cases a with
  | none =>
    cases b with
    | none => rfl
    | some u => exact absurd same.symm (other u)
  | some t =>
    cases b with
    | none => exact absurd same (other t)
    | some u => exact congrArg some (OffsetDateTime.named_of_text same)

/-- A shape has no times. -/
@[simp] theorem Shape.mapTimes_toNode (f : OffsetDateTime → OffsetDateTime) (s : Shape) :
    s.toNode.mapTimes f = s.toNode := by
  cases s <;> rfl

theorem Shape.toNode_inj {s t : Shape} (same : s.toNode = t.toNode) : s = t := by
  cases s <;> cases t <;> cases same <;> rfl

/-- The times of an instant are those of its node. -/
theorem Instant.mapTimes_toNode (f : OffsetDateTime → OffsetDateTime) (t : Instant) :
    t.toNode.mapTimes f = (t.mapTimes f).toNode := by
  cases t <;> rfl

theorem Instant.toNode_inj {s t : Instant} (same : s.toNode = t.toNode) : s = t := by
  cases s <;> cases t <;> cases same <;> rfl

namespace Node

/-- Whether two trees are the same but for the zones of their times. -/
def SameButZones (n m : Node) : Prop :=
  n.mapTimes .named = m.mapTimes .named

theorem mapAllTimes_of_forall₂ {xs ys : List Node} (h : List.Forall₂ SameButZones xs ys) :
    mapAllTimes .named xs = mapAllTimes .named ys := by
  induction h with
  | nil => rfl
  | cons first _ ih => exact congrArg₂ List.cons first ih

/-! ## Separators -/

/-- The texts that stand between operands. -/
def IsSeparator (s : String) : Prop :=
  s = ", " ∨ s = " AND " ∨ s = " OR "

/-- Whether a text may stand behind a row of operands: nothing, or a closing parenthesis. -/
def Closes (rest : List Char) : Prop :=
  rest = [] ∨ ∃ more, rest = ')' :: more

/-- What the beginning of a spelled tree tells. -/
theorem Spelled.read {n : Node} {cs rest : List Char} (h : n.Spelled cs) (ends : Ends rest) :
    Lead.read (cs ++ rest) = some n.lead := by
  obtain ⟨texts, each, rfl⟩ := h.exists_texts
  obtain ⟨legible, p, rendered, -⟩ := h
  exact read_compose legible.root rendered each ends

theorem rows_spelled {s : String} (h : IsSeparator s) : Text.Rows Spelled Ends Closes s.toList where
  between rest := by
    rcases h with rfl | rfl | rfl
    · exact .comma _
    · exact .and _
    · exact .or _
  behind rest h := by
    rcases h with rfl | ⟨more, rfl⟩
    · exact .nil
    · exact .closing more
  notSeparator rest more h' same := by
    rcases h' with rfl | ⟨others, rfl⟩ <;> rcases h with rfl | rfl | rfl <;> simp at same
  notItem n ds spelled rest more ends h' same := by
    have lead := spelled.read ends
    rw [← same] at lead
    rcases h' with rfl | ⟨others, rfl⟩
    · cases lead
    · rw [Lead.read_closing] at lead
      cases lead

/-! ## Trees that are told by their text -/

/-- Whether a tree, up to the zones of its times, and the end of its text are told by the text. -/
def Told (n : Node) : Prop :=
  Text.Tells Spelled SameButZones Ends n

/-- Two trees with texts that are the same up to what stands behind them. -/
structure Clash (n m : Node) (texts texts' : List (List Char)) (rest rest' : List Char) : Prop where
  legible : n.IsLegible
  legible' : m.IsLegible
  rendered : ∃ p, n.textPhrase = .ok p
  rendered' : ∃ p, m.textPhrase = .ok p
  each : List.Forall₂ Spelled n.children texts
  each' : List.Forall₂ Spelled m.children texts'
  ends : Ends rest
  ends' : Ends rest'
  same : n.compose texts ++ rest = m.compose texts' ++ rest'

variable {n m : Node} {texts texts' : List (List Char)} {rest rest' : List Char}

/-- A tree is told if trees whose text clashes with its own are the same but for zones. -/
theorem told_of_clash (resolve : ∀ {m : Node} {texts texts' : List (List Char)} {rest rest' : List Char},
    Clash n m texts texts' rest rest' → n.SameButZones m ∧ rest = rest') : n.Told := by
  rintro m cs ds rest rest' left right ends ends' same
  obtain ⟨texts, each, rfl⟩ := left.exists_texts
  obtain ⟨texts', each', rfl⟩ := right.exists_texts
  obtain ⟨legible, p, rendered, -⟩ := left
  obtain ⟨legible', p', rendered', -⟩ := right
  exact resolve ⟨legible.root, legible'.root, ⟨p, rendered⟩, ⟨p', rendered'⟩, each, each', ends, ends', same⟩

namespace Clash

/-- Trees with the same text have the same lead. -/
theorem lead (h : Clash n m texts texts' rest rest') : n.lead = m.lead := by
  obtain ⟨p, rendered⟩ := h.rendered
  obtain ⟨p', rendered'⟩ := h.rendered'
  have left := read_compose h.legible rendered h.each h.ends
  have right := read_compose h.legible' rendered' h.each' h.ends'
  rw [h.same, right] at left
  exact (Option.some.inj left).symm

/-- Where both trees begin with a property, their other operands stand behind its name. -/
theorem exists_behind {p q : Property} {xs ys : List Node} (h : Clash n m texts texts' rest rest')
    (first : n.children = .property p :: xs) (first' : m.children = .property q :: ys) :
    ∃ others others', texts = p.name.toList :: others ∧ texts' = q.name.toList :: others' ∧
      List.Forall₂ Spelled xs others ∧ List.Forall₂ Spelled ys others' := by
  have each := h.each
  have each' := h.each'
  rw [first] at each
  rw [first'] at each'
  obtain ⟨-, others, rfl, behind⟩ := exists_subject each
  obtain ⟨-, others', rfl, behind'⟩ := exists_subject each'
  exact ⟨others, others', rfl, rfl, behind, behind'⟩

end Clash

theorem Ends.apart (h : Ends rest) : Quotes.Apart rest := by
  cases h <;> first | exact Text.stops_nil _ | exact Text.stops_cons.2 rfl

theorem Ends.numeral (h : Ends rest) : Json.Numeral.Ends rest := by
  cases h <;> first | exact Text.stops_nil _ | exact Text.stops_cons.2 rfl

/-- A property is its name. -/
theorem eq_of_name {p q : Property} (h : p.name = q.name) : p = q :=
  congrArg Property.mk h

/-- A property is told by its name. -/
theorem told_property (p : Property) : (Node.property p).Told := by
  refine told_of_clash fun {m} _ _ _ _ clash => ?_
  cases m with
  | property q =>
    obtain rfl : p = q := eq_of_name (by simpa [lead] using clash.lead)
    exact ⟨rfl, List.append_cancel_left clash.same⟩
  | _ => cases clash.lead

/-- A literal is told by its text. -/
theorem told_literal (value : Scalar) : (Node.literal value).Told := by
  refine told_of_clash fun {m} _ _ _ _ clash => ?_
  cases m with
  | literal value' =>
    have kinds : value.kind = value'.kind := by simpa [lead] using clash.lead
    have same := clash.same
    rw [compose, compose] at same
    cases value with
    | bool b =>
      cases value' with
      | bool b' => cases b <;> cases b' <;> simp [scalarChars] at same <;> exact ⟨rfl, same⟩
      | _ => cases kinds
    | num a =>
      cases value' with
      | num b =>
        obtain ⟨rfl, rests⟩ :=
          Number.text_append_inj clash.legible clash.legible' clash.ends.numeral clash.ends'.numeral same
        exact ⟨rfl, rests⟩
      | _ => cases kinds
    | str s =>
      cases value' with
      | str t =>
        obtain ⟨rfl, rests⟩ := Quotes.quotedChars_append_inj clash.ends.apart clash.ends'.apart same
        exact ⟨rfl, rests⟩
      | _ => cases kinds
  | _ => cases clash.lead

/-! ### Times and shapes -/

theorem call_append (word : String) (inside rest : List Char) :
    call word inside ++ rest = word.toList ++ '(' :: (inside ++ ')' :: rest) := by
  simp [call]

/-- Calls of the same word go on with what stands in their parentheses. -/
theorem inside_of_call {word : String} {inside inside' : List Char}
    (same : call word inside ++ rest = call word inside' ++ rest') : inside ++ ')' :: rest = inside' ++ ')' :: rest' := by
  rw [call_append, call_append] at same
  exact (List.cons.inj (List.append_cancel_left same)).2

/-- A closing parenthesis does not go on with a value between quotes. -/
theorem apart_closing (more : List Char) : Quotes.Apart (')' :: more) :=
  Text.stops_cons.2 rfl

/-- A value between quotes and in parentheses is told by its text. -/
theorem quoted_of_call {word s t : String} (same : call word (quoted s) ++ rest = call word (quoted t) ++ rest') :
    s = t ∧ rest = rest' := by
  obtain ⟨values, rests⟩ :=
    Quotes.quotedChars_append_inj (apart_closing _) (apart_closing _) (inside_of_call same)
  exact ⟨values, (List.cons.inj rests).2⟩

/-- A timestamp is told by its text. -/
theorem told_timestamp (t : OffsetDateTime) : (Node.timestamp t).Told := by
  refine told_of_clash fun {m} _ _ _ _ clash => ?_
  cases m with
  | timestamp u =>
    obtain ⟨texts, rests⟩ := quoted_of_call clash.same
    exact ⟨congrArg Node.timestamp (OffsetDateTime.named_of_text texts), rests⟩
  | _ => cases clash.lead

/-- A date is told by its text. -/
theorem told_date (d : Date) : (Node.date d).Told := by
  refine told_of_clash fun {m} _ _ _ _ clash => ?_
  cases m with
  | date e =>
    obtain ⟨texts, rests⟩ := quoted_of_call clash.same
    obtain rfl := Date.text_inj texts
    exact ⟨rfl, rests⟩
  | _ => cases clash.lead

/-- An interval is told by its ends. -/
theorem told_interval (start stop : Option OffsetDateTime) : (Node.interval start stop).Told := by
  refine told_of_clash fun {m} _ _ _ _ clash => ?_
  cases m with
  | interval start' stop' =>
    have inside := inside_of_call clash.same
    simp only [row, List.intercalate_cons_cons, List.intercalate_singleton, List.append_assoc] at inside
    have comma (more : List Char) : Quotes.Apart (",".toList ++ more) := Text.stops_cons.2 rfl
    obtain ⟨starts, inside⟩ := Quotes.quotedChars_append_inj (comma _) (comma _) inside
    obtain ⟨stops, rests⟩ :=
      Quotes.quotedChars_append_inj (apart_closing _) (apart_closing _) (List.append_cancel_left inside)
    have ends := congrArg₂ Node.interval (map_named_of_writeBound starts) (map_named_of_writeBound stops)
    exact ⟨ends, (List.cons.inj rests).2⟩
  | _ => cases clash.lead

/-- A geometry is told by its type and coordinates. -/
theorem told_geometry (g : Geometry) : (Node.geometry g).Told := by
  refine told_of_clash fun {m} _ _ _ _ clash => ?_
  cases m with
  | geometry h =>
    obtain ⟨noBox, positions⟩ := clash.legible
    obtain ⟨noBox', positions'⟩ := clash.legible'
    obtain ⟨p, rendered⟩ := clash.rendered
    obtain ⟨p', rendered'⟩ := clash.rendered'
    obtain ⟨text, written, -⟩ := Outcome.map_eq_ok.1 rendered
    obtain ⟨text', written', -⟩ := Outcome.map_eq_ok.1 rendered'
    have same := clash.same
    rw [compose, compose, geometryChars_eq written, geometryChars_eq written'] at same
    obtain ⟨type, coordinates, rests⟩ := Geometry.toWkt_append_inj positions positions' written written' same
    obtain ⟨type, coordinates, box⟩ := g
    obtain ⟨type', coordinates', box'⟩ := h
    dsimp only at *
    subst type coordinates noBox noBox'
    exact ⟨rfl, rests⟩
  | _ => cases clash.lead

/-- Numbers in parentheses with commas between them. -/
theorem rows_box : Text.Rows Wkt.NumberWritten Json.Numeral.Ends Wkt.Closes ",".toList where
  between rest := Text.stops_cons.2 rfl
  behind rest h := h.ends.numeral
  notSeparator rest more h same := by
    obtain ⟨others, rfl⟩ := h
    cases same
  notItem n ds written rest more _ h same := by
    obtain ⟨c, others, rfl, first⟩ := written.begins
    obtain ⟨others', rfl⟩ := h
    cases same
    revert first
    decide

/-- A box is told by its numbers. -/
theorem told_bbox (extent : List Number) : (Node.bbox extent).Told := by
  refine told_of_clash fun {m} _ _ _ _ clash => ?_
  cases m with
  | bbox extent' =>
    obtain ⟨equal, rests⟩ := Text.Tells.row rows_box (fun n _ => Wkt.tells_number n)
      (Wkt.forall₂_numberWritten clash.legible) (Wkt.forall₂_numberWritten clash.legible') ⟨_, rfl⟩ ⟨_, rfl⟩
      (inside_of_call clash.same)
    rw [List.forall₂_eq_eq_eq] at equal
    subst equal
    exact ⟨rfl, (List.cons.inj rests).2⟩
  | _ => cases clash.lead

/-! ### Rows of operands -/

/-- The text of a single operand. -/
theorem exists_text (each : List.Forall₂ Spelled [n] texts) : ∃ cs, n.Spelled cs ∧ texts = [cs] := by
  obtain ⟨cs, _, spelled, none, rfl⟩ := List.forall₂_cons_left_iff.1 each
  cases none
  exact ⟨cs, spelled, rfl⟩

/-- Operands in a row are told if each of them is. -/
theorem mapAllTimes_of_row {s : String} (h : IsSeparator s) {xs ys : List Node} (each : ∀ c ∈ xs, c.Told)
    (left : List.Forall₂ Spelled xs texts) (right : List.Forall₂ Spelled ys texts') (closes : Closes rest)
    (closes' : Closes rest') (same : row s texts ++ rest = row s texts' ++ rest') :
    mapAllTimes .named xs = mapAllTimes .named ys ∧ rest = rest' := by
  obtain ⟨operands, rests⟩ := Text.Tells.row (rows_spelled h) each left right closes closes' same
  exact ⟨mapAllTimes_of_forall₂ operands, rests⟩

/-- Separators that differ are told apart by what they begin with. -/
theorem IsSeparator.apart {s t : String} (hs : IsSeparator s) (ht : IsSeparator t) (other : s ≠ t)
    (more more' : List Char) : s.toList ++ more ≠ t.toList ++ more' := by
  rcases hs with rfl | rfl | rfl <;> rcases ht with rfl | rfl | rfl <;> first | exact absurd rfl other | simp

/-- Rows with separators that differ are told apart if one of them has two operands. -/
theorem row_ne {s t : String} (hs : IsSeparator s) (ht : IsSeparator t) (other : s ≠ t) {xs ys : List Node}
    (each : ∀ c ∈ xs, c.Told) (left : List.Forall₂ Spelled xs texts) (right : List.Forall₂ Spelled ys texts')
    (closes : Closes rest) (closes' : Closes rest') (long : 2 ≤ xs.length ∨ 2 ≤ ys.length) :
    row s texts ++ rest ≠ row t texts' ++ rest' :=
  Text.Tells.row_ne (rows_spelled hs) (rows_spelled ht) each left right closes closes' long (hs.apart ht other)

/-- Operands of calls of the same word are told if each of them is. -/
theorem mapAllTimes_of_call {word : String} {xs ys : List Node} (each : ∀ c ∈ xs, c.Told)
    (left : List.Forall₂ Spelled xs texts) (right : List.Forall₂ Spelled ys texts')
    (same : call word (row ", " texts) ++ rest = call word (row ", " texts') ++ rest') :
    mapAllTimes .named xs = mapAllTimes .named ys ∧ rest = rest' := by
  obtain ⟨operands, rests⟩ :=
    mapAllTimes_of_row (.inl rfl) each left right (.inr ⟨_, rfl⟩) (.inr ⟨_, rfl⟩) (inside_of_call same)
  exact ⟨operands, (List.cons.inj rests).2⟩

/-! ### Parentheses without a word -/

/-- Whether a node is its operands in parentheses, with a separator between them. -/
inductive Bracket : Node → String → List Node → Prop where
  | array (elements : List Node) : Bracket (.array elements) ", " elements
  | and (children : List Node) : Bracket (.and children) " AND " children
  | or (children : List Node) : Bracket (.or children) " OR " children

namespace Bracket

variable {s t : String} {xs ys : List Node}

theorem exists_of_lead (h : n.lead = .bracket) : ∃ s xs, Bracket n s xs := by
  cases n with
  | array elements => exact ⟨_, _, .array elements⟩
  | and children => exact ⟨_, _, .and children⟩
  | or children => exact ⟨_, _, .or children⟩
  | _ => cases h

theorem isSeparator (h : Bracket n s xs) : IsSeparator s := by
  cases h with
  | array => exact .inl rfl
  | and => exact .inr (.inl rfl)
  | or => exact .inr (.inr rfl)

theorem children_eq (h : Bracket n s xs) : n.children = xs := by
  cases h <;> rfl

theorem compose_eq (h : Bracket n s xs) (texts : List (List Char)) : n.compose texts = call "" (row s texts) := by
  cases h <;> rfl

/-- Connectives have two operands. -/
theorem long (h : Bracket n s xs) (legible : n.IsLegible) (connective : s ≠ ", ") : 2 ≤ xs.length := by
  cases h with
  | array => exact absurd rfl connective
  | and => exact legible
  | or => exact legible

/-- The separator tells what the parentheses stand for. -/
theorem sameButZones (h : Bracket n s xs) (h' : Bracket m t ys) (same : s = t)
    (operands : mapAllTimes .named xs = mapAllTimes .named ys) : n.SameButZones m := by
  cases h with
  | array =>
    cases h' with
    | array => exact congrArg Node.array operands
    | _ => exact absurd same (by decide)
  | and =>
    cases h' with
    | and => exact congrArg Node.and operands
    | _ => exact absurd same (by decide)
  | or =>
    cases h' with
    | or => exact congrArg Node.or operands
    | _ => exact absurd same (by decide)

end Bracket

/-- Operands in parentheses tell their separator, if they have one, and themselves. -/
theorem told_bracket {s : String} {xs : List Node} (h : Bracket n s xs) (each : ∀ c ∈ xs, c.Told) : n.Told := by
  refine told_of_clash fun {m} _ _ _ _ clash => ?_
  have bracket : n.lead = .bracket := by cases h <;> rfl
  obtain ⟨t, ys, h'⟩ := Bracket.exists_of_lead (clash.lead.symm.trans bracket)
  have same := clash.same
  have left := clash.each
  have right := clash.each'
  rw [h.compose_eq, h'.compose_eq, call_append, call_append] at same
  rw [h.children_eq] at left
  rw [h'.children_eq] at right
  have inside := (List.cons.inj (List.append_cancel_left same)).2
  by_cases other : s = t
  · subst other
    obtain ⟨operands, rests⟩ :=
      mapAllTimes_of_row h.isSeparator each left right (.inr ⟨_, rfl⟩) (.inr ⟨_, rfl⟩) inside
    exact ⟨h.sameButZones h' rfl operands, (List.cons.inj rests).2⟩
  · -- Only an array may have fewer than two elements, and both cannot be arrays.
    have long : 2 ≤ xs.length ∨ 2 ≤ ys.length := by
      by_cases comma : s = ", "
      · exact .inr (h'.long clash.legible' fun same => other (comma.trans same.symm))
      · exact .inl (h.long clash.legible comma)
    exact absurd inside
      (row_ne h.isSeparator h'.isSeparator other each left right (.inr ⟨_, rfl⟩) (.inr ⟨_, rfl⟩) long)

/-- A negation is told by its operand. -/
theorem told_not (child : Node) (operand : child.Told) : (Node.not child).Told := by
  refine told_of_clash fun {m} _ _ _ _ clash => ?_
  cases m with
  | not other =>
    obtain ⟨_, left, rfl⟩ := exists_text clash.each
    obtain ⟨_, right, rfl⟩ := exists_text clash.each'
    have same := clash.same
    simp only [compose, linked, List.flatten_singleton, List.nil_append, List.append_assoc] at same
    obtain ⟨operands, rests⟩ := operand left right clash.ends clash.ends' (List.append_cancel_left same)
    exact ⟨congrArg Node.not operands, rests⟩
  | _ => cases clash.lead

/-! ### Predicates -/

/-- A comparison is told by its operand. -/
theorem told_comparison (op : ComparisonOp) (left : Property) (right : Node) (operand : right.Told) :
    (Node.comparison op left right).Told := by
  refine told_of_clash fun {m} _ _ _ _ clash => ?_
  cases m with
  | comparison op' left' right' =>
    have heads : op = op' ∧ left.name = left'.name := by simpa [lead] using clash.lead
    obtain rfl := heads.1
    obtain rfl := eq_of_name heads.2
    obtain ⟨_, _, rfl, rfl, behind, behind'⟩ := clash.exists_behind rfl rfl
    obtain ⟨_, spelled, rfl⟩ := exists_text behind
    obtain ⟨_, spelled', rfl⟩ := exists_text behind'
    have same := clash.same
    simp only [compose, row, List.intercalate_cons_cons, List.intercalate_singleton, List.append_assoc,
      List.append_cancel_left_eq] at same
    obtain ⟨operands, rests⟩ := operand spelled spelled' clash.ends clash.ends' same
    exact ⟨congrArg (Node.comparison op left) operands, rests⟩
  | _ => cases clash.lead

/-- A range is told by its bounds. -/
theorem told_between (subject : Property) (lower upper : Node) (low : lower.Told) (high : upper.Told) :
    (Node.between subject lower upper).Told := by
  refine told_of_clash fun {m} _ _ _ _ clash => ?_
  cases m with
  | between subject' lower' upper' =>
    obtain rfl : subject = subject' := eq_of_name (by simpa [lead] using clash.lead)
    obtain ⟨_, _, rfl, rfl, behind, behind'⟩ := clash.exists_behind rfl rfl
    obtain ⟨_, _, spelledLow, last, rfl⟩ := List.forall₂_cons_left_iff.1 behind
    obtain ⟨_, _, spelledLow', last', rfl⟩ := List.forall₂_cons_left_iff.1 behind'
    obtain ⟨_, spelledHigh, rfl⟩ := exists_text last
    obtain ⟨_, spelledHigh', rfl⟩ := exists_text last'
    have same := clash.same
    simp only [compose, linked, row, List.headD_cons, List.tail_cons, List.intercalate_cons_cons,
      List.intercalate_singleton, List.append_assoc, List.append_cancel_left_eq] at same
    -- The lower bound ends where the keyword begins; no operand goes on with it.
    obtain ⟨lowers, same⟩ := low spelledLow spelledLow' (.and _) (.and _) same
    obtain ⟨uppers, rests⟩ := high spelledHigh spelledHigh' clash.ends clash.ends' (by simpa using same)
    exact ⟨congrArg₂ (Node.between subject) lowers uppers, rests⟩
  | _ => cases clash.lead

/-- A pattern is told by its text. -/
theorem told_like (subject : Property) (pattern : String) : (Node.like subject pattern).Told := by
  refine told_of_clash fun {m} _ _ _ _ clash => ?_
  cases m with
  | like subject' pattern' =>
    obtain rfl : subject = subject' := eq_of_name (by simpa [lead] using clash.lead)
    obtain ⟨_, _, rfl, rfl, behind, behind'⟩ := clash.exists_behind rfl rfl
    cases behind
    cases behind'
    have same := clash.same
    simp only [compose, linked, List.append_assoc, List.append_cancel_left_eq] at same
    obtain ⟨rfl, rests⟩ := Quotes.quotedChars_append_inj clash.ends.apart clash.ends'.apart same
    exact ⟨rfl, rests⟩
  | _ => cases clash.lead

/-- A list of values is told by the values. -/
theorem told_isIn (subject : Property) (values : List Node) (each : ∀ c ∈ values, c.Told) :
    (Node.isIn subject values).Told := by
  refine told_of_clash fun {m} _ _ _ _ clash => ?_
  cases m with
  | isIn subject' values' =>
    obtain rfl : subject = subject' := eq_of_name (by simpa [lead] using clash.lead)
    obtain ⟨_, _, rfl, rfl, behind, behind'⟩ := clash.exists_behind rfl rfl
    have same := clash.same
    simp only [compose, linked, List.headD_cons, List.tail_cons, List.append_assoc, List.append_cancel_left_eq] at same
    obtain ⟨operands, rests⟩ := mapAllTimes_of_call each behind behind' same
    exact ⟨congrArg (Node.isIn subject) operands, rests⟩
  | _ => cases clash.lead

/-- A test for a missing value is told by its subject. -/
theorem told_isNull (subject : Property) : (Node.isNull subject).Told := by
  refine told_of_clash fun {m} _ _ _ _ clash => ?_
  cases m with
  | isNull subject' =>
    obtain rfl : subject = subject' := eq_of_name (by simpa [lead] using clash.lead)
    obtain ⟨_, _, rfl, rfl, behind, behind'⟩ := clash.exists_behind rfl rfl
    cases behind
    cases behind'
    exact ⟨rfl, List.append_cancel_left clash.same⟩
  | _ => cases clash.lead

/-! ### Relations and functions -/

/-- A spatial relation is told by its subject and its shape. -/
theorem told_spatial (op : SpatialOp) (left : Property) (right : Shape)
    (each : ∀ c ∈ (Node.spatial op left right).children, c.Told) : (Node.spatial op left right).Told := by
  refine told_of_clash fun {m} _ _ _ _ clash => ?_
  cases m with
  | spatial op' left' right' =>
    obtain rfl : op = op' := by simpa [lead] using clash.lead
    obtain ⟨operands, rests⟩ := mapAllTimes_of_call each clash.each clash.each' clash.same
    simp only [children, mapAllTimes, mapTimes, Shape.mapTimes_toNode, List.cons.injEq, Node.property.injEq,
      and_true] at operands
    obtain ⟨rfl, shapes⟩ := operands
    obtain rfl := Shape.toNode_inj shapes
    exact ⟨rfl, rests⟩
  | _ => cases clash.lead

/-- A temporal relation is told by its subject and its time. -/
theorem told_temporal (op : TemporalOp) (left : Property) (right : Instant)
    (each : ∀ c ∈ (Node.temporal op left right).children, c.Told) : (Node.temporal op left right).Told := by
  refine told_of_clash fun {m} _ _ _ _ clash => ?_
  cases m with
  | temporal op' left' right' =>
    obtain rfl : op = op' := by simpa [lead] using clash.lead
    obtain ⟨operands, rests⟩ := mapAllTimes_of_call each clash.each clash.each' clash.same
    simp only [children, mapAllTimes, mapTimes, Instant.mapTimes_toNode, List.cons.injEq, Node.property.injEq,
      and_true] at operands
    obtain ⟨rfl, instants⟩ := operands
    exact ⟨congrArg (Node.temporal op left) (Instant.toNode_inj instants), rests⟩
  | _ => cases clash.lead

/-- An array relation is told by its sides. -/
theorem told_arrayComparison (op : ArrayOp) (left right : Node)
    (each : ∀ c ∈ (Node.arrayComparison op left right).children, c.Told) :
    (Node.arrayComparison op left right).Told := by
  refine told_of_clash fun {m} _ _ _ _ clash => ?_
  cases m with
  | arrayComparison op' left' right' =>
    obtain rfl : op = op' := by simpa [lead] using clash.lead
    obtain ⟨operands, rests⟩ := mapAllTimes_of_call each clash.each clash.each' clash.same
    simp only [children, mapAllTimes, List.cons.injEq, and_true] at operands
    exact ⟨congrArg₂ (Node.arrayComparison op) operands.1 operands.2, rests⟩
  | _ => cases clash.lead

/-- A function is told by its arguments. -/
theorem told_function (name : String) (args : List Node) (each : ∀ c ∈ args, c.Told) :
    (Node.function name args).Told := by
  refine told_of_clash fun {m} _ _ _ _ clash => ?_
  cases m with
  | function name' args' =>
    obtain rfl : name = name' := by simpa [lead] using clash.lead
    obtain ⟨operands, rests⟩ := mapAllTimes_of_call each clash.each clash.each' clash.same
    exact ⟨congrArg (Node.function name) operands, rests⟩
  | _ => cases clash.lead

/-! ## The whole text form -/

/-- Every tree is told by its text. -/
theorem told (n : Node) : n.Told := by
  induction n using byChildren with
  | _ n ih =>
    cases n with
    | property p => exact told_property p
    | literal value => exact told_literal value
    | timestamp t => exact told_timestamp t
    | date d => exact told_date d
    | interval start stop => exact told_interval start stop
    | geometry g => exact told_geometry g
    | bbox extent => exact told_bbox extent
    | array elements => exact told_bracket (.array elements) ih
    | and children => exact told_bracket (.and children) ih
    | or children => exact told_bracket (.or children) ih
    | not child => exact told_not child (ih child (by simp [children]))
    | comparison op left right => exact told_comparison op left right (ih right (by simp [children]))
    | between subject lower upper =>
      exact told_between subject lower upper (ih lower (by simp [children])) (ih upper (by simp [children]))
    | like subject pattern => exact told_like subject pattern
    | isIn subject values => exact told_isIn subject values fun c member => ih c (by simp [children, member])
    | isNull subject => exact told_isNull subject
    | spatial op left right => exact told_spatial op left right ih
    | temporal op left right => exact told_temporal op left right ih
    | arrayComparison op left right => exact told_arrayComparison op left right ih
    | function name args => exact told_function name args ih

/-- A conjunction or disjunction by itself is not written like a tree that is neither. -/
theorem chars_ne_of_isGroup {p q : Phrase} (legible : n.Each IsLegible) (legible' : m.Each IsLegible)
    (written : n.textPhrase = .ok p) (written' : m.textPhrase = .ok q) (group : n.isGroup = true)
    (single : m.isGroup = false) : p.chars ['\'', '\''] ≠ q.chars ['\'', '\''] := by
  have spelled : n.Spelled _ := ⟨legible, p, written, rfl⟩
  have spelled' := Spelled.of_not_isGroup legible' single written'
  obtain ⟨texts, each, composed⟩ := spelled.exists_texts
  obtain ⟨s, xs, bracket, connective⟩ : ∃ s xs, Bracket n s xs ∧ s ≠ ", " := by
    cases n with
    | and children => exact ⟨_, _, .and children, by decide⟩
    | or children => exact ⟨_, _, .or children, by decide⟩
    | _ => cases group
  have inside : row s texts = p.chars ['\'', '\''] := by
    rw [grouped_group group, Phrase.chars_within, bracket.compose_eq, call] at composed
    exact List.append_cancel_right (List.cons.inj composed).2
  rw [bracket.children_eq] at each
  -- A tree that is neither is a row of one, and no connective goes on behind it.
  have apart := row_ne bracket.isSeparator (.inl rfl) connective (fun c _ => told c) each (.cons spelled' .nil)
    (.inl rfl) (.inl rfl) (.inl (bracket.long legible.root connective))
  rw [inside] at apart
  simpa [row] using apart

/-- Trees with the same text are the same but for the zones of their times. -/
theorem sameButZones_of_toText {a b : Node} {text : String} (ha : a.Each IsLegible) (hb : b.Each IsLegible)
    (rendered : a.toText = .ok text) (rendered' : b.toText = .ok text) : a.SameButZones b := by
  obtain ⟨p, written, whole⟩ := Outcome.map_eq_ok.1 rendered
  obtain ⟨q, written', rfl⟩ := Outcome.map_eq_ok.1 rendered'
  have chars : p.chars ['\'', '\''] = q.chars ['\'', '\''] := String.ofList_injective whole
  cases group : a.isGroup <;> cases group' : b.isGroup
  · have same := told a ⟨ha, p, written, rfl⟩ ⟨hb, q, written', rfl⟩ .nil .nil
    rw [grouped_single group, grouped_single group', chars] at same
    exact (same rfl).1
  · exact absurd chars.symm (chars_ne_of_isGroup hb ha written' written group' group)
  · exact absurd chars (chars_ne_of_isGroup ha hb written written' group group')
  · have same := told a ⟨ha, p, written, rfl⟩ ⟨hb, q, written', rfl⟩ .nil .nil
    rw [grouped_group group, grouped_group group', Phrase.chars_within, Phrase.chars_within, chars] at same
    exact (same rfl).1

/-! ## Equality -/

/-- Legible trees have no numbers that are not numbers. -/
theorem meets_of_isLegible (n : Node) (h : n.Each IsLegible) : n.Meets (.numbers fun m => ¬ m.IsNan) := by
  induction n using byChildren with
  | step n ih =>
    have operand : ∀ c ∈ n.children, c.Meets (.numbers fun m => ¬ m.IsNan) := fun c child => ih c child (h.child child)
    have shape {s : Shape} (child : s.toNode ∈ n.children) : s.Meets (.numbers fun m => ¬ m.IsNan) := by
      have meets := operand s.toNode child
      cases s <;> exact meets
    cases n with
    | literal value =>
      cases value with
      | num m => exact Number.not_isNan h.root
      | _ => trivial
    | interval start stop => exact ⟨fun _ _ => trivial, fun _ _ => trivial⟩
    | geometry g =>
      obtain ⟨noBox, word, k, -, nested⟩ := h.root
      exact ⟨Wkt.nanFree nested, fun extent box => by rw [noBox] at box; cases box⟩
    | bbox extent => exact fun m member => Number.not_isNan (h.root m member)
    | array elements => exact (allMeet_iff _ _).2 operand
    | and children => exact (allMeet_iff _ _).2 operand
    | or children => exact (allMeet_iff _ _).2 operand
    | not child => exact operand child (by simp [children])
    | comparison op left right => exact operand right (by simp [children])
    | between subject lower upper =>
      exact ⟨operand lower (by simp [children]), operand upper (by simp [children])⟩
    | isIn subject values =>
      exact (allMeet_iff _ _).2 fun c member => operand c (List.mem_cons_of_mem _ member)
    | spatial op left right => exact shape (by simp [children])
    | temporal op left right =>
      cases right with
      | interval start stop => exact ⟨fun _ _ => trivial, fun _ _ => trivial⟩
      | _ => trivial
    | arrayComparison op left right => exact ⟨operand left (by simp [children]), operand right (by simp [children])⟩
    | function name args => exact ⟨trivial, (allMeet_iff _ _).2 operand⟩
    | _ => trivial

/-- The text form is unambiguous, but for zones. Trees with the same text are the same tree up to the zones of their times,
if the operands of their predicates are no expressions other than functions, conjunctions and disjunctions have at least
two operands, names are names, numbers finite, and geometries of the six types without a box of their own and with
positions nested to their depth. Texts and patterns may be anything. The trees are equal exactly if each time of one and
the time that stands in its place in the other are of the same region, or neither is ambiguous. -/
theorem equal_iff_of_toText {a b : Node} {text : String} (ha : a.Each IsLegible) (hb : b.Each IsLegible)
    (rendered : a.toText = .ok text) (rendered' : b.toText = .ok text) :
    a.mapTimes .named = b.mapTimes .named ∧ (a.equal b = true ↔ List.Forall₂ OffsetDateTime.ZonesAgree a.times b.times) := by
  have same : a.SameButZones b := sameButZones_of_toText ha hb rendered rendered'
  have times := congrArg times same
  rw [times_mapTimes, times_mapTimes] at times
  rw [equal_eq_times a b same (meets_of_isLegible b hb)]
  exact ⟨same, equalLists_iff_of_named times⟩

/-- A filter with a text that imitates a connective, and a time of a zone. -/
def imitation (zone : Zone) : Node :=
  .or
    [.and
        [.comparison .eq ⟨"a"⟩ (.literal (.str "x' AND (b = 'y")),
          .between ⟨"b"⟩ (.literal (.num (.int 1))) (.function "casei" [.property ⟨"c"⟩])],
      .temporal .after ⟨"t"⟩ (.timestamp (.autumnNight zone))]

theorem isLegible_imitation (zone : Zone) : (imitation zone).Each IsLegible := by
  have names : IsName "a" ∧ IsName "b" ∧ IsName "c" ∧ IsName "t" ∧ IsName "casei" := by decide
  simp [imitation, Each, preorder, preorders, Instant.toNode, IsLegible, children, isOperand, Number.IsFinite, names]

/-- The zone is not written. -/
theorem toText_imitation (zone : Zone) : (imitation zone).toText = (imitation (.fixed none)).toText := rfl

/-- A region without changes of its offset has the same text as the offset, and the filters are equal. -/
theorem equal_iff_of_toText_island :
    (imitation .puertoRico).Each IsLegible ∧ (imitation (.fixed none)).Each IsLegible ∧
      ∃ text, (imitation .puertoRico).toText = .ok text ∧ (imitation (.fixed none)).toText = .ok text ∧
        (imitation .puertoRico).equal (imitation (.fixed none)) = true := by
  have island := isLegible_imitation .puertoRico
  have fixed := isLegible_imitation (.fixed none)
  obtain ⟨text, rendered⟩ : ∃ text, (imitation (.fixed none)).toText = .ok text := ⟨_, rfl⟩
  have rendered' := (toText_imitation .puertoRico).trans rendered
  obtain ⟨-, equal_iff⟩ := equal_iff_of_toText island fixed rendered' rendered
  exact ⟨island, fixed, text, rendered', rendered, equal_iff.2 (.cons (.inr ⟨rfl, rfl⟩) .nil)⟩

/-- In the hour that a region's clocks go through twice, its time is written like that with the same fixed offset, and the
filters are not equal. -/
theorem equal_iff_of_toText_autumn :
    (imitation .newYork).Each IsLegible ∧ (imitation (.fixed none)).Each IsLegible ∧
      ∃ text, (imitation .newYork).toText = .ok text ∧ (imitation (.fixed none)).toText = .ok text ∧
        (imitation .newYork).equal (imitation (.fixed none)) = false := by
  obtain ⟨text, rendered⟩ : ∃ text, (imitation (.fixed none)).toText = .ok text := ⟨_, rfl⟩
  exact ⟨isLegible_imitation _, isLegible_imitation _, text, (toText_imitation .newYork).trans rendered, rendered,
    by decide +kernel⟩

end Node

end CatalogFilter
