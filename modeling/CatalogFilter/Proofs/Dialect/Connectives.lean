import CatalogFilter.Proofs.Dialect.Grammar
import CatalogFilter.Proofs.Dialect.Phrases
import CatalogFilter.Proofs.Node.Connectives
import CatalogFilter.Proofs.Outcome

/-!
# Connectives in the text dialects

* `TextDialect` — the three dialects that write a filter as text, and how each spells the tokens of Boolean expressions.
* `Node.predicates` — the predicates that a tree of connectives stands over, from left to right.
* `TextDialect.render_reads` — the text of a tree is the spelling of tokens with just its predicates, and every reading
  of these tokens is as true as the tree.

Two dialects put every conjunction and disjunction in parentheses, the third only those below another connective. What is
common to them is how a row of operands and a negation are made; the induction over the tree is about that alone.
-/

namespace CatalogFilter

/-! ## Dialects -/

/-- The dialects that write filters as text. -/
inductive TextDialect where
  | odata
  | sql
  | text
  deriving DecidableEq

namespace TextDialect

/-- The text of a tree in a dialect. -/
def render : TextDialect → Node → Except Error String
  | .odata => Node.toOData
  | .sql => Node.toSql
  | .text => Node.toText

/-- The phrase of a tree in a dialect. -/
def phrase : TextDialect → Node → Except Error Phrase
  | .odata => Node.odataPhrase
  | .sql => Node.sqlPhrase
  | .text => Node.textPhrase

/-- How a dialect writes quotes inside values. -/
def quote : TextDialect → List Char
  | .odata => []
  | .sql => ['\'']
  | .text => ['\'', '\'']

variable (d : TextDialect)

/-- How a dialect spells a token: keywords with the spaces around them, and a predicate as it renders it. -/
def spelling : Token → String
  | .left => "("
  | .right => ")"
  | .and => if d = .odata then " and " else " AND "
  | .or => if d = .odata then " or " else " OR "
  | .not => if d = .odata then "not " else "NOT "
  | .predicate n =>
    match d.render n with
    | .ok s => s
    | .error _ => ""

/-- The text of some tokens in a dialect. -/
def spell (ts : List Token) : String :=
  String.ofList (ts.flatMap fun t => (d.spelling t).toList)

theorem render_eq_ok {n : Node} {text : String} :
    d.render n = .ok text ↔ ∃ p, d.phrase n = .ok p ∧ p.text d.quote = text := by
  have unfolded : d.render n = (d.phrase n).map (Phrase.text d.quote) := by cases d <;> rfl
  rw [unfolded, Outcome.map_eq_ok]

/-! ## How connectives are written -/

/-- An operand of a connective: in the text form a conjunction or disjunction stands in parentheses. -/
def enclosed (n : Node) (p : Phrase) : Phrase :=
  if d = .text then n.grouped p else p

/-- A row of operands: in the other dialects it stands in parentheses itself. -/
def row (p : Phrase) : Phrase :=
  if d = .text then p else p.within "(" ")"

/-- A negated operand. -/
def negated (n : Node) (p : Phrase) : Phrase :=
  match d with
  | .odata => p.within "not (" ")"
  | .sql => p.within "NOT (" ")"
  | .text => .bare "NOT " :: n.grouped p

/-- The phrases of the operands of a connective. -/
def operands (ns : List Node) : Except Error (List Phrase) :=
  ns.mapM fun n => (d.phrase n).map (d.enclosed n)

theorem operands_odata (ns : List Node) : operands .odata ns = Node.odataPhrases ns := by
  have same : (fun n => (phrase .odata n).map (enclosed .odata n)) = Node.odataPhrase := by
    funext n
    rw [phrase]
    cases n.odataPhrase <;> rfl
  rw [operands, same, Node.odataPhrases_eq_mapM]

theorem operands_sql (ns : List Node) : operands .sql ns = Node.sqlPhrases ns := by
  have same : (fun n => (phrase .sql n).map (enclosed .sql n)) = Node.sqlPhrase := by
    funext n
    rw [phrase]
    cases n.sqlPhrase <;> rfl
  rw [operands, same, Node.sqlPhrases_eq_mapM]

theorem operands_text (ns : List Node) : operands .text ns = Node.groupedPhrases ns :=
  (Node.groupedPhrases_eq_mapM ns).symm

/-- A conjunction is a row of its operands. -/
theorem phrase_and (ns : List Node) :
    d.phrase (.and ns) = (d.operands ns).map fun ps => d.row (Phrase.join (d.spelling .and) ps) := by
  cases d with
  | odata => rw [operands_odata, phrase, Node.odataPhrase]; cases Node.odataPhrases ns <;> rfl
  | sql => rw [operands_sql, phrase, Node.sqlPhrase]; cases Node.sqlPhrases ns <;> rfl
  | text => rw [operands_text, phrase, Node.textPhrase]; cases Node.groupedPhrases ns <;> rfl

/-- A disjunction is a row of its operands. -/
theorem phrase_or (ns : List Node) :
    d.phrase (.or ns) = (d.operands ns).map fun ps => d.row (Phrase.join (d.spelling .or) ps) := by
  cases d with
  | odata => rw [operands_odata, phrase, Node.odataPhrase]; cases Node.odataPhrases ns <;> rfl
  | sql => rw [operands_sql, phrase, Node.sqlPhrase]; cases Node.sqlPhrases ns <;> rfl
  | text => rw [operands_text, phrase, Node.textPhrase]; cases Node.groupedPhrases ns <;> rfl

/-- A negation is its operand negated. -/
theorem phrase_not (n : Node) : d.phrase (.not n) = (d.phrase n).map (d.negated n) := by
  cases d with
  | odata => rw [phrase, Node.odataPhrase]; cases n.odataPhrase <;> rfl
  | sql => rw [phrase, Node.sqlPhrase]; cases n.sqlPhrase <;> rfl
  | text => rw [phrase, Node.textPhrase]; cases n.textPhrase <;> rfl

end TextDialect

/-! ## Predicates of a tree -/

namespace Token

/-- The predicate that a token is. -/
def predicate? : Token → Option Node
  | .predicate n => some n
  | _ => none

/-- The predicates of some tokens. -/
def predicates (ts : List Token) : List Node :=
  ts.filterMap predicate?

end Token

namespace Node

mutual

/-- The predicates that a tree of connectives stands over, from left to right. -/
def predicates : Node → List Node
  | .and children => allPredicates children
  | .or children => allPredicates children
  | .not child => predicates child
  | n => [n]

/-- `predicates` of each tree. -/
def allPredicates : List Node → List Node
  | [] => []
  | n :: rest => predicates n ++ allPredicates rest

end

mutual

/-- Whether every conjunction and disjunction of a tree of connectives has an operand. -/
def Populated : Node → Prop
  | .and children => children ≠ [] ∧ AllPopulated children
  | .or children => children ≠ [] ∧ AllPopulated children
  | .not child => Populated child
  | _ => True

/-- `Populated` of each tree. -/
def AllPopulated : List Node → Prop
  | [] => True
  | n :: rest => Populated n ∧ AllPopulated rest

end

theorem allPredicates_eq_flatMap (ns : List Node) : allPredicates ns = ns.flatMap predicates := by
  induction ns with
  | nil => rfl
  | cons n rest ih => rw [allPredicates, ih, List.flatMap_cons]

end Node

/-! ## Spelled tokens -/

namespace TextDialect

open Grammar

variable {d : TextDialect}

/-- The characters of some tokens in a dialect. -/
def chars (d : TextDialect) (ts : List Token) : List Char :=
  ts.flatMap fun t => (d.spelling t).toList

theorem chars_append (ts us : List Token) : d.chars (ts ++ us) = d.chars ts ++ d.chars us :=
  List.flatMap_append

/-- Whether characters are the spelling of tokens with just the predicates of a tree, which have a reading of a level that
is as true as the tree. -/
def Shows (d : TextDialect) (level : Level) (n : Node) (cs : List Char) : Prop :=
  ∃ ts, cs = d.chars ts ∧ Token.predicates ts = n.predicates ∧ Means level ts fun v => n.truth v

theorem predicates_append (ts us : List Token) :
    Token.predicates (ts ++ us) = Token.predicates ts ++ Token.predicates us :=
  List.filterMap_append

variable {level : Level} {n : Node} {cs : List Char}

/-- A predicate that a dialect renders is shown by its own token. -/
theorem shows_predicate (alone : n.predicates = [n]) (truth : ∀ v, n.truth v = v n) {text : String}
    (rendered : d.render n = .ok text) : d.Shows .negation n text.toList := by
  refine ⟨[.predicate n], ?_, alone.symm, ?_⟩
  · simp [chars, spelling, rendered]
  · simp only [truth]
    exact .predicate n

/-- What is shown is shown in parentheses. -/
theorem Shows.group (h : d.Shows level n cs) : d.Shows .negation n ('(' :: (cs ++ [')'])) := by
  obtain ⟨ts, rfl, predicates, means⟩ := h
  refine ⟨.left :: (ts ++ [.right]), ?_, ?_, means.group⟩
  · simp [chars, spelling]
  · have around : Token.predicates ([.left] ++ (ts ++ [.right])) = Token.predicates ts := by
      rw [predicates_append, predicates_append]
      exact List.append_nil _
    exact around.trans predicates

/-- What is shown is shown as negated behind the keyword. -/
theorem Shows.not (h : d.Shows .negation n cs) : d.Shows .negation (.not n) ((d.spelling .not).toList ++ cs) := by
  obtain ⟨ts, rfl, predicates, means⟩ := h
  exact ⟨.not :: ts, rfl, predicates, means.not⟩

/-- The tokens of a row of trees. -/
theorem exists_tokens {ns : List Node} {css : List (List Char)} (each : List.Forall₂ (d.Shows level) ns css) :
    ∃ tss : List (List Token), css = tss.map d.chars ∧ Token.predicates tss.flatten = ns.flatMap Node.predicates ∧
      List.Forall₂ (Means level) tss (ns.map fun n v => n.truth v) := by
  induction each with
  | nil => exact ⟨[], rfl, rfl, .nil⟩
  | @cons n cs ns css first others ih =>
    obtain ⟨ts, written, predicates, means⟩ := first
    obtain ⟨tss, writtens, allPredicates, allMean⟩ := ih
    refine ⟨ts :: tss, by rw [List.map_cons, ← written, ← writtens], ?_, .cons means allMean⟩
    rw [List.flatten_cons, predicates_append, predicates, allPredicates, List.flatMap_cons]

/-- Connectives between the tokens of a row are no predicates. -/
theorem predicates_intercalate {t : Token} (connective : t.predicate? = none) (tss : List (List Token)) :
    Token.predicates ([t].intercalate tss) = Token.predicates tss.flatten := by
  induction tss with
  | nil => rfl
  | cons ts tss ih =>
    rw [Text.intercalate_cons, predicates_append, List.flatten_cons, predicates_append]
    split
    · rename_i last
      rw [last]
      rfl
    · rw [predicates_append, ih]
      simp [Token.predicates, connective]

/-- The characters of a row of tokens are those of each, with the connective between them. -/
theorem chars_intercalate (t : Token) (tss : List (List Token)) :
    d.chars ([t].intercalate tss) = (d.spelling t).toList.intercalate (tss.map d.chars) := by
  induction tss with
  | nil => rfl
  | cons ts tss ih =>
    rw [List.map_cons, Text.intercalate_cons, Text.intercalate_cons, chars_append]
    split
    · rename_i last
      rw [last]
      rfl
    · rename_i more
      rw [if_neg (by simpa using more), chars_append, ih]
      simp [chars]

variable {ns : List Node} {css : List (List Char)}

/-- A row of operands that bind tighter is shown as their conjunction. -/
theorem shows_and (nonempty : ns ≠ []) (each : List.Forall₂ (d.Shows .negation) ns css) :
    d.Shows .conjunction (.and ns) ((d.spelling .and).toList.intercalate css) := by
  obtain ⟨tss, rfl, predicates, means⟩ := exists_tokens each
  have some : tss ≠ [] := by
    rintro rfl
    exact nonempty (by simpa using means)
  refine ⟨[.and].intercalate tss, (chars_intercalate _ _).symm, ?_, ?_⟩
  · rw [predicates_intercalate rfl, predicates, Node.predicates, Node.allPredicates_eq_flatMap]
  · have truth := Means.conjunctions some means
    simp only [List.all_map, Function.comp_def] at truth
    simpa only [Node.truth, Node.allTrue_eq_all] using truth

/-- A row of operands that bind tighter is shown as their disjunction. -/
theorem shows_or (nonempty : ns ≠ []) (each : List.Forall₂ (d.Shows .negation) ns css) :
    d.Shows .disjunction (.or ns) ((d.spelling .or).toList.intercalate css) := by
  obtain ⟨tss, rfl, predicates, means⟩ := exists_tokens each
  have some : tss ≠ [] := by
    rintro rfl
    exact nonempty (by simpa using means)
  refine ⟨[.or].intercalate tss, (chars_intercalate _ _).symm, ?_, ?_⟩
  · rw [predicates_intercalate rfl, predicates, Node.predicates, Node.allPredicates_eq_flatMap]
  · have truth := Means.disjunctions some (means.imp fun _ _ => Means.conjunction)
    simp only [List.any_map, Function.comp_def] at truth
    simpa only [Node.truth, Node.someTrue_eq_any] using truth

/-! ## Trees -/

/-- How tight a tree binds as a dialect writes it. -/
def tightness (d : TextDialect) : Node → Level
  | .and _ => if d = .text then .conjunction else .negation
  | .or _ => if d = .text then .disjunction else .negation
  | _ => .negation

/-- Whether a dialect has a phrase for a tree that shows it. -/
def Presents (d : TextDialect) (n : Node) : Prop :=
  ∃ p, d.phrase n = .ok p ∧ d.Shows (d.tightness n) n (p.chars d.quote)

theorem tightness_eq_negation (leaf : n.isGroup = false) : d.tightness n = .negation := by
  cases n with
  | and children => cases leaf
  | or children => cases leaf
  | _ => rfl

/-- An operand of a connective binds as tight as a negation. -/
theorem Shows.enclosed {p : Phrase} (h : d.Shows (d.tightness n) n (p.chars d.quote)) :
    d.Shows .negation n ((d.enclosed n p).chars d.quote) := by
  unfold TextDialect.enclosed
  by_cases text : d = .text
  · rw [if_pos text, Node.grouped]
    split
    · rw [Phrase.chars_within]
      exact h.group
    · rename_i leaf
      rwa [tightness_eq_negation (by simpa using leaf)] at h
  · rw [if_neg text]
    have always : d.tightness n = .negation := by
      cases n <;> simp [tightness, text]
    rwa [always] at h

/-- A row of operands is shown at the level of its connective. -/
theorem Shows.row {p : Phrase} (h : d.Shows level n (p.chars d.quote)) :
    d.Shows (if d = .text then level else .negation) n ((d.row p).chars d.quote) := by
  unfold TextDialect.row
  split
  · exact h
  · rw [Phrase.chars_within]
    exact h.group

/-- A negated operand is shown as negated. -/
theorem Shows.negated {p : Phrase} (h : d.Shows (d.tightness n) n (p.chars d.quote)) :
    d.Shows .negation (.not n) ((d.negated n p).chars d.quote) := by
  cases d with
  | odata =>
    rw [TextDialect.negated, Phrase.chars_within]
    exact h.group.not
  | sql =>
    rw [TextDialect.negated, Phrase.chars_within]
    exact h.group.not
  | text => exact h.enclosed.not

/-- Trees that are presented each are presented together as operands. -/
theorem exists_operands (each : ∀ n ∈ ns, d.Presents n) :
    ∃ ps, d.operands ns = .ok ps ∧ List.Forall₂ (d.Shows .negation) ns (ps.map (Phrase.chars d.quote)) := by
  have each' : ∀ n ∈ ns, ∃ p, (d.phrase n).map (d.enclosed n) = .ok p ∧ d.Shows .negation n (p.chars d.quote) := by
    intro n member
    obtain ⟨p, written, shows⟩ := each n member
    exact ⟨d.enclosed n p, by rw [written]; rfl, shows.enclosed⟩
  obtain ⟨ps, related⟩ := Outcome.exists_forall₂ each'
  refine ⟨ps, Outcome.mapM_eq_ok.2 (related.imp fun _ _ => And.left), ?_⟩
  rw [List.forall₂_map_right_iff]
  exact related.imp fun _ _ => And.right

/-- A predicate that a dialect renders is presented. -/
theorem presents_predicate (leaf : d.tightness n = .negation) (alone : n.predicates = [n])
    (truth : ∀ v, n.truth v = v n) (rendered : ∀ p ∈ n.predicates, ∃ text, d.render p = .ok text) : d.Presents n := by
  rw [alone] at rendered
  obtain ⟨text, written⟩ := rendered n List.mem_cons_self
  have shows := shows_predicate alone truth written
  obtain ⟨p, phrase, rfl⟩ := d.render_eq_ok.1 written
  rw [Phrase.text, String.toList_ofList] at shows
  exact ⟨p, phrase, by rwa [leaf]⟩

mutual

/-- Every tree of connectives over predicates that a dialect renders is presented. -/
theorem presents (n : Node) (populated : n.Populated) (rendered : ∀ p ∈ n.predicates, ∃ text, d.render p = .ok text) :
    d.Presents n := by
  cases n with
  | and children =>
    obtain ⟨ps, written, each⟩ := exists_operands (allPresent children populated.2 rendered)
    have shows := shows_and populated.1 each
    rw [← Phrase.chars_join] at shows
    exact ⟨_, by rw [phrase_and, written]; rfl, shows.row⟩
  | or children =>
    obtain ⟨ps, written, each⟩ := exists_operands (allPresent children populated.2 rendered)
    have shows := shows_or populated.1 each
    rw [← Phrase.chars_join] at shows
    exact ⟨_, by rw [phrase_or, written]; rfl, shows.row⟩
  | not child =>
    obtain ⟨p, written, shows⟩ := presents child populated rendered
    exact ⟨_, by rw [phrase_not, written]; rfl, shows.negated⟩
  | _ => exact presents_predicate rfl rfl (fun _ => rfl) rendered

/-- So is every tree of a list. -/
theorem allPresent (ns : List Node) (populated : Node.AllPopulated ns)
    (rendered : ∀ p ∈ Node.allPredicates ns, ∃ text, d.render p = .ok text) : ∀ n ∈ ns, d.Presents n := by
  cases ns with
  | nil => exact nofun
  | cons n rest =>
    have first := presents n populated.1 fun p member => rendered p (List.mem_append_left _ member)
    have others := allPresent rest populated.2 fun p member => rendered p (List.mem_append_right _ member)
    exact List.forall_mem_cons.2 ⟨first, others⟩

end

/-- The text dialects keep the Boolean structure of filters. Of every tree of conjunctions and disjunctions with at least
one operand and of negations, over predicates that the dialect renders, the text exists and is the spelling of tokens
whose predicates are those of the tree, in order and each as the dialect renders it alone; these tokens are accepted by
the grammar of Boolean expressions, and what they are read as is true just when the tree is. -/
theorem render_reads (d : TextDialect) (n : Node) (populated : n.Populated)
    (rendered : ∀ p ∈ n.predicates, ∃ text, d.render p = .ok text) :
    ∃ ts, d.render n = .ok (d.spell ts) ∧ Token.predicates ts = n.predicates ∧
      (∃ f, Reads .disjunction ts f) ∧ ∀ f, Reads .disjunction ts f → ∀ v, f.eval v = n.truth v := by
  obtain ⟨p, written, ts, spelled, predicates, means⟩ := presents n populated rendered
  obtain ⟨f, reads, truth⟩ := means.disjunction
  refine ⟨ts, ?_, predicates, ⟨f, reads⟩, fun g reads' v => ?_⟩
  · rw [d.render_eq_ok]
    exact ⟨p, written, by rw [Phrase.text, spelled]; rfl⟩
  · rw [← reads.unique reads']
    exact truth v

/-- A conjunction in a disjunction in a negation, which each dialect brackets in its own way. -/
def nestedFilter : Node :=
  .not (.or [.and [.isNull ⟨"a"⟩, .not (.isNull ⟨"b"⟩)], .and [.comparison .eq ⟨"c"⟩ (.literal (.str "x AND y"))]])

/-- It keeps its structure in the text form. -/
theorem render_reads_nestedFilter :
    nestedFilter.Populated ∧ (∀ p ∈ nestedFilter.predicates, ∃ s, render .text p = .ok s) ∧
      ∃ ts, render .text nestedFilter = .ok (spell .text ts) ∧ Token.predicates ts = nestedFilter.predicates ∧
        (∃ f, Reads .disjunction ts f) ∧
        ∀ f, Reads .disjunction ts f → ∀ v, f.eval v = nestedFilter.truth v := by
  have populated : nestedFilter.Populated := by
    simp [nestedFilter, Node.Populated, Node.AllPopulated]
  have rendered : ∀ p ∈ nestedFilter.predicates, ∃ s, render .text p = .ok s := by
    simp only [nestedFilter, Node.predicates, Node.allPredicates, List.append_nil, List.cons_append, List.nil_append,
      List.forall_mem_cons, List.not_mem_nil, false_implies, implies_true, and_true]
    exact ⟨⟨_, rfl⟩, ⟨_, rfl⟩, ⟨_, rfl⟩⟩
  exact ⟨populated, rendered, render_reads .text nestedFilter populated rendered⟩

end TextDialect

end CatalogFilter
