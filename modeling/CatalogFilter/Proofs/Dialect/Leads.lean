import CatalogFilter.Proofs.Dialect.Spelling
import CatalogFilter.Proofs.Text.LowerCase

/-!
# How the text of a tree begins

* `Lead` — what the beginning of a text tells of its tree: the variant, and the name, operator or type that comes with it.
* `Lead.read` — finds it from the first characters of a text, the first word, and the word behind a name.
* `Node.Ends` — what may stand behind an operand: nothing, a closing parenthesis, a comma or a connective.
* `Node.read_compose` — in front of such a text, the text of a tree has the lead of the tree.

A name alone is a property. In front of a parenthesis it is a function, and in front of a space and another word the
subject of a predicate, unless the word is a connective.
-/

namespace CatalogFilter

/-! ## Words -/

/-- Whether a character may stand in a word. -/
def isWordChar (c : Char) : Bool :=
  c.isUpper || isNameChar c

/-- Whether a text is a capital with characters of words behind it. -/
def IsKeyword (s : String) : Prop :=
  leads Char.isUpper isWordChar s = true

instance : DecidablePred IsKeyword := fun s => inferInstanceAs (Decidable (leads Char.isUpper isWordChar s = true))

theorem isWordChar_of_isNameChar {c : Char} (h : isNameChar c = true) : isWordChar c = true := by
  simp [isWordChar, h]

/-- A name begins with a small letter and consists of characters of names. -/
theorem IsName.exists_cons {s : String} (h : IsName s) :
    ∃ c cs, s.toList = c :: cs ∧ c.isLower = true ∧ ∀ d ∈ c :: cs, isNameChar d = true := by
  obtain ⟨c, cs, whole, small, others⟩ := exists_cons_of_leads h
  exact ⟨c, cs, whole, small, List.forall_mem_cons.2 ⟨by simp [isNameChar, small], others⟩⟩

/-- So a name is a run of characters of words. -/
theorem IsName.isWordChar {s : String} (h : IsName s) : ∀ c ∈ s.toList, isWordChar c = true := by
  obtain ⟨c, cs, whole, -, chars⟩ := h.exists_cons
  rw [whole]
  exact fun d member => isWordChar_of_isNameChar (chars d member)

/-- A keyword begins with a capital and is a run of characters of words. -/
theorem IsKeyword.exists_cons {s : String} (h : IsKeyword s) :
    ∃ c cs, s.toList = c :: cs ∧ c.isUpper = true ∧ ∀ d ∈ c :: cs, isWordChar d = true := by
  obtain ⟨c, cs, whole, capital, others⟩ := exists_cons_of_leads h
  exact ⟨c, cs, whole, capital, List.forall_mem_cons.2 ⟨by simp [CatalogFilter.isWordChar, capital], others⟩⟩

/-! ## Leads -/

/-- What the beginning of a text tells of its tree. -/
inductive Lead where
  | property (name : String)
  | literal (kind : LiteralKind)
  | timestamp
  | date
  | interval
  | geometry (type : String)
  | bbox
  | bracket
  | not
  | comparison (op : ComparisonOp) (subject : String)
  | between (subject : String)
  | like (subject : String)
  | isIn (subject : String)
  | isNull (subject : String)
  | spatial (op : SpatialOp)
  | temporal (op : TemporalOp)
  | arrayComparison (op : ArrayOp)
  | function (name : String)
  deriving DecidableEq

/-- The lead of a tree. Arrays, conjunctions and disjunctions all begin with a parenthesis. -/
def Node.lead : Node → Lead
  | .property p => .property p.name
  | .literal value => .literal value.kind
  | .timestamp _ => .timestamp
  | .date _ => .date
  | .interval _ _ => .interval
  | .geometry g => .geometry g.type
  | .bbox _ => .bbox
  | .array _ | .and _ | .or _ => .bracket
  | .not _ => .not
  | .comparison op left _ => .comparison op left.name
  | .between subject _ _ => .between subject.name
  | .like subject _ => .like subject.name
  | .isIn subject _ => .isIn subject.name
  | .isNull subject => .isNull subject.name
  | .spatial op _ _ => .spatial op
  | .temporal op _ _ => .temporal op
  | .arrayComparison op _ _ => .arrayComparison op
  | .function name _ => .function name

namespace Lead

/-- The words that trees begin with, and what they tell. -/
def keywords : List (String × Lead) :=
  [("TRUE", .literal .boolean), ("FALSE", .literal .boolean), ("NOT", .not),
    ("TIMESTAMP", .timestamp), ("DATE", .date), ("INTERVAL", .interval), ("BBOX", .bbox),
    ("POINT", .geometry "Point"), ("MULTIPOINT", .geometry "MultiPoint"),
    ("LINESTRING", .geometry "LineString"), ("MULTILINESTRING", .geometry "MultiLineString"),
    ("POLYGON", .geometry "Polygon"), ("MULTIPOLYGON", .geometry "MultiPolygon"),
    ("S_INTERSECTS", .spatial .intersects), ("S_EQUALS", .spatial .equals), ("S_DISJOINT", .spatial .disjoint),
    ("S_TOUCHES", .spatial .touches), ("S_WITHIN", .spatial .within), ("S_OVERLAPS", .spatial .overlaps),
    ("S_CROSSES", .spatial .crosses), ("S_CONTAINS", .spatial .contains),
    ("T_AFTER", .temporal .after), ("T_BEFORE", .temporal .before), ("T_CONTAINS", .temporal .contains),
    ("T_DISJOINT", .temporal .disjoint), ("T_DURING", .temporal .during), ("T_EQUALS", .temporal .equals),
    ("T_INTERSECTS", .temporal .intersects),
    ("A_EQUALS", .arrayComparison .equals), ("A_CONTAINS", .arrayComparison .contains),
    ("A_CONTAINEDBY", .arrayComparison .containedBy), ("A_OVERLAPS", .arrayComparison .overlaps),
    ("CASEI", .function "casei"), ("ACCENTI", .function "accenti")]

/-- What a name and the word behind it tell. -/
def ofSubject (name word : String) : Lead :=
  match word with
  | "BETWEEN" => .between name
  | "LIKE" => .like name
  | "IN" => .isIn name
  | "IS" => .isNull name
  | word =>
    match ComparisonOp.ofSymbol? word with
    | some op => .comparison op name
    | none => .property name

/-- What a name and the text behind it tell. -/
def ofName (name : String) (behind : List Char) : Lead :=
  match behind with
  | '(' :: _ => .function name
  | ' ' :: more => ofSubject name (String.ofList (more.takeWhile (· != ' ')))
  | _ => .property name

/-- What the beginning of a text tells. -/
def read (cs : List Char) : Option Lead :=
  match cs with
  | [] => none
  | c :: _ =>
    if c = '(' then some .bracket
    else if c = '\'' then some (.literal .string)
    else if c.isDigit = true ∨ c = '-' then some (.literal .number)
    else
      let word := String.ofList (cs.takeWhile isWordChar)
      if c.isLower = true then some (ofName word (cs.dropWhile isWordChar)) else keywords.lookup word

theorem isKeyword_of_mem_keywords : ∀ k ∈ keywords, IsKeyword k.1 := by
  decide

variable {rest : List Char}

/-- Letters are neither digits nor any of the characters that are looked for before words. -/
theorem ne_of_isAlpha {c : Char} (h : c.isAlpha = true) :
    c ≠ '(' ∧ c ≠ '\'' ∧ ¬ (c.isDigit = true ∨ c = '-') := by
  refine ⟨?_, ?_, ?_⟩
  · rintro rfl
    revert h
    decide
  · rintro rfl
    revert h
    decide
  · rintro (digit | rfl)
    · simp only [Char.isAlpha, Char.isUpper, Char.isLower, Char.isDigit, Bool.or_eq_true, Bool.and_eq_true,
        decide_eq_true_eq, UInt32.le_iff_toNat_le] at h digit
      have low : c.val.toNat ≤ 57 := digit.2
      have high : 65 ≤ c.val.toNat ∨ 97 ≤ c.val.toNat := h.imp And.left And.left
      omega
    · revert h
      decide

/-- Capitals are no small letters. -/
theorem isLower_eq_false {c : Char} (h : c.isUpper = true) : c.isLower = false := by
  simp only [Char.isUpper, Char.isLower, decide_eq_true_eq, Bool.and_eq_false_iff, decide_eq_false_iff_not,
    UInt32.le_iff_toNat_le, ge_iff_le] at h ⊢
  have high : c.val.toNat ≤ 90 := h.2
  exact .inl (Nat.not_le.2 (Nat.lt_of_le_of_lt high (by decide)))

/-- A text that begins with a digit or a minus sign is a number. -/
theorem read_number {c : Char} (h : c.isDigit = true ∨ c = '-') (more : List Char) :
    read (c :: more) = some (.literal .number) := by
  have notBracket : c ≠ '(' := by
    rintro rfl
    revert h
    decide
  have notQuote : c ≠ '\'' := by
    rintro rfl
    revert h
    decide
  rw [read, if_neg notBracket, if_neg notQuote, if_pos h]

/-- No tree begins with a closing parenthesis. -/
theorem read_closing (more : List Char) : read (')' :: more) = none := rfl

/-- A text that begins with a word is read by the word. -/
theorem read_word {s : String} {c : Char} {cs : List Char} (whole : s.toList = c :: cs) (letter : c.isAlpha = true)
    (chars : ∀ d ∈ c :: cs, isWordChar d = true) (stop : Text.Stops isWordChar rest) :
    read (s.toList ++ rest) = if c.isLower = true then some (ofName s rest) else keywords.lookup s := by
  obtain ⟨notBracket, notQuote, notNumber⟩ := ne_of_isAlpha letter
  have taken := Text.takeWhile_run chars stop
  have left := Text.dropWhile_run chars stop
  have same : String.ofList (c :: cs) = s := by rw [← whole, String.ofList_toList]
  rw [List.cons_append] at taken left
  rw [whole, List.cons_append, read, if_neg notBracket, if_neg notQuote, if_neg notNumber]
  simp only [taken, left, same]

/-- What a name tells depends on what stands behind it. -/
theorem read_name {s : String} (h : IsName s) (stop : Text.Stops isWordChar rest) :
    read (s.toList ++ rest) = some (ofName s rest) := by
  obtain ⟨c, cs, whole, small, chars⟩ := h.exists_cons
  have word : ∀ d ∈ c :: cs, isWordChar d = true := fun d member => isWordChar_of_isNameChar (chars d member)
  rw [read_word whole (by simp [Char.isAlpha, small]) word stop, if_pos small]

/-- What a keyword tells is in the table. -/
theorem read_keyword {s : String} {l : Lead} (h : keywords.lookup s = some l) (stop : Text.Stops isWordChar rest) :
    read (s.toList ++ rest) = some l := by
  obtain ⟨before, after, table, -⟩ := List.lookup_eq_some_iff.1 h
  have member : (s, l) ∈ keywords := by rw [table]; simp
  obtain ⟨c, cs, whole, capital, chars⟩ := (isKeyword_of_mem_keywords _ member).exists_cons
  rw [read_word whole (by simp [Char.isAlpha, capital]) chars stop, isLower_eq_false capital, if_neg nofun, h]

theorem upperAscii_eq_ofList (s : String) : Text.upperAscii s = String.ofList (s.toList.map Char.toUpper) := by
  rw [← String.toList_inj, Text.upperAscii, String.toList_map, String.toList_ofList]

/-- The capitals of a spatial relation are in the table. -/
theorem lookup_spatial (op : SpatialOp) : keywords.lookup (Text.upperAscii op.symbol) = some (.spatial op) := by
  rw [upperAscii_eq_ofList]
  cases op <;> simp [keywords, SpatialOp.symbol, List.lookup]

/-- So are those of a temporal relation. -/
theorem lookup_temporal (op : TemporalOp) : keywords.lookup (Text.upperAscii op.symbol) = some (.temporal op) := by
  rw [upperAscii_eq_ofList]
  cases op <;> simp [keywords, TemporalOp.symbol, List.lookup]

/-- So are those of an array relation. -/
theorem lookup_arrayComparison (op : ArrayOp) :
    keywords.lookup (Text.upperAscii op.symbol) = some (.arrayComparison op) := by
  rw [upperAscii_eq_ofList]
  cases op <;> simp [keywords, ArrayOp.symbol, List.lookup]

/-- So are those of the functions that are known without settings. -/
theorem lookup_builtIn {name : String} (h : name ∈ builtInFunctions) :
    keywords.lookup (Text.upperAscii name) = some (.function name) := by
  rw [upperAscii_eq_ofList]
  simp only [builtInFunctions, List.mem_cons, List.not_mem_nil, or_false] at h
  rcases h with rfl | rfl <;> simp [keywords, List.lookup]

/-- So is the word of a geometry. -/
theorem lookup_geometry {type word : String} {k : ℕ} (h : Wkt.form? type = some (word, k)) :
    keywords.lookup word = some (.geometry type) := by
  unfold Wkt.form? at h
  split at h <;> cases h <;> simp [keywords, List.lookup]

/-- The characters of names lie to either side of the capitals. -/
theorem toNat_of_isNameChar {c : Char} (h : isNameChar c = true) : c.toNat ≤ 64 ∨ 91 ≤ c.toNat ∧ c.toNat ≤ 191 := by
  simp only [isNameChar, Char.isLower, Char.isDigit, Bool.or_eq_true, Bool.and_eq_true, decide_eq_true_eq, beq_iff_eq,
    UInt32.le_iff_toNat_le, ge_iff_le] at h
  have number : c.toNat = c.val.toNat := rfl
  rcases h with (((small | digit) | rfl) | rfl) | rfl
  · have low : 97 ≤ c.val.toNat := small.1
    have high : c.val.toNat ≤ 122 := small.2
    omega
  · have high : c.val.toNat ≤ 57 := digit.2
    omega
  all_goals decide

/-- They are their own lower case wherever they stand. -/
theorem settled_of_isNameChar {c : Char} (h : isNameChar c = true) : Text.Settled c := by
  have table : Text.lowerByRuns c.toNat Text.lowerRuns = c.toNat := by
    rcases toNat_of_isNameChar h with below | ⟨above, below⟩
    · exact Text.lowerByRuns_of_clearOf (Nat.zero_le _) below (Nat.mod_one _) (by decide)
    · exact Text.lowerByRuns_of_clearOf above below (Nat.mod_one _) (by decide)
  refine Text.settled_of_lowerByRuns table ?_
  rintro rfl
  revert h
  decide

/-- A name is its own lower case. -/
theorem lower_name {s : String} (h : IsName s) : Text.lower s = s := by
  obtain ⟨c, cs, whole, -, chars⟩ := h.exists_cons
  rw [Text.lower, Text.lowerAfter_of_settled, String.ofList_toList]
  rw [whole]
  exact fun d member => settled_of_isNameChar (chars d member)

/-- The text of a function tells its name. -/
theorem read_functionWord {name : String} (h : IsName name) (rest : List Char) :
    read ((functionWord name).toList ++ '(' :: rest) = some (.function name) := by
  have stop : Text.Stops isWordChar ('(' :: rest) := Text.stops_cons.2 rfl
  unfold functionWord
  by_cases known : isBuiltIn name = true
  · have member : name ∈ builtInFunctions := by
      rw [isBuiltIn, lower_name h] at known
      simpa using known
    rw [if_pos known, read_keyword (lookup_builtIn member) stop]
  · rw [if_neg known, read_name h stop]
    rfl

end Lead

namespace Node

open Lead

/-! ## Trees -/

/-- Whether a text may stand behind an operand: nothing, a closing parenthesis, a comma or a connective. -/
inductive Ends : List Char → Prop where
  | nil : Ends []
  | closing (more : List Char) : Ends (')' :: more)
  | comma (more : List Char) : Ends (',' :: more)
  | and (more : List Char) : Ends (' ' :: 'A' :: 'N' :: 'D' :: ' ' :: more)
  | or (more : List Char) : Ends (' ' :: 'O' :: 'R' :: ' ' :: more)

variable {rest : List Char}

theorem Ends.stops (h : Ends rest) : Text.Stops isWordChar rest := by
  cases h <;> first | exact Text.stops_nil _ | exact Text.stops_cons.2 rfl

/-- A name that an operand ends with is a property. -/
theorem Ends.ofName (h : Ends rest) (name : String) : Lead.ofName name rest = .property name := by
  cases h <;> rfl

/-- The first text of a predicate is the name of its subject. -/
theorem exists_subject {p : Property} {ns : List Node} {texts : List (List Char)}
    (each : List.Forall₂ Spelled (.property p :: ns) texts) :
    IsName p.name ∧ ∃ others, texts = p.name.toList :: others ∧ List.Forall₂ Spelled ns others := by
  obtain ⟨cs, others, subject, behind, rfl⟩ := List.forall₂_cons_left_iff.1 each
  obtain ⟨parts, -, rfl⟩ := subject.exists_texts
  exact ⟨subject.1.root, others, rfl, behind⟩

/-- A name with a word between spaces behind it is the subject that the word tells. -/
theorem read_subject {s : String} (h : IsName s) (word : String) (spaceless : word.toList.all (· != ' ') = true)
    (more : List Char) : read (s.toList ++ ' ' :: (word.toList ++ ' ' :: more)) = some (ofSubject s word) := by
  have space : Text.Stops (· != ' ') (' ' :: more) := Text.stops_cons.2 rfl
  have taken := Text.takeWhile_run (List.all_eq_true.1 spaceless) space
  rw [read_name h (Text.stops_cons.2 rfl), Lead.ofName, taken, String.ofList_toList]

/-- A call is read by the word in front of it. -/
theorem read_call {word : String} {l : Lead} (h : keywords.lookup word = some l) (inside : List Char) :
    read (call word inside ++ rest) = some l := by
  rw [call, List.append_assoc, List.cons_append]
  exact read_keyword h (Text.stops_cons.2 rfl)

/-- In front of what may stand behind an operand, the text of a tree has the lead of the tree. -/
theorem read_compose {n : Node} {texts : List (List Char)} {p : Phrase} (legible : n.IsLegible)
    (rendered : n.textPhrase = .ok p) (each : List.Forall₂ Spelled n.children texts) (ends : Ends rest) :
    read (n.compose texts ++ rest) = some n.lead := by
  cases n with
  | property p =>
    have name : IsName p.name := legible
    rw [compose, read_name name ends.stops, ends.ofName]
    rfl
  | literal value =>
    cases value with
    | bool b => cases b <;> exact read_keyword (by decide) ends.stops
    | num m =>
      obtain ⟨c, cs, written, first, -⟩ := Number.exists_text_eq_cons (m := m) legible
      rw [compose, scalarChars, written]
      exact read_number first _
    | str s => rfl
  | timestamp t => exact read_call (l := .timestamp) (by decide) _
  | date d => exact read_call (l := .date) (by decide) _
  | interval start stop => exact read_call (l := .interval) (by decide) _
  | geometry g =>
    obtain ⟨-, word, k, form, nested⟩ := legible
    obtain ⟨text, written, -⟩ := Outcome.map_eq_ok.1 rendered
    obtain ⟨cs, begins, coordinates⟩ := Geometry.exists_enclosed form nested written
    obtain ⟨more, rfl⟩ := coordinates.begins
    rw [compose, geometryChars_eq written, begins, List.append_assoc]
    exact read_keyword (lookup_geometry form) (Text.stops_cons.2 rfl)
  | bbox extent => exact read_call (l := .bbox) (by decide) _
  | array elements => rfl
  | and children => rfl
  | or children => rfl
  | not child =>
    have space : Text.Stops isWordChar (' ' :: (texts.flatten ++ rest)) := Text.stops_cons.2 rfl
    exact read_keyword (by decide : keywords.lookup "NOT" = some .not) space
  | comparison op left right =>
    obtain ⟨name, others, rfl, behind⟩ := exists_subject each
    obtain ⟨ds, _, -, last, rfl⟩ := List.forall₂_cons_left_iff.1 behind
    cases last
    have spaceless : op.symbol.toList.all (· != ' ') = true := by cases op <;> decide
    have word : ofSubject left.name op.symbol = .comparison op left.name := by cases op <;> rfl
    have written := read_subject name op.symbol spaceless (ds ++ rest)
    rw [word] at written
    simpa [compose, row, lead] using written
  | between subject lower upper =>
    obtain ⟨name, others, rfl, -⟩ := exists_subject each
    have written := read_subject name "BETWEEN" (by decide) (row " AND " others ++ rest)
    simpa [compose, linked, ofSubject, lead] using written
  | like subject pattern =>
    obtain ⟨name, others, rfl, behind⟩ := exists_subject each
    cases behind
    have written := read_subject name "LIKE" (by decide) (quoted pattern ++ rest)
    simpa [compose, linked, ofSubject, lead] using written
  | isIn subject values =>
    obtain ⟨name, others, rfl, -⟩ := exists_subject each
    have written := read_subject name "IN" (by decide) (call "" (row ", " others) ++ rest)
    simpa [compose, linked, ofSubject, lead] using written
  | isNull subject =>
    obtain ⟨name, others, rfl, behind⟩ := exists_subject each
    cases behind
    have written := read_subject name "IS" (by decide) ("NULL".toList ++ rest)
    simpa [compose, linked, ofSubject, lead] using written
  | spatial op left right => exact read_call (lookup_spatial op) _
  | temporal op left right => exact read_call (lookup_temporal op) _
  | arrayComparison op left right => exact read_call (lookup_arrayComparison op) _
  | function name args =>
    rw [compose, call, List.append_assoc, List.cons_append]
    exact read_functionWord legible.1 _

end Node

end CatalogFilter
