import CatalogFilter.Dialect.Pattern
import Mathlib.Data.List.Forall2
import Mathlib.Tactic.Push
import Mathlib.Tactic.Tauto

/-!
# What patterns match

* `Pattern.Item`, `Pattern.spell` — the parts of a pattern, and how they are written behind LIKE. What can be written that
  way is a valid pattern.
* `Pattern.Matches` — the texts that a row of items matches.
* `Pattern.readWildcard` — the items that a search index reads a wildcard pattern as.
* `Pattern.wildcards_eq_ok_iff` and its like — valid patterns are converted, and others fail at the first wrong escape.
* `Pattern.fixed_eq_of_same` — rows that match the same texts have the same items, apart from runs.
* `Pattern.toWildcard_matches_iff` — which patterns are converted, and which of them keep their meaning.

A conversion writes each item as one character and never escapes, so a character that the index takes for a wildcard or for
an escape is read as something else. Whatever that does to a pattern, it shows in the shortest texts: a run needs no
character there and any other item exactly one, so what is misread makes the shortest texts shorter or other ones.
-/

namespace CatalogFilter.Pattern

/-! ## Patterns as items -/

/-- A part of a pattern: any run of characters, any one character, or a character that stands for itself. -/
inductive Item where
  | run
  | one
  | literal (c : Char)
  deriving DecidableEq

/-- How an item is written in a LIKE pattern. -/
def Item.spelling : Item → List Char
  | .run => ['%']
  | .one => ['_']
  | .literal c => if c = '%' ∨ c = '_' ∨ c = '\\' then ['\\', c] else [c]

/-- The LIKE pattern of some items. -/
def spell (items : List Item) : List Char :=
  items.flatMap Item.spelling

/-- Whether some items match a text. -/
inductive Matches : List Item → List Char → Prop
  | nil : Matches [] []
  | run (skipped : List Char) {items : List Item} {cs : List Char} (rest : Matches items cs) :
      Matches (.run :: items) (skipped ++ cs)
  | one (c : Char) {items : List Item} {cs : List Char} (rest : Matches items cs) :
      Matches (.one :: items) (c :: cs)
  | literal (c : Char) {items : List Item} {cs : List Char} (rest : Matches items cs) :
      Matches (.literal c :: items) (c :: cs)

/-- The item that a character is in a wildcard pattern when no backslash stands before it. -/
def Item.ofWildcard (c : Char) : Item :=
  if c = '*' then .run else if c = '?' then .one else .literal c

/-- The items of a wildcard pattern. A backslash makes the next character stand for itself, and so does the last one
of a pattern for itself. -/
def readWildcard : List Char → List Item
  | [] => []
  | '\\' :: c :: rest => .literal c :: readWildcard rest
  | c :: rest => .ofWildcard c :: readWildcard rest

@[simp] theorem readWildcard_nil : readWildcard [] = [] := by rw [readWildcard]

theorem readWildcard_open : readWildcard ['\\'] = [.literal '\\'] := by
  rw [readWildcard, readWildcard_nil]
  · rfl
  · exact nofun

theorem readWildcard_escape (c : Char) (rest : List Char) :
    readWildcard ('\\' :: c :: rest) = .literal c :: readWildcard rest := by rw [readWildcard]

theorem readWildcard_cons {c : Char} (h : c ≠ '\\') (rest : List Char) :
    readWildcard (c :: rest) = .ofWildcard c :: readWildcard rest := by
  rw [readWildcard]
  rintro d more rfl
  exact absurd rfl h

/-! ## Conversion -/

/-- The character that an item is converted to. -/
def Item.written : Item → Char
  | .run => '*'
  | .one => '?'
  | .literal c => c

theorem isEscapable_iff {c : Char} : isEscapable c = true ↔ c = '%' ∨ c = '_' ∨ c = '\\' := by
  simp [isEscapable, or_assoc]

theorem spell_cons (item : Item) (items : List Item) : spell (item :: items) = item.spelling ++ spell items := by
  rw [spell, spell, List.flatMap_cons]

/-- An item at the beginning of a pattern is converted to its character. -/
theorem wildcards_spelling (item : Item) (rest : List Char) :
    wildcards (item.spelling ++ rest) = (wildcards rest).map (item.written :: ·) := by
  cases item with
  | run => exact wildcards_cons (by decide) rest
  | one => exact wildcards_cons (by decide) rest
  | literal c =>
    rw [Item.spelling]
    split
    · rename_i escapable
      show wildcards ('\\' :: c :: rest) = _
      rw [wildcards, if_pos (isEscapable_iff.2 escapable), Item.written]
    · rename_i plain
      push Not at plain
      have self : wildcard c = c := by rw [wildcard, if_neg plain.1, if_neg plain.2.1]
      show wildcards (c :: rest) = _
      rw [wildcards_cons plain.2.2, self, Item.written]

/-- Items at the beginning of a pattern are converted one by one, whatever stands behind them. -/
theorem wildcards_spell_append (items : List Item) (rest : List Char) :
    wildcards (spell items ++ rest) = (wildcards rest).map (items.map Item.written ++ ·) := by
  induction items with
  | nil =>
    show wildcards rest = (wildcards rest).map id
    rw [Except.map_id, id]
  | cons item items ih =>
    rw [spell_cons, List.append_assoc, wildcards_spelling, ih]
    cases wildcards rest <;> rfl

theorem wildcards_spell (items : List Item) : wildcards (spell items) = .ok (items.map Item.written) := by
  have whole := wildcards_spell_append items []
  rwa [List.append_nil, wildcards_nil, Except.map, List.append_nil] at whole

theorem wildcards_spell_open (items : List Item) : wildcards (spell items ++ ['\\']) = .error .openEscape := by
  rw [wildcards_spell_append, wildcards_open]
  rfl

theorem wildcards_spell_bad {c : Char} (h : ¬ (c = '%' ∨ c = '_' ∨ c = '\\')) (items : List Item) (rest : List Char) :
    wildcards (spell items ++ '\\' :: c :: rest) = .error (.badEscape c) := by
  rw [wildcards_spell_append, wildcards, if_neg (mt isEscapable_iff.1 h)]
  rfl

/-- Every character but a backslash is how some item is written. -/
theorem exists_spelling {c : Char} (h : c ≠ '\\') : ∃ item : Item, item.spelling = [c] := by
  by_cases percent : c = '%'
  · exact ⟨.run, by rw [percent]; rfl⟩
  · by_cases underscore : c = '_'
    · exact ⟨.one, by rw [underscore]; rfl⟩
    · exact ⟨.literal c, by rw [Item.spelling, if_neg (by tauto)]⟩

/-- Every text begins with items, up to its end, to a backslash with nothing behind it, or to one before a character that
needs none. -/
theorem exists_spell_append (cs : List Char) :
    ∃ items rest, cs = spell items ++ rest ∧
      (rest = [] ∨ rest = ['\\'] ∨ ∃ c more, rest = '\\' :: c :: more ∧ ¬ (c = '%' ∨ c = '_' ∨ c = '\\')) := by
  fun_induction wildcards cs with
  | case1 => exact ⟨[], [], rfl, .inl rfl⟩
  | case2 => exact ⟨[], ['\\'], rfl, .inr (.inl rfl)⟩
  | case3 c rest escapable ih =>
    obtain ⟨items, more, rfl, stuck⟩ := ih
    refine ⟨.literal c :: items, more, ?_, stuck⟩
    rw [spell_cons, Item.spelling, if_pos (isEscapable_iff.1 escapable)]
    rfl
  | case4 c rest plain => exact ⟨[], _, rfl, .inr (.inr ⟨c, rest, rfl, mt isEscapable_iff.2 plain⟩)⟩
  | case5 c rest notLast notEscape ih =>
    obtain ⟨items, more, rfl, stuck⟩ := ih
    have unescaped : c ≠ '\\' := by
      rintro rfl
      cases rest : spell items ++ more with
      | nil => exact notLast rfl rest
      | cons d ds => exact notEscape d ds rfl rest
    obtain ⟨item, written⟩ := exists_spelling unescaped
    exact ⟨item :: items, more, by rw [spell_cons, written]; rfl, stuck⟩

/-- A pattern is converted just if it is valid, and then item by item. -/
theorem wildcards_eq_ok_iff {cs ws : List Char} :
    wildcards cs = .ok ws ↔ ∃ items, cs = spell items ∧ ws = items.map Item.written := by
  constructor
  · intro converted
    obtain ⟨items, rest, rfl, rfl | rfl | ⟨c, more, rfl, plain⟩⟩ := exists_spell_append cs
    · rw [List.append_nil, wildcards_spell] at converted
      exact ⟨items, List.append_nil _, (Except.ok.inj converted).symm⟩
    · rw [wildcards_spell_open] at converted
      cases converted
    · rw [wildcards_spell_bad plain] at converted
      cases converted
  · rintro ⟨items, rfl, rfl⟩
    exact wildcards_spell items

/-- It fails for its end just if that is a backslash behind a valid pattern. -/
theorem wildcards_eq_openEscape_iff {cs : List Char} :
    wildcards cs = .error .openEscape ↔ ∃ items, cs = spell items ++ ['\\'] := by
  constructor
  · intro failed
    obtain ⟨items, rest, rfl, rfl | rfl | ⟨c, more, rfl, plain⟩⟩ := exists_spell_append cs
    · rw [List.append_nil, wildcards_spell] at failed
      cases failed
    · exact ⟨items, rfl⟩
    · rw [wildcards_spell_bad plain] at failed
      cases failed
  · rintro ⟨items, rfl⟩
    exact wildcards_spell_open items

/-- It fails for a wrong escape and for nothing else. -/
theorem wildcards_fault {cs : List Char} {fault : ShapeFault} (failed : wildcards cs = .error fault) :
    fault = .openEscape ∨ ∃ c, fault = .badEscape c := by
  obtain ⟨items, rest, rfl, rfl | rfl | ⟨c, more, rfl, plain⟩⟩ := exists_spell_append cs
  · rw [List.append_nil, wildcards_spell] at failed
    cases failed
  · rw [wildcards_spell_open] at failed
    exact .inl (Except.error.inj failed).symm
  · rw [wildcards_spell_bad plain] at failed
    exact .inr ⟨c, (Except.error.inj failed).symm⟩

/-! ## Shortest texts -/

/-- The items that are no runs. -/
def fixed (items : List Item) : List Item :=
  items.filter (· ≠ .run)

@[simp] theorem fixed_nil : fixed [] = [] := rfl

@[simp] theorem fixed_run (items : List Item) : fixed (.run :: items) = fixed items := rfl

@[simp] theorem fixed_one (items : List Item) : fixed (.one :: items) = .one :: fixed items := rfl

@[simp] theorem fixed_literal (c : Char) (items : List Item) :
    fixed (.literal c :: items) = .literal c :: fixed items := rfl

/-- Whether an item that is no run matches a character. -/
def Item.Takes : Item → Char → Prop
  | .run, _ => False
  | .one, _ => True
  | .literal d, c => d = c

/-- A character that an item matches, a given one if it matches any. -/
def Item.sample (c : Char) : Item → Char
  | .literal d => d
  | _ => c

/-- Some items match their samples, runs apart. -/
theorem matches_samples (c : Char) (items : List Item) : Matches items ((fixed items).map (Item.sample c)) := by
  induction items with
  | nil => exact .nil
  | cons item items ih =>
    cases item with
    | run => exact .run [] ih
    | one => exact .one c ih
    | literal d => exact .literal d ih

/-- Every item that is no run needs a character of its own. -/
theorem Matches.length_le {items : List Item} {cs : List Char} (h : Matches items cs) :
    (fixed items).length ≤ cs.length := by
  induction h with
  | nil => exact Nat.le_refl 0
  | run skipped _ ih =>
    rw [fixed_run, List.length_append]
    omega
  | one c _ ih => exact Nat.succ_le_succ ih
  | literal c _ ih => exact Nat.succ_le_succ ih

/-- A text with no more characters than that is matched item by item. -/
theorem Matches.takes {items : List Item} {cs : List Char} (h : Matches items cs)
    (shortest : cs.length = (fixed items).length) : List.Forall₂ Item.Takes (fixed items) cs := by
  induction h with
  | nil => exact .nil
  | run skipped rest ih =>
    have least := rest.length_le
    rw [fixed_run, List.length_append] at shortest
    have none : skipped = [] := List.eq_nil_of_length_eq_zero (by omega)
    rw [none]
    exact ih (by omega)
  | one c _ ih => exact .cons trivial (ih (Nat.succ.inj shortest))
  | literal c _ ih => exact .cons rfl (ih (Nat.succ.inj shortest))

/-- Two items that match each other's samples are the same. -/
theorem Item.eq_of_takes {x y : Item} (left : ∀ c, x.Takes (y.sample c)) (right : ∀ c, y.Takes (x.sample c)) :
    x = y := by
  cases x with
  | run => exact (left 'a').elim
  | one =>
    cases y with
    | run => exact (right 'a').elim
    | one => rfl
    | literal d => exact absurd ((right 'a').symm.trans (right 'b')) (by decide)
  | literal d =>
    cases y with
    | run => exact (right 'a').elim
    | one => exact absurd ((left 'a').symm.trans (left 'b')) (by decide)
    | literal e => exact congrArg Item.literal (left 'a')

/-- So are two rows of items. -/
theorem eq_of_forall₂_takes {xs ys : List Item} (left : ∀ c, List.Forall₂ Item.Takes xs (ys.map (Item.sample c)))
    (right : ∀ c, List.Forall₂ Item.Takes ys (xs.map (Item.sample c))) : xs = ys := by
  induction xs generalizing ys with
  | nil =>
    cases ys with
    | nil => rfl
    | cons y ys => cases left 'a'
  | cons x xs ih =>
    cases ys with
    | nil => cases left 'a'
    | cons y ys =>
      have first := Item.eq_of_takes (fun c => (List.forall₂_cons.1 (left c)).1) fun c => (List.forall₂_cons.1 (right c)).1
      have others := ih (fun c => (List.forall₂_cons.1 (left c)).2) fun c => (List.forall₂_cons.1 (right c)).2
      rw [first, others]

/-- Rows of items that match the same texts have the same items, apart from runs. -/
theorem fixed_eq_of_same {items items' : List Item} (same : ∀ cs, Matches items cs ↔ Matches items' cs) :
    fixed items = fixed items' := by
  have length : (fixed items).length = (fixed items').length := by
    have least := ((same _).2 (matches_samples 'a' items')).length_le
    have least' := ((same _).1 (matches_samples 'a' items)).length_le
    rw [List.length_map] at least least'
    exact Nat.le_antisymm least least'
  refine eq_of_forall₂_takes (fun c => ?_) fun c => ?_
  · exact ((same _).2 (matches_samples c items')).takes (by rw [List.length_map, length])
  · exact ((same _).1 (matches_samples c items)).takes (by rw [List.length_map, length])

/-! ## Meanings that are kept -/

/-- What an index reads a converted pattern as. -/
def reread (items : List Item) : List Item :=
  readWildcard (items.map Item.written)

/-- Whether a pattern has no literal star and question mark, and no escaped backslash except as its last item. -/
def Kept (items : List Item) : Prop :=
  .literal '*' ∉ items ∧ .literal '?' ∉ items ∧ .literal '\\' ∉ items.dropLast

theorem kept_cons_iff {x : Item} {items : List Item} :
    Kept (x :: items) ↔
      x ≠ .literal '*' ∧ x ≠ .literal '?' ∧ (x = .literal '\\' → items = []) ∧ Kept items := by
  cases items with
  | nil => simp [Kept, eq_comm]
  | cons y items =>
    simp only [Kept, List.mem_cons, List.dropLast_cons_cons, reduceCtorEq, imp_false, eq_comm, not_or, ne_eq]
    tauto

theorem written_eq_backslash_iff {x : Item} : x.written = '\\' ↔ x = .literal '\\' := by
  cases x <;> simp [Item.written]

/-- A character that is neither a wildcard nor a backslash is read as itself, and a wildcard as what it was written for. -/
theorem ofWildcard_written {x : Item} (star : x ≠ .literal '*') (mark : x ≠ .literal '?') :
    Item.ofWildcard x.written = x := by
  cases x with
  | run => rfl
  | one => rfl
  | literal c =>
    rw [Item.written, Item.ofWildcard, if_neg fun e => star (congrArg Item.literal e),
      if_neg fun e => mark (congrArg Item.literal e)]

@[simp] theorem reread_nil : reread [] = [] := readWildcard_nil

theorem reread_cons {x : Item} (h : x ≠ .literal '\\') (items : List Item) :
    reread (x :: items) = .ofWildcard x.written :: reread items :=
  readWildcard_cons (mt written_eq_backslash_iff.1 h) _

/-- An escaped backslash takes what comes next for itself. -/
theorem reread_backslash (y : Item) (items : List Item) :
    reread (.literal '\\' :: y :: items) = .literal y.written :: reread items :=
  readWildcard_escape _ _

/-- At the end it stands for itself. -/
theorem reread_last : reread [.literal '\\'] = [.literal '\\'] :=
  readWildcard_open

/-- Patterns of that kind are read as they were meant. -/
theorem reread_eq_self {items : List Item} (h : Kept items) : reread items = items := by
  induction items with
  | nil => exact reread_nil
  | cons x items ih =>
    obtain ⟨star, mark, last, rest⟩ := kept_cons_iff.1 h
    by_cases backslash : x = .literal '\\'
    · rw [last backslash, backslash, reread_last]
    · rw [reread_cons backslash, ofWildcard_written star mark, ih rest]

theorem length_fixed_cons_le (x : Item) (items : List Item) :
    (fixed items).length ≤ (fixed (x :: items)).length ∧ (fixed (x :: items)).length ≤ (fixed items).length + 1 := by
  cases x <;> simp

/-- No pattern is read as more items than it has, runs apart. -/
theorem length_fixed_reread_le : ∀ items : List Item, (fixed (reread items)).length ≤ (fixed items).length
  | [] => Nat.le_refl _
  | x :: items => by
    by_cases backslash : x = .literal '\\'
    · rw [backslash]
      cases items with
      | nil => exact Nat.le_refl _
      | cons y items =>
        have ih := length_fixed_reread_le items
        have least := (length_fixed_cons_le y items).1
        rw [reread_backslash, fixed_literal, fixed_literal, List.length_cons, List.length_cons]
        omega
    · have ih := length_fixed_reread_le items
      rw [reread_cons backslash]
      cases x with
      | run => exact ih
      | one => exact Nat.succ_le_succ ih
      | literal c =>
        have most := (length_fixed_cons_le (.ofWildcard c) (reread items)).2
        rw [fixed_literal, List.length_cons]
        exact Nat.le_trans most (Nat.succ_le_succ ih)

/-- A backslash before another item costs an item or is followed by another one than it should be. -/
theorem fixed_reread_backslash_ne (y : Item) (items : List Item) :
    fixed (reread (.literal '\\' :: y :: items)) ≠ fixed (.literal '\\' :: y :: items) := by
  intro same
  rw [reread_backslash, fixed_literal, fixed_literal] at same
  obtain ⟨first, others⟩ := List.cons.inj same
  rw [written_eq_backslash_iff.1 (Item.literal.inj first), fixed_literal] at others
  have shorter := length_fixed_reread_le items
  rw [others, List.length_cons] at shorter
  omega

/-- A star that is taken for a run is an item less. -/
theorem fixed_reread_star_ne (items : List Item) :
    fixed (reread (.literal '*' :: items)) ≠ fixed (.literal '*' :: items) := by
  intro same
  have shorter := length_fixed_reread_le items
  rw [reread_cons (by decide)] at same
  change fixed (reread items) = .literal '*' :: fixed items at same
  rw [same, List.length_cons] at shorter
  omega

/-- A pattern that is read as the items that it has, runs apart, is of that kind. -/
theorem kept_of_fixed_reread {items : List Item} (same : fixed (reread items) = fixed items) : Kept items := by
  induction items with
  | nil => simp [Kept]
  | cons x items ih =>
    by_cases backslash : x = .literal '\\'
    · subst backslash
      cases items with
      | nil => simp [Kept]
      | cons y items => exact absurd same (fixed_reread_backslash_ne y items)
    · have star : x ≠ .literal '*' := by
        rintro rfl
        exact fixed_reread_star_ne items same
      rw [reread_cons backslash] at same
      have mark : x ≠ .literal '?' := by
        rintro rfl
        change Item.one :: fixed (reread items) = .literal '?' :: fixed items at same
        cases same
      rw [ofWildcard_written star mark] at same
      have rest : Kept items := by
        apply ih
        cases x with
        | run => exact same
        | one => exact (List.cons.inj same).2
        | literal c => exact (List.cons.inj same).2
      exact kept_cons_iff.2 ⟨star, mark, fun e => absurd e backslash, rest⟩

/-- A converted pattern matches the same texts just if nothing of it is misread. -/
theorem matches_reread_iff (items : List Item) :
    (∀ s : String, Matches items s.toList ↔ Matches (reread items) s.toList) ↔ Kept items := by
  constructor
  · intro same
    refine kept_of_fixed_reread (fixed_eq_of_same fun cs => ?_).symm
    simpa using same (String.ofList cs)
  · intro kept s
    rw [reread_eq_self kept]

/-! ## Patterns as texts -/

theorem toWildcard_eq_ok_iff {pattern w : String} :
    toWildcard pattern = .ok w ↔ ∃ items, pattern.toList = spell items ∧ w = String.ofList (items.map Item.written) := by
  rw [toWildcard]
  constructor
  · intro converted
    split at converted
    · rename_i ws found
      obtain ⟨items, written, rfl⟩ := wildcards_eq_ok_iff.1 found
      exact ⟨items, written, (Except.ok.inj converted).symm⟩
    · cases converted
  · rintro ⟨items, written, rfl⟩
    rw [wildcards_eq_ok_iff.2 ⟨items, written, rfl⟩]

theorem toWildcard_eq_openEscape_iff {pattern : String} :
    toWildcard pattern = .error (.shape "like" .openEscape) ↔ ∃ items, pattern.toList = spell items ++ ['\\'] := by
  rw [← wildcards_eq_openEscape_iff, toWildcard]
  cases wildcards pattern.toList with
  | ok ws => simp
  | error fault => simp

/-- A pattern that is not converted is no row of items. -/
theorem exists_toWildcard_error_iff {pattern : String} :
    (∃ e, toWildcard pattern = .error e) ↔ ¬ ∃ items, pattern.toList = spell items := by
  cases outcome : toWildcard pattern with
  | ok w =>
    obtain ⟨items, written, -⟩ := toWildcard_eq_ok_iff.1 outcome
    simp [written]
  | error e =>
    refine iff_of_true ⟨e, rfl⟩ ?_
    rintro ⟨items, written⟩
    rw [toWildcard_eq_ok_iff.2 ⟨items, written, rfl⟩] at outcome
    cases outcome

/-- Which patterns are converted, and which of them keep their meaning. The conversion fails just for texts that are no row
of items, and for an escape at the end just if everything before it is one. The pattern of some items is converted, and the
wildcard pattern that it becomes matches the same texts just if there is no literal star, no literal question mark, and no
escaped backslash except as the last item. -/
theorem toWildcard_matches_iff (pattern : String) :
    ((∃ e, toWildcard pattern = .error e) ↔ ¬ ∃ items, pattern.toList = spell items) ∧
      (toWildcard pattern = .error (.shape "like" .openEscape) ↔ ∃ items, pattern.toList = spell items ++ ['\\']) ∧
      ∀ items, pattern.toList = spell items →
        ∃ w, toWildcard pattern = .ok w ∧
          ((∀ s : String, Matches items s.toList ↔ Matches (readWildcard w.toList) s.toList) ↔
            .literal '*' ∉ items ∧ .literal '?' ∉ items ∧ .literal '\\' ∉ items.dropLast) := by
  refine ⟨exists_toWildcard_error_iff, toWildcard_eq_openEscape_iff, fun items written => ?_⟩
  refine ⟨_, toWildcard_eq_ok_iff.2 ⟨items, written, rfl⟩, ?_⟩
  rw [String.toList_ofList]
  exact matches_reread_iff items

/-- A backslash before any run is converted to what an index reads as a star. -/
theorem toWildcard_matches_iff_backslash :
    ∃ w, toWildcard "\\\\%" = .ok w ∧
      ¬ ∀ s : String, Matches [.literal '\\', .run] s.toList ↔ Matches (readWildcard w.toList) s.toList := by
  obtain ⟨-, -, kept⟩ := toWildcard_matches_iff "\\\\%"
  obtain ⟨w, converted, same⟩ := kept [.literal '\\', .run] rfl
  refine ⟨w, converted, fun equal => ?_⟩
  obtain ⟨-, -, last⟩ := same.1 equal
  exact last (by decide)

end CatalogFilter.Pattern
