import CatalogFilter.Proofs.Dialect.Phrases
import CatalogFilter.Proofs.Text.Runs

/-!
# Values between quotes

* `Quotes.scan` — reads a text from left to right and takes out what stands between single quotes, in which two quotes
  stand for one.
* `Phrase.Holds` — a phrase has no quote outside of its values, a text between every two values, and the given values.
* `Phrase.Holds.scan_chars` — then a scan of its text, in which quotes inside values are doubled, finds just its values
  and ends outside of quotes, whatever the values are.
* `Quotes.quotedChars_append_inj` — a value between quotes is told by its text, wherever it ends.

A scan tells the quote that ends a value from one inside it by the character behind it. What is proved of a phrase is
therefore proved in front of every text that does not begin with a quote.
-/

namespace CatalogFilter

/-! ## Scans -/

namespace Quotes

/-- The values between quotes in a text, if the text does not end inside one. Of a value that is open, the characters
found so far are given. -/
def scan : Option (List Char) → List Char → Option (List String)
  | none, [] => some []
  | none, '\'' :: rest => scan (some []) rest
  | none, _ :: rest => scan none rest
  | some _, [] => none
  | some found, '\'' :: '\'' :: rest => scan (some (found ++ ['\''])) rest
  | some found, '\'' :: rest => (scan none rest).map (String.ofList found :: ·)
  | some found, c :: rest => scan (some (found ++ [c])) rest

/-- Whether a text has no quote. -/
def Free (cs : List Char) : Prop :=
  '\'' ∉ cs

instance : DecidablePred Free := fun cs => inferInstanceAs (Decidable ('\'' ∉ cs))

/-- Whether a text does not begin with a quote. -/
abbrev Apart (rest : List Char) : Prop :=
  Text.Stops (· == '\'') rest

theorem scan_outside {c : Char} (h : c ≠ '\'') (rest : List Char) : scan none (c :: rest) = scan none rest := by
  rw [scan]
  exact h

theorem scan_found {c : Char} (h : c ≠ '\'') (found rest : List Char) :
    scan (some found) (c :: rest) = scan (some (found ++ [c])) rest := by
  rw [scan]
  · exact fun _ same => absurd same h
  · exact h

/-- Outside of quotes, a text without quotes is passed over. -/
theorem scan_free {cs : List Char} (h : Free cs) (rest : List Char) : scan none (cs ++ rest) = scan none rest := by
  induction cs with
  | nil => rfl
  | cons c cs ih =>
    have other : c ≠ '\'' := fun same => h (by rw [same]; exact List.mem_cons_self)
    have free : Free cs := fun member => h (List.mem_cons_of_mem c member)
    rw [List.cons_append, scan_outside other]
    exact ih free

/-- A quote that no second one follows closes a value. -/
theorem scan_close (found : List Char) {rest : List Char} (apart : Apart rest) :
    scan (some found) ('\'' :: rest) = (scan none rest).map (String.ofList found :: ·) := by
  rw [scan]
  rintro more rfl
  rw [Apart, Text.stops_cons] at apart
  cases apart

/-- Inside of quotes, characters are found as they are, and doubled quotes as one. -/
theorem scan_inside (cs found : List Char) {rest : List Char} (apart : Apart rest) :
    scan (some found) (cs.flatMap (fun c => if c = '\'' then ['\'', '\''] else [c]) ++ '\'' :: rest) =
      (scan none rest).map (String.ofList (found ++ cs) :: ·) := by
  induction cs generalizing found with
  | nil => rw [List.append_nil]; exact scan_close found apart
  | cons c cs ih =>
    rw [List.flatMap_cons, List.append_assoc]
    by_cases quote : c = '\''
    · subst quote
      rw [if_pos rfl]
      exact (ih (found ++ ['\''])).trans (by rw [List.append_assoc]; rfl)
    · rw [if_neg quote, List.singleton_append, scan_found quote]
      exact (ih (found ++ [c])).trans (by rw [List.append_assoc]; rfl)

/-- Inside of quotes, characters are told up to the quote that closes them. -/
theorem inside_inj {cs ds rest rest' : List Char} (apart : Apart rest) (apart' : Apart rest')
    (same : cs.flatMap (fun c => if c = '\'' then ['\'', '\''] else [c]) ++ '\'' :: rest =
      ds.flatMap (fun c => if c = '\'' then ['\'', '\''] else [c]) ++ '\'' :: rest') : cs = ds ∧ rest = rest' := by
  -- A quote that closes a text cannot be the first of two, since no second one stands behind it.
  have closed {d : Char} {more rest : List Char} (apart : Apart rest)
      (same : '\'' :: rest = (if d = '\'' then ['\'', '\''] else [d]) ++ more) : False := by
    split at same
    · rw [(List.cons.inj same).2] at apart
      exact absurd apart (by simp [Apart])
    · rename_i other
      exact other (List.cons.inj same).1.symm
  induction cs generalizing ds with
  | nil =>
    cases ds with
    | nil => exact ⟨rfl, (List.cons.inj same).2⟩
    | cons d ds =>
      rw [List.flatMap_nil, List.nil_append, List.flatMap_cons, List.append_assoc] at same
      exact (closed apart same).elim
  | cons c cs ih =>
    cases ds with
    | nil =>
      rw [List.flatMap_nil, List.nil_append, List.flatMap_cons, List.append_assoc] at same
      exact (closed apart' same.symm).elim
    | cons d ds =>
      rw [List.flatMap_cons, List.flatMap_cons, List.append_assoc, List.append_assoc] at same
      by_cases quote : c = '\''
      · by_cases quote' : d = '\''
        · rw [if_pos quote, if_pos quote'] at same
          obtain ⟨rfl, rfl⟩ := ih (List.append_cancel_left same)
          exact ⟨by rw [quote, quote'], rfl⟩
        · rw [if_pos quote, if_neg quote'] at same
          exact absurd (List.cons.inj same).1.symm quote'
      · by_cases quote' : d = '\''
        · rw [if_neg quote, if_pos quote'] at same
          exact absurd (List.cons.inj same).1 quote
        · rw [if_neg quote, if_neg quote'] at same
          obtain ⟨rfl, rfl⟩ := ih (List.cons.inj same).2
          exact ⟨by rw [(List.cons.inj same).1], rfl⟩

/-- A quoted value is told by its text. -/
theorem quotedChars_append_inj {s t : String} {rest rest' : List Char} (apart : Apart rest) (apart' : Apart rest')
    (same : Piece.quotedChars ['\'', '\''] s ++ rest = Piece.quotedChars ['\'', '\''] t ++ rest') :
    s = t ∧ rest = rest' := by
  rw [Piece.quotedChars, Piece.quotedChars, List.append_assoc, List.append_assoc] at same
  obtain ⟨chars, rests⟩ := inside_inj apart apart' (List.cons.inj same).2
  exact ⟨String.toList_inj.1 chars, rests⟩

/-- A quoted value is found. -/
theorem scan_quotedChars (s : String) {rest : List Char} (apart : Apart rest) :
    scan none (Piece.quotedChars ['\'', '\''] s ++ rest) = (scan none rest).map (s :: ·) := by
  have inside := scan_inside s.toList [] apart
  rw [List.nil_append, String.ofList_toList] at inside
  rw [Piece.quotedChars, List.append_assoc]
  exact inside

end Quotes

open Quotes

/-! ## Phrases -/

namespace Phrase

/-- Whether a phrase has no quote outside of its values, a text between every two values, and the given values. -/
inductive Holds : Phrase → List String → Prop where
  | nil : Holds [] []
  | bare {s : String} {p : Phrase} {vs : List String} (free : Free s.toList) (rest : Holds p vs) :
      Holds (.bare s :: p) vs
  | quoted (s : String) : Holds [.quoted s] [s]
  | quotedBare (s : String) {t : String} {p : Phrase} {vs : List String} (apart : t ≠ "")
      (rest : Holds (.bare t :: p) vs) : Holds (.quoted s :: .bare t :: p) (s :: vs)

variable {p q : Phrase} {vs ws : List String}

/-- A scan of a phrase finds its values. -/
theorem Holds.scan_chars_append (h : Holds p vs) {rest : List Char} (apart : Apart rest) :
    scan none (p.chars ['\'', '\''] ++ rest) = (scan none rest).map (vs ++ ·) := by
  induction h with
  | nil => simp
  | @bare s p vs free _ ih =>
    rw [Phrase.chars, List.flatMap_cons, List.append_assoc]
    exact (scan_free free _).trans ih
  | quoted s =>
    rw [Phrase.chars, List.flatMap_singleton]
    exact scan_quotedChars s apart
  | @quotedBare s t p vs nonempty inner ih =>
    have free : Free t.toList := by
      cases inner with
      | bare free => exact free
    have apart' : Apart (chars ['\'', '\''] (.bare t :: p) ++ rest) := by
      obtain ⟨c, cs, begins⟩ := List.exists_cons_of_ne_nil (mt String.toList_eq_nil_iff.1 nonempty)
      have other : c ≠ '\'' := fun same => free (by rw [begins, same]; exact List.mem_cons_self)
      rw [Phrase.chars, List.flatMap_cons, Piece.chars, begins]
      exact Text.stops_cons.2 (beq_eq_false_iff_ne.2 other)
    rw [Phrase.chars, List.flatMap_cons, List.append_assoc]
    refine (scan_quotedChars s apart').trans ?_
    rw [ih, Option.map_map]
    rfl

/-- A scan of a whole phrase finds its values and ends outside of quotes. -/
theorem Holds.scan_chars (h : Holds p vs) : scan none (p.chars ['\'', '\'']) = some vs := by
  have scanned := h.scan_chars_append (Text.stops_nil _)
  rw [List.append_nil] at scanned
  simpa [scan] using scanned

/-! ## Composition -/

/-- Behind a phrase another one may stand after a text. -/
theorem Holds.append_bare (h : Holds p vs) {s : String} (nonempty : s ≠ "") (free : Free s.toList) (k : Holds q ws) :
    Holds (p ++ .bare s :: q) (vs ++ ws) := by
  induction h with
  | nil => exact .bare free k
  | bare free' _ ih => exact .bare free' ih
  | quoted t => exact .quotedBare t nonempty (.bare free k)
  | quotedBare t apart _ ih => exact .quotedBare t apart ih

theorem Holds.within (h : Holds p vs) (before after : String) (free : Free before.toList) (nonempty : after ≠ "")
    (free' : Free after.toList) : Holds (p.within before after) vs := by
  have closed := h.append_bare nonempty free' .nil
  rw [List.append_nil] at closed
  exact .bare free closed

/-- Phrases in a row hold the values of each. -/
theorem Holds.join (separator : String) (nonempty : separator ≠ "") (free : Free separator.toList) {ps : List Phrase}
    {vss : List (List String)} (h : List.Forall₂ Holds ps vss) : Holds (Phrase.join separator ps) vss.flatten := by
  induction h with
  | nil => exact .nil
  | @cons p vs ps vss first others ih =>
    cases others with
    | nil => simpa [Phrase.join] using first
    | cons second others =>
      rw [join_cons_cons, List.flatten_cons]
      exact first.append_bare nonempty free ih

end Phrase

end CatalogFilter
