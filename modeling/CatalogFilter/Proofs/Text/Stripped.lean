import CatalogFilter.Proofs.Text.Runs
import CatalogFilter.Settings

/-!
# Texts without the blanks at their ends

* `Text.stripList_append_blank`, `Text.stripList_blank_append` — blanks at either end do not count.
* `Text.exists_stripList` — what is taken away from a text are blanks at its ends, and nothing else.
* `Text.stops_stripList` — what is left does not begin with a blank.
* `Settings.map_stripList_splitAt` — the parts of a text without the blanks at their ends are the same whether or not the
  text itself had blanks at its ends.
-/

namespace CatalogFilter

namespace Text

variable {cs blanks : List Char}

/-- Blanks at the beginning do not count. -/
theorem stripList_blank_append (blank : ∀ c ∈ blanks, isBlank c = true) (cs : List Char) :
    stripList (blanks ++ cs) = stripList cs := by
  rw [stripList, List.dropWhile_append_of_pos blank, stripList]

/-- Blanks at the end do not count. -/
theorem stripList_append_blank (blank : ∀ c ∈ blanks, isBlank c = true) (cs : List Char) :
    stripList (cs ++ blanks) = stripList cs := by
  rw [stripList, stripList, List.dropWhile_append]
  split
  · rename_i empty
    rw [List.isEmpty_iff.1 empty, List.dropWhile_eq_nil_iff.2 blank]
  · rw [List.reverse_append, List.dropWhile_append_of_pos fun c member => blank c (List.mem_reverse.1 member)]

/-- What is left of a text has only blanks behind it, once the blanks at the beginning are gone. -/
theorem stripList_append_takeWhile (cs : List Char) :
    stripList cs ++ ((cs.dropWhile isBlank).reverse.takeWhile isBlank).reverse = cs.dropWhile isBlank := by
  rw [stripList, ← List.reverse_append, List.takeWhile_append_dropWhile, List.reverse_reverse]

/-- What is taken away from a text are blanks at its ends. -/
theorem exists_stripList (cs : List Char) :
    ∃ before after, cs = before ++ stripList cs ++ after ∧ (∀ c ∈ before, isBlank c = true) ∧
      ∀ c ∈ after, isBlank c = true := by
  refine ⟨cs.takeWhile isBlank, ((cs.dropWhile isBlank).reverse.takeWhile isBlank).reverse, ?_,
    fun c => List.mem_takeWhile_imp, fun c member => List.mem_takeWhile_imp (List.mem_reverse.1 member)⟩
  rw [List.append_assoc, stripList_append_takeWhile, List.takeWhile_append_dropWhile]

/-- What is left of a text does not begin with a blank. -/
theorem stops_stripList (cs : List Char) : Stops isBlank (stripList cs) := by
  intro c first
  have begins : (cs.dropWhile isBlank).head? = some c := by
    rw [← stripList_append_takeWhile, List.head?_append, Option.mem_def.1 first, Option.some_or]
  have := List.head?_dropWhile_not isBlank cs
  rwa [begins] at this

end Text

namespace Settings

open Text

/-- The parts between the places of a character are those that the library finds. -/
theorem splitAt_eq_splitOn (mark : Char) (cs : List Char) : splitAt mark cs = cs.splitOn mark := by
  induction cs with
  | nil => rfl
  | cons c cs ih =>
    rw [splitAt, ih, List.splitOn_cons_eq_if_modifyHead]
    by_cases same : c = mark
    · rw [if_pos same, if_pos (beq_iff_eq.2 same)]
    · rw [if_neg same, if_neg (mt beq_iff_eq.1 same)]
      cases parts : cs.splitOn mark with
      | nil => exact absurd parts (List.splitOn_ne_nil mark cs)
      | cons first others => rfl

/-- Parts that have lost blanks at the beginning of the text. -/
theorem map_stripList_splitAt_blank_append {mark : Char} (notBlank : isBlank mark = false) {blanks : List Char}
    (blank : ∀ c ∈ blanks, isBlank c = true) (cs : List Char) :
    (splitAt mark (blanks ++ cs)).map stripList = (splitAt mark cs).map stripList := by
  induction blanks with
  | nil => rfl
  | cons c blanks ih =>
    rw [List.forall_mem_cons] at blank
    have other : c ≠ mark := by
      rintro rfl
      rw [notBlank] at blank
      cases blank.1
    rw [List.cons_append, splitAt, if_neg other, ← ih blank.2]
    split
    · rename_i none
      exact absurd none (splitAt_ne_nil mark _)
    · rename_i first others parts
      have single : ∀ d ∈ [c], isBlank d = true := by simpa using blank.1
      have front : stripList (c :: first) = stripList first := stripList_blank_append single first
      rw [parts, List.map_cons, List.map_cons, front]

/-- Only the last part of a text has the blanks at the end of the text. -/
theorem splitAt_append_blank {mark : Char} (notBlank : isBlank mark = false) {blanks : List Char}
    (blank : ∀ c ∈ blanks, isBlank c = true) (cs : List Char) :
    List.Forall₂ (fun part whole => ∃ more, whole = part ++ more ∧ ∀ c ∈ more, isBlank c = true)
      (splitAt mark cs) (splitAt mark (cs ++ blanks)) := by
  induction cs with
  | nil =>
    have single : splitAt mark blanks = [blanks] := by
      rw [splitAt_eq_splitOn]
      refine List.splitOn_eq_singleton fun member => ?_
      rw [blank mark member] at notBlank
      cases notBlank
    rw [List.nil_append, single, splitAt_nil]
    exact .cons ⟨blanks, rfl, blank⟩ .nil
  | cons c cs ih =>
    have same (part : List Char) : ∃ more, part = part ++ more ∧ ∀ c ∈ more, isBlank c = true :=
      ⟨[], (List.append_nil part).symm, nofun⟩
    rw [List.cons_append, splitAt, splitAt]
    split
    · exact .cons (same []) ih
    · revert ih
      generalize splitAt mark cs = parts
      generalize splitAt mark (cs ++ blanks) = parts'
      intro ih
      cases ih with
      | nil => exact .cons (same [c]) .nil
      | cons first others =>
        obtain ⟨more, rfl, blank⟩ := first
        exact .cons ⟨more, rfl, blank⟩ others

/-- The parts of a text without the blanks at their ends are the same whether or not the text had blanks at its ends. -/
theorem map_stripList_splitAt {mark : Char} (notBlank : isBlank mark = false) (cs : List Char) :
    (splitAt mark (stripList cs)).map stripList = (splitAt mark cs).map stripList := by
  obtain ⟨before, after, whole, blank, blank'⟩ := exists_stripList cs
  have ends := splitAt_append_blank notBlank blank' (stripList cs)
  conv_rhs => rw [whole, List.append_assoc, map_stripList_splitAt_blank_append notBlank blank]
  generalize splitAt mark (stripList cs) = parts at ends
  generalize splitAt mark (stripList cs ++ after) = parts' at ends
  induction ends with
  | nil => rfl
  | cons first _ ih =>
    obtain ⟨more, rfl, blank⟩ := first
    rw [List.map_cons, List.map_cons, ih, stripList_append_blank blank]

end Settings

end CatalogFilter
