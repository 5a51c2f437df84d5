import CatalogFilter.Proofs.Json.RoundTrip

/-!
# Lists of texts

* `Json.read_texts` — a written list of texts is read back by any rules that know arrays at all.
* `Json.head?_of_read_list` — a text that is read as a list begins with a bracket, behind blanks.

Rules differ in numbers and in nesting. A list of texts has no numbers and is nested once, so that the reader of settings,
which is not the one of documents, brings it back too.
-/

namespace CatalogFilter.Json

/-! ## Written lists -/

/-- A written text is read back where a value stands. -/
theorem readValue_text (r : Rules) (s : Style) (fuel level : ℕ) (t : String) (rest : List Char) :
    readValue r (fuel + 1) level (write s level (.str t) ++ rest) = some (.str t, rest) := by
  rw [write, stringChars_append, readValue, readString_chars]
  simp

/-- Written texts are read back up to the bracket behind them; each of them takes one step. -/
theorem readItems_texts (r : Rules) (s : Style) (level : ℕ) (t : String) (texts : List String) {fuel : ℕ}
    (enough : texts.length + 1 < fuel) {close rest : List Char} (closes : skipSpace close = ']' :: rest) :
    readItems r fuel level (skipSpace (writeItems s level ((t :: texts).map .str) ++ close)) =
      some ((t :: texts).map .str, rest) := by
  have begins (t : String) := begins_write s level (d := .str t) ⟨trivial, trivial⟩
  induction texts generalizing t fuel with
  | nil =>
    obtain ⟨fuel, rfl⟩ : ∃ k, fuel = k + 2 := ⟨fuel - 2, by simp at enough; omega⟩
    rw [List.map_cons, List.map_nil, writeItems_cons, if_pos rfl, List.append_nil, List.append_assoc,
      skipSpace_lineBreak _ _ ((begins t).append _).stops]
    exact readItems_last (readValue_text r s fuel level t close) closes
  | cons u texts ih =>
    rw [List.length_cons] at enough
    obtain ⟨fuel, rfl⟩ : ∃ k, fuel = k + 2 := ⟨fuel - 2, by omega⟩
    rw [List.map_cons, writeItems_cons, if_neg nofun, List.append_assoc, List.append_assoc,
      skipSpace_lineBreak _ _ ((begins t).append _).stops]
    have comma : skipSpace (',' :: writeItems s level ((u :: texts).map .str) ++ close) =
        ',' :: (writeItems s level ((u :: texts).map .str) ++ close) :=
      skipSpace_of_stops (Text.stops_cons.2 rfl)
    exact readItems_comma (readValue_text r s fuel level t _) comma (ih u (by omega))

/-- A written list has at least as many characters as items. -/
theorem length_le_writeItems (s : Style) (level : ℕ) (texts : List String) :
    texts.length ≤ (writeItems s level (texts.map .str)).length := by
  induction texts with
  | nil => exact Nat.zero_le _
  | cons t texts ih =>
    rw [List.map_cons, writeItems_cons, List.length_append, List.length_append, write, stringChars, List.length_cons]
    by_cases last : texts = []
    · subst last
      simp
      omega
    · rw [if_neg (by simpa using last), List.length_cons]
      simp
      omega

/-- A written list of texts is read back with one step for each of them. -/
theorem readValue_texts (r : Rules) (arrays : r.depth ≠ some 0) (s : Style) (texts : List String) {fuel : ℕ}
    (enough : texts.length < fuel) :
    readValue r (fuel + 1) 0 (write s 0 (.list (texts.map .str))) = some (.list (texts.map .str), []) := by
  cases texts with
  | nil =>
    rw [List.map_nil, write, readValue, if_neg arrays]
    rfl
  | cons t texts =>
    have close : skipSpace (s.lineBreak 0 ++ [']']) = [']'] := skipSpace_close s 0 rfl
    have read := readItems_texts r s 1 t texts enough close
    obtain ⟨c, more, same, -, bracket⟩ := begins_writeItems s 1 (d := .str t) (texts.map .str) ⟨trivial, trivial⟩
      (s.lineBreak 0 ++ [']'])
    rw [← List.map_cons] at same
    rw [same] at read
    rw [List.map_cons, write_list_cons, ← List.map_cons, readValue, if_neg arrays, same]
    split
    · rename_i empty
      exact absurd (List.cons.inj empty).1 bracket
    · rw [read]
      rfl

/-- A written list of texts is read back by any rules that know arrays. -/
theorem read_texts (r : Rules) (arrays : r.depth ≠ some 0) (s : Style) (texts : List String) :
    read r (String.ofList (write s 0 (.list (texts.map .str)))) = some (.list (texts.map .str)) := by
  have json : IsJson (.list (texts.map .str)) := by
    refine isJson_list_iff.2 fun d member => ?_
    obtain ⟨t, -, rfl⟩ := List.mem_map.1 member
    exact ⟨trivial, trivial⟩
  have starts := skipSpace_of_stops (begins_write s 0 json).stops
  have long : texts.length ≤ (write s 0 (.list (texts.map .str))).length := by
    cases texts with
    | nil => exact Nat.zero_le _
    | cons t texts =>
      have items := length_le_writeItems s (0 + 1) (t :: texts)
      rw [List.map_cons, write_list_cons, ← List.map_cons]
      simp only [List.length_cons, List.length_append] at items ⊢
      omega
  rw [read, String.toList_ofList, readChars, starts, readValue_texts r arrays s texts (by omega)]
  rfl

/-! ## Lists that are read -/

/-- Words stand for no lists. -/
theorem readWord_ne_list {r : Rules} {cs rest : List Char} {items : List Datum} :
    readWord r cs ≠ some (.list items, rest) := by
  intro found
  obtain ⟨⟨word, value⟩, among, spelled⟩ := List.exists_of_findSome?_eq_some found
  obtain ⟨_, -, same⟩ := Option.map_eq_some_iff.1 spelled
  have list : value = .list items := congrArg Prod.fst same
  subst list
  unfold wordValues at among
  split at among <;> simp at among

/-- A value that is a list begins with a bracket. -/
theorem head?_of_readValue_list {r : Rules} {fuel level : ℕ} {cs rest : List Char} {items : List Datum}
    (found : readValue r fuel level cs = some (.list items, rest)) : cs.head? = some '[' := by
  cases fuel with
  | zero => cases found
  | succ fuel =>
    have otherKind {β : Type} {x : Option β} {f : β → Datum × List Char} (other : ∀ b, (f b).1 ≠ .list items) :
        x.map f ≠ some (.list items, rest) := by
      intro found
      obtain ⟨b, -, same⟩ := Option.map_eq_some_iff.1 found
      exact other b (congrArg Prod.fst same)
    rw [readValue.eq_def] at found
    split at found
    · cases found
    · -- By its first character a value is a text, a list, an object, or else a word or number.
      split at found
      · exact absurd found (otherKind fun _ same => by cases same)
      · rfl
      · split at found
        · cases found
        · split at found
          · cases found
          · exact absurd found (otherKind fun _ same => by cases same)
      · split at found
        · rename_i word
          rw [found] at word
          exact absurd word readWord_ne_list
        · exact absurd found (otherKind fun _ same => by cases same)

/-- A text that is read as a list begins with a bracket, behind blanks. -/
theorem head?_of_read_list {r : Rules} {text : String} {items : List Datum} (found : read r text = some (.list items)) :
    (skipSpace text.toList).head? = some '[' := by
  rw [read, readChars] at found
  split at found
  · rename_i value rest begins
    split at found
    · rw [Option.some.inj found] at begins
      exact head?_of_readValue_list begins
    · cases found
  · cases found

end CatalogFilter.Json
