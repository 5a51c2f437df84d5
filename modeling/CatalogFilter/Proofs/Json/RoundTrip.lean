import CatalogFilter.Json.Writer
import CatalogFilter.Proofs.Datum.Equality
import CatalogFilter.Proofs.Json.NumberText

/-!
# Written values are read back

* `readString_chars` — the written characters of a text are read as that text.
* `IsJson` — a value that JSON text can stand for: finite numbers, integers of 64 bits, texts, words, lists, and objects
  with distinct names.
* `read_write` — such a value is read back from its written form in either style, as long as it is not nested too deep.

The reader is given fuel by the length of the text. Two steps a character are enough, for an item or a member costs one
step besides those of its value and at least one character of its own.
-/

namespace CatalogFilter.Json

/-! ## Texts -/

/-- The escape of a control character is the character's code unit. -/
theorem codeUnit?_control : ∀ n < 0x20, codeUnit? '0' '0' (Nat.digitChar (n / 16)) (Nat.digitChar (n % 16)) = some n := by
  decide

/-- The written form of a character is read as that character. -/
theorem readString_escapeChar (c : Char) (more : List Char) :
    readString none (escapeChar c ++ more) = (readString none more).map fun (s, rest) => (c :: s, rest) := by
  unfold escapeChar
  split_ifs with quote backslash backspace feed line carriage tab control
  · subst quote; rfl
  · subst backslash; rfl
  · subst backspace; rfl
  · subst feed; rfl
  · subst line; rfl
  · subst carriage; rfl
  · subst tab; rfl
  · have unit := codeUnit?_control c.toNat control
    have low : ¬ (0xD800 ≤ c.toNat ∧ c.toNat < 0xDC00) := by omega
    have low' : ¬ (0xDC00 ≤ c.toNat ∧ c.toNat < 0xE000) := by omega
    simp only [List.cons_append, List.nil_append, readString.eq_def none ('\\' :: _), unit, if_neg low, if_neg low',
      Char.ofNat_toNat]
  · rw [List.singleton_append, readString]
    · simp [backslash, control]
    · exact quote
    · rintro _ _ _ _ _ rfl
      exact absurd rfl backslash
    · rintro _ _ rfl
      exact absurd rfl backslash

/-- The written characters of a text are read as that text, up to the closing quote. -/
theorem readString_chars (cs rest : List Char) :
    readString none (cs.flatMap escapeChar ++ '"' :: rest) = some (cs, rest) := by
  induction cs with
  | nil => rfl
  | cons c cs ih =>
    rw [List.flatMap_cons, List.append_assoc, readString_escapeChar, ih]
    rfl

/-- A written text begins with a quote, behind which it is read. -/
theorem stringChars_append (t : String) (rest : List Char) :
    stringChars t ++ rest = '"' :: (t.toList.flatMap escapeChar ++ '"' :: rest) := by
  simp [stringChars]

/-! ## Values that have a JSON text -/

/-- Whether a number is finite, and of 64 bits if it is an integer. -/
def IsJsonNumber : Number → Prop
  | .int i => fits64 i = true
  | .float x => x.isFinite = true

instance : DecidablePred IsJsonNumber
  | .int i => inferInstanceAs (Decidable (fits64 i = true))
  | .float x => inferInstanceAs (Decidable (x.isFinite = true))

mutual

/-- Whether a value consists of null, booleans, numbers, texts, lists, and objects with distinct names. -/
def Keyed : Datum → Prop
  | .null => True
  | .bool _ => True
  | .num _ => True
  | .str _ => True
  | .list items => AllKeyed items
  | .object members => (members.map Prod.fst).Nodup ∧ MembersKeyed members
  | _ => False

/-- `Keyed` of each item. -/
def AllKeyed : List Datum → Prop
  | [] => True
  | d :: rest => Keyed d ∧ AllKeyed rest

/-- `Keyed` of each member's value. -/
def MembersKeyed : List (String × Datum) → Prop
  | [] => True
  | (_, d) :: rest => Keyed d ∧ MembersKeyed rest

end

/-- A value that JSON text brings back. -/
structure IsJson (d : Datum) : Prop where
  keyed : Keyed d
  numbers : d.Numbers IsJsonNumber

theorem allKeyed_iff (items : List Datum) : AllKeyed items ↔ ∀ d ∈ items, Keyed d := by
  induction items with
  | nil => simp [AllKeyed]
  | cons d rest ih => simp [AllKeyed, ih]

theorem membersKeyed_iff (members : List (String × Datum)) : MembersKeyed members ↔ ∀ m ∈ members, Keyed m.2 := by
  induction members with
  | nil => simp [MembersKeyed]
  | cons m rest ih => simp [MembersKeyed, ih]

/-- A list is a value of JSON just if its items are. -/
theorem isJson_list_iff {items : List Datum} : IsJson (.list items) ↔ ∀ d ∈ items, IsJson d := by
  constructor
  · rintro ⟨keyed, numbers⟩ d h
    exact ⟨(allKeyed_iff items).1 keyed d h, (Datum.allNumbers_iff items).1 numbers d h⟩
  · intro each
    exact ⟨(allKeyed_iff items).2 fun d h => (each d h).keyed, (Datum.allNumbers_iff items).2 fun d h => (each d h).numbers⟩

/-- An object is a value of JSON just if its names are distinct and its members' values are values of JSON. -/
theorem isJson_object_iff {members : List (String × Datum)} :
    IsJson (.object members) ↔ (members.map Prod.fst).Nodup ∧ ∀ m ∈ members, IsJson m.2 := by
  constructor
  · rintro ⟨⟨distinct, keyed⟩, numbers⟩
    refine ⟨distinct, fun m h => ?_⟩
    exact ⟨(membersKeyed_iff members).1 keyed m h, (Datum.memberNumbers_iff members).1 numbers m h⟩
  · rintro ⟨distinct, each⟩
    exact ⟨⟨distinct, (membersKeyed_iff members).2 fun m h => (each m h).keyed⟩,
      (Datum.memberNumbers_iff members).2 fun m h => (each m h).numbers⟩

/-! ## Blanks -/

/-- A text that begins with a character that begins a value. -/
def Begins (cs : List Char) : Prop :=
  ∃ c rest, cs = c :: rest ∧ isSpace c = false ∧ c ≠ ']'

theorem Begins.append {cs : List Char} (h : Begins cs) (more : List Char) : Begins (cs ++ more) := by
  obtain ⟨c, rest, rfl, space, bracket⟩ := h
  exact ⟨c, rest ++ more, rfl, space, bracket⟩

theorem Begins.stops {cs : List Char} (h : Begins cs) : Text.Stops isSpace cs := by
  obtain ⟨c, rest, rfl, space, -⟩ := h
  exact Text.stops_cons.2 space

theorem isSpace_of_mem_lineBreak {s : Style} {level : ℕ} {c : Char} (h : c ∈ s.lineBreak level) : isSpace c = true := by
  cases s with
  | compact => cases h
  | indented =>
    rcases List.mem_cons.1 h with rfl | h
    · rfl
    · rw [List.eq_of_mem_replicate h]
      rfl

/-- A line break is skipped. -/
theorem skipSpace_lineBreak (s : Style) (level : ℕ) {cs : List Char} (h : Text.Stops isSpace cs) :
    skipSpace (s.lineBreak level ++ cs) = cs :=
  Text.dropWhile_run (fun _ => isSpace_of_mem_lineBreak) h

theorem skipSpace_of_stops {cs : List Char} (h : Text.Stops isSpace cs) : skipSpace cs = cs :=
  skipSpace_lineBreak .compact 0 h

/-- The blank behind a colon is skipped. -/
theorem skipSpace_colon (s : Style) {cs : List Char} (h : Text.Stops isSpace cs) :
    ∃ blank, s.colon ++ cs = ':' :: blank ∧ skipSpace blank = cs := by
  cases s with
  | compact => exact ⟨cs, rfl, skipSpace_of_stops h⟩
  | indented => exact ⟨' ' :: cs, rfl, skipSpace_of_stops h⟩

/-- Behind an array or object a number cannot go on. -/
theorem ends_lineBreak (s : Style) (level : ℕ) {c : Char} (h : (c.isDigit || c == '.' || c == 'e' || c == 'E') = false)
    (rest : List Char) : Numeral.Ends (s.lineBreak level ++ c :: rest) := by
  cases s with
  | compact => exact Text.stops_cons.2 h
  | indented => exact Text.stops_cons.2 rfl

/-! ## Numbers and words -/

/-- The text of a number of JSON is a numeral with its sign, which stands for the number. -/
theorem exists_numberChars {m : Number} (h : IsJsonNumber m) :
    ∃ negative n, numberChars m = signed negative n ∧ Numeral.number? .strict negative n = some m := by
  cases m with
  | int i =>
    obtain ⟨n, written, stands⟩ := exists_intText i
    exact ⟨_, n, written, stands _ fun _ => h⟩
  | float x =>
    cases x with
    | finite negative exponent fraction =>
      obtain ⟨n, written, stands⟩ := exists_write numbers negative exponent fraction
      exact ⟨negative, n, written, stands _⟩
    | nan => cases h
    | infinite negative => cases h

/-- Every written value begins with a character of its own. -/
theorem begins_write (s : Style) (level : ℕ) {d : Datum} (h : IsJson d) : Begins (write s level d) := by
  cases d with
  | null => exact ⟨'n', _, rfl, rfl, by decide⟩
  | bool b =>
    cases b with
    | false => exact ⟨'f', _, rfl, rfl, by decide⟩
    | true => exact ⟨'t', _, rfl, rfl, by decide⟩
  | num n =>
    obtain ⟨negative, n, written, -⟩ := exists_numberChars h.numbers
    obtain ⟨c, cs, begins, first⟩ := exists_signed_eq_cons negative n
    refine ⟨c, cs, by rw [write, written, begins], ?_, ?_⟩
    · by_contra space
      rw [Bool.not_eq_false] at space
      simp only [isSpace, Bool.or_eq_true, decide_eq_true_eq] at space
      rcases space with ((rfl | rfl) | rfl) | rfl <;> revert first <;> decide
    · rintro rfl
      revert first
      decide
  | str t => exact ⟨'"', _, by rw [write, stringChars]; rfl, rfl, by decide⟩
  | list items =>
    cases items with
    | nil => exact ⟨'[', _, rfl, rfl, by decide⟩
    | cons d rest => exact ⟨'[', _, rfl, rfl, by decide⟩
  | object members =>
    cases members with
    | nil => exact ⟨'\x7b', _, rfl, rfl, by decide⟩
    | cons m rest => exact ⟨'\x7b', _, rfl, rfl, by decide⟩
  | tuple items => cases h.keyed
  | datetime d => cases h.keyed
  | date d => cases h.keyed
  | other f => cases h.keyed

/-- No word begins like a number. -/
theorem readWord_cons {c : Char} (h : c.isDigit = true ∨ c = '-') (cs : List Char) : readWord .strict (c :: cs) = none := by
  have n : c ≠ 'n' := by rintro rfl; revert h; decide
  have t : c ≠ 't' := by rintro rfl; revert h; decide
  have f : c ≠ 'f' := by rintro rfl; revert h; decide
  simp [readWord, wordValues, Rules.strict, Text.dropStart?, n.symm, t.symm, f.symm]

/-- A number is read where a value stands. -/
theorem readValue_number {m : Number} (h : IsJsonNumber m) (fuel level : ℕ) {rest : List Char} (ends : Numeral.Ends rest) :
    readValue .strict (fuel + 1) level (numberChars m ++ rest) = some (.num m, rest) := by
  obtain ⟨negative, n, written, stands⟩ := exists_numberChars h
  have number : readNumber .strict (numberChars m ++ rest) = some (m, rest) := by
    rw [written, readNumber_signed _ _ _ ends, stands]
    rfl
  obtain ⟨c, cs, begins, first⟩ := exists_signed_eq_cons negative n
  rw [written, begins, List.cons_append] at number ⊢
  have quote : c ≠ '"' := by rintro rfl; revert first; decide
  have bracket : c ≠ '[' := by rintro rfl; revert first; decide
  have brace : c ≠ '\x7b' := by rintro rfl; revert first; decide
  rw [readValue]
  · rw [readWord_cons first, number]
    rfl
  · exact fun _ same => quote (List.cons.inj same).1
  · exact fun _ same => bracket (List.cons.inj same).1
  · exact fun _ same => brace (List.cons.inj same).1

/-! ## Arrays and objects -/

theorem put_of_notMem {members : List (String × Datum)} {name : String} (h : name ∉ members.map Prod.fst) (d : Datum) :
    put members name d = members ++ [(name, d)] := by
  refine if_neg fun known => h ?_
  obtain ⟨m, member, same⟩ := List.any_eq_true.1 known
  exact List.mem_map.2 ⟨m, member, by simpa using same⟩

section Steps

variable {r : Rules} {fuel level : ℕ} {cs more rest : List Char} {d : Datum}

/-- The last item of an array. -/
theorem readItems_last (value : readValue r fuel level cs = some (d, more)) (closes : skipSpace more = ']' :: rest) :
    readItems r (fuel + 1) level cs = some ([d], rest) := by
  rw [readItems, value]
  simp only [closes]

/-- An item of an array with others behind it. -/
theorem readItems_comma {items : List Datum} {others : List Char} (value : readValue r fuel level cs = some (d, more))
    (comma : skipSpace more = ',' :: others) (next : readItems r fuel level (skipSpace others) = some (items, rest)) :
    readItems r (fuel + 1) level cs = some (d :: items, rest) := by
  rw [readItems, value]
  simp only [comma, next, Option.map_some]

/-- The last member of an object. -/
theorem readMembers_last (found : List (String × Datum)) {name : List Char} (quoted : readString none cs = some (name, more))
    {blank : List Char} (colon : skipSpace more = ':' :: blank) {after : List Char}
    (value : readValue r fuel level (skipSpace blank) = some (d, after)) (closes : skipSpace after = '\x7d' :: rest) :
    readMembers r (fuel + 1) level found ('"' :: cs) = some (put found (String.ofList name) d, rest) := by
  rw [readMembers, quoted]
  simp only [colon, value, closes]

/-- A member of an object with others behind it. -/
theorem readMembers_comma (found : List (String × Datum)) {name : List Char}
    (quoted : readString none cs = some (name, more)) {blank : List Char} (colon : skipSpace more = ':' :: blank)
    {after : List Char} (value : readValue r fuel level (skipSpace blank) = some (d, after)) {others : List Char}
    (comma : skipSpace after = ',' :: others) :
    readMembers r (fuel + 1) level found ('"' :: cs) =
      readMembers r fuel level (put found (String.ofList name) d) (skipSpace others) := by
  rw [readMembers, quoted]
  simp only [colon, value, comma]

end Steps

variable {rest : List Char}

/-- What stands behind the last item of a written array. -/
theorem skipSpace_close (s : Style) (level : ℕ) {c : Char} (h : isSpace c = false) :
    skipSpace (s.lineBreak level ++ c :: rest) = c :: rest :=
  skipSpace_lineBreak s level (Text.stops_cons.2 h)

theorem write_list_cons (s : Style) (level : ℕ) (d : Datum) (items : List Datum) :
    write s level (.list (d :: items)) =
      '[' :: (writeItems s (level + 1) (d :: items) ++ (s.lineBreak level ++ [']'])) := by
  rw [write, List.append_assoc]
  · rfl
  · exact nofun

theorem write_object_cons (s : Style) (level : ℕ) (m : String × Datum) (members : List (String × Datum)) :
    write s level (.object (m :: members)) =
      '\x7b' :: (writeMembers s (level + 1) (m :: members) ++ (s.lineBreak level ++ ['\x7d'])) := by
  rw [write, List.append_assoc]
  · rfl
  · exact nofun

/-- A tuple is written as an array. -/
theorem write_tuple (s : Style) (level : ℕ) (items : List Datum) : write s level (.tuple items) = write s level (.list items) := by
  cases items <;> simp [write]

theorem writeItems_cons (s : Style) (level : ℕ) (d : Datum) (items : List Datum) :
    writeItems s level (d :: items) =
      s.lineBreak level ++ (write s level d ++ if items = [] then [] else ',' :: writeItems s level items) := by
  cases items with
  | nil => simp [writeItems]
  | cons e items => rw [writeItems, if_neg nofun, List.append_assoc]; exact nofun

theorem writeMembers_cons (s : Style) (level : ℕ) (name : String) (d : Datum) (members : List (String × Datum)) :
    writeMembers s level ((name, d) :: members) =
      s.lineBreak level ++ (stringChars name ++ (s.colon ++
        (write s level d ++ if members = [] then [] else ',' :: writeMembers s level members))) := by
  cases members with
  | nil => simp [writeMembers]
  | cons m members => rw [writeMembers, if_neg nofun]; simp; exact nofun

/-- A written array begins with its first item. -/
theorem begins_writeItems (s : Style) (level : ℕ) {d : Datum} (items : List Datum) (json : IsJson d) (close : List Char) :
    Begins (skipSpace (writeItems s level (d :: items) ++ close)) := by
  have first := ((begins_write s level json).append (if items = [] then [] else ',' :: writeItems s level items)).append close
  rwa [writeItems_cons, List.append_assoc, skipSpace_lineBreak _ _ first.stops]

/-- A written object begins with the quote of its first name. -/
theorem skipSpace_writeMembers (s : Style) (level : ℕ) (name : String) (d : Datum) (members : List (String × Datum))
    (close : List Char) :
    skipSpace (writeMembers s level ((name, d) :: members) ++ close) =
      '"' :: (name.toList.flatMap escapeChar ++ '"' :: (s.colon ++
        (write s level d ++ ((if members = [] then [] else ',' :: writeMembers s level members) ++ close)))) := by
  rw [writeMembers_cons, List.append_assoc, List.append_assoc, List.append_assoc, List.append_assoc, stringChars_append,
    skipSpace_lineBreak]
  exact Text.stops_cons.2 rfl

mutual

/-- A value is read back from its written form, up to what cannot go on it. -/
theorem readValue_write (d : Datum) (s : Style) (level fuel : ℕ) (json : IsJson d) (shallow : level + depth d < 1024)
    (enough : 2 * (write s level d).length ≤ fuel + 1) {rest : List Char} (ends : Numeral.Ends rest) :
    readValue .strict fuel level (write s level d ++ rest) = some (d, rest) := by
  obtain ⟨first, others, begins, -⟩ := begins_write s level json
  obtain ⟨fuel, rfl⟩ : ∃ k, fuel = k + 1 := by
    refine ⟨fuel - 1, ?_⟩
    rw [begins, List.length_cons] at enough
    omega
  have inside : Rules.strict.depth ≠ some level := by
    rintro ⟨⟩
    omega
  cases d with
  | null => rfl
  | bool b => cases b <;> rfl
  | num n => exact readValue_number json.numbers fuel level ends
  | str t =>
    rw [write, stringChars_append, readValue, readString_chars]
    simp
  | list items =>
    cases items with
    | nil =>
      rw [write, List.cons_append, readValue, if_neg inside]
      rfl
    | cons d items =>
      have each := isJson_list_iff.1 json
      rw [write_list_cons] at enough ⊢
      rw [List.length_cons, List.length_append] at enough
      have deeper : level + 1 + depthAll (d :: items) < 1024 := by
        change level + (depthAll (d :: items) + 1) < 1024 at shallow
        omega
      have read := readItems_writeItems (d :: items) nofun s (level + 1) fuel each deeper (by omega)
        (ends_lineBreak s level rfl rest) (skipSpace_close s level rfl)
      obtain ⟨c, more, same, -, bracket⟩ :=
        begins_writeItems s (level + 1) items (each d List.mem_cons_self) (s.lineBreak level ++ ']' :: rest)
      rw [List.cons_append, List.append_assoc, List.append_assoc, readValue, if_neg inside, List.singleton_append]
      rw [same] at read ⊢
      split
      · rename_i empty
        exact absurd (List.cons.inj empty).1 bracket
      · rw [read]
        rfl
  | object members =>
    cases members with
    | nil =>
      rw [write, List.cons_append, readValue, if_neg inside]
      rfl
    | cons m members =>
      obtain ⟨distinct, each⟩ := isJson_object_iff.1 json
      rw [write_object_cons] at enough ⊢
      rw [List.length_cons, List.length_append] at enough
      have deeper : level + 1 + depthMembers (m :: members) < 1024 := by
        change level + (depthMembers (m :: members) + 1) < 1024 at shallow
        omega
      have read := readMembers_writeMembers (m :: members) nofun s (level + 1) fuel [] distinct each deeper (by omega)
        (ends_lineBreak s level rfl rest) (skipSpace_close s level rfl)
      have quoted := skipSpace_writeMembers s (level + 1) m.1 m.2 members (s.lineBreak level ++ '\x7d' :: rest)
      rw [List.cons_append, List.append_assoc, List.append_assoc, readValue, if_neg inside, List.singleton_append]
      rw [quoted] at read ⊢
      split
      · rename_i empty
        cases empty
      · rw [read]
        rfl
  | tuple items => cases json.keyed
  | datetime d => cases json.keyed
  | date d => cases json.keyed
  | other f => cases json.keyed

/-- The items of a written array are read back up to its bracket. -/
theorem readItems_writeItems (items : List Datum) (nonempty : items ≠ []) (s : Style) (level fuel : ℕ)
    (json : ∀ d ∈ items, IsJson d) (shallow : level + depthAll items < 1024)
    (enough : 2 * (writeItems s level items).length ≤ fuel) {close rest : List Char} (ends : Numeral.Ends close)
    (closes : skipSpace close = ']' :: rest) :
    readItems .strict fuel level (skipSpace (writeItems s level items ++ close)) = some (items, rest) := by
  cases items with
  | nil => exact absurd rfl nonempty
  | cons d items =>
    have here : IsJson d := json d List.mem_cons_self
    have there : ∀ e ∈ items, IsJson e := fun e h => json e (List.mem_cons_of_mem d h)
    obtain ⟨first, others, begins, -⟩ := begins_write s level here
    rw [writeItems_cons] at enough ⊢
    rw [List.length_append, List.length_append] at enough
    obtain ⟨fuel, rfl⟩ : ∃ k, fuel = k + 1 := by
      refine ⟨fuel - 1, ?_⟩
      rw [begins, List.length_cons] at enough
      omega
    rw [depthAll] at shallow
    rw [List.append_assoc, List.append_assoc, skipSpace_lineBreak _ _ ((begins_write s level here).append _).stops]
    by_cases last : items = []
    · subst last
      rw [if_pos rfl, List.nil_append]
      have value := readValue_write d s level fuel here (by omega) (by omega) ends
      exact readItems_last value closes
    · rw [if_neg last] at enough ⊢
      rw [List.length_cons] at enough
      have comma : Numeral.Ends (',' :: writeItems s level items ++ close) := Text.stops_cons.2 rfl
      have value := readValue_write d s level fuel here (by omega) (by omega) comma
      have next := readItems_writeItems items last s level fuel there (by omega) (by omega) ends closes
      exact readItems_comma value rfl next

/-- The members of a written object are read back up to its brace, behind those found already. -/
theorem readMembers_writeMembers (members : List (String × Datum)) (nonempty : members ≠ []) (s : Style)
    (level fuel : ℕ) (found : List (String × Datum)) (distinct : ((found ++ members).map Prod.fst).Nodup)
    (json : ∀ m ∈ members, IsJson m.2) (shallow : level + depthMembers members < 1024)
    (enough : 2 * (writeMembers s level members).length ≤ fuel) {close rest : List Char} (ends : Numeral.Ends close)
    (closes : skipSpace close = '\x7d' :: rest) :
    readMembers .strict fuel level found (skipSpace (writeMembers s level members ++ close)) =
      some (found ++ members, rest) := by
  cases members with
  | nil => exact absurd rfl nonempty
  | cons m members =>
    obtain ⟨name, d⟩ := m
    have here : IsJson d := json (name, d) List.mem_cons_self
    have there : ∀ m ∈ members, IsJson m.2 := fun m h => json m (List.mem_cons_of_mem _ h)
    rw [writeMembers_cons] at enough
    simp only [List.length_append] at enough
    obtain ⟨first, others, begins, -⟩ := begins_write s level here
    obtain ⟨fuel, rfl⟩ : ∃ k, fuel = k + 1 := by
      refine ⟨fuel - 1, ?_⟩
      rw [begins, List.length_cons] at enough
      omega
    rw [depthMembers] at shallow
    have new : name ∉ found.map Prod.fst := by
      rw [List.map_append, List.nodup_append] at distinct
      intro old
      exact distinct.2.2 name old name List.mem_cons_self rfl
    rw [skipSpace_writeMembers]
    set tail := (if members = [] then [] else ',' :: writeMembers s level members) ++ close with tailIs
    have ends' : Numeral.Ends tail := by
      rw [tailIs]
      split
      · exact ends
      · exact Text.stops_cons.2 rfl
    obtain ⟨blank, colon, skipped⟩ := skipSpace_colon s ((begins_write s level here).append tail).stops
    have value := readValue_write d s level fuel here (by omega) (by omega) ends'
    rw [← skipped] at value
    by_cases last : members = []
    · have closing : skipSpace tail = '\x7d' :: rest := by rw [tailIs, if_pos last, List.nil_append, closes]
      rw [colon, readMembers_last found (readString_chars _ _) (skipSpace_of_stops (Text.stops_cons.2 rfl)) value closing,
        String.ofList_toList, put_of_notMem new, last]
    · have comma : skipSpace tail = ',' :: (writeMembers s level members ++ close) := by
        rw [tailIs, if_neg last]
        exact skipSpace_of_stops (Text.stops_cons.2 rfl)
      rw [if_neg last, List.length_cons] at enough
      have next := readMembers_writeMembers members last s level fuel (found ++ [(name, d)]) (by simpa using distinct)
        there (by omega) (by omega) ends closes
      rw [List.append_assoc, List.singleton_append] at next
      rw [colon, readMembers_comma found (readString_chars _ _) (skipSpace_of_stops (Text.stops_cons.2 rfl)) value comma,
        String.ofList_toList, put_of_notMem new]
      exact next

end

/-! ## Texts of values -/

mutual

/-- The leaves of a value of JSON have written forms. -/
theorem plainLeaves_of_isJson (d : Datum) (json : IsJson d) : plainLeaves d = true := by
  cases d with
  | num n =>
    cases n with
    | int i => exact json.numbers
    | float x => rfl
  | list items => exact plainLeavesAll_of_isJson items (isJson_list_iff.1 json)
  | object members => exact plainLeavesMembers_of_isJson members (isJson_object_iff.1 json).2
  | tuple items => cases json.keyed
  | other f => cases json.keyed
  | _ => rfl

theorem plainLeavesAll_of_isJson (items : List Datum) (json : ∀ d ∈ items, IsJson d) : plainLeavesAll items = true := by
  cases items with
  | nil => rfl
  | cons d items =>
    rw [plainLeavesAll, plainLeaves_of_isJson d (json d List.mem_cons_self),
      plainLeavesAll_of_isJson items fun e h => json e (List.mem_cons_of_mem d h), Bool.and_self]

theorem plainLeavesMembers_of_isJson (members : List (String × Datum)) (json : ∀ m ∈ members, IsJson m.2) :
    plainLeavesMembers members = true := by
  cases members with
  | nil => rfl
  | cons m members =>
    rw [plainLeavesMembers, plainLeaves_of_isJson m.2 (json m List.mem_cons_self),
      plainLeavesMembers_of_isJson members fun n h => json n (List.mem_cons_of_mem m h), Bool.and_self]

end

/-- A value of JSON that is not nested too deep has a text. -/
theorem write?_of_isJson (s : Style) {d : Datum} (json : IsJson d) (shallow : depth d ≤ 254) :
    write? s d = some (String.ofList (write s 0 d)) :=
  if_pos ⟨shallow, plainLeaves_of_isJson d json⟩

/-- A value is read back from its text in either style. -/
theorem read_write (s : Style) {d : Datum} (json : IsJson d) (shallow : depth d < 1024) :
    read .strict (String.ofList (write s 0 d)) = some d := by
  have value := readValue_write d s 0 (2 * (write s 0 d).length + 2) json (by omega) (by omega) (Text.stops_nil _)
  have starts := skipSpace_of_stops (begins_write s 0 json).stops
  rw [List.append_nil] at value
  rw [read, String.toList_ofList, readChars, starts, value]
  rfl

end CatalogFilter.Json
