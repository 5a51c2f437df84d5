import Mathlib

/-!
# Texts in a row

* `Text.Tells` — what is written for a value tells it from other values, and where it ends, whatever stands behind it.
* `Text.intercalate_cons` — a row of texts begins with its first one.
* `Text.Tells.row` — a row of written values with a separator between them tells the values, if each of them is told.
* `Text.Tells.row_ne` — it also tells the separator, if there is one in it.

A written form alone may be a beginning of another one. That is why a value is told in front of two texts that may
differ: a row is taken apart from the left, and what is left of both rows is the same again.
-/

namespace CatalogFilter.Text

variable {α β : Type}

/-- Whether the written forms of a value are told from those of other values, up to `same`, in front of texts in which
none of them goes on. -/
def Tells (written : α → List Char → Prop) (same : α → α → Prop) (ends : List Char → Prop) (a : α) : Prop :=
  ∀ ⦃b : α⦄ ⦃cs ds rest rest' : List Char⦄, written a cs → written b ds → ends rest → ends rest' →
    cs ++ rest = ds ++ rest' → same a b ∧ rest = rest'

/-- What is told in front of some texts is told in front of fewer. -/
theorem Tells.imp {written : α → List Char → Prop} {same : α → α → Prop} {ends ends' : List Char → Prop} {a : α}
    (h : Tells written same ends a) (fewer : ∀ rest, ends' rest → ends rest) : Tells written same ends' a :=
  fun _ _ _ _ _ left right hr hr' => h left right (fewer _ hr) (fewer _ hr')

/-- A row begins with the first of its parts; where there are others, the separator and their row follow. -/
theorem intercalate_cons (separator cs : List β) (texts : List (List β)) :
    separator.intercalate (cs :: texts) =
      cs ++ if texts = [] then [] else separator ++ separator.intercalate texts := by
  cases texts with
  | nil => simp
  | cons ds texts => rw [List.intercalate_cons_cons, if_neg nofun, List.append_assoc]

/-- A character of a row is one of the separator or one of the texts. -/
theorem mem_of_mem_intercalate {c : Char} {separator : List Char} {texts : List (List Char)}
    (h : c ∈ separator.intercalate texts) : c ∈ separator ∨ ∃ cs ∈ texts, c ∈ cs := by
  induction texts with
  | nil => cases h
  | cons cs texts ih =>
    rw [intercalate_cons, List.mem_append] at h
    rcases h with h | h
    · exact .inr ⟨cs, List.mem_cons_self, h⟩
    · split at h
      · cases h
      · rcases List.mem_append.1 h with h | h
        · exact .inl h
        · rcases ih h with h | ⟨ds, member, h⟩
          · exact .inl h
          · exact .inr ⟨ds, List.mem_cons_of_mem cs member, h⟩

section Rows

variable {written : α → List Char → Prop} {same : α → α → Prop} {ends closes : List Char → Prop}
  {separator : List Char}

/-- What may stand around the items of a row. -/
structure Rows (written : α → List Char → Prop) (ends closes : List Char → Prop) (separator : List Char) : Prop where
  /-- No item goes on in a separator. -/
  between : ∀ rest, ends (separator ++ rest)
  /-- No item goes on behind the row. -/
  behind : ∀ rest, closes rest → ends rest
  /-- What stands behind a row is no separator. -/
  notSeparator : ∀ rest more, closes rest → rest ≠ separator ++ more
  /-- What stands behind a row is no item. -/
  notItem : ∀ b ds, written b ds → ∀ rest more, ends more → closes rest → rest ≠ ds ++ more

/-- No item goes on behind the first of a row. -/
theorem Rows.tail (rows : Rows written ends closes separator) (more : List (List Char)) {rest : List Char}
    (h : closes rest) : ends ((if more = [] then [] else separator ++ separator.intercalate more) ++ rest) := by
  split
  · exact rows.behind rest h
  · rw [List.append_assoc]
    exact rows.between _

/-- A row of written values tells the values, if each of them is told. -/
theorem Tells.row (rows : Rows written ends closes separator) {xs : List α}
    (each : ∀ a ∈ xs, Tells written same ends a) {ys : List α} {texts texts' : List (List Char)}
    (left : List.Forall₂ written xs texts) (right : List.Forall₂ written ys texts') {rest rest' : List Char}
    (hr : closes rest) (hr' : closes rest')
    (equal : separator.intercalate texts ++ rest = separator.intercalate texts' ++ rest') :
    List.Forall₂ same xs ys ∧ rest = rest' := by
  induction left generalizing ys texts' with
  | nil =>
    cases right with
    | nil => exact ⟨.nil, equal⟩
    | cons first others =>
      rw [intercalate_cons, List.append_assoc] at equal
      exact absurd equal (rows.notItem _ _ first _ _ (rows.tail _ hr') hr)
  | @cons x cs xs texts first others ih =>
    cases right with
    | nil =>
      rw [intercalate_cons, List.append_assoc] at equal
      exact absurd equal.symm (rows.notItem _ _ first _ _ (rows.tail _ hr) hr')
    | @cons y ds ys texts' first' others' =>
      rw [intercalate_cons, intercalate_cons, List.append_assoc, List.append_assoc] at equal
      obtain ⟨head, equal⟩ :=
        each x List.mem_cons_self first first' (rows.tail _ hr) (rows.tail _ hr') equal
      have inner : ∀ a ∈ xs, Tells written same ends a := fun a h => each a (List.mem_cons_of_mem x h)
      by_cases last : texts = []
      · subst last
        by_cases last' : texts' = []
        · subst last'
          cases others
          cases others'
          exact ⟨.cons head .nil, equal⟩
        · rw [if_pos rfl, if_neg last', List.append_assoc] at equal
          exact absurd equal (rows.notSeparator _ _ hr)
      · by_cases last' : texts' = []
        · subst last'
          rw [if_pos rfl, if_neg last, List.append_assoc] at equal
          exact absurd equal.symm (rows.notSeparator _ _ hr')
        · rw [if_neg last, if_neg last', List.append_assoc, List.append_assoc, List.append_cancel_left_eq] at equal
          obtain ⟨tails, equal⟩ := ih inner others' equal
          exact ⟨.cons head tails, equal⟩

/-- Rows with separators that differ are told apart, unless both are too short to have one. -/
theorem Tells.row_ne {separator' : List Char} (rows : Rows written ends closes separator)
    (rows' : Rows written ends closes separator') {xs : List α} (each : ∀ a ∈ xs, Tells written same ends a)
    {ys : List α} {texts texts' : List (List Char)} (left : List.Forall₂ written xs texts)
    (right : List.Forall₂ written ys texts') {rest rest' : List Char} (hr : closes rest) (hr' : closes rest')
    (long : 2 ≤ xs.length ∨ 2 ≤ ys.length) (apart : ∀ more more', separator ++ more ≠ separator' ++ more') :
    separator.intercalate texts ++ rest ≠ separator'.intercalate texts' ++ rest' := by
  intro equal
  cases left with
  | nil =>
    cases right with
    | nil => simp at long
    | cons first others =>
      rw [intercalate_cons, List.append_assoc] at equal
      exact rows'.notItem _ _ first _ _ (rows'.tail _ hr') hr equal
  | @cons x cs xs texts first others =>
    cases right with
    | nil =>
      rw [intercalate_cons, List.append_assoc] at equal
      exact rows.notItem _ _ first _ _ (rows.tail _ hr) hr' equal.symm
    | @cons y ds ys texts' first' others' =>
      rw [intercalate_cons, intercalate_cons, List.append_assoc, List.append_assoc] at equal
      obtain ⟨-, equal⟩ := each x List.mem_cons_self first first' (rows.tail _ hr) (rows'.tail _ hr') equal
      by_cases last : texts = []
      · subst last
        by_cases last' : texts' = []
        · subst last'
          cases others
          cases others'
          simp at long
        · rw [if_pos rfl, if_neg last', List.append_assoc] at equal
          exact rows'.notSeparator _ _ hr equal
      · rw [if_neg last, List.append_assoc] at equal
        by_cases last' : texts' = []
        · rw [if_pos last'] at equal
          exact rows.notSeparator _ _ hr' equal.symm
        · rw [if_neg last', List.append_assoc] at equal
          exact apart _ _ equal

end Rows

end CatalogFilter.Text
