import CatalogFilter.Dialect.OData
import CatalogFilter.Dialect.Sql
import CatalogFilter.Dialect.Text
import CatalogFilter.Proofs.Text.Joined

/-!
# Phrases of operands

* `Node.odataPhrases_eq_mapM`, `Node.sqlPhrases_eq_mapM`, `Node.textPhrases_eq_mapM`, `Node.groupedPhrases_eq_mapM` — the
  operands of a node are rendered one by one.
* `Phrase.chars_join`, `Phrase.chars_within` — the characters of phrases in a row, and of one between two texts.
-/

namespace CatalogFilter

namespace Node

theorem odataPhrases_eq_mapM (ns : List Node) : odataPhrases ns = ns.mapM odataPhrase := by
  induction ns with
  | nil => rfl
  | cons n rest ih =>
    rw [odataPhrases, ih, List.mapM_cons]
    rfl

theorem sqlPhrases_eq_mapM (ns : List Node) : sqlPhrases ns = ns.mapM sqlPhrase := by
  induction ns with
  | nil => rfl
  | cons n rest ih =>
    rw [sqlPhrases, ih, List.mapM_cons]
    rfl

theorem textPhrases_eq_mapM (ns : List Node) : textPhrases ns = ns.mapM textPhrase := by
  induction ns with
  | nil => rfl
  | cons n rest ih =>
    rw [textPhrases, ih, List.mapM_cons]
    rfl

theorem groupedPhrases_eq_mapM (ns : List Node) :
    groupedPhrases ns = ns.mapM fun n => (textPhrase n).map (grouped n) := by
  induction ns with
  | nil => rfl
  | cons n rest ih =>
    rw [groupedPhrases, ih, List.mapM_cons]
    cases textPhrase n <;> rfl

end Node

namespace Phrase

variable (quote : List Char)

@[simp] theorem chars_bare_cons (s : String) (p : Phrase) : chars quote (.bare s :: p) = s.toList ++ chars quote p := rfl

@[simp] theorem chars_quoted_cons (s : String) (p : Phrase) :
    chars quote (.quoted s :: p) = Piece.quotedChars quote s ++ chars quote p := rfl

theorem chars_within (before after : String) (p : Phrase) :
    chars quote (p.within before after) = before.toList ++ (chars quote p ++ after.toList) := by
  simp [within, chars_append]

theorem join_cons_cons (separator : String) (p q : Phrase) (ps : List Phrase) :
    join separator (p :: q :: ps) = p ++ .bare separator :: join separator (q :: ps) := by
  simp [join]

/-- The characters of phrases in a row are those of each, with the separator between them. -/
theorem chars_join (separator : String) (ps : List Phrase) :
    chars quote (join separator ps) = separator.toList.intercalate (ps.map (chars quote)) := by
  induction ps with
  | nil => rfl
  | cons p ps ih =>
    cases ps with
    | nil => simp [join]
    | cons q ps =>
      have row : (p :: q :: ps).map (chars quote) = chars quote p :: chars quote q :: ps.map (chars quote) := rfl
      rw [join_cons_cons, chars_append, chars_bare_cons, ih, row, List.intercalate_cons_cons, List.append_assoc]
      rfl

end Phrase

end CatalogFilter
