import CatalogFilter.Document.Writer
import CatalogFilter.Proofs.Calendar.Spellings
import CatalogFilter.Proofs.Document.Reading

/-!
# Dates in documents

* `WritesBack` — a text is written again as it was read, unless it spells its date otherwise.
* `readDate_writesBack` — which texts are read as dates, and what becomes of them in a document that is written again.

Year, month and day with hyphens come back as they are. Days of weeks and forms without hyphens pass the same check, for they
have ten characters as well, and come back as year, month and day.
-/

namespace CatalogFilter.Document

open Outcome

/-- The written form of a date is a text, exactly if the text does not spell the date otherwise. -/
def WritesBack (d : Date) (text : String) : Prop :=
  d.text = text ↔ ¬ d.IsSpelledOtherwise text.toList

variable {d : Date} {text : String}

/-- Texts are read as they are written or as they spell a date otherwise. -/
theorem readsDate_str_iff : ReadsDate (.str text) d ↔ text = d.text ∨ d.IsSpelledOtherwise text.toList := by
  constructor
  · rintro ⟨ten, read⟩
    exact (Date.read_eq_ok ten).1 read
  · intro spelled
    have ten : text.length = 10 := by
      rw [← String.length_toList]
      rcases spelled with rfl | spelled
      · rw [Date.toList_text, Date.length_chars]
      · exact spelled.length
    exact ⟨ten, (Date.read_eq_ok ten).2 spelled⟩

/-- No text does both. -/
theorem ReadsDate.writesBack (reads : ReadsDate (.str text) d) : WritesBack d text := by
  constructor
  · rintro rfl spelled
    exact spelled.ne_chars d (Date.toList_text d)
  · intro written
    exact ((readsDate_str_iff.1 reads).resolve_right written).symm

/-- A text is read as a date if it is written so or spells the date otherwise, and then the date comes back from an operand and
from an instant as year, month and day, which is the text again exactly if the text does not spell the date otherwise. -/
theorem readDate_writesBack (functions : List String) (op : String) :
    (∀ text d, readDate op (.str text) = .ok d → WritesBack d text) ∧
    (∀ d, readDate op (.str d.text) = .ok d) ∧
    (∀ text d, d.IsSpelledOtherwise text.toList → readDate op (.str text) = .ok d) ∧
    (∀ members text n, leading? operandKeys members = some ("date", .str text) →
      readOperand functions op (.object members) = .ok n →
      ∃ d, n = .date d ∧ n.toDocument = .object [("date", .str d.text)] ∧ WritesBack d text) ∧
    (∀ members text t, leading? instantKeys members = some ("date", .str text) →
      readInstant op (.object members) = .ok t →
      ∃ d, t = .date d ∧ t.toDocument = .object [("date", .str d.text)] ∧ WritesBack d text) := by
  refine ⟨?_, ?_, ?_, ?_, ?_⟩
  · intro text d read
    exact (readDate_eq_ok.1 read).writesBack
  · intro d
    exact readDate_eq_ok.2 (readsDate_str_iff.2 (.inl rfl))
  · intro text d spelled
    exact readDate_eq_ok.2 (readsDate_str_iff.2 (.inr spelled))
  · intro members text n leads read
    rw [readOperand_object, readFirst_eq_ok] at read
    obtain ⟨key, value, leads', read⟩ := read
    obtain ⟨rfl, rfl⟩ := Prod.mk.inj (Option.some.inj (leads.symm.trans leads'))
    obtain ⟨d, day, rfl⟩ := map_eq_ok.1 read
    exact ⟨d, rfl, rfl, (readDate_eq_ok.1 day).writesBack⟩
  · intro members text t leads read
    rw [readInstant_object, readFirst_eq_ok] at read
    obtain ⟨key, value, leads', read⟩ := read
    obtain ⟨rfl, rfl⟩ := Prod.mk.inj (Option.some.inj (leads.symm.trans leads'))
    obtain ⟨d, day, rfl⟩ := map_eq_ok.1 read
    exact ⟨d, rfl, rfl, (readDate_eq_ok.1 day).writesBack⟩

/-- Thursday of the ninth week of 2024, and that day with two letters behind it, are read as the 29th of February. Neither is its
written form, and what is written for them is another text. -/
theorem readDate_leapDay :
    ∃ d : Date, d.text = "2024-02-29" ∧
      ∀ text ∈ ["2024-W09-4", "20240229ab"], text ≠ d.text ∧ readDate "date" (.str text) = .ok d ∧
        (readInstant "t_after" (.object [("date", .str text)])).map Instant.toDocument =
          .ok (.object [("date", .str "2024-02-29")]) := by
  let d : Date := ⟨2024, 2, 29, by decide⟩
  have week : d.IsWeekDay 2024 9 4 :=
    ⟨by decide, by decide, d, show d.dayNumber % 7 = 4 by decide, rfl, rfl, by decide⟩
  have written : d.text = "2024-02-29" := by decide
  have spelled : ∀ text ∈ ["2024-W09-4", "20240229ab"], d.IsSpelledOtherwise text.toList := by
    have weekForm : "2024-W09-4".toList = Digits.padded 4 2024 ++ '-' :: 'W' ::
        (Digits.padded 2 9 ++ '-' :: Digits.padded 1 4) := by decide
    have plainForm : "20240229ab".toList = Digits.padded 4 d.year ++
        (Digits.padded 2 d.month ++ (Digits.padded 2 d.day ++ ['a', 'b'])) := by decide
    rw [List.forall_mem_cons, List.forall_mem_singleton, weekForm, plainForm]
    exact ⟨.week week, .unseparated (by decide)⟩
  refine ⟨d, written, fun text among => ?_⟩
  have reads (op : String) : readDate op (.str text) = .ok d :=
    readDate_eq_ok.2 (readsDate_str_iff.2 (.inr (spelled text among)))
  refine ⟨?_, reads "date", ?_⟩
  · rintro rfl
    exact (spelled _ among).ne_chars d (Date.toList_text d)
  · show ((readDate "t_after" (.str text)).map Instant.date).map Instant.toDocument = _
    rw [reads, ← written]
    rfl

end CatalogFilter.Document
