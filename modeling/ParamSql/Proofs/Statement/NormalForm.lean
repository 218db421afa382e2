import ParamSql.Proofs.Statement.Build
import ParamSql.Proofs.Text.Spaced

/-!
The normal form of statements.

A batch is collapsed member by member, and once more as a whole. Collapsing gives a normal form that
semicolons between texts do not disturb, so the second time changes nothing
(`collapse_normalises`).
-/

namespace ParamSql

open Text

/-- A collapsed text has no two spaces side by side and no blank at its ends, and collapsing it
again changes nothing. It is the stripped text but for spaces: what is stripped, if anything is
left, is words with runs of spaces between them, and the collapsed text has these words with one
space for every run. Collapsed texts are collapsed as they stand with semicolons between them, so
the text of a batch is the texts of its members. -/
theorem collapse_normalises :
    (∀ s : String,
      Collapsed (collapse s).toList ∧
        collapse (collapse s) = collapse s ∧
        (collapse s).toList.filter (· != ' ') = (strip s).toList.filter (· != ' ') ∧
        (strip s ≠ "" → ∃ t : Spaced, (strip s).toList = t.text) ∧
        ∀ t : Spaced, (strip s).toList = t.text → (collapse s).toList = t.single) ∧
      (∀ texts : List String, (∀ t ∈ texts, ∃ s, collapse s = t) →
        collapse (";".intercalate texts) = ";".intercalate texts) ∧
      ∀ config verb drafts compiled,
        (Compiled.batch config verb drafts).result = .ok compiled →
          ∃ texts, ((Compiled.texts drafts).run (.empty true)).result = .ok texts ∧
            compiled.query = ";".intercalate texts := by
  have hjoined : ∀ texts : List String, (∀ t ∈ texts, ∃ s, collapse s = t) →
      collapse (";".intercalate texts) = ";".intercalate texts := by
    intro texts htexts
    apply collapse_of_collapsed
    refine Collapsed.intercalate fun t ht => ?_
    obtain ⟨s, rfl⟩ := htexts t ht
    exact collapsed_collapse s
  refine ⟨fun s => ?_, hjoined, fun config verb drafts compiled hbatch => ?_⟩
  · have hcollapsed := collapsed_collapse s
    refine ⟨hcollapsed, collapse_of_collapsed hcollapsed, filter_not_space_collapse s,
      exists_spaced, fun t ht => ?_⟩
    rw [toList_collapse, ht, squeezeSpaces_text]
  · obtain ⟨texts, hrun, hquery⟩ := Compiled.batch_eq_ok hbatch
    exact ⟨texts, hrun, hquery.trans (hjoined _ (Compiled.collapsed_texts_run hrun))⟩

/-- Two words with two spaces more between them than they need; a tab is no space. -/
def namesApart : Spaced where
  first := ⟨['a', '\t'], by decide, by decide⟩
  others := [(2, ⟨['b'], by decide, by decide⟩)]

def draftsApart : List (Draft Sql) :=
  [pure (.verbatim " SELECT  1 "), pure (.verbatim "SELECT 2\n")]

theorem collapse_normalises_apart :
    (strip " \na\t   b \t" ≠ "" ∧ (strip " \na\t   b \t").toList = namesApart.text ∧
        (collapse " \na\t   b \t").toList = ['a', '\t', ' ', 'b']) ∧
      (collapse " a  b" = "a b" ∧ collapse "c\n" = "c" ∧ collapse "a b;c" = "a b;c") ∧
      (Compiled.batch {} .deletes draftsApart).result = .ok ⟨"SELECT 1;SELECT 2", [], true⟩ ∧
      ∃ texts, ((Compiled.texts draftsApart).run (.empty true)).result = .ok texts ∧
        "SELECT 1;SELECT 2" = ";".intercalate texts := by
  obtain ⟨hform, hjoined, hbatch⟩ := collapse_normalises
  have htext : (strip " \na\t   b \t").toList = namesApart.text := by decide
  have hfirst : collapse " a  b" = "a b" := by decide
  have hsecond : collapse "c\n" = "c" := by decide
  have hcompiled : (Compiled.batch {} .deletes draftsApart).result =
      .ok ⟨"SELECT 1;SELECT 2", [], true⟩ := rfl
  refine ⟨⟨by decide, htext, ?_⟩, ⟨hfirst, hsecond, ?_⟩, hcompiled, hbatch _ _ _ _ hcompiled⟩
  · obtain ⟨-, -, -, -, hsingle⟩ := hform " \na\t   b \t"
    rw [hsingle namesApart htext]
    rfl
  · apply hjoined ["a b", "c"]
    intro t ht
    rcases List.mem_pair.1 ht with rfl | rfl
    · exact ⟨" a  b", hfirst⟩
    · exact ⟨"c\n", hsecond⟩

end ParamSql
