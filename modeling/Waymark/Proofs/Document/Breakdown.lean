import Waymark.Proofs.Document.Older
import Waymark.Proofs.Table.Replaced

/-! The counts of the languages that an older summary gives. Names that differ by the points in front of them become
one name, under which only the counts of the last of them are carried over.
-/

set_option autoImplicit false

namespace Waymark.Legacy

open Json

variable {raw : ByteArray} {form : SummaryForm}

theorem Holds.readSummary (holds : Holds summaryShape raw form) : Document.readSummary raw = .ok form.toSummary :=
  holds.readEither

/-! Counts under the names without points -/

/-- The languages in the order of the names that they have in the document, without the points in front. -/
def SummaryForm.respelled (form : SummaryForm) : List (String × LanguageCount) :=
  form.analysis.languages.entries.map fun entry => (bareLanguage entry.1, entry.2)

/-- A summary has the counts of the older one, under each name those of all names that become it, and together. -/
def SummaryForm.Conserves (form : SummaryForm) (summary : Summary) (count : LanguageCount → Nat) : Prop :=
  (∀ name, (summary.languages.get? name).elim 0 count = Table.weigh count (Table.named name form.respelled)) ∧
    summary.languages.total count = form.analysis.languages.total count

theorem SummaryForm.languages_toSummary (form : SummaryForm) : form.toSummary.languages = .ofList form.respelled := rfl

theorem SummaryForm.weigh_respelled (form : SummaryForm) (count : LanguageCount → Nat) :
    Table.weigh count form.respelled = form.analysis.languages.total count := by
  rw [Table.total_eq_weigh, Table.weigh, Table.weigh, respelled, List.map_map]
  rfl

theorem SummaryForm.conserves_iff (form : SummaryForm) (count : LanguageCount → Nat) :
    form.Conserves form.toSummary count ↔ Table.Light count form.respelled := by
  rw [Conserves, languages_toSummary, ← weigh_respelled]
  exact Table.conserves_iff count form.respelled

/-- A summary without a tag is accepted exactly if it is of the older form, and then carried over with, under each
language, the counts of the last of the names that become it. So whatever is counted, such as files or functions,
none of it is lost exactly if each name that becomes the same as a later one counts nothing. -/
theorem migrated_counts (untagged : Untagged raw) :
    ((∃ summary, Document.readSummary raw = .ok summary) ↔ ∃ form, Holds summaryShape raw form) ∧
    ∀ form, Holds summaryShape raw form → ∃ summary, Document.readSummary raw = .ok summary ∧
      (∀ name, summary.languages.get? name = (Table.named name form.respelled).getLast?.map Prod.snd) ∧
      ∀ count : LanguageCount → Nat,
        summary.languages.total count ≤ form.analysis.languages.total count ∧
        (form.Conserves summary count ↔ form.analysis.languages.entries.Pairwise fun entry later =>
          bareLanguage entry.1 = bareLanguage later.1 → count entry.2 = 0) := by
  refine ⟨accepted_iff untagged, fun form holds => ⟨form.toSummary, holds.readSummary, fun name => ?_, fun count =>
    ⟨?_, ?_⟩⟩⟩
  · rw [form.languages_toSummary, Table.get?_ofList_last]
  · -- What is missing in the total is what was replaced.
    have account := Table.total_ofList count form.respelled
    rw [form.languages_toSummary, ← form.weigh_respelled]
    omega
  · rw [form.conserves_iff, Table.Light, SummaryForm.respelled, List.pairwise_map]

/-! Two older summaries -/

def twofold : String :=
  "\x7b\"version\": \"1.0.9\", \"code_analysis\": \x7b\"total_functions\": 5, \"documented_functions\": 0, " ++
  "\"language_breakdown\": \x7b\".py\": \x7b\"files\": 1, \"functions\": 2\x7d, " ++
  "\"py\": \x7b\"files\": 2, \"functions\": 3\x7d\x7d\x7d\x7d"

theorem counts_lost : ∃ form summary, Holds summaryShape twofold.toUTF8 form ∧
    Document.readSummary twofold.toUTF8 = .ok summary ∧
    form.analysis.languages.entries = [(".py", ⟨1, 2⟩), ("py", ⟨2, 3⟩)] ∧ summary.languages.get? "py" = some ⟨2, 3⟩ ∧
    ¬form.Conserves summary (·.files.toNat) ∧ ¬form.Conserves summary (·.functions.toNat) := by
  have known : (form? summaryShape twofold).map (·.analysis.languages.entries) = some [(".py", ⟨1, 2⟩), ("py", ⟨2, 3⟩)] := by
    decide +kernel
  obtain ⟨form, said, entries⟩ := Option.map_eq_some_iff.1 known
  have holds := holds_of_form? said
  have lost : ∀ count : LanguageCount → Nat, form.Conserves form.toSummary count → count ⟨1, 2⟩ = 0 := by
    intro count kept
    have light := (form.conserves_iff count).1 kept
    rw [SummaryForm.respelled, entries] at light
    exact (List.pairwise_cons.1 light).1 _ List.mem_cons_self (by decide +kernel)
  refine ⟨form, form.toSummary, holds, holds.readSummary, entries, ?_, fun kept => ?_, fun kept => ?_⟩
  · rw [form.languages_toSummary, Table.get?_ofList_last, SummaryForm.respelled, entries]
    decide +kernel
  · exact absurd (lost _ kept) (by decide)
  · exact absurd (lost _ kept) (by decide)

/-- The first of the two names of one language counts no files, but a function. -/
def uneven : String :=
  "\x7b\"version\": \"1.0.9\", \"code_analysis\": \x7b\"total_functions\": 9, \"documented_functions\": 4, " ++
  "\"language_breakdown\": \x7b\".js\": \x7b\"files\": 2, \"functions\": 3\x7d, \".py\": \x7b\"functions\": 1\x7d, " ++
  "\"py\": \x7b\"files\": 4, \"functions\": 5\x7d\x7d\x7d\x7d"

theorem migrated_counts_uneven : ∃ form summary, Untagged uneven.toUTF8 ∧ Holds summaryShape uneven.toUTF8 form ∧
    Document.readSummary uneven.toUTF8 = .ok summary ∧ summary.languages.get? "py" = some ⟨4, 5⟩ ∧
    form.Conserves summary (·.files.toNat) ∧ ¬form.Conserves summary (·.functions.toNat) := by
  have known : (form? summaryShape uneven).map (·.analysis.languages.entries) =
      some [(".js", ⟨2, 3⟩), (".py", ⟨0, 1⟩), ("py", ⟨4, 5⟩)] := by
    decide +kernel
  obtain ⟨form, said, entries⟩ := Option.map_eq_some_iff.1 known
  have holds := holds_of_form? said
  obtain ⟨summary, read, found, counts⟩ := (migrated_counts holds.untagged).2 form holds
  have files := (counts (·.files.toNat)).2
  have functions := (counts (·.functions.toNat)).2
  rw [entries] at files functions
  refine ⟨form, summary, holds.untagged, holds, read, ?_, files.2 ?_, fun kept => ?_⟩
  · rw [found, SummaryForm.respelled, entries]
    decide +kernel
  · decide +kernel
  · revert kept
    rw [functions]
    decide +kernel

end Waymark.Legacy
