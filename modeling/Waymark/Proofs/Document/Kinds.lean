import Waymark.Proofs.Document.Restore
import Waymark.Proofs.Summary.Coverage
import Waymark.Store.Basic

/-! Every kind of document is read back by its own reader and refused by each of the others. The summary
of a scan is the only one that holds floats.
-/

set_option autoImplicit false

namespace Waymark

open Json

/-! Records of a scan -/

theorem LanguageCount.restores : Restores toJson shape.decode := by
  intro count
  have distinct : (["files", "functions"] : List String).Nodup := by decide
  refine Shape.Finds.decode_object (Shape.Finds.seq (.map ?_) ?_)
  · exact Shape.finds_member distinct restores_count lookup_first
  · exact Shape.finds_member distinct restores_count (by simp [lookup_first])

theorem LanguageDetail.restores : Restores toJson shape.decode := by
  intro detail
  have distinct : (["files", "functions", "documented", "coverage_pct", "lines_of_code"] : List String).Nodup := by
    decide
  refine Shape.Finds.decode_object (Shape.Finds.seq (.seq (.seq (.seq (.map ?_) ?_) ?_) ?_) ?_)
  · exact Shape.finds_member distinct restores_count lookup_first
  · exact Shape.finds_member distinct restores_count (by simp [lookup_first])
  · exact Shape.finds_member distinct restores_count (by simp [lookup_first])
  · exact Shape.finds_member distinct restores_float (by simp [lookup_first])
  · exact Shape.finds_member distinct restores_count (by simp [lookup_first])

theorem RunReport.restores : Restores toJson shape.decode := by
  intro report
  have distinct : (["files_scanned", "skipped_binary", "skipped_unreadable", "skipped_oversized",
      "ignore_rule_errors", "directories_pruned"] : List String).Nodup := by decide
  refine Shape.Finds.decode_object (Shape.Finds.seq (.seq (.seq (.seq (.seq (.map ?_) ?_) ?_) ?_) ?_) ?_)
  · exact Shape.finds_member distinct restores_count lookup_first
  · exact Shape.finds_member distinct restores_count (by simp [lookup_first])
  · exact Shape.finds_member distinct restores_count (by simp [lookup_first])
  · exact Shape.finds_member distinct restores_count (by simp [lookup_first])
  · exact Shape.finds_member distinct restores_count (by simp [lookup_first])
  · exact Shape.finds_member distinct restores_count (by simp [lookup_first])

theorem MissingFile.restores : Restores MissingDocs.fileToJson shape.decode := by
  intro file
  have distinct : (["path", "undocumented", "total"] : List String).Nodup := by decide
  refine Shape.Finds.decode_object (Shape.Finds.seq (.seq (.map ?_) ?_) ?_)
  · exact Shape.finds_member distinct restores_text lookup_first
  · exact Shape.finds_member distinct restores_count (by simp [lookup_first])
  · exact Shape.finds_member distinct restores_count (by simp [lookup_first])

/-! The summary -/

/-- Every coverage is one that a scan can find. -/
structure Summary.Measured (summary : Summary) : Prop where
  total : IsCoverage summary.coverage
  details : ∀ details ∈ summary.details, ∀ entry ∈ details.entries, IsCoverage entry.2.coverage

theorem LanguageCount.plain (depth : Nat) (count : LanguageCount) : Plain (depth + 1) count.toJson := by
  intro member among
  simp only [List.mem_cons, List.not_mem_nil, or_false] at among
  rcases among with rfl | rfl
  · exact plain_count _ _
  · exact plain_count _ _

theorem LanguageDetail.plain (depth : Nat) {detail : LanguageDetail} (measured : IsCoverage detail.coverage) :
    Plain (depth + 1) detail.toJson := by
  intro member among
  simp only [List.mem_cons, List.not_mem_nil, or_false] at among
  rcases among with rfl | rfl | rfl | rfl | rfl
  · exact plain_count _ _
  · exact plain_count _ _
  · exact plain_count _ _
  · exact plain_float _ measured.legible
  · exact plain_count _ _

theorem RunReport.plain (depth : Nat) (report : RunReport) : Plain (depth + 1) report.toJson := by
  intro member among
  simp only [List.mem_cons, List.not_mem_nil, or_false] at among
  rcases among with rfl | rfl | rfl | rfl | rfl | rfl
  · exact plain_count _ _
  · exact plain_count _ _
  · exact plain_count _ _
  · exact plain_count _ _
  · exact plain_count _ _
  · exact plain_count _ _

theorem Summary.Measured.plain {summary : Summary} (measured : summary.Measured) :
    ∀ member ∈ summary.members, Plain 126 member.2 := by
  intro member among
  simp only [members, List.mem_append, List.mem_cons, List.not_mem_nil, or_false, List.mem_map,
    Option.mem_toList] at among
  rcases among with ((rfl | rfl | rfl | rfl | rfl | rfl | rfl | rfl | rfl) | ⟨details, there, rfl⟩) |
    ⟨report, there, rfl⟩
  · exact plain_text _ _
  · exact plain_text _ _
  · exact plain_count _ _
  · exact plain_count _ _
  · exact plain_count _ _
  · exact plain_float _ measured.total.legible
  · exact plain_ofTable (LanguageCount.plain 124) _
  · exact plain_text _ _
  · exact plain_text _ _
  · exact plain_ofEntries fun entry inside =>
      LanguageDetail.plain 124 (measured.details details there entry inside)
  · exact RunReport.plain 125 report

theorem Summary.faithful {summary : Summary} (measured : summary.Measured) :
    DocumentKind.summary.Faithful shape summary.members summary := by
  have plain := measured.plain
  obtain ⟨version, generatedAt, files, functions, documented, coverage, languages, attribution, verbosity,
    details, report⟩ := summary
  have distinct : ((("schema", Json.text DocumentKind.summary.tag) :: members ⟨version, generatedAt, files,
      functions, documented, coverage, languages, attribution, verbosity, details, report⟩).map
      Prod.fst).Nodup := by
    cases details <;> cases report <;> simp [members]
  refine ⟨distinct, plain, ?_⟩
  -- The fields are found one after the other. The last two are written only where there is something.
  refine Shape.Finds.seq (.seq (.seq (.seq (.seq (.seq (.seq (.seq (.seq (.seq (.map
    ?_) ?_) ?_) ?_) ?_) ?_) ?_) ?_) ?_) ?_) ?_
  · exact Shape.finds_member distinct Version.restores (by simp [lookup_first, members])
  · exact Shape.finds_member distinct Time.restores (by simp [lookup_first, members])
  · exact Shape.finds_member distinct restores_count (by simp [lookup_first, members])
  · exact Shape.finds_member distinct restores_count (by simp [lookup_first, members])
  · exact Shape.finds_member distinct restores_count (by simp [lookup_first, members])
  · exact Shape.finds_member distinct restores_float (by simp [lookup_first, members])
  · exact Shape.finds_member distinct LanguageCount.restores.table (by simp [lookup_first, members])
  · exact Shape.finds_member distinct restores_text (by simp [lookup_first, members])
  · exact Shape.finds_member distinct Verbosity.restores (by simp [lookup_first, members])
  · refine Shape.finds_omissible distinct LanguageDetail.restores.table (fun details => ?_) ?_
    · simp [ofTable, arranged_object]
    · cases details <;> cases report <;> simp [lookup_first, members]
  · refine Shape.finds_omissible distinct RunReport.restores (fun report => ?_) ?_
    · simp [RunReport.toJson, arranged_object]
    · cases details <;> cases report <;> simp [lookup_first, members]

theorem Summary.readSummary_write {summary : Summary} (measured : summary.Measured) :
    Document.readSummary summary.write.toUTF8 = .ok summary := by
  have h := faithful measured
  have value : Document.value summary.write.toUTF8 = .ok _ := h.value_write
  rw [Document.readSummary, Document.readEither_tagged value h.isTagged]
  exact h.decode

/-! The report of missing documentation -/

theorem MissingDocs.plain_members (report : MissingDocs) : ∀ member ∈ report.members, Plain 126 member.2 := by
  intro member among
  simp only [members, List.mem_cons, List.not_mem_nil, or_false] at among
  rcases among with rfl | rfl | rfl | rfl | rfl
  · exact plain_text _ _
  · exact plain_count _ _
  · exact plain_count _ _
  · exact plain_count _ _
  · refine plain_ofTable (fun files => plain_ofList (fun file => ?_) files) _
    intro member among
    simp only [List.mem_cons, List.not_mem_nil, or_false] at among
    rcases among with rfl | rfl | rfl
    · exact plain_text _ _
    · exact plain_count _ _
    · exact plain_count _ _

theorem MissingDocs.faithful (report : MissingDocs) :
    DocumentKind.missingDocs.Faithful shape report.members report := by
  have distinct : ("schema" :: report.members.map Prod.fst).Nodup := by
    have names : report.members.map Prod.fst =
        ["generated_at", "threshold", "total_files", "total_undocumented", "directories"] := rfl
    rw [names]
    decide
  refine ⟨distinct, report.plain_members, ?_⟩
  obtain ⟨generatedAt, threshold, files, undocumented, directories⟩ := report
  refine Shape.Finds.seq (.seq (.seq (.seq (.map ?_) ?_) ?_) ?_) ?_
  · exact Shape.finds_member distinct Time.restores (by simp [lookup_first, members])
  · exact Shape.finds_member distinct restores_count (by simp [lookup_first, members])
  · exact Shape.finds_member distinct restores_count (by simp [lookup_first, members])
  · exact Shape.finds_member distinct restores_count (by simp [lookup_first, members])
  · exact Shape.finds_member distinct MissingFile.restores.list.table (by simp [lookup_first, members])

theorem MissingDocs.readMissingDocs_write (report : MissingDocs) :
    Document.readMissingDocs report.write.toUTF8 = .ok report := by
  have value : Document.value report.write.toUTF8 = .ok _ := report.faithful.value_write
  simp only [Document.readMissingDocs, value, bind, Except.bind]
  exact report.faithful.decode

/-! All kinds -/

inductive Stored where
  | summary (summary : Summary)
  | missingDocs (report : MissingDocs)
  | changelog (log : Changelog)
  | session (session : Session)
  | handoff (handoff : Handoff)

namespace Stored

def kind : Stored → DocumentKind
  | .summary _ => .summary
  | .missingDocs _ => .missingDocs
  | .changelog _ => .changelog
  | .session _ => .session
  | .handoff _ => .handoff

def write : Stored → String
  | .summary content => content.write
  | .missingDocs content => content.write
  | .changelog content => content.write
  | .session content => content.write
  | .handoff content => content.write

/-- Only summaries hold coverages. -/
def Measured : Stored → Prop
  | .summary content => content.Measured
  | _ => True

/-- The reader of each kind, for a file at a path; an archive is only written. -/
def reader? (path : Path) (adopted : SessionId) : DocumentKind → Option (ByteArray → Except StoreError Stored)
  | .summary => some fun raw => (Store.decodeAt path Document.readSummary raw).map .summary
  | .missingDocs => some fun raw => (Store.decodeAt path Document.readMissingDocs raw).map .missingDocs
  | .changelog => some fun raw => (Store.decodeAt path Document.readChangelog raw).map .changelog
  | .session => some fun raw => (Store.decodeAt path (Document.readSession · adopted) raw).map .session
  | .handoff => some fun raw => (Store.decodeAt path Document.readHandoff raw).map .handoff
  | .archive => none

variable {α : Type} {shape : Shape α} {members : List (String × Json)} {value : α} {written kind : DocumentKind}
  {path : Path} {adopted : SessionId} {reader : ByteArray → Except StoreError Stored}

theorem reader?_refuses (h : written.Faithful shape members value) (found : reader? path adopted kind = some reader)
    (apart : kind ≠ written) : reader (written.write members).toUTF8 =
      .error (.schema path (.unknownVariant written.tag [kind.tag])) := by
  have tags : written.tag ≠ kind.tag := by
    revert apart
    cases kind <;> cases written <;> decide
  have value := h.value_write
  have tagged := h.isTagged
  -- Every reader looks at the tag before it looks at anything else.
  cases kind with
  | summary =>
    cases found
    simp only [Store.decodeAt, Document.readSummary, Document.readEither_tagged value tagged, h.refused _ tags]
    rfl
  | changelog =>
    cases found
    simp only [Store.decodeAt, Document.readChangelog, Document.readEither_tagged value tagged, h.refused _ tags]
    rfl
  | session =>
    cases found
    simp only [Store.decodeAt, Document.readSession, Document.readEither_tagged value tagged, h.refused _ tags]
    rfl
  | handoff =>
    cases found
    simp only [Store.decodeAt, Document.readHandoff, value, bind, Except.bind, h.refused _ tags]
    rfl
  | missingDocs =>
    cases found
    simp only [Store.decodeAt, Document.readMissingDocs, value, bind, Except.bind, h.refused _ tags]
    rfl
  | archive => cases found

theorem reader?_accepts {doc : Stored} (measured : doc.Measured)
    (found : reader? path adopted doc.kind = some reader) : reader doc.write.toUTF8 = .ok doc := by
  cases doc with
  | summary content =>
    cases found
    simp only [write, Store.decodeAt, Summary.readSummary_write measured]
    rfl
  | missingDocs content =>
    cases found
    simp only [write, Store.decodeAt, content.readMissingDocs_write]
    rfl
  | changelog content =>
    cases found
    simp only [write, Store.decodeAt, content.readChangelog_write]
    rfl
  | session content =>
    cases found
    simp only [write, Store.decodeAt, content.readSession_write]
    rfl
  | handoff content =>
    cases found
    simp only [write, Store.decodeAt, content.readHandoff_write]
    rfl

/-- A document of any content is read back by the reader of its kind, and every other reader names the tag
that it found and the one that it looks for. -/
theorem read_by_kind (doc : Stored) (measured : doc.Measured) (path : Path) (adopted : SessionId) :
    (reader? path adopted doc.kind).isSome = true ∧
      ∀ kind reader, reader? path adopted kind = some reader → reader doc.write.toUTF8 =
        if kind = doc.kind then .ok doc
        else .error (.schema path (.unknownVariant doc.kind.tag [kind.tag])) := by
  constructor
  · cases doc <;> rfl
  intro kind reader found
  split
  · rename_i own
    subst own
    exact reader?_accepts measured found
  · rename_i apart
    cases doc with
    | summary content => exact reader?_refuses (Summary.faithful measured) found apart
    | missingDocs content => exact reader?_refuses content.faithful found apart
    | changelog content => exact reader?_refuses content.faithful found apart
    | session content => exact reader?_refuses content.faithful found apart
    | handoff content => exact reader?_refuses content.faithful found apart

def threeOfEight : Summary where
  version := .first
  generatedAt := .epoch
  totalFiles := 1
  totalFunctions := 8
  documentedFunctions := 3
  coverage := coverage 3 8
  languages := .ofList [("py", ⟨1, 8⟩)]
  attribution := "généré\n"
  verbosity := .standard
  details := some (.ofList [("py", ⟨1, 8, 3, coverage 3 8, 40⟩)])
  runReport := none

theorem threeOfEight_measured : threeOfEight.Measured := by
  have found : IsCoverage (coverage 3 8) := ⟨3, 8, by decide, rfl⟩
  refine ⟨found, fun details there entry inside => ?_⟩
  cases there
  cases List.mem_singleton.1 inside
  exact found

theorem read_by_kind_summary : threeOfEight.Measured ∧
    (∀ reader, reader? ⟨"summary.json"⟩ ⟨7⟩ .summary = some reader →
      reader (Stored.summary threeOfEight).write.toUTF8 = .ok (.summary threeOfEight)) ∧
    ∀ reader, reader? ⟨"summary.json"⟩ ⟨7⟩ .handoff = some reader →
      reader (Stored.summary threeOfEight).write.toUTF8 =
        .error (.schema ⟨"summary.json"⟩ (.unknownVariant "project_summary/v2" ["agent_handoff/v1"])) := by
  obtain ⟨-, reads⟩ := read_by_kind (.summary threeOfEight) threeOfEight_measured ⟨"summary.json"⟩ ⟨7⟩
  exact ⟨threeOfEight_measured, fun reader => reads .summary reader, fun reader => reads .handoff reader⟩

end Stored

end Waymark
