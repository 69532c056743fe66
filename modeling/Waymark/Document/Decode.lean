import Waymark.Document.Encode
import Waymark.Json.Reader
import Waymark.Json.Shape
import Waymark.Time.Reader

/-! Reading the fields of the documents. -/

set_option autoImplicit false

namespace Waymark

open Json

abbrev Decoded (α : Type) := Except Refusal α

def Version.ofJson (json : Json) : Decoded Version := do
  (parse (← Json.toText json)).mapError fun malformed => .unfit (refusal malformed.text)

def Time.ofJson (json : Json) : Decoded Time := do
  (Time.read? (← Json.toText json).toList).elim (.error .malformed) .ok

def SessionId.ofJson (json : Json) : Decoded SessionId := do
  match SessionId.read (← Json.toText json) with
  | .ok id => return id
  | .error _ => throw .malformed

def Category.ofJson : Json → Decoded Category := toVariant Category.names isNothing

def Verbosity.ofJson : Json → Decoded Verbosity := toVariant Verbosity.names isNothing

def Outcome.ofJson : Json → Decoded Outcome := toVariant Outcome.names isNothing

def Mode.ofJson : Json → Decoded Mode := toVariant Mode.names isNothing

def LanguageCount.shape : Shape LanguageCount :=
  LanguageCount.mk <$> .required "files" toCount <*> .required "functions" toCount

def LanguageDetail.shape : Shape LanguageDetail :=
  LanguageDetail.mk <$> .required "files" toCount <*> .required "functions" toCount <*>
    .required "documented" toCount <*> .required "coverage_pct" toFloat <*>
    .required "lines_of_code" toCount

def RunReport.shape : Shape RunReport :=
  RunReport.mk <$> .required "files_scanned" toCount <*> .required "skipped_binary" toCount <*>
    .required "skipped_unreadable" toCount <*> .required "skipped_oversized" toCount <*>
    .required "ignore_rule_errors" toCount <*> .required "directories_pruned" toCount

def Summary.shape : Shape Summary :=
  Summary.mk <$> .required "version" Version.ofJson <*> .required "generated_at" Time.ofJson <*>
    .required "total_files" toCount <*> .required "total_functions" toCount <*>
    .required "documented_functions" toCount <*> .required "coverage_pct" toFloat <*>
    .required "language_breakdown" (toTable LanguageCount.shape.decode) <*>
    .required "generator_attribution" toText <*>
    .withDefault "verbosity" Verbosity.ofJson .standard <*>
    .omissible "language_details" (toTable LanguageDetail.shape.decode) <*>
    .omissible "run_report" RunReport.shape.decode

def MissingFile.shape : Shape MissingFile :=
  MissingFile.mk <$> .required "path" toText <*> .required "undocumented" toCount <*>
    .required "total" toCount

def MissingDocs.shape : Shape MissingDocs :=
  MissingDocs.mk <$> .required "generated_at" Time.ofJson <*> .required "threshold" toCount <*>
    .required "total_files" toCount <*> .required "total_undocumented" toCount <*>
    .required "directories" (toTable (toList MissingFile.shape.decode))

def ChangelogEntry.shape : Shape ChangelogEntry :=
  ChangelogEntry.mk <$> .required "id" toText <*> .required "version" Version.ofJson <*>
    .required "date" Time.ofJson <*> .required "category" Category.ofJson <*>
    .required "summary" toText <*> .omissible "project_version" Version.ofJson

def ChangelogStatistics.shape : Shape ChangelogStatistics :=
  ChangelogStatistics.mk <$> .required "total_entries" toCount <*>
    .required "entries_by_category" (toTable toCount) <*> .withDefault "archived_entries" toCount 0

def Changelog.shape : Shape Changelog :=
  Changelog.mk <$> .required "changelog_version" Version.ofJson <*>
    .optional "last_updated" Time.ofJson <*>
    .withDefault "entries" (toList ChangelogEntry.shape.decode) [] <*>
    .withDefault "statistics" ChangelogStatistics.shape.decode default <*>
    .withDefault "sequence" toCount 0

def Session.shape : Shape Session :=
  Session.mk <$> .required "session_id" SessionId.ofJson <*>
    .required "started_at" Time.ofJson <*> .optional "completed_at" Time.ofJson <*>
    .withDefault "completed_tasks" (toList toText) [] <*>
    .withDefault "priority_items_for_next" (toList toText) [] <*>
    .required "deployment_mode" Mode.ofJson <*>
    .withDefault "outcome" Outcome.ofJson .unresolved <*>
    .omissible "last_summary" toText <*> .omissible "project_version" Version.ofJson

def Handoff.shape : Shape Handoff :=
  Handoff.mk <$> .required "generated_at" Time.ofJson <*>
    .required "session_id" SessionId.ofJson <*> .required "outcome" Outcome.ofJson <*>
    .required "session_summary" toText <*>
    .required "next_agent_instructions" (toList toText) <*>
    .required "priority_actions" (toList toText) <*>
    .required "completed_tasks" (toList toText) <*> .required "deployment_mode" Mode.ofJson <*>
    .optional "project_version" Version.ofJson <*>
    .required "changelog_version" Version.ofJson

/-- Reads a tagged document: an object with a tag, or a list that starts with one. -/
def DocumentKind.decode {α : Type} (kind : DocumentKind) (shape : Shape α) : Json → Decoded α
  | .object members =>
    match members.lookup "schema" with
    | none => .error (.missingField "schema")
    | some tag => checkTag tag >>= fun _ => shape.decodeMembers members
  | .list [] => .error (.missingField "schema")
  | .list (tag :: items) => checkTag tag >>= fun _ => shape.decodeItems items
  | _ => .error .malformed
where
  checkTag : Json → Decoded Unit
    | .text name =>
      if name = kind.tag then .ok () else .error (.unknownVariant name [kind.tag])
    | _ => .error .malformed

end Waymark
