import Waymark.Document.Decode

/-! Documents of older forms, which have no tag. Each is read into a record of its own and then
carried over; what an older form does not say is filled in.
-/

set_option autoImplicit false

namespace Waymark.Legacy

open Json

/-- The moment of an optional text; nothing is the epoch. -/
def timeOf (text : Option String) : Time := Time.readLegacy (text.getD "").toList

structure Analysis where
  functions : Count
  documented : Count
  languages : Table LanguageCount

structure SummaryForm where
  version : Version
  updatedAt : Option String
  analysis : Analysis
  totalFiles : Count

def languageShape : Shape LanguageCount :=
  LanguageCount.mk <$> .withDefault "files" toCount 0 <*> .withDefault "functions" toCount 0

def analysisShape : Shape Analysis :=
  Analysis.mk <$> .required "total_functions" toCount <*>
    .required "documented_functions" toCount <*>
    .withDefault "language_breakdown" (toTable languageShape.decode) .empty

def structureShape : Shape Count := .withDefault "total_files" toCount 0

def summaryShape : Shape SummaryForm :=
  SummaryForm.mk <$> .required "version" Version.ofJson <*> .omissible "updated_at" toText <*>
    .required "code_analysis" analysisShape.decode <*>
    .withDefault "project_structure" structureShape.decode 0

def bareLanguage (name : String) : String := String.ofList (name.toList.dropWhile (· == '.'))

def SummaryForm.toSummary (form : SummaryForm) : Summary :=
  let functions := form.analysis.functions
  let documented := min form.analysis.documented functions
  { version := form.version
    generatedAt := timeOf form.updatedAt
    totalFiles := form.totalFiles
    totalFunctions := functions
    documentedFunctions := documented
    coverage := coverage documented functions
    languages := .ofList
      (form.analysis.languages.entries.map fun entry => (bareLanguage entry.1, entry.2))
    attribution := "migrated from legacy summary"
    verbosity := .minimal
    details := none
    runReport := none }

structure EntryForm where
  id : Option String
  version : Option String
  kind : Option String
  timestamp : Option String
  summary : String

structure ChangelogForm where
  version : Version
  lastUpdated : Option String
  entries : List EntryForm

def entryShape : Shape EntryForm :=
  EntryForm.mk <$> .omissible "id" toText <*> .omissible "version" toText <*>
    .omissible "type" toText <*> .omissible "timestamp" toText <*>
    .withDefault "summary" toText ""

def changelogShape : Shape ChangelogForm :=
  ChangelogForm.mk <$> .required "changelog_version" Version.ofJson <*>
    .omissible "last_updated" toText <*> .withDefault "entries" (toList entryShape.decode) []

def numberOf? (id : String) : Option Count :=
  (("change_".toList).isPrefixOf? id.toList).bind Count.read?

/-- The number of an entry: the one in its id, or else its place counted from the oldest. -/
def EntryForm.number (form : EntryForm) (fromOldest : Nat) : Count :=
  (form.id.bind numberOf?).getD (UInt64.ofNat fromOldest)

def EntryForm.toEntry (form : EntryForm) (number : Count) (version : Version) : ChangelogEntry where
  id := Changelog.entryId number
  version := (form.version.bind fun text => Version.read? text.toList).getD version
  date := timeOf form.timestamp
  category := (form.kind.bind fun kind => (Category.read kind).toOption).getD .enhancement
  summary := form.summary
  projectVersion := none

def ChangelogForm.numbered : List EntryForm → List (EntryForm × Count)
  | [] => []
  | form :: older => (form, form.number (older.length + 1)) :: numbered older

def ChangelogForm.toChangelog (form : ChangelogForm) : Changelog :=
  let numbered := numbered form.entries
  Changelog.refresh {
    version := form.version
    lastUpdated := form.lastUpdated.map fun text => timeOf (some text)
    entries := numbered.map fun entry => entry.1.toEntry entry.2 form.version
    statistics := default
    sequence := numbered.foldl (fun highest entry => max highest entry.2) 0 }

structure LastSession where
  timestamp : Option String
  summary : String
  kind : Option String

structure SessionForm where
  last : LastSession
  projectVersion : Option String
  priorityItems : List String

def lastSessionShape : Shape LastSession :=
  LastSession.mk <$> .omissible "timestamp" toText <*> .withDefault "summary" toText "" <*>
    .omissible "type" toText

def contextShape : Shape (List String) := .withDefault "priority_items" (toList toText) []

def sessionShape : Shape SessionForm :=
  SessionForm.mk <$> .required "last_session" lastSessionShape.decode <*>
    .omissible "project_version" toText <*>
    .withDefault "next_agent_context" contextShape.decode []

/-- The session under an id that is new, since the older form has none. -/
def SessionForm.toSession (form : SessionForm) (id : SessionId) : Session :=
  let moment := timeOf form.last.timestamp
  { id
    startedAt := moment
    completedAt := some moment
    completedTasks := []
    priorityItems := form.priorityItems
    mode := .standalone
    outcome := (form.last.kind.bind fun kind => (Outcome.read kind).toOption).getD .unresolved
    lastSummary := if form.last.summary.isEmpty then none else some form.last.summary
    projectVersion := form.projectVersion.bind fun text => Version.read? text.toList }

end Waymark.Legacy
