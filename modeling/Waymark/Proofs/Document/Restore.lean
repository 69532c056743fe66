import Waymark.Proofs.Document.Older
import Waymark.Proofs.Json.Shape
import Waymark.Proofs.SessionId
import Waymark.Proofs.Time.Reader

/-! Stored documents are read back as they were, whatever texts and times are in them: here those that a
handoff writes.
-/

set_option autoImplicit false

namespace Waymark

open Json

/-! Fields -/

theorem arranged_text (text : String) : arranged (.text text) = .text text :=
  arranged_scalar (by simp) (by simp)

theorem arranged_count (n : Count) : arranged (.count n) = .count n :=
  arranged_scalar (by simp) (by simp)

theorem restores_text : Restores Json.text toText := by
  intro text
  rw [arranged_text]
  rfl

theorem restores_float : Restores Json.float toFloat := by
  intro x
  rw [arranged_scalar (by simp) (by simp)]
  rfl

theorem restores_count : Restores Json.count toCount := by
  intro n
  rw [arranged_count]
  rfl

theorem Version.restores : Restores toJson ofJson := by
  intro v
  have taken : Json.toText (.text v.toText) = .ok v.toText := rfl
  rw [toJson, arranged_text, ofJson, taken]
  simp only [bind, Except.bind, parse_toText]
  rfl

theorem Time.restores : Restores toJson ofJson := by
  intro t
  have read : read? t.toText.toList = some t := by rw [toText, String.toList_ofList, read?_text]
  have taken : Json.toText (.text t.toText) = .ok t.toText := rfl
  rw [toJson, arranged_text, ofJson, taken]
  simp only [bind, Except.bind, read, Option.elim_some]

theorem SessionId.restores : Restores toJson ofJson := by
  intro id
  have taken : Json.toText (.text id.toText) = .ok id.toText := rfl
  rw [toJson, arranged_text, ofJson, taken]
  simp only [bind, Except.bind, read_toText, pure, Except.pure]

theorem restores_variant {α : Type} {names : List (String × α)} {isNothing : Json → Bool} {name : α → String}
    (known : ∀ value, names.lookup (name value) = some value) :
    Restores (fun value => .text (name value)) (toVariant names isNothing) := by
  intro value
  rw [arranged_text]
  simp only [toVariant, toVariant.find, known, Option.elim_some]

theorem Category.restores : Restores (fun category => .text category.toText) ofJson :=
  restores_variant fun category => by cases category <;> rfl

theorem Outcome.restores : Restores (fun outcome => .text outcome.toText) ofJson :=
  restores_variant fun outcome => by cases outcome <;> rfl

theorem Verbosity.restores : Restores (fun verbosity => .text verbosity.toText) ofJson :=
  restores_variant fun verbosity => by cases verbosity <;> rfl

theorem Mode.restores : Restores (fun mode => .text mode.toText) ofJson :=
  restores_variant fun mode => by cases mode <;> rfl

theorem restores_optionText : Restores (ofOption Json.text) (Shape.nullable toText) :=
  restores_text.option fun text => by simp [arranged_text]

theorem Version.restores_option : Restores (ofOption toJson) (Shape.nullable ofJson) :=
  Version.restores.option fun v => by simp [toJson, arranged_text]

theorem Time.restores_option : Restores (ofOption toJson) (Shape.nullable ofJson) :=
  Time.restores.option fun t => by simp [toJson, arranged_text]

theorem restores_texts : Restores texts (toList toText) := restores_text.list

/-! Records -/

theorem ChangelogEntry.restores : Restores toJson shape.decode := by
  intro entry
  obtain ⟨id, version, date, category, summary, projectVersion⟩ := entry
  refine Shape.Finds.decode_object ?_
  have distinct : (["id", "version", "date", "category", "summary", "project_version"] : List String).Nodup := by
    decide
  refine Shape.Finds.seq (.seq (.seq (.seq (.seq (.map ?_) ?_) ?_) ?_) ?_) ?_
  · exact Shape.finds_member distinct restores_text lookup_first
  · exact Shape.finds_member distinct Version.restores (by simp [lookup_first])
  · exact Shape.finds_member distinct Time.restores (by simp [lookup_first])
  · exact Shape.finds_member distinct Category.restores (by simp [lookup_first])
  · exact Shape.finds_member distinct restores_text (by simp [lookup_first])
  · exact Shape.finds_member distinct Version.restores_option (by simp [lookup_first])

theorem ChangelogStatistics.restores : Restores Changelog.statisticsToJson shape.decode := by
  intro statistics
  obtain ⟨total, byCategory, archived⟩ := statistics
  refine Shape.Finds.decode_object ?_
  have distinct : (["total_entries", "entries_by_category", "archived_entries"] : List String).Nodup := by
    decide
  refine Shape.Finds.seq (.seq (.map ?_) ?_) ?_
  · exact Shape.finds_member distinct restores_count lookup_first
  · exact Shape.finds_member distinct restores_count.table (by simp [lookup_first])
  · exact Shape.finds_member distinct restores_count (by simp [lookup_first])

/-! Documents -/

namespace DocumentKind

variable {α : Type} {kind : DocumentKind} {shape : Shape α} {members : List (String × Json)} {value : α}

/-- The members of a document tell its value: they have different names and can be printed, and the value
is found among them. -/
structure Faithful (kind : DocumentKind) (shape : Shape α) (members : List (String × Json)) (value : α) :
    Prop where
  distinct : ("schema" :: members.map Prod.fst).Nodup
  plain : ∀ member ∈ members, Plain 126 member.2
  finds : shape.Finds (arrangedMembers (("schema", .text kind.tag) :: members)).entries value

namespace Faithful

theorem value_write (h : Faithful kind shape members value) :
    Document.value (kind.write members).toUTF8 = .ok (arranged (kind.tagged members)) := by
  have plain : Plain maxDepth (kind.tagged members) := by
    intro member among
    rcases List.mem_cons.1 among with rfl | among
    · exact plain_text _ _
    · exact h.plain member among
  have read : Json.read? (kind.write members).toList = some (arranged (kind.tagged members)) := by
    rw [write, prettyText, String.toList_ofList]
    exact read?_pretty plain
  rw [Document.value, fromUTF8?_toUTF8, Option.bind_some, read, Option.elim_some]

theorem lookup_tag (h : Faithful kind shape members value) :
    (arrangedMembers (("schema", .text kind.tag) :: members)).entries.lookup "schema" =
      some (.text kind.tag) := by
  have distinct : ((("schema", Json.text kind.tag) :: members).map Prod.fst).Nodup := h.distinct
  rw [lookup_arrangedMembers distinct, lookup_first, if_pos rfl, Option.map_some, arranged_text]

theorem isTagged (h : Faithful kind shape members value) :
    Document.isTagged (arranged (kind.tagged members)) = true := by
  rw [tagged, arranged_object]
  simp only [Document.isTagged, Json.get?]
  rw [← arrangedMembers, h.lookup_tag]
  rfl

theorem decode (h : Faithful kind shape members value) :
    kind.decode shape (arranged (kind.tagged members)) = .ok value := by
  rw [tagged, arranged_object, ← arrangedMembers]
  simp only [DocumentKind.decode, h.lookup_tag, decode.checkTag, if_pos]
  exact h.finds.decodeMembers

/-- A document of another kind is refused for its tag, before anything else is read. -/
theorem refused {β : Type} {other : DocumentKind} (h : Faithful kind shape members value) (shape' : Shape β)
    (apart : kind.tag ≠ other.tag) : other.decode shape' (arranged (kind.tagged members)) =
      .error (.unknownVariant kind.tag [other.tag]) := by
  rw [tagged, arranged_object, ← arrangedMembers]
  simp only [DocumentKind.decode, h.lookup_tag, decode.checkTag, if_neg apart]
  rfl

end Faithful

end DocumentKind

theorem ChangelogEntry.plain (depth : Nat) (entry : ChangelogEntry) : Plain (depth + 1) entry.toJson := by
  intro member among
  simp only [List.mem_cons, List.not_mem_nil, or_false] at among
  rcases among with rfl | rfl | rfl | rfl | rfl | rfl
  · exact plain_text _ _
  · exact plain_text _ _
  · exact plain_text _ _
  · exact plain_text _ _
  · exact plain_text _ _
  · exact plain_ofOption (fun _ => plain_text _ _) _

theorem Changelog.plain_statistics (depth : Nat) (statistics : ChangelogStatistics) :
    Plain (depth + 2) (statisticsToJson statistics) := by
  intro member among
  simp only [List.mem_cons, List.not_mem_nil, or_false] at among
  rcases among with rfl | rfl | rfl
  · exact plain_count _ _
  · exact plain_ofTable (fun _ => plain_count _ _) _
  · exact plain_count _ _

theorem Changelog.plain_members (log : Changelog) : ∀ member ∈ log.members, Plain 126 member.2 := by
  intro member among
  simp only [members, List.mem_cons, List.not_mem_nil, or_false] at among
  rcases among with rfl | rfl | rfl | rfl | rfl
  · exact plain_text _ _
  · exact plain_ofOption (fun _ => plain_text _ _) _
  · exact plain_ofList (ChangelogEntry.plain 124) _
  · exact plain_statistics 124 _
  · exact plain_count _ _

theorem Changelog.faithful (log : Changelog) : DocumentKind.changelog.Faithful shape log.members log := by
  have distinct : ("schema" :: log.members.map Prod.fst).Nodup := by
    have names : log.members.map Prod.fst =
        ["changelog_version", "last_updated", "entries", "statistics", "sequence"] := rfl
    rw [names]
    decide
  refine ⟨distinct, log.plain_members, ?_⟩
  obtain ⟨version, lastUpdated, entries, statistics, sequence⟩ := log
  refine Shape.Finds.seq (.seq (.seq (.seq (.map ?_) ?_) ?_) ?_) ?_
  · exact Shape.finds_member distinct Version.restores (by simp [lookup_first, members])
  · exact Shape.finds_member distinct Time.restores_option (by simp [lookup_first, members])
  · exact Shape.finds_member distinct ChangelogEntry.restores.list (by simp [lookup_first, members])
  · exact Shape.finds_member distinct ChangelogStatistics.restores (by simp [lookup_first, members])
  · exact Shape.finds_member distinct restores_count (by simp [lookup_first, members])

theorem Changelog.readChangelog_write (log : Changelog) :
    Document.readChangelog log.write.toUTF8 = .ok log := by
  have value : Document.value log.write.toUTF8 = .ok _ := log.faithful.value_write
  rw [Document.readChangelog, Document.readEither_tagged value log.faithful.isTagged]
  exact log.faithful.decode

theorem Session.plain_members (session : Session) : ∀ member ∈ session.members, Plain 126 member.2 := by
  intro member among
  simp only [members, List.mem_cons, List.not_mem_nil, or_false] at among
  rcases among with rfl | rfl | rfl | rfl | rfl | rfl | rfl | rfl | rfl
  · exact plain_text _ _
  · exact plain_text _ _
  · exact plain_ofOption (fun _ => plain_text _ _) _
  · exact plain_ofList (plain_text 125) _
  · exact plain_ofList (plain_text 125) _
  · exact plain_text _ _
  · exact plain_text _ _
  · exact plain_ofOption (plain_text 126) _
  · exact plain_ofOption (fun _ => plain_text _ _) _

theorem Session.faithful (session : Session) :
    DocumentKind.session.Faithful shape session.members session := by
  have distinct : ("schema" :: session.members.map Prod.fst).Nodup := by
    have names : session.members.map Prod.fst = ["session_id", "started_at", "completed_at",
        "completed_tasks", "priority_items_for_next", "deployment_mode", "outcome", "last_summary",
        "project_version"] := rfl
    rw [names]
    decide
  refine ⟨distinct, session.plain_members, ?_⟩
  obtain ⟨sessionId, startedAt, completedAt, tasks, items, mode, outcome, summary, version⟩ := session
  refine Shape.Finds.seq (.seq (.seq (.seq (.seq (.seq (.seq (.seq (.map ?_) ?_) ?_) ?_) ?_) ?_) ?_) ?_) ?_
  · exact Shape.finds_member distinct SessionId.restores (by simp [lookup_first, members])
  · exact Shape.finds_member distinct Time.restores (by simp [lookup_first, members])
  · exact Shape.finds_member distinct Time.restores_option (by simp [lookup_first, members])
  · exact Shape.finds_member distinct restores_texts (by simp [lookup_first, members])
  · exact Shape.finds_member distinct restores_texts (by simp [lookup_first, members])
  · exact Shape.finds_member distinct Mode.restores (by simp [lookup_first, members])
  · exact Shape.finds_member distinct Outcome.restores (by simp [lookup_first, members])
  · exact Shape.finds_member distinct restores_optionText (by simp [lookup_first, members])
  · exact Shape.finds_member distinct Version.restores_option (by simp [lookup_first, members])

theorem Session.readSession_write (session : Session) (id : SessionId) :
    Document.readSession session.write.toUTF8 id = .ok session := by
  have value : Document.value session.write.toUTF8 = .ok _ := session.faithful.value_write
  rw [Document.readSession, Document.readEither_tagged value session.faithful.isTagged]
  exact session.faithful.decode

theorem Handoff.plain_members (handoff : Handoff) : ∀ member ∈ handoff.members, Plain 126 member.2 := by
  intro member among
  simp only [members, List.mem_cons, List.not_mem_nil, or_false] at among
  rcases among with rfl | rfl | rfl | rfl | rfl | rfl | rfl | rfl | rfl | rfl
  · exact plain_text _ _
  · exact plain_text _ _
  · exact plain_text _ _
  · exact plain_text _ _
  · exact plain_ofList (plain_text 125) _
  · exact plain_ofList (plain_text 125) _
  · exact plain_ofList (plain_text 125) _
  · exact plain_text _ _
  · exact plain_ofOption (fun _ => plain_text _ _) _
  · exact plain_text _ _

theorem Handoff.faithful (handoff : Handoff) :
    DocumentKind.handoff.Faithful shape handoff.members handoff := by
  have distinct : ("schema" :: handoff.members.map Prod.fst).Nodup := by
    have names : handoff.members.map Prod.fst = ["generated_at", "session_id", "outcome", "session_summary",
        "next_agent_instructions", "priority_actions", "completed_tasks", "deployment_mode",
        "project_version", "changelog_version"] := rfl
    rw [names]
    decide
  refine ⟨distinct, handoff.plain_members, ?_⟩
  obtain ⟨generatedAt, sessionId, outcome, summary, instructions, actions, tasks, mode, version, changelog⟩ :=
    handoff
  refine Shape.Finds.seq
    (.seq (.seq (.seq (.seq (.seq (.seq (.seq (.seq (.map ?_) ?_) ?_) ?_) ?_) ?_) ?_) ?_) ?_) ?_
  · exact Shape.finds_member distinct Time.restores (by simp [lookup_first, members])
  · exact Shape.finds_member distinct SessionId.restores (by simp [lookup_first, members])
  · exact Shape.finds_member distinct Outcome.restores (by simp [lookup_first, members])
  · exact Shape.finds_member distinct restores_text (by simp [lookup_first, members])
  · exact Shape.finds_member distinct restores_texts (by simp [lookup_first, members])
  · exact Shape.finds_member distinct restores_texts (by simp [lookup_first, members])
  · exact Shape.finds_member distinct restores_texts (by simp [lookup_first, members])
  · exact Shape.finds_member distinct Mode.restores (by simp [lookup_first, members])
  · exact Shape.finds_member distinct Version.restores_option (by simp [lookup_first, members])
  · exact Shape.finds_member distinct Version.restores (by simp [lookup_first, members])

theorem Handoff.readHandoff_write (handoff : Handoff) :
    Document.readHandoff handoff.write.toUTF8 = .ok handoff := by
  have value : Document.value handoff.write.toUTF8 = .ok _ := handoff.faithful.value_write
  simp only [Document.readHandoff, value, bind, Except.bind]
  exact handoff.faithful.decode

end Waymark
