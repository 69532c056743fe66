import Waymark.Proofs.Document.Restore

/-! The entries in an archive of the changelog, as they are read back from its bytes. -/

set_option autoImplicit false

namespace Waymark.ChangelogArchive

open Json

def shape : Shape ChangelogArchive :=
  ChangelogArchive.mk <$> .required "archived_at" Time.ofJson <*>
    .optional "project_version" Version.ofJson <*> .required "archived_entries_count" toCount <*>
    .required "entries" (toList ChangelogEntry.shape.decode)

def read (raw : ByteArray) : Decoded ChangelogArchive :=
  Document.value raw >>= DocumentKind.archive.decode shape

def entriesIn (raw : ByteArray) : List ChangelogEntry :=
  match read raw with
  | .ok archive => archive.entries
  | .error _ => []

theorem plain_members (archive : ChangelogArchive) : ∀ member ∈ archive.members, Plain 126 member.2 := by
  intro member among
  simp only [members, List.mem_cons, List.not_mem_nil, or_false] at among
  rcases among with rfl | rfl | rfl | rfl
  · exact plain_text _ _
  · exact plain_ofOption (fun _ => plain_text _ _) _
  · exact plain_count _ _
  · exact plain_ofList (ChangelogEntry.plain 124) _

theorem faithful (archive : ChangelogArchive) : DocumentKind.archive.Faithful shape archive.members archive := by
  have distinct : ("schema" :: archive.members.map Prod.fst).Nodup := by
    have names : archive.members.map Prod.fst =
        ["archived_at", "project_version", "archived_entries_count", "entries"] := rfl
    rw [names]
    decide
  refine ⟨distinct, archive.plain_members, ?_⟩
  obtain ⟨archivedAt, projectVersion, count, entries⟩ := archive
  refine Shape.Finds.seq (.seq (.seq (.map ?_) ?_) ?_) ?_
  · exact Shape.finds_member distinct Time.restores (by simp [lookup_first, members])
  · exact Shape.finds_member distinct Version.restores_option (by simp [lookup_first, members])
  · exact Shape.finds_member distinct restores_count (by simp [lookup_first, members])
  · exact Shape.finds_member distinct ChangelogEntry.restores.list (by simp [lookup_first, members])

theorem read_write (archive : ChangelogArchive) : read archive.write.toUTF8 = .ok archive := by
  have value : Document.value archive.write.toUTF8 = .ok _ := archive.faithful.value_write
  rw [read, value]
  exact archive.faithful.decode

theorem entriesIn_write (archive : ChangelogArchive) : entriesIn archive.write.toUTF8 = archive.entries := by
  rw [entriesIn, read_write]

end Waymark.ChangelogArchive
