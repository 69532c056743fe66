import Waymark.Proofs.Store.Transaction
import Waymark.Proofs.Text.Decimal
import Waymark.Proofs.Tree.Seat
import Waymark.Store.Basic

/-! The documents of a store in a tree. They stand in the output root and in three directories inside
of it, which may still be missing, may be links to directories elsewhere, or may be barred by something else
in their place. A handoff leaves a tree in which the documents are housed the same way.
-/

set_option autoImplicit false

namespace Waymark.Store

def archiveName (version : Option Version) (now : Time) : String :=
  "changelog_archive_" ++ String.ofList now.stamp ++ "_v" ++
    (version.map Version.toText).getD "unknown" ++ ".json"

theorem archivePath_eq (store : Store) (version : Option Version) (now : Time) :
    store.archivePath version now = store.paths.archiveDir.join (archiveName version now) := rfl

theorem not_slash_of_isDigit {digits : List Char} (all : ∀ c ∈ digits, c.isDigit = true) :
    '/' ∉ digits := fun slash => by cases all _ slash

theorem not_slash_stamp (now : Time) : '/' ∉ now.stamp := by
  have padded : ∀ width n, '/' ∉ Text.Decimal.writePadded width n := fun width n =>
    not_slash_of_isDigit fun _ => Text.Decimal.isDigit_of_mem_writePadded
  have year : '/' ∉ Time.yearText now.date.year := by
    unfold Time.yearText
    split
    · exact padded _ _
    · split <;> simp [padded]
  simp [Time.stamp, Time.dateText, Time.clockText, Time.twoDigits, padded, year]

theorem not_slash_version (version : Version) : '/' ∉ version.text := by
  have written : ∀ count : Count, '/' ∉ count.text := fun count =>
    not_slash_of_isDigit fun _ => Text.Decimal.isDigit_of_mem_write
  simp [Version.text, written]

theorem isFileName_archiveName (version : Option Version) (now : Time) :
    IsFileName (archiveName version now) := by
  have front : ∃ rest, (archiveName version now).toList = 'c' :: 'h' :: rest := by
    unfold archiveName
    simp only [String.toList_append, String.toList_ofList, List.append_assoc]
    exact ⟨_, rfl⟩
  have part : '/' ∉ ((version.map Version.toText).getD "unknown").toList := by
    cases version with
    | none => decide
    | some version => simpa [Version.toText] using not_slash_version version
  obtain ⟨rest, front⟩ := front
  have plain : '/' ∉ (archiveName version now).toList := by
    unfold archiveName
    simp only [String.toList_append, String.toList_ofList, List.mem_append, not_or]
    exact ⟨⟨⟨⟨by decide, not_slash_stamp now⟩, by decide⟩, part⟩, by decide⟩
  exact isFileName_of_front front (by decide) plain

theorem getLast?_archiveName (version : Option Version) (now : Time) :
    (archiveName version now).toList.getLast? = some 'n' := by
  unfold archiveName
  rw [String.toList_append, List.getLast?_append]
  rfl

/-! The documents -/

def roomNames : List String := ["codebase_summary", "checkpoints", "changelog_archives"]

/-- Where the output root and the directories inside of it stand. -/
structure Home where
  root : Location
  room : String → Location

def Home.ofRoot (root : Location) : Home := ⟨root, fun room => root ++ [room]⟩

instance : Coe Location Home := ⟨Home.ofRoot⟩

@[simp] theorem Home.root_ofRoot (root : Location) : (Home.ofRoot root).root = root := rfl

@[simp] theorem Home.room_ofRoot (root : Location) (room : String) : (Home.ofRoot root).room room = root ++ [room] :=
  rfl

/-- A document of a store. -/
inductive Doc where
  | summary
  | changelog
  | session
  | handoff
  | missingDocs
  | checkpointLog
  | archive (version : Option Version) (now : Time)

namespace Doc

def path (store : Store) : Doc → Path
  | .summary => store.paths.summary
  | .changelog => store.paths.changelog
  | .session => store.paths.session
  | .handoff => store.paths.handoff
  | .missingDocs => store.paths.missingDocs
  | .checkpointLog => store.paths.checkpointLog
  | .archive version now => store.archivePath version now

/-- The directory inside of the root that a document stands in, none for the root itself. -/
def room : Doc → Option String
  | .summary | .changelog => none
  | .session | .handoff | .missingDocs => some "codebase_summary"
  | .checkpointLog => some "checkpoints"
  | .archive .. => some "changelog_archives"

def name : Doc → String
  | .summary => "codebase_summary.json"
  | .changelog => "changelog_summary.json"
  | .session => "session_state.json"
  | .handoff => "agent_handoff.json"
  | .missingDocs => "missing_breadcrumbs.json"
  | .checkpointLog => "checkpoint_log.md"
  | .archive version now => archiveName version now

def dir (doc : Doc) (home : Home) : Location := doc.room.elim home.root home.room

def place (doc : Doc) (home : Home) : Location := doc.dir home ++ [doc.name]

def temporary (doc : Doc) (home : Home) : Location := doc.dir home ++ [doc.name ++ ".tmp"]

theorem isFileName (doc : Doc) : IsFileName doc.name := by
  cases doc with
  | archive version now => exact isFileName_archiveName version now
  | _ => decide

theorem path_of_root {store : Store} (doc : Doc) {root host : Path} (same : store.paths = .derive root host)
    (outer : doc.room = none) : doc.path store = root.join doc.name := by
  cases doc with
  | summary | changelog => rw [path, same]; rfl
  | session | handoff | missingDocs | checkpointLog | archive => cases outer

theorem path_of_room {store : Store} (doc : Doc) {root host : Path} {room : String}
    (same : store.paths = .derive root host) (inner : doc.room = some room) :
    doc.path store = (root.join room).join doc.name := by
  cases doc with
  | summary | changelog => cases inner
  | session | handoff | missingDocs | checkpointLog => cases inner; rw [path, same]; rfl
  | archive => cases inner; rw [path, archivePath_eq, same]; rfl

theorem room_cases (doc : Doc) : doc.room = none ∨ ∃ room ∈ roomNames, doc.room = some room := by
  cases doc with
  | summary | changelog => exact .inl rfl
  | session | handoff | missingDocs => exact .inr ⟨"codebase_summary", by decide, rfl⟩
  | checkpointLog => exact .inr ⟨"checkpoints", by decide, rfl⟩
  | archive => exact .inr ⟨"changelog_archives", by decide, rfl⟩

theorem getLast?_name (doc : Doc) : doc.name.toList.getLast? ∈ [some 'd', some 'n'] := by
  cases doc with
  | archive version now => rw [name, getLast?_archiveName]; decide
  | checkpointLog | summary | changelog | session | handoff | missingDocs => decide

theorem getLast?_temporary (doc : Doc) : (doc.name ++ ".tmp").toList.getLast? = some 'p' := by
  have tmp : (".tmp" : String).toList = ['.', 't', 'm', 'p'] := rfl
  rw [String.toList_append, tmp, List.getLast?_append]
  rfl

end Doc

def IsDocument (home : Home) (k : Location) : Prop := ∃ doc : Doc, k = doc.place home ∨ k = doc.temporary home

theorem isDocument_place (doc : Doc) (home : Home) : IsDocument home (doc.place home) := ⟨doc, .inl rfl⟩

theorem isDocument_temporary (doc : Doc) (home : Home) : IsDocument home (doc.temporary home) := ⟨doc, .inr rfl⟩

/-- How a directory inside of the root is entered. -/
inductive Entrance (tree : Tree) (root : Path) (home : Home) (room : String) : Prop where
  /-- It is a directory or can be made, or a link leads to one. -/
  | opened (reaches : tree.Reaches (root.join room) (home.room room))
  /-- Something else stands in its place, and no document in it can be there. -/
  | shut (own : home.room room = home.root ++ [room]) (barred : tree.Barred (home.room room))

/-- The output root leads to a directory or can be made, the directories inside of it are entered one way or
the other, and no link stands in the place of a document. -/
structure Housed (store : Store) (home : Home) (tree : Tree) : Prop where
  formed : tree.Formed
  paths : ∃ root host, store.paths = .derive root host ∧ tree.Reaches root home.root ∧
    ∀ room ∈ roomNames, Entrance tree root home room
  unlinked : ∀ k, IsDocument home k → ∀ target, tree.node? k ≠ some (.link target)

variable {store : Store} {home : Home} {k : Location} {tree a b base after : Tree}

theorem isFileName_of_mem_roomNames {room : String} (member : room ∈ roomNames) : IsFileName room := by
  have all : ∀ room ∈ roomNames, IsFileName room := by decide
  exact all room member

theorem IsDocument.named (h : IsDocument home k) :
    ∃ (doc : Doc) (name : String), k = doc.dir home ++ [name] ∧ name ∉ roomNames := by
  have ends : ∀ room ∈ roomNames, room.toList.getLast? ∉ [some 'd', some 'n'] ++ [some 'p'] := by decide
  obtain ⟨doc, rfl | rfl⟩ := h
  · exact ⟨doc, _, rfl, fun member => ends _ member (List.mem_append_left _ doc.getLast?_name)⟩
  · refine ⟨doc, _, rfl, fun member => ends _ member (List.mem_append_right _ ?_)⟩
    rw [doc.getLast?_temporary]
    exact List.mem_singleton_self _

theorem IsDocument.ne_room {room : String} (h : IsDocument home k) (member : room ∈ roomNames) :
    k ≠ home.root ++ [room] := by
  rintro rfl
  obtain ⟨doc, name, same, notRoom⟩ := h.named
  obtain rfl : room = name := by simpa using congrArg List.getLast? same
  exact notRoom member

namespace Housed

/-- Where no link stands in the place of one, each directory inside of the root is entered where it stands. -/
theorem of_unlinked {home : Location} (formed : tree.Formed)
    (paths : ∃ root host, store.paths = .derive root host ∧ tree.Reaches root home)
    (rooms : ∀ room ∈ roomNames, ∀ target, tree.node? (home ++ [room]) ≠ some (.link target))
    (unlinked : ∀ k, IsDocument home k → ∀ target, tree.node? k ≠ some (.link target)) :
    Housed store home tree where
  formed := formed
  paths := by
    obtain ⟨root, host, same, reaches⟩ := paths
    refine ⟨root, host, same, reaches, fun room member => ?_⟩
    rcases Tree.free_or_barred (rooms room member) with free | barred
    · exact .opened (reaches.join (isFileName_of_mem_roomNames member) free)
    · exact .shut rfl barred
  unlinked := unlinked

theorem of_paths {other : Store} (h : Housed store home tree) (same : other.paths = store.paths) :
    Housed other home tree where
  formed := h.formed
  paths := by
    rw [same]
    exact h.paths
  unlinked := h.unlinked

theorem unlinked_room (h : Housed store home tree) {room : String} (member : room ∈ roomNames) (target : Path) :
    tree.node? (home.room room) ≠ some (.link target) := by
  intro link
  obtain ⟨root, host, -, -, inner⟩ := h.paths
  rcases inner room member with reaches | ⟨-, node, there, bar⟩
  · rcases reaches.free with missing | directory
    · cases missing.symm.trans link
    · cases directory.symm.trans link
  · cases there.symm.trans link
    cases bar

theorem dir_cases (h : Housed store home tree) (doc : Doc) : doc.dir home = home.root ∨
    (∃ room ∈ roomNames, doc.dir home = home.root ++ [room]) ∨
    tree.node? home.root = some .directory ∧ tree.node? (doc.dir home) = some .directory := by
  obtain ⟨root, host, -, outer, inner⟩ := h.paths
  rcases doc.room_cases with none | ⟨room, member, some⟩
  · exact .inl (by rw [Doc.dir, none, Option.elim_none])
  · rw [Doc.dir, some, Option.elim_some]
    rcases inner room member with reaches | ⟨own, -⟩
    · rcases reaches.join_cases (isFileName_of_mem_roomNames member) outer with own | linked
      · exact .inr (.inl ⟨room, member, own⟩)
      · exact .inr (.inr linked)
    · exact .inr (.inl ⟨room, member, own⟩)

theorem not_above_dir (h : Housed store home tree) (document : IsDocument home k) (missing : tree.node? k = none)
    (doc : Doc) : ¬k <+: doc.dir home := by
  obtain ⟨other, name, rfl, notRoom⟩ := document.named
  -- What stands above a directory is there.
  have off : ∀ l, tree.node? l = some .directory → ¬other.dir home ++ [name] <+: l := by
    intro l directory above
    cases (h.formed.directory_of_prefix directory above).symm.trans missing
  have off_root : ¬other.dir home ++ [name] <+: home.root := by
    intro above
    have short := above.length_le
    rcases h.dir_cases other with same | ⟨room, -, same⟩ | ⟨directory, -⟩
    · rw [same, List.length_append, List.length_singleton] at short
      omega
    · rw [same, List.length_append, List.length_append, List.length_singleton] at short
      omega
    · exact off _ directory above
  intro above
  rcases h.dir_cases doc with same | ⟨room, member, same⟩ | ⟨-, directory⟩
  · exact off_root (same ▸ above)
  · rw [same, List.prefix_concat_iff] at above
    rcases above with whole | above
    · obtain rfl : name = room := by simpa using List.append_inj_right' whole rfl
      exact notRoom member
    · exact off_root above
  · exact off _ directory above

theorem not_above_root (h : Housed store home tree) (document : IsDocument home k)
    (missing : tree.node? k = none) : ¬k <+: home.root :=
  h.not_above_dir document missing .summary

theorem not_above_room (h : Housed store home tree) (document : IsDocument home k)
    (missing : tree.node? k = none) {room : String} (member : room ∈ roomNames) : ¬k <+: home.room room := by
  have room : ∀ room ∈ roomNames, ∃ doc : Doc, doc.room = some room := by
    simp only [roomNames, List.mem_cons, List.not_mem_nil, or_false]
    rintro room (rfl | rfl | rfl)
    · exact ⟨.session, rfl⟩
    · exact ⟨.checkpointLog, rfl⟩
    · exact ⟨.archive none .epoch, rfl⟩
  obtain ⟨doc, inner⟩ := room _ member
  have off := h.not_above_dir document missing doc
  rwa [Doc.dir, inner, Option.elim_some] at off

/-! Keeping the house -/

theorem grows (h : Housed store home a) (grows : a.Grows b) (formed : b.Formed) :
    Housed store home b where
  formed := formed
  paths := by
    obtain ⟨root, host, same, outer, inner⟩ := h.paths
    refine ⟨root, host, same, outer.grows grows, fun room member => ?_⟩
    rcases inner room member with reaches | ⟨own, node, there, bar⟩
    · exact .opened (reaches.grows grows)
    · exact .shut own ⟨node, grows.keeps there, bar⟩
  unlinked k document target link := h.unlinked k document target (grows.kept link (by simp))

theorem laid {slots : List (Path × Slot)} (h : Housed store home base) (laid : base.Laid slots after)
    (documents : ∀ path ∈ slots.map Prod.fst, ∀ k, base.resolve path false = .ok k → IsDocument home k) :
    Housed store home after where
  formed := laid.formed h.formed
  paths := by
    obtain ⟨root, host, same, outer, inner⟩ := h.paths
    have ways : ∀ k n, n.isWay = true → base.node? k = some n → after.node? k = some n :=
      fun k n way => (laid.ways.look k n way).1
    have outside : ∀ k, ¬IsDocument home k → after.node? k = base.node? k := fun k off =>
      laid.frame k fun path member led => off (documents path member k led)
    refine ⟨root, host, same, ?_, fun room member => ?_⟩
    · refine outer.change laid.ways.workingDir ways fun k above missing => .inl ?_
      exact (outside k fun document => h.not_above_root document missing above).trans missing
    · rcases inner room member with reaches | ⟨own, node, there, bar⟩
      · refine .opened (reaches.change laid.ways.workingDir ways fun k above missing => .inl ?_)
        exact (outside k fun document => h.not_above_room document missing member above).trans missing
      · refine .shut own ⟨node, (outside _ fun document => ?_).trans there, bar⟩
        exact document.ne_room member own
  unlinked k document target link := h.unlinked k document target ((laid.ways.look k _ rfl).2 link)

theorem seat_cases (h : Housed store home tree) (doc : Doc) :
    tree.Seats (doc.path store) (doc.dir home) doc.name ∨
      tree.Shut (doc.path store) ∧ tree.Barred (doc.dir home) ∧
        ∃ room ∈ roomNames, doc.dir home = home.root ++ [room] := by
  obtain ⟨root, host, same, outer, inner⟩ := h.paths
  rcases doc.room_cases with none | ⟨room, member, some⟩
  · rw [doc.path_of_root same none, Doc.dir, none, Option.elim_none]
    exact .inl ⟨root, rfl, outer, doc.isFileName⟩
  · rw [doc.path_of_room same some, Doc.dir, some, Option.elim_some]
    rcases inner room member with reaches | ⟨own, barred⟩
    · exact .inl ⟨_, rfl, reaches, doc.isFileName⟩
    · refine .inr ⟨⟨root, home.root, room, doc.name, rfl, outer, ?_, doc.isFileName, own ▸ barred⟩, barred,
        room, member, own⟩
      exact isFileName_of_mem_roomNames member

theorem seat_of_opened (h : Housed store home tree) {doc : Doc} (opened : ¬tree.Barred (doc.dir home)) :
    tree.Seats (doc.path store) (doc.dir home) doc.name :=
  (h.seat_cases doc).resolve_right fun shut => opened shut.2.1

theorem seat_of_root (h : Housed store home tree) {doc : Doc} (outer : doc.room = none) :
    tree.Seats (doc.path store) (doc.dir home) doc.name := by
  refine h.seat_of_opened fun barred => ?_
  obtain ⟨root, host, -, reaches, -⟩ := h.paths
  rw [Doc.dir, outer] at barred
  exact barred.not_free reaches.free

theorem seat_of_there (h : Housed store home tree) (doc : Doc) (there : tree.node? (doc.place home) ≠ none) :
    tree.Seats (doc.path store) (doc.dir home) doc.name :=
  h.seat_of_opened fun barred => barred.not_free (.inr (h.formed.inside _ _ there))

theorem place_eq (h : Housed store home tree) {doc : Doc} (place : tree.place? (doc.path store) = some k) :
    k = doc.place home := by
  rcases h.seat_cases doc with seat | ⟨shut, -⟩
  · rw [seat.place] at place
    exact (Option.some.inj place).symm
  · rw [shut.place] at place
    cases place

theorem place_temporary_eq (h : Housed store home tree) {doc : Doc}
    (place : tree.place? (doc.path store).temporary = some k) : k = doc.temporary home := by
  rcases h.seat_cases doc with seat | ⟨shut, -⟩
  · rw [seat.place_temporary] at place
    exact (Option.some.inj place).symm
  · rw [shut.place_temporary] at place
    cases place

theorem readOptional (h : Housed store home tree) {doc : Doc}
    (seat : tree.Seats (doc.path store) (doc.dir home) doc.name) :
    tree.readOptional (doc.path store) = Tree.readNode (tree.node? (doc.place home)) :=
  seat.readOptional h.formed (h.unlinked _ (isDocument_place doc home))

theorem readOptional_congr (h : Housed store home a) (h' : Housed store home b) {doc : Doc}
    (rooms : ∀ room ∈ roomNames, Tree.Kept a b (home.root ++ [room]))
    (same : b.node? (doc.place home) = a.node? (doc.place home)) :
    b.readOptional (doc.path store) = a.readOptional (doc.path store) := by
  rcases h.seat_cases doc with seat | ⟨shut, barred, room, member, own⟩ <;>
    rcases h'.seat_cases doc with seat' | ⟨shut', barred', room', member', own'⟩
  · rw [h.readOptional seat, h'.readOptional seat', same]
  · -- What bars a directory now has barred it before.
    obtain ⟨node, there, bar⟩ := barred'
    rw [own'] at there
    rcases rooms room' member' with kept | ⟨-, made⟩
    · have barred : a.Barred (doc.dir home) := ⟨node, own' ▸ kept ▸ there, bar⟩
      exact absurd seat.free barred.not_free
    · cases there.symm.trans made
      cases bar
  · obtain ⟨node, there, bar⟩ := barred
    rw [own] at there
    rcases rooms room member with kept | ⟨missing, -⟩
    · have barred' : b.Barred (doc.dir home) := ⟨node, own ▸ kept.trans there, bar⟩
      exact absurd seat'.free barred'.not_free
    · cases there.symm.trans missing
  · rw [shut.readOptional h.formed, shut'.readOptional h'.formed]

end Housed

end Waymark.Store
