import Mathlib.Data.List.Sort
import Mathlib.Data.String.Basic
import Waymark.Proofs.Language.Window
import Waymark.Proofs.Scan.Selection

/-! The account that a scan gives. The records are those of the files that are analysed, in ascending order
of their paths, and each counter is the number of entries of its kind.
-/

set_option autoImplicit false

namespace Waymark

variable {tree : Tree}

theorem Count.toNat_ofLength {α : Type} {items : List α} (fits : items.length < Count.limit) :
    (Count.ofLength items).toNat = items.length := by
  rw [Count.ofLength, UInt64.toNat_ofNat']
  exact Nat.mod_eq_of_lt fits

namespace Scan

open Finding

variable {sight : Sight} {scope : Scope} {home : Location} {root : Path} {names : List String}
  {what : List String → List Finding} {findings : List Finding} {record : FileRecord} {scan : Scan}

theorem mem_records : record ∈ (ofFindings scope findings).records ↔ .record record ∈ findings := by
  rw [ofFindings, List.mem_mergeSort, List.mem_filterMap]
  constructor
  · rintro ⟨finding, among, found⟩
    cases finding <;> cases found
    exact among
  · intro among
    exact ⟨.record record, among, rfl⟩

theorem length_records :
    (ofFindings scope findings).records.length = findings.countP fun finding => finding.fate? == some .scanned := by
  rw [ofFindings, List.length_mergeSort, List.length_filterMap_eq_countP]
  refine List.countP_congr fun finding _ => ?_
  cases finding <;> simp [record?, fate?]

theorem toNat_count (fits : findings.length < Count.limit) (finding : Finding) :
    (Scan.count findings finding).toNat = findings.countP (· == finding) := by
  have short := List.length_filter_le (· == finding) findings
  rw [Scan.count, Count.toNat_ofLength (by omega), List.countP_eq_length_filter]

/-- Each counter of a report is the number of the findings that tell of its fate, but for that of what is unread. -/
theorem toNat_fate_count (fits : findings.length < Count.limit) (fate : Fate) (other : fate ≠ .unreadable) :
    (fate.count (reportOf scope findings)).toNat =
      findings.countP fun finding => finding.fate? == some fate := by
  have counted : ∀ told : Finding, (∀ finding, (finding == told) = (finding.fate? == some fate)) →
      (Scan.count findings told).toNat = findings.countP fun finding => finding.fate? == some fate := by
    intro told same
    rw [toNat_count fits]
    exact List.countP_congr fun finding _ => by rw [same]
  cases fate with
  | scanned =>
    have records : (findings.filterMap record?).length =
        findings.countP fun finding => finding.fate? == some .scanned := by
      have records : (ofFindings scope findings).records.length =
          findings.countP fun finding => finding.fate? == some .scanned := length_records
      rwa [ofFindings, List.length_mergeSort] at records
    have short : findings.countP (fun finding => finding.fate? == some .scanned) ≤ findings.length :=
      List.countP_le_length
    rw [← records] at short ⊢
    exact Count.toNat_ofLength (Nat.lt_of_le_of_lt short fits)
  | oversized => exact counted .oversized fun finding => by cases finding <;> rfl
  | unreadable => exact absurd rfl other
  | binary => exact counted .binary fun finding => by cases finding <;> rfl

theorem toNat_unread (fits : findings.length < Count.limit) :
    (reportOf scope findings).skippedUnreadable.toNat =
      (findings.countP fun finding => finding.fate? == some .unreadable) + findings.countP (· == .closed) := by
  have parts : findings.countP isUnread =
      (findings.countP fun finding => finding.fate? == some .unreadable) + findings.countP (· == .closed) := by
    clear fits
    induction findings with
    | nil => rfl
    | cons finding rest ih =>
      rw [List.countP_cons, List.countP_cons, List.countP_cons, ih]
      cases finding <;> simp [isUnread, fate?] <;> omega
  have short := List.length_filter_le isUnread findings
  rw [← parts, List.countP_eq_length_filter]
  exact Count.toNat_ofLength (by omega)

namespace Told

theorem length_lt (told : Told sight scope tree home what) (counted : tree.items.length < Count.limit) :
    ((walk sight scope tree home).flatMap what).length < Count.limit := by
  have short := length_flatMap_le told.short
  have bounded : (walk sight scope tree home).length ≤ tree.items.length := length_walk_le told.faithful told.proper
  omega

theorem recordOf_path (recordOf : RecordOf sight scope tree home names record) :
    record.path = (sight.path names).text := by
  obtain ⟨extension, language, content, analysis, -, -, rfl⟩ := recordOf
  rfl

def filed (sight : Sight) (scope : Scope) (tree : Tree) (home : Location) (what : List String → List Finding) :
    List (List String × FileRecord) :=
  (walk sight scope tree home).flatMap fun names => ((what names).filterMap record?).map (names, ·)

theorem mem_filed (told : Told sight scope tree home what) :
    (names, record) ∈ filed sight scope tree home what ↔ RecordOf sight scope tree home names record := by
  rw [told.recordOf_iff, ← mem_walk told.proper.formed, filed, List.mem_flatMap]
  constructor
  · rintro ⟨names, seen, among⟩
    obtain ⟨record, found, same⟩ := List.mem_map.1 among
    cases same
    obtain ⟨finding, among, found⟩ := List.mem_filterMap.1 found
    cases finding <;> cases found
    exact ⟨seen, among⟩
  · rintro ⟨seen, among⟩
    exact ⟨names, seen, List.mem_map_of_mem (List.mem_filterMap.2 ⟨_, among, rfl⟩)⟩

theorem nodup_filed (told : Told sight scope tree home what) :
    ((filed sight scope tree home what).map Prod.fst).Nodup := by
  refine List.pairwise_map.2 (List.pairwise_flatMap.2 ⟨fun names among => ?_, ?_⟩)
  · -- An entry has one finding at most.
    match what names, told.short names among with
    | [], _ => exact .nil
    | [.record found], _ => exact List.pairwise_singleton _ _
    | [.pruned], _ | [.oversized], _ | [.unreadable], _ | [.closed], _ | [.binary], _ => exact .nil
  · refine (walk_nodup told.faithful told.proper.distinct).imp fun apart pair among pair' among' => ?_
    obtain ⟨_, -, rfl⟩ := List.mem_map.1 among
    obtain ⟨_, -, rfl⟩ := List.mem_map.1 among'
    exact apart

theorem records_filed (told : Told sight scope tree home what) : ∃ files : List (List String), files.Nodup ∧
    List.Forall₂ (RecordOf sight scope tree home) files
      (ofFindings scope ((walk sight scope tree home).flatMap what)).records ∧
    (∀ names, names ∈ files ↔ ∃ record, RecordOf sight scope tree home names record) ∧
    files.Pairwise fun before after => (sight.path before).text ≤ (sight.path after).text := by
  generalize same : ((filed sight scope tree home what).mergeSort fun a b =>
    decide (a.2.path ≤ b.2.path)) = sorted
  have ordered : sorted.Pairwise fun a b => a.2.path ≤ b.2.path :=
    same ▸ sorted_mergeSort (fun pair : List String × FileRecord => pair.2.path) _
  have permuted : sorted.Perm (filed sight scope tree home what) := same ▸ List.mergeSort_perm _ _
  have recorded : ∀ pair ∈ sorted, RecordOf sight scope tree home pair.1 pair.2 := fun pair among =>
    told.mem_filed.1 (permuted.mem_iff.1 among)
  have records : (ofFindings scope ((walk sight scope tree home).flatMap what)).records = sorted.map Prod.snd := by
    have unfiled : (filed sight scope tree home what).map Prod.snd =
        ((walk sight scope tree home).flatMap what).filterMap record? := by
      simp only [filed, List.map_flatMap, List.map_map, Function.comp_def, List.map_id', List.filterMap_flatMap]
    rw [← same, List.map_mergeSort (s := fun a b : FileRecord => decide (a.path ≤ b.path)) fun _ _ _ _ => rfl, unfiled]
    rfl
  refine ⟨sorted.map Prod.fst, (permuted.map _).nodup_iff.2 told.nodup_filed, ?_, ?_, ?_⟩
  · rw [records, List.forall₂_map_left_iff, List.forall₂_map_right_iff]
    exact List.forall₂_same.2 recorded
  · intro names
    constructor
    · intro among
      obtain ⟨pair, listed, rfl⟩ := List.mem_map.1 among
      exact ⟨pair.2, recorded pair listed⟩
    · rintro ⟨record, recordOf⟩
      exact List.mem_map.2 ⟨(names, record), permuted.mem_iff.2 (told.mem_filed.2 recordOf), rfl⟩
  · refine List.pairwise_map.2 (ordered.imp_of_mem fun among among' before => ?_)
    rwa [recordOf_path (recorded _ among), recordOf_path (recorded _ among')] at before

theorem recordOf_of_eligible (told : Told sight scope tree home what) {extension : String} {language : Language}
    {content : ByteArray} (eligible : Eligible sight scope tree home names extension language content) :
    ∃ record, RecordOf sight scope tree home names record := by
  obtain ⟨seen, kept, suits⟩ := (eligible_iff told.faithful told.proper told.directory).1 eligible
  obtain ⟨analysis, analysed⟩ := (told.comes_of_seen seen).analysed kept suits
  exact ⟨_, extension, language, content, analysis, eligible, analysed, rfl⟩

theorem path_lt_or_alike (told : Told sight scope tree home what) {before after : List String}
    (seen : Seen sight scope tree home before) (seen' : Seen sight scope tree home after)
    (ordered : (sight.path before).text ≤ (sight.path after).text) :
    (sight.path before).text < (sight.path after).text ∨ before.map sight.text = after.map sight.text := by
  by_cases same : (sight.path before).text = (sight.path after).text
  · right
    exact Path.relative_inj (by simpa using seen.inside) (by simpa using seen'.inside)
      (Sight.areFiles told.faithful (areFiles_of_there told.proper seen.there))
      (Sight.areFiles told.faithful (areFiles_of_there told.proper seen'.there)) same
  · exact .inl (Std.lt_of_le_of_ne ordered same)

theorem accounts (told : Told sight scope tree home what) (counted : tree.items.length < Count.limit) :
    Accounts sight scope tree home (ofFindings scope ((walk sight scope tree home).flatMap what)) := by
  have fits := told.length_lt counted
  obtain ⟨files, distinct, recorded, complete, ordered⟩ := told.records_filed
  constructor
  case records =>
    refine ⟨files, distinct, recorded, fun names => ?_, ordered.imp_of_mem fun among among' before => ?_⟩
    · rw [complete]
      constructor
      · rintro ⟨record, extension, language, content, analysis, eligible, -⟩
        exact ⟨extension, language, content, eligible⟩
      · rintro ⟨extension, language, content, eligible⟩
        exact told.recordOf_of_eligible eligible
    · obtain ⟨record, recordOf⟩ := (complete _).1 among
      obtain ⟨record', recordOf'⟩ := (complete _).1 among'
      exact told.path_lt_or_alike (told.recordOf_iff.1 recordOf).1 (told.recordOf_iff.1 recordOf').1 before
  case scanned =>
    rw [length_records]
    exact toNat_fate_count fits .scanned (by decide)
  case fated =>
    rintro names candidate
    rcases candidate.file with ⟨content, there⟩ | ⟨size, there⟩ <;> rw [there] <;> exact ⟨_, rfl⟩
  case fates =>
    intro fate other
    refine (toNat_fate_count fits fate other).trans (told.count fun names => ?_)
    rw [Set.mem_ofPred_eq, told.candidate_iff]
    simp only [beq_iff_eq]
  case unread =>
    refine (toNat_unread fits).trans (congrArg₂ (· + ·) (told.count fun names => ?_) (told.count fun names => ?_))
    · rw [Set.mem_ofPred_eq, told.candidate_iff]
      simp only [beq_iff_eq]
    · rw [Set.mem_ofPred_eq, told.closed_iff]
      simp only [beq_iff_eq, exists_eq_right]
  case pruned =>
    refine (toNat_count fits .pruned).trans (told.count fun names => ?_)
    rw [Set.mem_ofPred_eq, told.pruned_iff]
    simp only [beq_iff_eq, exists_eq_right]

end Told

theorem look_cases (faithful : sight.Faithful) (opened : sight.opens [] = true) (proper : tree.Proper)
    (rooted : rootLocation tree root = .ok home) :
    (∃ what, Told sight scope tree home what ∧
      Scan.look sight scope tree root = .ok (ofFindings scope ((walk sight scope tree home).flatMap what))) ∨
    ∃ names extension language content refused, Eligible sight scope tree home names extension language content ∧
      Analysis.ofText language (Text.Utf8.read content) = .error refused ∧
      Scan.look sight scope tree root = .error (.overflow refused) := by
  have directory := rootLocation_directory rooted
  rw [look_eq opened rooted]
  -- Only a file that is to be analysed is ever refused.
  rcases gather_cases (ofEntry sight scope tree home) (walk sight scope tree home) with
    ⟨gathered, each⟩ | ⟨refused, gathered, names, among, failed⟩
  · refine .inl ⟨foundBy (ofEntry sight scope tree home), ⟨faithful, proper, directory, fun names among => ?_⟩, ?_⟩
    · rw [← each names among]
      exact ofEntry_comes sight scope tree home names
    · rw [gathered]
      rfl
  · right
    have comes := ofEntry_comes sight scope tree home names
    rw [failed] at comes
    have seen := (mem_walk proper.formed).1 among
    cases comes with
    | @refused extension language content _ kept suits failed =>
      refine ⟨names, extension, language, content, refused, ?_, failed, by rw [gathered]; rfl⟩
      exact (eligible_iff faithful proper directory).2 ⟨seen, kept, suits⟩

/-- A scan of a root that can be listed accounts for every entry that the directories above it do not hide, unless a
file that is to be analysed has lines whose windows do not fit a counter. -/
theorem look_accounts (faithful : sight.Faithful) (opened : sight.opens [] = true) (proper : tree.Proper)
    (counted : tree.items.length < Count.limit) (rooted : rootLocation tree root = .ok home) :
    (∃ scan, Scan.look sight scope tree root = .ok scan ∧ Accounts sight scope tree home scan) ∨
    ∃ names extension language content refused, Eligible sight scope tree home names extension language content ∧
      ¬language.detector.Fits (Text.lines (Text.Utf8.read content)) ∧
      Analysis.ofText language (Text.Utf8.read content) = .error refused ∧
      Scan.look sight scope tree root = .error (.overflow refused) := by
  rcases look_cases faithful opened proper rooted with
    ⟨what, told, ran⟩ | ⟨names, extension, language, content, refused, eligible, failed, ran⟩
  · exact .inl ⟨_, ran, told.accounts counted⟩
  · refine .inr ⟨names, extension, language, content, refused, eligible, fun fits => ?_, failed, ran⟩
    obtain ⟨analysis, succeeds, -⟩ := language.detector.analysis_documented _ fits
    rw [Analysis.ofText, succeeds] at failed
    cases failed

/-- A root with a file of each fate, an ignored directory, one that cannot be listed and a link. -/
def sampleTree : Tree where
  items := [
    (["w"], ⟨.directory, 0⟩),
    (["w", "dist"], ⟨.directory, 0⟩),
    (["w", "dist", "old.py"], ⟨.file "def old():\n".toUTF8, 0⟩),
    (["w", "lib"], ⟨.directory, 0⟩),
    (["w", "lib", "new.PY"], ⟨.file "def new():\n    # @codebase-summary: new\n".toUTF8, 0⟩),
    (["w", "lib", "both.py"], ⟨.file "def one():\ndef two():\n".toUTF8, 0⟩),
    (["w", "private"], ⟨.directory, 0⟩),
    (["w", "private", "a.py"], ⟨.file "def a():\n".toUTF8, 0⟩),
    (["w", "private", "b.py"], ⟨.file "def b():\n".toUTF8, 0⟩),
    (["w", "shared"], ⟨.directory, 0⟩),
    (["w", "shared", "kept.py"], ⟨.file "def kept():\n".toUTF8, 0⟩),
    (["w", "large.py"], ⟨.locked 100, 0⟩),
    (["w", "secret.py"], ⟨.locked 10, 0⟩),
    (["w", "image.py"], ⟨.file ⟨#[1, 0]⟩, 0⟩),
    (["w", "notes.txt"], ⟨.file "def text():\n".toUTF8, 0⟩),
    (["w", "é.py"], ⟨.file "def acute():\n".toUTF8, 0⟩),
    (["w", "è.py"], ⟨.file "def grave():\n".toUTF8, 0⟩),
    (["w", "same.py"], ⟨.link ⟨"lib/new.PY"⟩, 0⟩)]
  workingDir := []

/-- Accented names have one byte for each letter. One directory cannot be listed, and the file in another cannot be
asked for its size. -/
def sampleSight : Sight where
  bytes name :=
    if name = "é.py" then ⟨#[0xE9, 0x2E, 0x70, 0x79]⟩
    else if name = "è.py" then ⟨#[0xE8, 0x2E, 0x70, 0x79]⟩
    else name.toUTF8
  opens names := names ≠ ["private"] ∧ names ≠ ["shared", "kept.py"]

def sampleScope : Scope where
  rules := .compile [⟨"dist", .segment⟩] []
  languages := (Language.of? Language.python).elim .none (Languages.none.add ["py"])
  maxFileSize := 50

theorem sampleTree_proper : sampleTree.Proper := by
  apply Tree.Proper.of_items <;> decide

theorem sampleSight_faithful : sampleSight.Faithful := by
  have unlike : ∀ bytes : ByteArray, String.fromUTF8? bytes = none → ∀ name : String, name.toUTF8 ≠ bytes := by
    rintro bytes unread name rfl
    rw [fromUTF8?_toUTF8] at unread
    cases unread
  have acute := unlike ⟨#[0xE9, 0x2E, 0x70, 0x79]⟩ (by decide)
  have grave := unlike ⟨#[0xE8, 0x2E, 0x70, 0x79]⟩ (by decide)
  have differ : ByteArray.mk #[0xE9, 0x2E, 0x70, 0x79] ≠ ⟨#[0xE8, 0x2E, 0x70, 0x79]⟩ := by decide
  constructor
  · intro name other same
    dsimp only [sampleSight] at same
    have plain : name.toUTF8 = other.toUTF8 → name = other := String.toByteArray_inj.1
    split_ifs at same <;> grind
  · intro name isFile
    by_cases first : name = "é.py"
    · subst first
      decide +kernel
    by_cases second : name = "è.py"
    · subst second
      decide +kernel
    rwa [Sight.text_of_bytes ((if_neg first).trans (if_neg second))]

theorem rootLocation_sample : rootLocation sampleTree ⟨"/w"⟩ = .ok ["w"] := by decide

theorem walk_sample : walk sampleSight sampleScope sampleTree ["w"] = [["dist"], ["image.py"], ["large.py"], ["lib"],
    ["lib", "both.py"], ["lib", "new.PY"], ["notes.txt"], ["private"], ["same.py"], ["secret.py"], ["shared"],
    ["shared", "kept.py"], ["è.py"], ["é.py"]] := by
  have deep : depth sampleTree = 3 := by decide
  rw [walk, deep]
  simp only [visited, Sight.namesIn_eq_insertionSort sampleSight_faithful, Tree.namesIn_eq_insertionSort]
  decide +kernel

def sampleRecords : List FileRecord := [
  ⟨"lib/both.py", "py", ["one", "two"], ["one", "two"], 0, 2, 2⟩,
  ⟨"lib/new.PY", "py", ["new"], [], 1, 1, 2⟩,
  ⟨"\uFFFD.py", "py", ["grave"], ["grave"], 0, 1, 1⟩,
  ⟨"\uFFFD.py", "py", ["acute"], ["acute"], 0, 1, 1⟩]

def sampleScan : Scan := ⟨sampleRecords, ⟨4, 1, 3, 1, 0, 1⟩⟩

theorem gather_sample : (gather (ofEntry sampleSight sampleScope sampleTree ["w"])
    (walk sampleSight sampleScope sampleTree ["w"])).map (ofFindings sampleScope) = .ok sampleScan := by
  have found : (gather (ofEntry sampleSight sampleScope sampleTree ["w"])
      (walk sampleSight sampleScope sampleTree ["w"])).toOption.map (fun findings =>
        (findings.filterMap record?, reportOf sampleScope findings)) = some (sampleRecords, sampleScan.report) := by
    rw [walk_sample]
    decide +kernel
  cases gathered : gather (ofEntry sampleSight sampleScope sampleTree ["w"])
      (walk sampleSight sampleScope sampleTree ["w"]) with
  | error refused =>
    rw [gathered] at found
    cases found
  | ok findings =>
    rw [gathered] at found
    obtain ⟨records, report⟩ := Prod.mk.inj (Option.some.inj found)
    rw [Except.map, ofFindings, records, report, List.mergeSort_of_pairwise (by decide +kernel)]
    rfl

theorem look_sample : Scan.look sampleSight sampleScope sampleTree ⟨"/w"⟩ = .ok sampleScan := by
  rw [look_eq (by decide) rootLocation_sample, gather_sample]
  rfl

/-- Four files are analysed, some of each other fate are left out, and two directories are not entered. -/
theorem look_accounts_sample : sampleSight.Faithful ∧ sampleSight.opens [] = true ∧ sampleTree.Proper ∧
    sampleTree.items.length < Count.limit ∧ rootLocation sampleTree ⟨"/w"⟩ = .ok ["w"] ∧
    Scan.look sampleSight sampleScope sampleTree ⟨"/w"⟩ = .ok sampleScan ∧
    Accounts sampleSight sampleScope sampleTree ["w"] sampleScan := by
  have opened : sampleSight.opens [] = true := by decide
  have counted : sampleTree.items.length < Count.limit := by decide
  rcases look_accounts sampleSight_faithful opened sampleTree_proper counted rootLocation_sample with
    ⟨scan, ran, accounts⟩ | ⟨_, _, _, _, _, -, -, -, ran⟩
  · rw [look_sample] at ran
    cases ran
    exact ⟨sampleSight_faithful, opened, sampleTree_proper, counted, rootLocation_sample, look_sample, accounts⟩
  · rw [look_sample] at ran
    cases ran

def sampleFiles : List (List String) := [["image.py"], ["large.py"], ["lib", "both.py"], ["lib", "new.PY"],
  ["private", "a.py"], ["private", "b.py"], ["secret.py"], ["shared", "kept.py"], ["è.py"], ["é.py"]]

/-- A directory that cannot be listed is counted, whatever it holds, so two files in it are not counted one by one.
Names that read alike make records of one path. -/
theorem look_accounts_overlooks : Scan.look sampleSight sampleScope sampleTree ⟨"/w"⟩ = .ok sampleScan ∧
    sampleFiles.Nodup ∧ (∀ names ∈ sampleFiles, Open sampleSight sampleScope.rules names ∧
      (language? sampleSight sampleScope names).isSome = true ∧
      ((∃ content, sampleTree.node? (["w"] ++ names) = some (.file content)) ∨
        ∃ size, sampleTree.node? (["w"] ++ names) = some (.locked size))) ∧
    (sampleScan.report.filesScanned.toNat + sampleScan.report.skippedOversized.toNat +
      sampleScan.report.skippedUnreadable.toNat + sampleScan.report.skippedBinary.toNat < sampleFiles.length) ∧
    ¬sampleScan.records.Pairwise fun a b => a.path < b.path := by
  have kept : ∀ names ∈ sampleFiles, ∀ above ∈ names.inits, above ≠ [] →
      ¬sampleScope.rules.excludesPath (Path.relative (above.map sampleSight.text)) = true := by decide +kernel
  have registered : ∀ names ∈ sampleFiles, (language? sampleSight sampleScope names).isSome = true := by decide +kernel
  have fated : ∀ names ∈ sampleFiles, (Fate.of? sampleScope true (sampleTree.node? (["w"] ++ names))).isSome = true := by
    decide +kernel
  refine ⟨look_sample, by decide, fun names among => ?_, by decide, by decide⟩
  exact ⟨fun above more within => kept names among above ((List.mem_inits _ _).2 within) more, registered names among,
    Fate.file_of_isSome (fated names among)⟩

/-! Directories of two trees -/

theorem accounts_of_look (faithful : sight.Faithful) (opened : sight.opens [] = true) (proper : tree.Proper)
    (counted : tree.items.length < Count.limit) (rooted : rootLocation tree root = .ok home)
    (ran : Scan.look sight scope tree root = .ok scan) : Accounts sight scope tree home scan := by
  rcases look_cases faithful opened proper rooted with ⟨what, told, ran'⟩ | ⟨_, _, _, _, _, -, -, ran'⟩
  · rw [ran] at ran'
    cases ran'
    exact told.accounts counted
  · rw [ran] at ran'
    cases ran'

theorem Accounts.recordOf (accounts : Accounts sight scope tree home scan) (among : record ∈ scan.records) :
    ∃ names, RecordOf sight scope tree home names record := by
  obtain ⟨files, -, recorded, -⟩ := accounts.records
  obtain ⟨i, inside, rfl⟩ := List.mem_iff_getElem.1 among
  exact ⟨_, recorded.get (recorded.length_eq ▸ inside) inside⟩

theorem Accounts.ascending (accounts : Accounts sight scope tree home scan) :
    scan.records.Pairwise fun a b => a.path ≤ b.path := by
  obtain ⟨files, -, recorded, -, ordered⟩ := accounts.records
  have paths : files.map (fun names => (sight.path names).text) = scan.records.map (·.path) := by
    rw [← List.forall₂_eq_eq_eq, List.forall₂_map_left_iff, List.forall₂_map_right_iff]
    exact recorded.imp fun names record recordOf => (Told.recordOf_path recordOf).symm
  have sorted : (scan.records.map (·.path)).Pairwise (· ≤ ·) := by
    rw [← paths]
    refine List.pairwise_map.2 (ordered.imp fun before => ?_)
    rcases before with before | alike
    · exact Std.le_of_lt before
    · rw [Sight.path, Sight.path, alike]
  exact List.pairwise_map.1 sorted

theorem there_finite (tree : Tree) (home : Location) :
    {names | names ≠ [] ∧ tree.node? (home ++ names) ≠ none}.Finite := by
  have listed : {k | k ∈ tree.items.map Prod.fst}.Finite := List.finite_toSet _
  have below : {names | home ++ names ∈ tree.items.map Prod.fst}.Finite :=
    listed.preimage fun _ _ _ _ => List.append_cancel_left
  exact below.subset fun names there => (Tree.node?_ne_none_iff (by simp [there.1])).1 there.2

theorem pruned_finite (sight : Sight) (rules : IgnoreRules) (tree : Tree) (home : Location) :
    {names | Pruned sight rules tree home names}.Finite :=
  (there_finite tree home).subset fun _ pruned => ⟨pruned.inside, by simp [pruned.directory]⟩

theorem closed_finite (sight : Sight) (rules : IgnoreRules) (tree : Tree) (home : Location) :
    {names | Closed sight rules tree home names}.Finite :=
  (there_finite tree home).subset fun _ closed => ⟨closed.inside, by simp [closed.directory]⟩

theorem pruned_grows {rules : IgnoreRules} {a b : Tree}
    (kept : ∀ k, a.node? k = some .directory → b.node? k = some .directory) :
    {names | Pruned sight rules b home names}.ncard = {names | Pruned sight rules a home names}.ncard +
      {names | Pruned sight rules b home names ∧ a.node? (home ++ names) ≠ some .directory}.ncard := by
  -- The ignored directories are those that were there and those that were not.
  have parts : {names | Pruned sight rules b home names} = {names | Pruned sight rules a home names} ∪
      {names | Pruned sight rules b home names ∧ a.node? (home ++ names) ≠ some .directory} := by
    ext names
    rw [Set.mem_union, Set.mem_ofPred_eq, Set.mem_ofPred_eq, Set.mem_ofPred_eq]
    constructor
    · intro pruned
      by_cases there : a.node? (home ++ names) = some .directory
      · exact .inl { pruned with directory := there }
      · exact .inr ⟨pruned, there⟩
    · rintro (pruned | ⟨pruned, -⟩)
      · exact { pruned with directory := kept _ pruned.directory }
      · exact pruned
  have apart : Disjoint {names | Pruned sight rules a home names}
      {names | Pruned sight rules b home names ∧ a.node? (home ++ names) ≠ some .directory} := by
    rw [Set.disjoint_left]
    rintro names pruned ⟨-, other⟩
    exact other pruned.directory
  rw [parts]
  exact Set.ncard_union_eq apart (pruned_finite sight rules a home)
    ((pruned_finite sight rules b home).subset fun names pruned => pruned.1)

end Scan

end Waymark
