import Waymark.Proofs.Path.Relative
import Waymark.Proofs.Scan.Walk

/-! What a scan makes of one entry. An ignored directory is pruned and one that cannot be listed is counted, a file
of a language has one of four fates, and everything else is passed over.
-/

set_option autoImplicit false

namespace Waymark

/-! Binary contents -/

theorem toList_bytes (bytes : ByteArray) : bytes.toList = bytes.data.toList := by
  have loop : ∀ n i read, bytes.size - i = n →
      ByteArray.toList.loop bytes i read = read.reverse ++ bytes.data.toList.drop i := by
    intro n
    induction n with
    | zero =>
      intro i read rest
      have beyond : bytes.data.toList.length ≤ i := by
        change bytes.size ≤ i
        omega
      unfold ByteArray.toList.loop
      rw [if_neg (by omega), List.drop_eq_nil_of_le beyond, List.append_nil]
    | succ n ih =>
      intro i read rest
      have inside : i < bytes.data.toList.length := by
        change i < bytes.size
        omega
      have byte : bytes.get! i = bytes.data.toList[i] := getElem!_pos bytes.data i inside
      unfold ByteArray.toList.loop
      rw [if_pos (by omega), ih (i + 1) _ (by omega), List.drop_eq_getElem_cons inside, List.reverse_cons,
        List.append_assoc, List.singleton_append, byte]
  exact loop _ 0 [] rfl

theorem Finding.looksBinary_iff (content : ByteArray) :
    looksBinary content = true ↔ ∃ i < sniffLength, content.data[i]? = some 0 := by
  rw [looksBinary, List.contains_iff_mem, toList_bytes, ByteArray.data_extract, Array.mem_toList_iff,
    Array.mem_iff_getElem?]
  constructor
  · rintro ⟨i, found⟩
    rw [Array.getElem?_extract] at found
    split at found
    · rw [Nat.zero_add] at found
      exact ⟨i, by omega, found⟩
    · cases found
  · rintro ⟨i, early, found⟩
    have inside := (Array.getElem?_eq_some_iff.1 found).1
    refine ⟨i, ?_⟩
    rw [Array.getElem?_extract, if_pos (by omega), Nat.zero_add, found]

inductive Fate where
  | scanned
  | oversized
  | unreadable
  | binary
  deriving DecidableEq

namespace Fate

/-- The fate of a regular file that belongs to a language, by whether it can be asked for its size. -/
def of? (scope : Scope) (opened : Bool) : Option Node → Option Fate
  | some (.file content) =>
    some (if !opened then unreadable
      else if scope.maxFileSize.toNat < content.size then oversized
      else if Finding.looksBinary content then binary else scanned)
  | some (.locked size) =>
    some (if !opened then unreadable else if scope.maxFileSize.toNat < size then oversized else unreadable)
  | _ => none

theorem file_of_isSome {scope : Scope} {opened : Bool} {stands : Option Node}
    (fated : (of? scope opened stands).isSome = true) :
    (∃ content, stands = some (.file content)) ∨ ∃ size, stands = some (.locked size) := by
  cases stands with
  | none => cases fated
  | some node =>
    cases node with
    | file content => exact .inl ⟨content, rfl⟩
    | locked size => exact .inr ⟨size, rfl⟩
    | directory | link _ => cases fated

/-- The counter of a fate. That of the unreadable files has the directories that cannot be listed as well. -/
def count (report : RunReport) : Fate → Count
  | scanned => report.filesScanned
  | oversized => report.skippedOversized
  | unreadable => report.skippedUnreadable
  | binary => report.skippedBinary

end Fate

namespace Finding

variable {sight : Sight} {scope : Scope} {tree : Tree} {home : Location} {names : List String}
  {found : List Finding} {refused : Overflow} {fate : Fate} {extension : String} {language : Language}
  {content : ByteArray}

def fate? : Finding → Option Fate
  | .pruned | .closed => none
  | .oversized => some .oversized
  | .unreadable => some .unreadable
  | .binary => some .binary
  | .record _ => some .scanned

def language? (sight : Sight) (scope : Scope) (names : List String) : Option (String × Language) :=
  languageOf? sight scope.languages (names.getLastD "")

/-- A file that is to be analysed, ignored or not. -/
structure Suits (sight : Sight) (scope : Scope) (tree : Tree) (home : Location) (names : List String)
    (extension : String) (language : Language) (content : ByteArray) : Prop where
  file : tree.node? (home ++ names) = some (.file content)
  registered : language? sight scope names = some (extension, language)
  opened : sight.opens names = true
  small : content.size ≤ scope.maxFileSize.toNat
  text : looksBinary content = false

theorem Suits.fated (suits : Suits sight scope tree home names extension language content) :
    Fate.of? scope (sight.opens names) (tree.node? (home ++ names)) = some .scanned := by
  rw [suits.file, suits.opened, Fate.of?, if_neg (by decide), if_neg (Nat.not_lt.2 suits.small), suits.text]
  rfl

theorem Suits.unique {extension' : String} {language' : Language} {content' : ByteArray}
    (suits : Suits sight scope tree home names extension language content)
    (suits' : Suits sight scope tree home names extension' language' content') :
    extension' = extension ∧ language' = language ∧ content' = content := by
  have registered := suits'.registered.symm.trans suits.registered
  have file := suits'.file.symm.trans suits.file
  cases registered
  cases file
  exact ⟨rfl, rfl, rfl⟩

theorem ofEntry_suits (kept : scope.rules.excludes (names.map sight.text) = false)
    (suits : Suits sight scope tree home names extension language content) : ofEntry sight scope tree home names = do
      let analysis ← Analysis.ofText language (Text.Utf8.read content)
      return [.record (recordOf (sight.path names).text extension analysis)] := by
  have registered := suits.registered
  rw [language?] at registered
  rw [ofEntry, kept, suits.file]
  unfold ofFile
  simp only [Bool.false_eq_true, if_false, registered, suits.opened, Bool.not_true,
    if_neg (Nat.not_lt.2 suits.small), suits.text]
  rfl

theorem ofEntry_foreign (file : tree.node? (home ++ names) = some (.file content))
    (foreign : language? sight scope names = none) : ofEntry sight scope tree home names = .ok [] := by
  rw [language?] at foreign
  unfold ofEntry ofFile
  simp only [file, foreign, ite_self, Option.some.injEq, reduceCtorEq, if_false]

/-- What an entry comes to. -/
inductive Comes (sight : Sight) (scope : Scope) (tree : Tree) (home : Location) (names : List String) :
    Except Overflow (List Finding) → Prop where
  | pruned (excluded : scope.rules.excludes (names.map sight.text) = true)
    (directory : tree.node? (home ++ names) = some .directory) : Comes sight scope tree home names (.ok [.pruned])
  | excluded (excluded : scope.rules.excludes (names.map sight.text) = true)
    (other : tree.node? (home ++ names) ≠ some .directory) : Comes sight scope tree home names (.ok [])
  | closed (kept : scope.rules.excludes (names.map sight.text) = false)
    (directory : tree.node? (home ++ names) = some .directory) (shut : sight.opens names = false) :
    Comes sight scope tree home names (.ok [.closed])
  | passed (kept : scope.rules.excludes (names.map sight.text) = false)
    (opened : tree.node? (home ++ names) = some .directory → sight.opens names = true)
    (other : language? sight scope names = none ∨ Fate.of? scope (sight.opens names) (tree.node? (home ++ names)) = none) :
    Comes sight scope tree home names (.ok [])
  | skipped {finding : Finding} {fate : Fate} (kept : scope.rules.excludes (names.map sight.text) = false)
    (registered : (language? sight scope names).isSome = true)
    (fated : Fate.of? scope (sight.opens names) (tree.node? (home ++ names)) = some fate) (told : finding.fate? = some fate)
    (unread : finding.record? = none) : Comes sight scope tree home names (.ok [finding])
  | read {extension : String} {language : Language} {content : ByteArray} {analysis : Analysis}
    (kept : scope.rules.excludes (names.map sight.text) = false) (suits : Suits sight scope tree home names extension language content)
    (analysed : Analysis.ofText language (Text.Utf8.read content) = .ok analysis) :
    Comes sight scope tree home names (.ok [.record (recordOf (sight.path names).text extension analysis)])
  | refused {extension : String} {language : Language} {content : ByteArray} {refused : Overflow}
    (kept : scope.rules.excludes (names.map sight.text) = false) (suits : Suits sight scope tree home names extension language content)
    (failed : Analysis.ofText language (Text.Utf8.read content) = .error refused) :
    Comes sight scope tree home names (.error refused)

theorem comes_of_file (kept : scope.rules.excludes (names.map sight.text) = false)
    (stands : tree.node? (home ++ names) = some (.file content)) :
    Comes sight scope tree home names (ofFile sight scope names content.size (some content)) := by
  -- In this order: its language, whether it can be asked for its size, its size, its content.
  unfold ofFile
  split
  · rename_i foreign
    exact .passed kept (by simp [stands]) (.inl foreign)
  rename_i extension language registered
  have known : (language? sight scope names).isSome = true := by rw [language?, registered]; rfl
  split
  · rename_i shut
    have fated : Fate.of? scope (sight.opens names) (tree.node? (home ++ names)) = some .unreadable := by
      rw [stands, Fate.of?, if_pos shut]
    exact .skipped kept known fated rfl rfl
  rename_i opened
  split
  · rename_i large
    have fated : Fate.of? scope (sight.opens names) (tree.node? (home ++ names)) = some .oversized := by
      rw [stands, Fate.of?, if_neg opened, if_pos large]
    exact .skipped kept known fated rfl rfl
  rename_i notLarge
  dsimp only
  split
  · rename_i binary
    have fated : Fate.of? scope (sight.opens names) (tree.node? (home ++ names)) = some .binary := by
      rw [stands, Fate.of?, if_neg opened, if_neg notLarge, if_pos binary]
    exact .skipped kept known fated rfl rfl
  · rename_i notBinary
    have suits : Suits sight scope tree home names extension language content :=
      ⟨stands, registered, by simpa using opened, Nat.not_lt.1 notLarge, Bool.eq_false_iff.2 notBinary⟩
    cases analysed : Analysis.ofText language (Text.Utf8.read content) with
    | ok analysis => exact .read kept suits analysed
    | error refused => exact .refused kept suits analysed

theorem comes_of_locked {size : Nat} (kept : scope.rules.excludes (names.map sight.text) = false)
    (stands : tree.node? (home ++ names) = some (.locked size)) :
    Comes sight scope tree home names (ofFile sight scope names size none) := by
  unfold ofFile
  split
  · rename_i foreign
    exact .passed kept (by simp [stands]) (.inl foreign)
  rename_i extension language registered
  have known : (language? sight scope names).isSome = true := by rw [language?, registered]; rfl
  split
  · rename_i shut
    have fated : Fate.of? scope (sight.opens names) (tree.node? (home ++ names)) = some .unreadable := by
      rw [stands, Fate.of?, if_pos shut]
    exact .skipped kept known fated rfl rfl
  rename_i opened
  split
  · rename_i large
    have fated : Fate.of? scope (sight.opens names) (tree.node? (home ++ names)) = some .oversized := by
      rw [stands, Fate.of?, if_neg opened, if_pos large]
    exact .skipped kept known fated rfl rfl
  · rename_i notLarge
    have fated : Fate.of? scope (sight.opens names) (tree.node? (home ++ names)) = some .unreadable := by
      rw [stands, Fate.of?, if_neg opened, if_neg notLarge]
    exact .skipped kept known fated rfl rfl

theorem ofEntry_comes (sight : Sight) (scope : Scope) (tree : Tree) (home : Location) (names : List String) :
    Comes sight scope tree home names (ofEntry sight scope tree home names) := by
  unfold ofEntry
  split
  · rename_i excluded
    split
    · rename_i directory
      exact .pruned excluded directory
    · rename_i other
      exact .excluded excluded other
  rename_i notExcluded
  have kept : scope.rules.excludes (names.map sight.text) = false := Bool.eq_false_iff.2 notExcluded
  split
  · rename_i directory
    cases opened : sight.opens names with
    | true => exact .passed kept (fun _ => opened) (.inr (by rw [directory]; rfl))
    | false => exact .closed kept directory opened
  · rename_i stands
    exact comes_of_file kept stands
  · rename_i stands
    exact comes_of_locked kept stands
  · rename_i notDirectory notFile notLocked
    refine .passed kept (fun directory => absurd directory notDirectory) (.inr ?_)
    cases stands : tree.node? (home ++ names) with
    | none => rfl
    | some node =>
      cases node with
      | file content => exact absurd stands (notFile content)
      | locked size => exact absurd stands (notLocked size)
      | directory => exact absurd stands notDirectory
      | link _ => rfl

namespace Comes

theorem short (comes : Comes sight scope tree home names (.ok found)) : found.length ≤ 1 := by
  cases comes <;> exact Nat.le_of_ble_eq_true rfl

theorem pruned_iff (comes : Comes sight scope tree home names (.ok found)) : .pruned ∈ found ↔
    scope.rules.excludes (names.map sight.text) = true ∧ tree.node? (home ++ names) = some .directory := by
  cases comes with
  | pruned excluded directory => exact ⟨fun _ => ⟨excluded, directory⟩, fun _ => List.mem_cons_self⟩
  | excluded excluded other =>
    exact ⟨fun among => absurd among List.not_mem_nil, fun both => absurd both.2 other⟩
  | closed kept _ _ | passed kept _ _ | read kept _ _ => simp [kept]
  | skipped kept _ _ told _ =>
    rw [kept]
    refine ⟨fun among => ?_, fun both => absurd both.1 Bool.false_ne_true⟩
    rw [← List.mem_singleton.1 among] at told
    cases told

theorem closed_iff (comes : Comes sight scope tree home names (.ok found)) : .closed ∈ found ↔
    scope.rules.excludes (names.map sight.text) = false ∧ tree.node? (home ++ names) = some .directory ∧
      sight.opens names = false := by
  cases comes with
  | pruned excluded _ | excluded excluded _ => simp [excluded]
  | closed kept directory shut => exact ⟨fun _ => ⟨kept, directory, shut⟩, fun _ => List.mem_cons_self⟩
  | passed _ opened _ =>
    refine ⟨fun among => absurd among List.not_mem_nil, ?_⟩
    rintro ⟨-, directory, shut⟩
    rw [opened directory] at shut
    cases shut
  | skipped _ _ fated told _ =>
    constructor
    · intro among
      rw [← List.mem_singleton.1 among] at told
      cases told
    · rintro ⟨-, directory, -⟩
      rw [directory] at fated
      cases fated
  | read _ suits _ => simp [suits.file]

theorem fate_iff (comes : Comes sight scope tree home names (.ok found)) :
    (∃ finding ∈ found, finding.fate? = some fate) ↔ scope.rules.excludes (names.map sight.text) = false ∧
      (language? sight scope names).isSome = true ∧ Fate.of? scope (sight.opens names) (tree.node? (home ++ names)) = some fate := by
  cases comes with
  | pruned excluded _ => simp [excluded, fate?]
  | excluded excluded _ => simp [excluded]
  | closed _ directory _ => simp [directory, fate?, Fate.of?]
  | passed kept _ other =>
    rw [kept]
    rcases other with foreign | unfated
    · simp [foreign]
    · simp [unfated]
  | skipped kept registered fated told _ => simp [kept, registered, fated, told]
  | read kept suits _ =>
    have registered := suits.registered
    simp [kept, registered, suits.fated, fate?]

theorem record_iff {record : FileRecord} (comes : Comes sight scope tree home names (.ok found)) :
    .record record ∈ found ↔ ∃ extension language content analysis, scope.rules.excludes (names.map sight.text) = false ∧
      Suits sight scope tree home names extension language content ∧
      Analysis.ofText language (Text.Utf8.read content) = .ok analysis ∧
      record = recordOf (sight.path names).text extension analysis := by
  cases comes with
  | pruned excluded _ => simp [excluded]
  | excluded excluded _ => simp [excluded]
  | closed _ directory _ =>
    constructor
    · simp
    · rintro ⟨extension, language, content, analysis, -, suits, -, -⟩
      rw [suits.file] at directory
      cases directory
  | passed kept _ other =>
    refine ⟨fun among => absurd among List.not_mem_nil, ?_⟩
    rintro ⟨extension, language, content, analysis, -, suits, -, -⟩
    -- A file that suits has a language and a size within the bounds.
    rcases other with foreign | unfated
    · rw [suits.registered] at foreign
      cases foreign
    · rw [suits.fated] at unfated
      cases unfated
  | @skipped finding fate kept registered fated told unread =>
    constructor
    · intro among
      rw [← List.mem_singleton.1 among] at unread
      cases unread
    · rintro ⟨extension, language, content, analysis, -, suits, -, -⟩
      rw [suits.fated] at fated
      cases fated
      cases finding with
      | record found => cases unread
      | pruned | oversized | unreadable | closed | binary => cases told
  | read kept suits analysed =>
    rw [List.mem_singleton]
    constructor
    · rintro same
      cases same
      exact ⟨_, _, _, _, kept, suits, analysed, rfl⟩
    · rintro ⟨extension, language, content, analysis, -, suits', analysed', rfl⟩
      obtain ⟨rfl, rfl, rfl⟩ := suits.unique suits'
      rw [analysed] at analysed'
      cases analysed'
      rfl

theorem analysed (comes : Comes sight scope tree home names (.ok found)) (kept : scope.rules.excludes (names.map sight.text) = false)
    (suits : Suits sight scope tree home names extension language content) :
    ∃ analysis, Analysis.ofText language (Text.Utf8.read content) = .ok analysis := by
  have scanned : ∃ finding ∈ found, finding.fate? = some .scanned :=
    comes.fate_iff.2 ⟨kept, by rw [suits.registered]; rfl, suits.fated⟩
  obtain ⟨finding, among, told⟩ := scanned
  cases finding with
  | record record =>
    obtain ⟨extension', language', content', analysis, -, suits', analysed, -⟩ := comes.record_iff.1 among
    obtain ⟨rfl, rfl, rfl⟩ := suits.unique suits'
    exact ⟨analysis, analysed⟩
  | pruned | oversized | unreadable | closed | binary => cases told

end Comes

end Finding

end Waymark
