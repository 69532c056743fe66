import Mathlib
import Waymark.Proofs.Language.Builtin
import Waymark.Proofs.Scan.Account
import Waymark.Proofs.Scan.Likeness
import Waymark.Proofs.Store.History

/-! What the tool writes is nothing that it measures. Documents, copies and temporary files have extensions
of no language, so a scan tells the same of two trees that differ only in them and in the directories that
they need, but for how many of these directories are ignored or cannot be listed.
-/

set_option autoImplicit false

namespace Waymark

variable {sight first second : Sight} {name : String} {path : Path} {k home : Location} {names : List String}
  {outputRoot hostRoot : Path} {a b : Tree}

theorem languageOf?_output (output : IsOutputName name) (plain : sight.text name = name) :
    Finding.languageOf? sight Languages.builtin name = none := by
  obtain ⟨ending, among, extension⟩ := output
  have uncovered : ∀ ending ∈ outputExtensions, ∀ source ∈ Language.sources,
      source.covers (String.ofList (Text.asciiLowercase ending.toList)) = false := by decide
  rw [Finding.languageOf?, Option.bind_eq_none_iff]
  intro found held
  rw [Sight.extension?, plain, extension] at held
  cases (Option.filter_eq_some_iff.1 held).1
  dsimp only
  rw [Languages.find?_uncovered (uncovered ending among)]
  rfl

namespace Store

inductive Written (paths : OutputPaths) : Path → Prop
  | document (doc : Doc) : Written paths (doc.path (.ofPaths paths))
  | copy (version : Version) (now : Time) : Written paths ((Store.ofPaths paths).historyPath version now)
  | documentTemporary (doc : Doc) : Written paths (doc.path (.ofPaths paths)).temporary
  | copyTemporary (version : Version) (now : Time) :
    Written paths ((Store.ofPaths paths).historyPath version now).temporary

theorem isOutputName_doc (doc : Doc) : IsOutputName doc.name := by
  cases doc with
  | archive version now =>
    have point : (".json" : String).toList = '.' :: ("json" : String).toList := rfl
    refine isOutputName_of_append (Doc.isFileName (.archive version now)) ?_ point (by decide)
    simp [String.append_assoc]
  | _ => decide

theorem written_name (written : Written (.derive outputRoot hostRoot) path) :
    ∃ name, IsFileName name ∧ IsOutputName name ∧ path.steps.getLast? = some name := by
  have joined : ∀ doc : Doc, ∃ dir : Path, doc.path (.ofPaths (.derive outputRoot hostRoot)) = dir.join doc.name := by
    intro doc
    cases doc with
    | summary | changelog => exact ⟨outputRoot, rfl⟩
    | session | handoff | missingDocs => exact ⟨outputRoot.join "codebase_summary", rfl⟩
    | checkpointLog => exact ⟨outputRoot.join "checkpoints", rfl⟩
    | archive version now =>
      rw [Doc.path, archivePath_eq, Doc.name]
      exact ⟨_, rfl⟩
  cases written with
  | document doc =>
    obtain ⟨dir, same⟩ := joined doc
    rw [same]
    exact ⟨doc.name, doc.isFileName, isOutputName_doc doc, Path.getLast?_steps_join dir doc.isFileName⟩
  | documentTemporary doc =>
    obtain ⟨dir, same⟩ := joined doc
    rw [same]
    exact ⟨_, Path.isFileName_temporary doc.isFileName, isOutputName_temporary doc.isFileName,
      Path.getLast?_steps_temporary dir doc.isFileName⟩
  | copy version now =>
    have isFile := isFileName_historyName version now
    have output := isOutputName_of_isHistoryName isFile (isHistoryName_historyName version now)
    rw [historyPath_eq]
    exact ⟨_, isFile, output, Path.getLast?_steps_join _ isFile⟩
  | copyTemporary version now =>
    have isFile := isFileName_historyName version now
    rw [historyPath_eq]
    exact ⟨_, Path.isFileName_temporary isFile, isOutputName_temporary isFile, Path.getLast?_steps_temporary _ isFile⟩

/-- Where a file that the tool writes stands in a tree, once its directory is made. -/
def OutputPlace (paths : OutputPaths) (tree : Tree) (k : Location) : Prop :=
  ∃ path, Written paths path ∧ tree.place? path = some k

theorem OutputPlace.named {tree : Tree} (output : OutputPlace (.derive outputRoot hostRoot) tree k) :
    ∃ path name, Written (.derive outputRoot hostRoot) path ∧ path.steps.getLast? = some name ∧ IsOutputName name ∧
      k.getLast? = some name := by
  obtain ⟨path, written, placed⟩ := output
  obtain ⟨name, isFile, isOutput, ends⟩ := written_name written
  exact ⟨path, name, written, ends, isOutput, Tree.getLast?_of_place? isFile.isName ends placed⟩

/-- The names that the tool writes are texts, whatever other names are. -/
def WritesTexts (paths : OutputPaths) (sight : Sight) : Prop :=
  ∀ path name, Written paths path → path.steps.getLast? = some name → sight.bytes name = name.toUTF8

end Store

namespace Scan

open Finding Store

/-- How two trees compare at one place. A directory of only one of them holds no more than files that the
tool writes, and directories. -/
inductive Compares (paths : OutputPaths) (a b : Tree) (k : Location) : Prop where
  | same (same : a.node? k = b.node? k)
  | output (output : OutputPlace paths a k ∨ OutputPlace paths b k)
    (first : ∀ node ∈ a.node? k, node.isWay = false) (second : ∀ node ∈ b.node? k, node.isWay = false)
  | first (directory : a.node? k = some .directory) (missing : b.node? k = none)
  | second (missing : a.node? k = none) (directory : b.node? k = some .directory)

/-- Two trees that differ only in files that the tool writes and in the directories that hold them. -/
structure DifferInOutputs (paths : OutputPaths) (a b : Tree) : Prop where
  workingDir : a.workingDir = b.workingDir
  compares : ∀ k, Compares paths a b k

variable {scope : Scope} {home' : Location} {paths : OutputPaths} {root : Path} {found other : Scan}

theorem Compares.symm (compares : Compares paths a b k) : Compares paths b a k := by
  cases compares with
  | same same => exact .same same.symm
  | output output first second => exact .output output.symm second first
  | first directory missing => exact .second missing directory
  | second missing directory => exact .first directory missing

theorem DifferInOutputs.symm (differ : DifferInOutputs paths a b) : DifferInOutputs paths b a :=
  ⟨differ.workingDir.symm, fun k => (differ.compares k).symm⟩

/-- What is known of both trees together: the ways of either. -/
def joint (a b : Tree) (k : Location) : Option Node :=
  match a.node? k with
  | some node => if node.isWay then some node else b.node? k
  | none => b.node? k

theorem joint_first {node : Node} (way : node.isWay = true) (there : a.node? k = some node) :
    joint a b k = some node := by
  rw [joint, there]
  exact if_pos way

theorem DifferInOutputs.joint_second {node : Node} (differ : DifferInOutputs paths a b) (way : node.isWay = true)
    (there : b.node? k = some node) : joint a b k = some node := by
  cases differ.compares k with
  | same same => exact joint_first way (same.trans there)
  | output _ _ second =>
    have flat := second node there
    rw [way] at flat
    cases flat
  | first _ missing =>
    rw [missing] at there
    cases there
  | second missing _ => rw [joint, missing, there]

theorem DifferInOutputs.same_home (differ : DifferInOutputs paths a b) (rootedA : rootLocation a root = .ok home)
    (rootedB : rootLocation b root = .ok home') : home = home' := by
  obtain ⟨-, directoryA, walkedA⟩ := rootLocation_ok rootedA
  obtain ⟨-, directoryB, walkedB⟩ := rootLocation_ok rootedB
  have waysA : ∀ k node, node.isWay = true → a.node? k = some node → joint a b k = some node :=
    fun _ _ way there => joint_first way there
  have waysB : ∀ k node, node.isWay = true → b.node? k = some node → joint a b k = some node :=
    fun _ _ way there => differ.joint_second way there
  have first := Tree.walkWithin_keep waysA directoryA walkedA
  have second := Tree.walkWithin_keep waysB directoryB walkedB
  rw [differ.workingDir, second] at first
  exact (Except.ok.inj first).symm

theorem not_tells_of_name (tree : Tree) (inside : names ≠ []) (languages : scope.languages = Languages.builtin)
    (isOutput : IsOutputName name) (plain : sight.text name = name)
    (last : (home ++ names).getLast? = some name) : Tells sight scope tree home names = false := by
  obtain ⟨front, final, same⟩ := (List.eq_nil_or_concat names).resolve_left inside
  rw [List.concat_eq_append] at same
  subst same
  rw [← List.append_assoc, List.getLast?_concat] at last
  obtain rfl := Option.some.inj last
  have foreign : language? sight scope (front ++ [final]) = none := by
    rw [language?, languages, List.getLastD_concat]
    exact languageOf?_output isOutput plain
  rw [Tells, foreign, Option.isSome_none, Bool.and_false, Bool.false_and]

/-- Trees with other files of such names, and with directories where nothing stood, have the same files to
tell of where the ways to them are open in both or in none. -/
theorem sameFiles_of_places (languages : scope.languages = Languages.builtin) (bytes : first.bytes = second.bytes)
    (home : Location)
    (places : ∀ k, a.node? k = b.node? k ∨
      (∃ name, IsOutputName name ∧ first.text name = name ∧ k.getLast? = some name) ∨
      (a.node? k = some .directory ∧ b.node? k = none) ∨ a.node? k = none ∧ b.node? k = some .directory)
    (opens : ∀ names, names ≠ [] → Tells first scope a home names = true ∨ Tells second scope b home names = true →
      ∀ above, above ≠ [] → above <+: names → first.opens above = second.opens above) :
    SameFiles first second scope a b home := by
  refine ⟨bytes, fun names inside tells => ?_, opens⟩
  have fated : (Fate.of? scope (first.opens names) (a.node? (home ++ names))).isSome = true ∨
      (Fate.of? scope (second.opens names) (b.node? (home ++ names))).isSome = true :=
    tells.imp (fun tells => (Bool.and_eq_true_iff.1 tells).2) fun tells => (Bool.and_eq_true_iff.1 tells).2
  rcases places (home ++ names) with same | ⟨name, isOutput, plain, last⟩ | ⟨directory, missing⟩ | ⟨missing, directory⟩
  · exact same
  · have plain' : second.text name = name := text_congr bytes ▸ plain
    rw [not_tells_of_name a inside languages isOutput plain last,
      not_tells_of_name b inside languages isOutput plain' last] at tells
    simp at tells
  · rw [directory, missing] at fated
    simp [Fate.of?] at fated
  · rw [directory, missing] at fated
    simp [Fate.of?] at fated

/-- At a place and below it stand no more than files that the tool writes, and directories. -/
def HoldsOutputs (paths : OutputPaths) (a b : Tree) (k : Location) : Prop :=
  ∀ rest node, a.node? (k ++ rest) = some node ∨ b.node? (k ++ rest) = some node →
    node = .directory ∨ OutputPlace paths a (k ++ rest) ∨ OutputPlace paths b (k ++ rest)

theorem HoldsOutputs.below (holds : HoldsOutputs paths a b k) (rest : Location) : HoldsOutputs paths a b (k ++ rest) := by
  intro further node stands
  rw [List.append_assoc] at stands ⊢
  exact holds _ node stands

theorem DifferInOutputs.holdsOutputs (differ : DifferInOutputs paths a b) (formed : b.Formed) (missing : b.node? k = none) :
    HoldsOutputs paths a b k := by
  intro rest node stands
  -- Below a place where nothing stands nothing can stand.
  have empty : b.node? (k ++ rest) = none := by
    by_cases last : rest = []
    · rw [last, List.append_nil, missing]
    apply Classical.byContradiction
    intro there
    have directory : b.node? k = some .directory := by
      refine formed.directory_of_prefix (formed.above there) ?_
      rw [List.dropLast_append_of_ne_nil last]
      exact List.prefix_append k _
    rw [missing] at directory
    cases directory
  rw [empty] at stands
  have stands := stands.resolve_right (by simp)
  cases differ.compares (k ++ rest) with
  | same same =>
    rw [stands, empty] at same
    cases same
  | output output _ _ => exact .inr output
  | first directory _ =>
    rw [stands] at directory
    cases directory
    exact .inl rfl
  | second _ directory =>
    rw [empty] at directory
    cases directory

/-- The same can be listed and asked for its size in both trees, but for what holds no more than files that the tool
writes. -/
structure SeenAlike (paths : OutputPaths) (a b : Tree) (home : Location) (first second : Sight) : Prop where
  bytes : first.bytes = second.bytes
  opens : ∀ names, first.opens names = second.opens names ∨ HoldsOutputs paths a b (home ++ names)

theorem HoldsOutputs.symm (holds : HoldsOutputs paths a b k) : HoldsOutputs paths b a k :=
  fun rest node stands => (holds rest node stands.symm).imp_right Or.symm

theorem SeenAlike.symm (seen : SeenAlike paths a b home first second) : SeenAlike paths b a home second first where
  bytes := seen.bytes.symm
  opens names := (seen.opens names).imp Eq.symm HoldsOutputs.symm

theorem not_holdsOutputs_of_tells (languages : scope.languages = Languages.builtin)
    (plain : WritesTexts (.derive outputRoot hostRoot) sight) (inside : names ≠ []) {tree : Tree}
    (among : tree = a ∨ tree = b) (tells : Tells sight scope tree home names = true) :
    ¬HoldsOutputs (.derive outputRoot hostRoot) a b (home ++ names) := by
  intro holds
  have fated : (Fate.of? scope (sight.opens names) (tree.node? (home ++ names))).isSome = true :=
    (Bool.and_eq_true_iff.1 tells).2
  obtain ⟨node, stands⟩ := Option.ne_none_iff_exists'.1 (there_of_tells tells)
  have held := holds [] node
  rw [List.append_nil] at held
  -- What is told of is no directory, so it would have a name that the tool gives.
  have output : ∃ path name, Written (.derive outputRoot hostRoot) path ∧ path.steps.getLast? = some name ∧
      IsOutputName name ∧ (home ++ names).getLast? = some name := by
    have stands' : a.node? (home ++ names) = some node ∨ b.node? (home ++ names) = some node := by
      rcases among with rfl | rfl
      · exact .inl stands
      · exact .inr stands
    rcases held stands' with rfl | output | output
    · rw [stands] at fated
      cases fated
    · exact output.named
    · exact output.named
  obtain ⟨path, name, written, ends, isOutput, last⟩ := output
  have silent : Tells sight scope tree home names = false :=
    not_tells_of_name tree inside languages isOutput (Sight.text_of_bytes (plain path name written ends)) last
  rw [silent] at tells
  cases tells

theorem DifferInOutputs.sameFiles (differ : DifferInOutputs (.derive outputRoot hostRoot) a b)
    (seen : SeenAlike (.derive outputRoot hostRoot) a b home first second)
    (plain : WritesTexts (.derive outputRoot hostRoot) first) (languages : scope.languages = Languages.builtin) :
    SameFiles first second scope a b home := by
  have plain' : WritesTexts (.derive outputRoot hostRoot) second := by
    intro path name written ends
    rw [← seen.bytes, plain path name written ends]
  refine sameFiles_of_places languages seen.bytes home (fun k => ?_) fun names inside tells above more within => ?_
  · cases differ.compares k with
    | same same => exact .inl same
    | output output _ _ =>
      have named : ∃ path name, Written (.derive outputRoot hostRoot) path ∧ path.steps.getLast? = some name ∧
          IsOutputName name ∧ k.getLast? = some name := by
        rcases output with output | output <;> exact output.named
      obtain ⟨path, name, written, ends, isOutput, last⟩ := named
      exact .inr (.inl ⟨name, isOutput, Sight.text_of_bytes (plain path name written ends), last⟩)
    | first directory missing => exact .inr (.inr (.inl ⟨directory, missing⟩))
    | second missing directory => exact .inr (.inr (.inr ⟨missing, directory⟩))
  -- A directory above what is told of holds more than outputs, so it can be listed in both trees or in none.
  · refine (seen.opens above).resolve_right fun holds => ?_
    obtain ⟨rest, rfl⟩ := within
    have further := holds.below rest
    rw [List.append_assoc] at further
    rcases tells with tells | tells
    · exact not_holdsOutputs_of_tells languages plain inside (.inl rfl) tells further
    · exact not_holdsOutputs_of_tells languages plain' inside (.inr rfl) tells further

/-! Directories that cannot be listed -/

/-- Directories that cannot be listed, with no more in them than what the tool writes. -/
def closedOutputs (paths : OutputPaths) (a b tree : Tree) (sight : Sight) (rules : IgnoreRules) (home : Location) :
    Set (List String) :=
  {names | Closed sight rules tree home names ∧ HoldsOutputs paths a b (home ++ names)}

theorem Closed.transfer {rules : IgnoreRules} (differ : DifferInOutputs paths a b) (formed : b.Formed)
    (seen : SeenAlike paths a b home first second) (closed : Closed first rules a home names)
    (other : ¬HoldsOutputs paths a b (home ++ names)) : Closed second rules b home names where
  inside := closed.inside
  directory := by
    have directory := closed.directory
    cases differ.compares (home ++ names) with
    | same same => rw [← same, directory]
    | output _ flat _ => cases flat _ directory
    | first _ missing => exact absurd (differ.holdsOutputs formed missing) other
    | second missing _ =>
      rw [missing] at directory
      cases directory
  kept := by
    have kept := closed.kept
    rwa [Open, text_congr seen.bytes] at kept
  reached above more within apart := by
    have same : first.opens above = second.opens above := (seen.opens above).resolve_right fun holds => by
      obtain ⟨rest, rfl⟩ := within
      have further := holds.below rest
      rw [List.append_assoc] at further
      exact other further
    rw [← same]
    exact closed.reached above more within apart
  shut := by rw [← (seen.opens names).resolve_right other, closed.shut]

theorem SameFiles.candidate {fate : Fate} (faithful : first.Faithful) (proper : a.Proper)
    (directory : a.node? home = some .directory) (same : SameFiles first second scope a b home)
    (candidate : Candidate first scope a home names)
    (fated : Fate.of? scope (first.opens names) (a.node? (home ++ names)) = some fate) :
    Candidate second scope b home names ∧
      Fate.of? scope (second.opens names) (b.node? (home ++ names)) = some fate := by
  have there : a.node? (home ++ names) ≠ none := by
    rcases candidate.file with ⟨content, there⟩ | ⟨size, there⟩ <;> simp [there]
  have inside : names ≠ [] := by
    rcases candidate.file with ⟨content, there⟩ | ⟨size, there⟩
    · exact ne_nil_of_file directory there (by simp)
    · exact ne_nil_of_file directory there (by simp)
  have kept := ((open_iff faithful proper inside there).1 ⟨candidate.kept, candidate.reached⟩).2
  have tells : Tells first scope a home names = true := by
    rw [Tells, kept, candidate.registered, fated]
    rfl
  -- It is told of, so it stands in both trees and is seen alike.
  have stands := same.stands names inside (.inl tells)
  have opens := same.opens names inside (.inl tells)
  constructor
  · constructor
    case kept =>
      have kept := candidate.kept
      rwa [Open, text_congr same.bytes] at kept
    case reached =>
      intro above more within apart
      rw [← opens above more within]
      exact candidate.reached above more within apart
    case file =>
      rw [← stands]
      exact candidate.file
    case registered =>
      have registered := candidate.registered
      rwa [language?, languageOf?_congr same.bytes] at registered
  · rw [← stands, ← opens names inside (List.prefix_refl _), fated]

/-- Scans that tell the same make summaries that differ in the report of the run at most. -/
structure Indistinct (found other : Scan) : Prop extends Near found other where
  summed : ∀ prior verbosity now, Summary.measure other.records prior verbosity other.report now =
    (Summary.measure found.records prior verbosity found.report now).map fun summary =>
      { summary with runReport := summary.runReport.map fun _ => other.report }

theorem Near.indistinct (near : Near found other) : Indistinct found other := by
  refine ⟨near, fun prior verbosity now => ?_⟩
  rw [near.records]
  exact Summary.measure_report ..

/-- What is unread in only one of the trees are directories that the tool has made. -/
theorem unread_of_accounts (differ : DifferInOutputs paths a b) (properA : a.Proper) (properB : b.Proper)
    (seen : SeenAlike paths a b home first second) (same : SameFiles first second scope a b home)
    (faithful : first.Faithful) (faithful' : second.Faithful) (directoryA : a.node? home = some .directory)
    (directoryB : b.node? home = some .directory) (accounts : Accounts first scope a home found)
    (accounts' : Accounts second scope b home other) :
    found.report.skippedUnreadable.toNat + (closedOutputs paths a b b second scope.rules home).ncard =
      other.report.skippedUnreadable.toNat + (closedOutputs paths a b a first scope.rules home).ncard := by
  have files : {names | Candidate first scope a home names ∧
        Fate.of? scope (first.opens names) (a.node? (home ++ names)) = some .unreadable} =
      {names | Candidate second scope b home names ∧
        Fate.of? scope (second.opens names) (b.node? (home ++ names)) = some .unreadable} := by
    ext names
    exact ⟨fun both => same.candidate faithful properA directoryA both.1 both.2,
      fun both => same.symm.candidate faithful' properB directoryB both.1 both.2⟩
  have others : {names | Closed first scope.rules a home names} \ {names | HoldsOutputs paths a b (home ++ names)} =
      {names | Closed second scope.rules b home names} \ {names | HoldsOutputs paths a b (home ++ names)} := by
    ext names
    constructor
    · rintro ⟨closed, other⟩
      exact ⟨closed.transfer differ properB.formed seen other, other⟩
    · rintro ⟨closed, other⟩
      exact ⟨closed.transfer differ.symm properA.formed seen.symm fun holds => other holds.symm, other⟩
  -- What is closed holds no more than outputs, or is closed in both trees.
  have first := Set.ncard_inter_add_ncard_sdiff_eq_ncard {names | Closed first scope.rules a home names}
    {names | HoldsOutputs paths a b (home ++ names)} (closed_finite first scope.rules a home)
  have second := Set.ncard_inter_add_ncard_sdiff_eq_ncard {names | Closed second scope.rules b home names}
    {names | HoldsOutputs paths a b (home ++ names)} (closed_finite second scope.rules b home)
  rw [others] at first
  rw [accounts.unread, accounts'.unread, files]
  change _ + ({names | Closed _ scope.rules b home names} ∩ {names | HoldsOutputs paths a b (home ++ names)}).ncard =
    _ + ({names | Closed _ scope.rules a home names} ∩ {names | HoldsOutputs paths a b (home ++ names)}).ncard
  omega

/-- What the tool has written has no influence on what a scan tells, nor on the summary that is made of it, but for
the directories of the tool that are ignored or cannot be listed. -/
theorem look_outputs (differ : DifferInOutputs (.derive outputRoot hostRoot) a b)
    (seen : SeenAlike (.derive outputRoot hostRoot) a b home first second) (faithful : first.Faithful)
    (plain : WritesTexts (.derive outputRoot hostRoot) first) (opened : first.opens [] = true)
    (opened' : second.opens [] = true) (properA : a.Proper) (properB : b.Proper)
    (rootedA : rootLocation a hostRoot = .ok home) (rootedB : rootLocation b hostRoot = .ok home')
    (lines : List String) (maxFileSize : Count) :
    (∃ found other, Scan.look first ⟨.ofLines lines, Languages.builtin, maxFileSize⟩ a hostRoot = .ok found ∧
      Scan.look second ⟨.ofLines lines, Languages.builtin, maxFileSize⟩ b hostRoot = .ok other ∧
      Indistinct found other ∧ (a.items.length < Count.limit → b.items.length < Count.limit →
        found.report.skippedUnreadable.toNat +
            (closedOutputs (.derive outputRoot hostRoot) a b b second (.ofLines lines) home).ncard =
          other.report.skippedUnreadable.toNat +
            (closedOutputs (.derive outputRoot hostRoot) a b a first (.ofLines lines) home).ncard)) ∨
    ∃ refused,
      Scan.look first ⟨.ofLines lines, Languages.builtin, maxFileSize⟩ a hostRoot = .error (.overflow refused) ∧
      Scan.look second ⟨.ofLines lines, Languages.builtin, maxFileSize⟩ b hostRoot = .error (.overflow refused) := by
  obtain rfl := differ.same_home rootedA rootedB
  have faithful' : second.Faithful := faithful.of_bytes seen.bytes
  generalize IgnoreRules.ofLines lines = rules
  generalize named : Scope.mk rules Languages.builtin maxFileSize = scope
  have languages : scope.languages = Languages.builtin := by rw [← named]
  have ruled : scope.rules = rules := by rw [← named]
  have same : SameFiles first second scope a b home := differ.sameFiles seen plain languages
  have runs := look_near faithful faithful' opened opened' properA properB same rootedA rootedB
  cases lookedA : Scan.look first scope a hostRoot with
  | error _ =>
    rw [lookedA] at runs
    generalize Scan.look second scope b hostRoot = outcome at runs ⊢
    cases runs with
    | refused refused => exact .inr ⟨refused, rfl, rfl⟩
  | ok found =>
    rw [lookedA] at runs
    cases lookedB : Scan.look second scope b hostRoot with
    | error _ =>
      rw [lookedB] at runs
      cases runs
    | ok other =>
      rw [lookedB] at runs
      cases runs with
      | ok near =>
        refine .inl ⟨found, other, rfl, rfl, near.indistinct, fun counted counted' => ?_⟩
        rw [← ruled]
        exact unread_of_accounts differ properA properB seen same faithful faithful'
          (rootLocation_directory rootedA) (rootLocation_directory rootedB)
          (accounts_of_look faithful opened properA counted rootedA lookedA)
          (accounts_of_look faithful' opened' properB counted' rootedB lookedB)

def builtTree : Tree where
  items := [
    (["w"], ⟨.directory, 0⟩),
    (["w", "build"], ⟨.directory, 0⟩),
    (["w", "build", "main.py"], ⟨.file "def main():\n".toUTF8, 0⟩)]
  workingDir := []

def writtenTree : Tree where
  items :=
    (["w", "codebase_summary", "missing_breadcrumbs.json"], ⟨.file "[]".toUTF8, 1⟩) ::
    (["w", "codebase_summary"], ⟨.directory, 1⟩) ::
    (["w", "codebase_summary.json"], ⟨.file "{}".toUTF8, 1⟩) ::
    builtTree.items
  workingDir := []

theorem builtTree_proper : builtTree.Proper := by
  apply Tree.Proper.of_items <;> decide

theorem writtenTree_proper : writtenTree.Proper := by
  apply Tree.Proper.of_items <;> decide

theorem differ_written : DifferInOutputs (.derive ⟨"/w"⟩ ⟨"/w"⟩) builtTree writtenTree := by
  have summary : OutputPlace (.derive ⟨"/w"⟩ ⟨"/w"⟩) builtTree ["w", "codebase_summary.json"] :=
    ⟨_, .document .summary, by decide⟩
  have report : OutputPlace (.derive ⟨"/w"⟩ ⟨"/w"⟩) builtTree
      ["w", "codebase_summary", "missing_breadcrumbs.json"] :=
    ⟨_, .document .missingDocs, by decide⟩
  refine ⟨rfl, fun k => ?_⟩
  by_cases first : k = ["w", "codebase_summary", "missing_breadcrumbs.json"]
  · subst first
    exact .output (.inl report) (by decide) (by decide)
  by_cases second : k = ["w", "codebase_summary"]
  · subst second
    exact .second (by decide) (by decide)
  by_cases third : k = ["w", "codebase_summary.json"]
  · subst third
    exact .output (.inl summary) (by decide) (by decide)
  apply Compares.same
  have unlisted : writtenTree.items.lookup k = builtTree.items.lookup k := by
    rw [writtenTree, List.lookup_cons, List.lookup_cons, List.lookup_cons, beq_false_of_ne first,
      beq_false_of_ne second, beq_false_of_ne third]
  rw [Tree.node?, Tree.node?, Tree.item?, Tree.item?, unlisted]

def shutSight : Sight := ⟨String.toUTF8, fun names => names ≠ ["codebase_summary"]⟩

def plainScope : Scope := ⟨.ofLines [], Languages.builtin, 100⟩

theorem seenAlike_written : SeenAlike (.derive ⟨"/w"⟩ ⟨"/w"⟩) builtTree writtenTree ["w"] .clear shutSight := by
  refine ⟨rfl, fun names => ?_⟩
  by_cases shut : names = ["codebase_summary"]
  · subst shut
    exact .inr (differ_written.symm.holdsOutputs builtTree_proper.formed (by decide)).symm
  · exact .inl (by simp [Sight.clear, shutSight, shut])

theorem rooted_built : rootLocation builtTree ⟨"/w"⟩ = .ok ["w"] := rootLocation_of_resolve (by cbv) (by decide)

theorem rooted_written : rootLocation writtenTree ⟨"/w"⟩ = .ok ["w"] := rootLocation_of_resolve (by cbv) (by decide)

/-- The summary and the report of a scan make no difference to the next one, though the report cannot be got at. -/
theorem look_outputs_written : ∃ found other,
    DifferInOutputs (.derive ⟨"/w"⟩ ⟨"/w"⟩) builtTree writtenTree ∧
    SeenAlike (.derive ⟨"/w"⟩ ⟨"/w"⟩) builtTree writtenTree ["w"] .clear shutSight ∧ Sight.clear.Faithful ∧
    WritesTexts (.derive ⟨"/w"⟩ ⟨"/w"⟩) .clear ∧ builtTree.Proper ∧ writtenTree.Proper ∧
    rootLocation builtTree ⟨"/w"⟩ = .ok ["w"] ∧ rootLocation writtenTree ⟨"/w"⟩ = .ok ["w"] ∧
    Scan.look .clear plainScope builtTree ⟨"/w"⟩ = .ok found ∧
    Scan.look shutSight plainScope writtenTree ⟨"/w"⟩ = .ok other ∧ Indistinct found other ∧
    found.report.skippedUnreadable.toNat + (closedOutputs (.derive ⟨"/w"⟩ ⟨"/w"⟩) builtTree writtenTree writtenTree
        shutSight (.ofLines []) ["w"]).ncard =
      other.report.skippedUnreadable.toNat + (closedOutputs (.derive ⟨"/w"⟩ ⟨"/w"⟩) builtTree writtenTree builtTree
        .clear (.ofLines []) ["w"]).ncard := by
  have faithful : Sight.clear.Faithful := Sight.faithful_of_toUTF8 _
  have plain : WritesTexts (.derive ⟨"/w"⟩ ⟨"/w"⟩) .clear := fun _ _ _ _ => rfl
  have ran : (Scan.look .clear plainScope builtTree ⟨"/w"⟩).toOption.isSome = true := by decide +kernel
  rcases look_outputs differ_written seenAlike_written faithful plain rfl (by decide) builtTree_proper
    writtenTree_proper rooted_built rooted_written [] 100 with
    ⟨found, other, first, second, indistinct, unread⟩ | ⟨refused, failed, -⟩
  · exact ⟨found, other, differ_written, seenAlike_written, faithful, plain, builtTree_proper, writtenTree_proper,
      rooted_built, rooted_written, first, second, indistinct, unread (by decide) (by decide)⟩
  · rw [plainScope, failed] at ran
    cases ran

/-- The directory that the tool has made for its report is one that cannot be listed, and there is one more of these
than before. -/
theorem look_outputs_shut : DifferInOutputs (.derive ⟨"/w"⟩ ⟨"/w"⟩) builtTree writtenTree ∧
    (Scan.look shutSight plainScope builtTree ⟨"/w"⟩).toOption.map (·.report.skippedUnreadable) = some 0 ∧
    (Scan.look shutSight plainScope writtenTree ⟨"/w"⟩).toOption.map (·.report.skippedUnreadable) = some 1 := by
  -- `mergeSort` does not reduce, so the names are sorted by insertion here.
  have walked : walk shutSight plainScope writtenTree ["w"] =
      [["build"], ["codebase_summary"], ["codebase_summary.json"]] := by
    have deep : depth writtenTree = 3 := by decide
    have faithful : shutSight.Faithful := Sight.faithful_of_toUTF8 _
    rw [walk, deep]
    simp only [visited, Sight.namesIn_eq_insertionSort faithful, Tree.namesIn_eq_insertionSort]
    decide +kernel
  have first : ofEntry shutSight plainScope writtenTree ["w"] ["build"] = .ok [.pruned] := by
    have excluded : plainScope.rules.excludes (["build"].map shutSight.text) = true := by decide +kernel
    rw [ofEntry, if_pos excluded]
    decide
  have second : ofEntry shutSight plainScope writtenTree ["w"] ["codebase_summary"] = .ok [.closed] := by
    have kept : plainScope.rules.excludes (["codebase_summary"].map shutSight.text) = false := by decide +kernel
    rw [ofEntry, kept]
    decide
  have third : ofEntry shutSight plainScope writtenTree ["w"] ["codebase_summary.json"] = .ok [] := by
    have stands : writtenTree.node? (["w"] ++ ["codebase_summary.json"]) = some (.file "{}".toUTF8) := by decide
    exact ofEntry_foreign stands (languageOf?_output (by decide) (Sight.text_of_bytes rfl))
  refine ⟨differ_written, by decide +kernel, ?_⟩
  rw [look_eq (by decide) rooted_written, walked, gather_cons, gather_cons, gather_cons, gather_nil, first, second, third]
  rfl

end Scan

end Waymark
