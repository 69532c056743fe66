import Waymark.Proofs.Scan.Entry
import Waymark.Summary.Measure

/-! Scans of two trees that have the same files to tell of. They differ at most in the numbers of directories
that are not entered, and so do the summaries of them.
-/

set_option autoImplicit false

namespace Waymark

namespace Finding

variable {α : Type} {sight first second : Sight} {scope : Scope} {tree a b : Tree} {home : Location}
  {names : List String} {findings : List Finding}

/-- What is found, but for the directories that are not entered. -/
def shown (findings : List Finding) : List Finding :=
  findings.filter fun finding => finding != .pruned && finding != .closed

theorem shown_append (findings more : List Finding) : shown (findings ++ more) = shown findings ++ shown more :=
  List.filter_append ..

theorem gather_shown (find : α → Except Overflow (List Finding)) (items : List α) :
    (gather find items).map shown = gather (fun item => (find item).map shown) items := by
  induction items with
  | nil => rfl
  | cons item items ih =>
    rw [gather_cons, gather_cons, ← ih]
    cases find item with
    | error refused => rfl
    | ok found =>
      cases gather find items with
      | error refused => rfl
      | ok rest => exact congrArg Except.ok (shown_append found rest)

/-- A file of a language that is not ignored. -/
def Tells (sight : Sight) (scope : Scope) (tree : Tree) (home : Location) (names : List String) : Bool :=
  !scope.rules.excludes (names.map sight.text) && (language? sight scope names).isSome &&
    (Fate.of? scope (sight.opens names) (tree.node? (home ++ names))).isSome

theorem there_of_tells (tells : Tells sight scope tree home names = true) : tree.node? (home ++ names) ≠ none := by
  intro missing
  simp [Tells, missing, Fate.of?] at tells

theorem shown_of_not_tells (silent : Tells sight scope tree home names = false) :
    (ofEntry sight scope tree home names).map shown = .ok [] := by
  generalize same : ofEntry sight scope tree home names = outcome
  have comes := same ▸ ofEntry_comes sight scope tree home names
  have tells : scope.rules.excludes (names.map sight.text) = false → (language? sight scope names).isSome = true →
      Fate.of? scope (sight.opens names) (tree.node? (home ++ names)) ≠ none → False := by
    intro kept registered fated
    rw [Tells, kept, registered, Option.isSome_iff_ne_none.2 fated] at silent
    cases silent
  have suited : ∀ {extension language content}, scope.rules.excludes (names.map sight.text) = false →
      Suits sight scope tree home names extension language content → False := fun kept suits =>
    tells kept (by rw [suits.registered]; rfl) (by simp [suits.fated])
  cases comes with
  | pruned | excluded | closed | passed => rfl
  | skipped kept registered fated _ _ => exact (tells kept registered (by simp [fated])).elim
  | read kept suits _ => exact (suited kept suits).elim
  | refused kept suits _ => exact (suited kept suits).elim

theorem text_congr (bytes : first.bytes = second.bytes) : first.text = second.text :=
  funext fun name => by rw [Sight.text, Sight.text, bytes]

theorem languageOf?_congr (bytes : first.bytes = second.bytes) : languageOf? first = languageOf? second := by
  funext languages name
  rw [languageOf?, languageOf?, Sight.extension?, Sight.extension?, text_congr bytes, bytes]

theorem ofEntry_congr (bytes : first.bytes = second.bytes) (opens : first.opens names = second.opens names)
    (same : a.node? (home ++ names) = b.node? (home ++ names)) :
    ofEntry first scope a home names = ofEntry second scope b home names := by
  unfold ofEntry ofFile
  rw [text_congr bytes, languageOf?_congr bytes, opens, same]

theorem tells_congr (bytes : first.bytes = second.bytes) (opens : first.opens names = second.opens names)
    (same : a.node? (home ++ names) = b.node? (home ++ names)) :
    Tells first scope a home names = Tells second scope b home names := by
  rw [Tells, Tells, language?, language?, text_congr bytes, languageOf?_congr bytes, opens, same]

end Finding

namespace Scan

open Finding

variable {sight first second : Sight} {scope : Scope} {tree a b : Tree} {home : Location} {root : Path}
  {names : List String} {findings others : List Finding} {found other : Scan}

/-- What is told of in one of two trees stands in both, and is come to and asked for its size alike. -/
structure SameFiles (first second : Sight) (scope : Scope) (a b : Tree) (home : Location) : Prop where
  bytes : first.bytes = second.bytes
  stands : ∀ names, names ≠ [] → Tells first scope a home names = true ∨ Tells second scope b home names = true →
    a.node? (home ++ names) = b.node? (home ++ names)
  opens : ∀ names, names ≠ [] → Tells first scope a home names = true ∨ Tells second scope b home names = true →
    ∀ above, above ≠ [] → above <+: names → first.opens above = second.opens above

theorem SameFiles.symm (same : SameFiles first second scope a b home) : SameFiles second first scope b a home where
  bytes := same.bytes.symm
  stands names inside tells := (same.stands names inside tells.symm).symm
  opens names inside tells above more within := (same.opens names inside tells.symm above more within).symm

theorem SameFiles.tells (same : SameFiles first second scope a b home) (inside : names ≠ [])
    (tells : Tells first scope a home names = true) : Tells second scope b home names = true := by
  have opens := same.opens names inside (.inl tells) names inside (List.prefix_refl _)
  rwa [tells_congr same.bytes opens (same.stands names inside (.inl tells))] at tells

theorem SameFiles.passes (same : SameFiles first second scope a b home) (inside : names ≠ [])
    (tells : Tells first scope a home names = true) {above : List String} (more : above ≠ []) (within : above <+: names)
    (passes : Passes first scope above) : Passes second scope above := by
  rw [Passes, text_congr same.bytes, same.opens names inside (.inl tells) above more within] at passes
  exact passes

/-- Two scans that differ in the numbers of directories that are not entered at most. -/
structure Near (found other : Scan) : Prop where
  records : other.records = found.records
  report : other.report = { found.report with
    directoriesPruned := other.report.directoriesPruned
    skippedUnreadable := other.report.skippedUnreadable }

/-- Two scans that differ in the number of ignored directories at most. -/
structure Alike (found other : Scan) : Prop where
  records : other.records = found.records
  report : other.report = { found.report with directoriesPruned := other.report.directoriesPruned }

theorem mem_told (formed : tree.Formed) :
    names ∈ (walk sight scope tree home).filter (Tells sight scope tree home) ↔ names ≠ [] ∧
      (∀ above, above ≠ [] → above <+: names → above ≠ names → Passes sight scope above) ∧
        Tells sight scope tree home names = true := by
  rw [List.mem_filter, mem_walk formed]
  constructor
  · rintro ⟨seen, tells⟩
    exact ⟨seen.inside, seen.passed, tells⟩
  · rintro ⟨inside, passed, tells⟩
    exact ⟨⟨inside, there_of_tells tells, passed⟩, tells⟩

theorem told_subset (formedA : a.Formed) (formedB : b.Formed) (same : SameFiles first second scope a b home)
    (told : names ∈ (walk first scope a home).filter (Tells first scope a home)) :
    names ∈ (walk second scope b home).filter (Tells second scope b home) := by
  obtain ⟨inside, passed, tells⟩ := (mem_told formedA).1 told
  refine (mem_told formedB).2 ⟨inside, fun above more within apart => ?_, same.tells inside tells⟩
  exact same.passes inside tells more within (passed above more within apart)

theorem told_eq (faithful : first.Faithful) (faithful' : second.Faithful) (properA : a.Proper) (properB : b.Proper)
    (same : SameFiles first second scope a b home) :
    (walk first scope a home).filter (Tells first scope a home) =
      (walk second scope b home).filter (Tells second scope b home) := by
  have members : ∀ names, names ∈ (walk first scope a home).filter (Tells first scope a home) ↔
      names ∈ (walk second scope b home).filter (Tells second scope b home) := fun names =>
    ⟨told_subset properA.formed properB.formed same, told_subset properB.formed properA.formed same.symm⟩
  have key : second.key = first.key := funext fun name => by rw [Sight.key, Sight.key, same.bytes]
  have ascendingA : ((walk first scope a home).filter (Tells first scope a home)).Pairwise fun before after =>
      before.map first.key < after.map first.key := (walk_ascending faithful properA.distinct).filter _
  have ascendingB : ((walk second scope b home).filter (Tells second scope b home)).Pairwise fun before after =>
      before.map second.key < after.map second.key := (walk_ascending faithful' properB.distinct).filter _
  rw [key] at ascendingB
  have distinctA : ((walk first scope a home).filter (Tells first scope a home)).Nodup :=
    (walk_nodup faithful properA.distinct).filter _
  have distinctB : ((walk second scope b home).filter (Tells second scope b home)).Nodup :=
    (walk_nodup faithful' properB.distinct).filter _
  have permuted := (List.perm_ext_iff_of_nodup distinctA distinctB).2 members
  exact permuted.eq_of_pairwise (fun x y _ _ before after => absurd before (List.lt_asymm after)) ascendingA ascendingB

theorem shown_eq (faithful : first.Faithful) (faithful' : second.Faithful) (properA : a.Proper) (properB : b.Proper)
    (same : SameFiles first second scope a b home) :
    (gather (ofEntry first scope a home) (walk first scope a home)).map shown =
      (gather (ofEntry second scope b home) (walk second scope b home)).map shown := by
  have told : ∀ (sight : Sight) (tree : Tree),
      (gather (ofEntry sight scope tree home) (walk sight scope tree home)).map shown =
        gather (fun names => (ofEntry sight scope tree home names).map shown)
          ((walk sight scope tree home).filter (Tells sight scope tree home)) := by
    intro sight tree
    rw [gather_shown]
    exact (gather_filter fun names _ => shown_of_not_tells).symm
  rw [told first a, told second b, ← told_eq faithful faithful' properA properB same]
  refine gather_congr fun names among => ?_
  obtain ⟨inside, -, tells⟩ := (mem_told properA.formed).1 among
  have opens := same.opens names inside (.inl tells) names inside (List.prefix_refl _)
  rw [ofEntry_congr same.bytes opens (same.stands names inside (.inl tells))]

theorem records_shown (findings : List Finding) :
    findings.filterMap record? = (shown findings).filterMap record? := by
  rw [shown, List.filterMap_filter]
  congr 1
  funext finding
  cases finding <;> rfl

theorem count_shown {finding : Finding} (visible : finding ≠ .pruned ∧ finding ≠ .closed) (findings : List Finding) :
    Scan.count findings finding = Scan.count (shown findings) finding := by
  rw [Scan.count, Scan.count, shown, List.filter_filter]
  congr 1
  refine List.filter_congr fun other _ => ?_
  by_cases same : other = finding
  · subst same
    simp [visible]
  · simp [same]

theorem near_of_shown (same : shown others = shown findings) :
    Near (ofFindings scope findings) (ofFindings scope others) := by
  have records : others.filterMap record? = findings.filterMap record? := by
    rw [records_shown, same, ← records_shown]
  have counts : ∀ finding, finding ≠ .pruned ∧ finding ≠ .closed →
      Scan.count others finding = Scan.count findings finding := by
    intro finding visible
    rw [count_shown visible, same, ← count_shown visible]
  constructor
  · rw [ofFindings, ofFindings, records]
  · rw [ofFindings, ofFindings, reportOf, reportOf, records, counts .binary (by simp), counts .oversized (by simp)]

theorem alike_of_shown (same : shown others = shown findings) (listed : .closed ∉ findings) (listed' : .closed ∉ others) :
    Alike (ofFindings scope findings) (ofFindings scope others) := by
  have near : Near (ofFindings scope findings) (ofFindings scope others) := near_of_shown same
  have unread : ∀ findings : List Finding, .closed ∉ findings →
      findings.filter isUnread = (shown findings).filter isUnread := by
    intro findings listed
    rw [shown, List.filter_filter]
    refine List.filter_congr fun finding among => ?_
    cases finding with
    | closed => exact absurd among listed
    | pruned | oversized | unreadable | binary | record _ => rfl
  have skipped : (ofFindings scope others).report.skippedUnreadable =
      (ofFindings scope findings).report.skippedUnreadable := by
    rw [ofFindings, ofFindings, reportOf, reportOf, unread _ listed, unread _ listed', same]
  refine ⟨near.records, near.report.trans ?_⟩
  rw [skipped]

/-- How two scans come out: with results that compare in some way, or refused for the same reason. -/
inductive RunAlike (compares : Scan → Scan → Prop) : Except ScanError Scan → Except ScanError Scan → Prop where
  | ok {found other : Scan} (alike : compares found other) : RunAlike compares (.ok found) (.ok other)
  | refused (refused : Overflow) : RunAlike compares (.error (.overflow refused)) (.error (.overflow refused))

theorem look_alike_of_shown {compares : Scan → Scan → Prop} (opened : first.opens [] = true)
    (opened' : second.opens [] = true) (rootedA : rootLocation a root = .ok home)
    (rootedB : rootLocation b root = .ok home)
    (shows : (gather (ofEntry first scope a home) (walk first scope a home)).map shown =
      (gather (ofEntry second scope b home) (walk second scope b home)).map shown)
    (alike : ∀ findings others, gather (ofEntry first scope a home) (walk first scope a home) = .ok findings →
      gather (ofEntry second scope b home) (walk second scope b home) = .ok others → shown others = shown findings →
        compares (ofFindings scope findings) (ofFindings scope others)) :
    RunAlike compares (Scan.look first scope a root) (Scan.look second scope b root) := by
  rw [look_eq opened rootedA, look_eq opened' rootedB]
  -- A refusal shows, so both scans are refused or neither is.
  cases gatheredA : gather (ofEntry first scope a home) (walk first scope a home) with
  | error refused =>
    cases gatheredB : gather (ofEntry second scope b home) (walk second scope b home) with
    | error other =>
      rw [gatheredA, gatheredB] at shows
      cases shows
      exact .refused refused
    | ok others =>
      rw [gatheredA, gatheredB] at shows
      cases shows
  | ok findings =>
    cases gatheredB : gather (ofEntry second scope b home) (walk second scope b home) with
    | error other =>
      rw [gatheredA, gatheredB] at shows
      cases shows
    | ok others =>
      rw [gatheredA, gatheredB] at shows
      exact .ok (alike _ _ gatheredA gatheredB (Except.ok.inj shows).symm)

theorem look_near (faithful : first.Faithful) (faithful' : second.Faithful) (opened : first.opens [] = true)
    (opened' : second.opens [] = true) (properA : a.Proper) (properB : b.Proper)
    (same : SameFiles first second scope a b home) (rootedA : rootLocation a root = .ok home)
    (rootedB : rootLocation b root = .ok home) :
    RunAlike Near (Scan.look first scope a root) (Scan.look second scope b root) :=
  look_alike_of_shown opened opened' rootedA rootedB (shown_eq faithful faithful' properA properB same)
    fun _ _ _ _ => near_of_shown

theorem closed_not_mem (clear : ∀ names, sight.opens names = true)
    (gathered : gather (ofEntry sight scope tree home) (walk sight scope tree home) = .ok findings) :
    .closed ∉ findings := by
  intro among
  rcases gather_cases (ofEntry sight scope tree home) (walk sight scope tree home) with ⟨all, each⟩ | ⟨_, failed, -⟩
  · rw [all] at gathered
    cases gathered
    obtain ⟨names, seen, found⟩ := List.mem_flatMap.1 among
    have comes := ofEntry_comes sight scope tree home names
    rw [each names seen] at comes
    have shut := (comes.closed_iff.1 found).2.2
    rw [clear] at shut
    cases shut
  · rw [failed] at gathered
    cases gathered

theorem look_alike (faithful : sight.Faithful) (clear : ∀ names, sight.opens names = true) (properA : a.Proper)
    (properB : b.Proper) (same : SameFiles sight sight scope a b home) (rootedA : rootLocation a root = .ok home)
    (rootedB : rootLocation b root = .ok home) :
    RunAlike Alike (Scan.look sight scope a root) (Scan.look sight scope b root) :=
  look_alike_of_shown (clear []) (clear []) rootedA rootedB (shown_eq faithful faithful properA properB same)
    fun _ _ gatheredA gatheredB shows =>
      alike_of_shown shows (closed_not_mem clear gatheredA) (closed_not_mem clear gatheredB)

end Scan

theorem Summary.measure_report (records : List FileRecord) (prior : Option Summary) (verbosity : Verbosity)
    (report other : RunReport) (now : Time) : Summary.measure records prior verbosity other now =
      (Summary.measure records prior verbosity report now).map fun summary =>
        { summary with runReport := summary.runReport.map fun _ => other } := by
  unfold Summary.measure
  cases Tally.ofRecords records with
  | error refused => rfl
  | ok tally =>
    dsimp only [bind, Except.bind]
    generalize same : nextVersion prior _ = version
    generalize same' : nextVersion prior _ = version'
    obtain rfl : version = version' := by
      rw [← same, ← same']
      unfold nextVersion
      rfl
    cases version with
    | error refused => rfl
    | ok version => cases verbosity <;> rfl

end Waymark
