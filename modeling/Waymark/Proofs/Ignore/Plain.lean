import Mathlib.Algebra.Order.BigOperators.Group.List
import Mathlib.Algebra.Order.Group.Nat
import Waymark.Ignore.Rules
import Waymark.Proofs.Text.Trim

/-! What a set of ignore rules means: a path is excluded exactly if one of the rules by itself excludes it,
however the rules were sorted for testing, as long as the globs can be compiled together. The rules are the
built-in ones and those of the lines, each once, so neither the order of the lines nor a repeated line matters,
and more lines exclude more. One glob that is too large puts all globs out of use.
-/

set_option autoImplicit false

namespace Waymark

section Distinct

variable {α : Type} [BEq α] [LawfulBEq α] {items more : List α} {item : α}

theorem eraseDups_of_nodup (distinct : items.Nodup) : items.eraseDups = items := by
  induction items with
  | nil => rfl
  | cons first rest ih =>
    obtain ⟨new, distinct⟩ := List.nodup_cons.1 distinct
    have kept : rest.filter (fun other => !other == first) = rest := by
      rw [List.filter_eq_self]
      intro other among
      simp only [Bool.not_eq_eq_eq_not, Bool.not_true, beq_eq_false_iff_ne]
      rintro rfl
      exact new among
    rw [List.eraseDups_cons, kept, ih distinct]

theorem eraseDups_append_cons (among : item ∈ items) :
    (items ++ item :: more).eraseDups = (items ++ more).eraseDups := by
  have removed : (item :: more).removeAll items = more.removeAll items := by simp [List.removeAll, among]
  rw [List.eraseDups_append, List.eraseDups_append, removed]

end Distinct

namespace IgnoreRule

variable {rule : IgnoreRule} {segments : List String}

/-- What each kind of rule says of a path. -/
inductive Matches (segments : List String) : IgnoreRule → Prop where
  | segment {pattern : String} (equal : pattern ∈ segments) : Matches segments ⟨pattern, .segment⟩
  | substring {pattern : String} (within : pattern.toList <:+: ("/".intercalate segments).toList) :
    Matches segments ⟨pattern, .substring⟩
  | whole {pattern : String} {glob : Glob} (read : Glob.read pattern = .ok glob)
    (taken : glob.isMatch ("/".intercalate segments) = true) : Matches segments ⟨pattern, .glob⟩
  | part {pattern segment : String} {glob : Glob} (read : Glob.read pattern = .ok glob)
    (among : segment ∈ segments) (taken : glob.isMatch segment = true) : Matches segments ⟨pattern, .glob⟩

theorem excludes_iff : rule.excludes segments = true ↔ rule.Matches segments := by
  obtain ⟨pattern, kind⟩ := rule
  cases kind with
  | segment =>
    rw [excludes, List.contains_iff_mem]
    exact ⟨.segment, fun | .segment equal => equal⟩
  | substring =>
    rw [excludes, Text.occursIn_iff]
    exact ⟨.substring, fun | .substring within => within⟩
  | glob =>
    rw [excludes]
    cases read : Glob.read pattern with
    | error refusal =>
      refine ⟨(nomatch ·), ?_⟩
      rintro (_ | _ | ⟨read', -⟩ | ⟨read', -, -⟩) <;> cases read.symm.trans read'
    | ok glob =>
      simp only [Bool.or_eq_true, List.any_eq_true]
      constructor
      · rintro (taken | ⟨segment, among, taken⟩)
        · exact .whole read taken
        · exact .part read among taken
      · rintro (_ | _ | ⟨read', taken⟩ | ⟨read', among, taken⟩) <;> cases read.symm.trans read'
        · exact .inl taken
        · exact .inr ⟨_, among, taken⟩

theorem of?_trim (text : List Char) : of? (String.ofList (Text.trim text)) = of? (String.ofList text) := by
  simp only [of?, normalize, String.toList_ofList, Text.trim_trim]

def isSound (rule : IgnoreRule) : Bool := rule.kind != .glob || (Glob.read rule.pattern).isOk

end IgnoreRule

namespace IgnoreRules

variable {canCompile : List Glob → Bool} {lines more : List String} {raw : String} {rule : IgnoreRule}
  {rules : List IgnoreRule} {problems : List IgnoreProblem} {segments : List String} {number : Nat}

/-! Testing by kind -/

theorem exists_pattern {kind : IgnoreKind} {P : String → Prop} :
    (∃ pattern ∈ (rules.filter (·.kind == kind)).map (·.pattern), P pattern) ↔
      ∃ rule ∈ rules, rule.kind = kind ∧ P rule.pattern := by
  constructor
  · rintro ⟨pattern, among, holds⟩
    obtain ⟨rule, kept, rfl⟩ := List.mem_map.1 among
    obtain ⟨among, is⟩ := List.mem_filter.1 kept
    exact ⟨rule, among, beq_iff_eq.1 is, holds⟩
  · rintro ⟨rule, among, is, holds⟩
    exact ⟨_, List.mem_map.2 ⟨rule, List.mem_filter.2 ⟨among, beq_iff_eq.2 is⟩, rfl⟩, holds⟩

theorem exists_glob {P : Glob → Prop} : (∃ glob ∈ globsOf rules, P glob) ↔
    ∃ rule ∈ rules, rule.kind = .glob ∧ ∃ glob, Glob.read rule.pattern = .ok glob ∧ P glob := by
  have readable : ∀ rule : IgnoreRule, ∀ glob, (Glob.read rule.pattern).toOption = some glob ↔
      Glob.read rule.pattern = .ok glob := by
    intro rule glob
    cases Glob.read rule.pattern <;> simp [Except.toOption]
  simp only [globsOf, List.mem_filterMap, List.mem_filter, beq_iff_eq, readable]
  constructor
  · rintro ⟨glob, ⟨rule, ⟨among, is⟩, read⟩, holds⟩
    exact ⟨rule, among, is, glob, read, holds⟩
  · rintro ⟨rule, among, is, glob, read, holds⟩
    exact ⟨glob, ⟨rule, ⟨among, is⟩, read⟩, holds⟩

/-- Whether a rule has a say: globs have it only where all of them can be compiled together. -/
def Counts (canCompile : List Glob → Bool) (rules : List IgnoreRule) (rule : IgnoreRule) : Prop :=
  rule.kind = .glob → canCompile (globsOf rules) = true

theorem excludes_compileWith : (compileWith canCompile rules problems).excludes segments = true ↔
    ∃ rule ∈ rules, Counts canCompile rules rule ∧ rule.Matches segments := by
  have bySegment : segments.any (compileWith canCompile rules problems).segments.contains = true ↔
      ∃ rule ∈ rules, rule.kind = .segment ∧ rule.pattern ∈ segments := by
    rw [← exists_pattern (P := (· ∈ segments)), List.any_eq_true]
    simp only [compileWith, List.contains_iff_mem, and_comm]
  have bySubstring : (compileWith canCompile rules problems).substrings.any
      (fun part => Text.occursIn part.toList ("/".intercalate segments).toList) = true ↔
      ∃ rule ∈ rules, rule.kind = .substring ∧ rule.pattern.toList <:+: ("/".intercalate segments).toList := by
    rw [← exists_pattern (P := (·.toList <:+: _)), List.any_eq_true]
    simp only [compileWith, Text.occursIn_iff]
  have byGlob : (compileWith canCompile rules problems).globs.any
      (fun glob => glob.isMatch ("/".intercalate segments) || segments.any glob.isMatch) = true ↔
      canCompile (globsOf rules) = true ∧ ∃ rule ∈ rules, rule.kind = .glob ∧
        ∃ glob, Glob.read rule.pattern = .ok glob ∧
          (glob.isMatch ("/".intercalate segments) = true ∨ ∃ segment ∈ segments, glob.isMatch segment = true) := by
    rw [← exists_glob, compileWith]
    cases canCompile (globsOf rules) <;> simp
  -- Each of the three tests is about the rules of one kind.
  rw [excludes, Bool.or_eq_true, Bool.or_eq_true, bySegment, bySubstring, byGlob]
  constructor
  · rintro ((⟨⟨pattern, _⟩, among, rfl, equal⟩ | ⟨⟨pattern, _⟩, among, rfl, within⟩) |
      ⟨compiled, ⟨pattern, _⟩, among, rfl, glob, read, taken | ⟨segment, part, taken⟩⟩)
    · exact ⟨_, among, nofun, .segment equal⟩
    · exact ⟨_, among, nofun, .substring within⟩
    · exact ⟨_, among, fun _ => compiled, .whole read taken⟩
    · exact ⟨_, among, fun _ => compiled, .part read part taken⟩
  · rintro ⟨rule, among, counts, matched⟩
    cases matched with
    | segment equal => exact .inl (.inl ⟨_, among, rfl, equal⟩)
    | substring within => exact .inl (.inr ⟨_, among, rfl, within⟩)
    | whole read taken => exact .inr ⟨counts rfl, _, among, rfl, _, read, .inl taken⟩
    | part read part taken => exact .inr ⟨counts rfl, _, among, rfl, _, read, .inr ⟨_, part, taken⟩⟩

/-! Lines -/

def visible (raw : String) : List Char := raw.toList.takeWhile (· != '#')

def Silent (raw : String) : Prop := ∀ c ∈ visible raw, Text.isBlank c = true

/-- The rule that a line stands for. -/
def rule? (raw : String) : Option IgnoreRule := IgnoreRule.of? (String.ofList (visible raw))

/-- The rule that is taken from a line: the one it stands for, unless it is a glob that cannot be read. -/
def accepted? (raw : String) : Option IgnoreRule := (rule? raw).filter (·.isSound)

/-- How a line ends: it is silent, its rule is taken, or there is a reason why it has none. -/
inductive Reading (raw : String) : Except String (Option IgnoreRule) → Prop where
  | silent (silent : Silent raw) (none : rule? raw = .none) : Reading raw (.ok .none)
  | taken {rule : IgnoreRule} (spoken : ¬Silent raw) (is : rule? raw = some rule) (sound : rule.isSound = true) :
    Reading raw (.ok (some rule))
  | refused {reason : String} (spoken : ¬Silent raw) (unsound : ∀ rule ∈ rule? raw, rule.isSound = false) :
    Reading raw (.error reason)

theorem reading_ofLine (raw : String) : Reading raw (ofLine raw) := by
  have trimmed : IgnoreRule.of? (String.ofList (Text.trim (visible raw))) = rule? raw := IgnoreRule.of?_trim _
  unfold ofLine
  dsimp only
  rw [← visible, trimmed]
  split
  · rename_i empty
    rw [List.isEmpty_iff] at empty
    have nothing : rule? raw = none := by
      rw [← trimmed, empty]
      rfl
    exact .silent (Text.trim_eq_nil_iff.1 empty) nothing
  rename_i some
  have spoken : ¬Silent raw := fun silent => some (List.isEmpty_iff.2 (Text.trim_eq_nil_iff.2 silent))
  cases is : rule? raw with
  | none => exact .refused spoken (by simp [is])
  | some rule =>
    dsimp only
    split
    · rename_i glob
      cases read : Glob.read rule.pattern with
      | ok pattern =>
        refine .taken spoken is ?_
        rw [IgnoreRule.isSound, read]
        exact Bool.or_true _
      | error refusal =>
        refine .refused spoken fun other same => ?_
        obtain rfl : rule = other := Option.some.inj (is.symm.trans same)
        rw [IgnoreRule.isSound, read, glob]
        rfl
    · rename_i other
      refine .taken spoken is ?_
      rw [IgnoreRule.isSound, bne_iff_ne.2 other, Bool.true_or]

def reason? (raw : String) : Option String :=
  match ofLine raw with
  | .ok _ => none
  | .error reason => some reason

def problemsOf (entries : List (String × Nat)) : List IgnoreProblem :=
  entries.filterMap fun entry => (reason? entry.1).map fun reason => ⟨entry.2, entry.1, reason⟩

theorem gather_cons_ok {taken : Option IgnoreRule} (read : ofLine raw = .ok taken) :
    gather number rules problems (raw :: lines) =
      gather (number + 1) (taken.elim rules fun rule => if rules.contains rule then rules else rules ++ [rule])
        problems lines := by
  rw [gather, read]
  cases taken <;> rfl

theorem gather_cons_error {reason : String} (read : ofLine raw = .error reason) :
    gather number rules problems (raw :: lines) =
      gather (number + 1) rules (problems ++ [⟨number, raw, reason⟩]) lines := by
  rw [gather, read]

theorem gather_rules (number : Nat) (problems : List IgnoreProblem) (lines : List String) (distinct : rules.Nodup) :
    (gather number rules problems lines).1 = (rules ++ lines.filterMap accepted?).eraseDups ∧
      (gather number rules problems lines).1.Nodup := by
  induction lines generalizing number rules problems with
  | nil =>
    rw [List.filterMap_nil, List.append_nil, eraseDups_of_nodup distinct]
    exact ⟨rfl, distinct⟩
  | cons raw lines ih =>
    have reading := reading_ofLine raw
    cases read : ofLine raw with
    | error reason =>
      rw [read] at reading
      have skipped : accepted? raw = none := by
        cases reading with
        | refused _ unsound => exact Option.filter_eq_none_iff.2 fun rule is => by rw [unsound rule is]; decide
      rw [gather_cons_error read, List.filterMap_cons_none skipped]
      exact ih _ _ distinct
    | ok taken =>
      rw [read] at reading
      rw [gather_cons_ok read]
      cases reading with
      | silent _ none =>
        have skipped : accepted? raw = .none := by rw [accepted?, none]; rfl
        rw [List.filterMap_cons_none skipped]
        exact ih _ _ distinct
      | @taken rule _ is sound =>
        have added : accepted? raw = some rule := Option.filter_eq_some_iff.2 ⟨is, sound⟩
        rw [List.filterMap_cons_some added, Option.elim_some]
        -- A rule that was gathered before is not gathered again, as duplicates are erased.
        by_cases known : rule ∈ rules
        · rw [if_pos (List.contains_iff_mem.2 known), eraseDups_append_cons known]
          exact ih _ _ distinct
        · rw [if_neg fun found => known (List.contains_iff_mem.1 found)]
          have distinct' : (rules ++ [rule]).Nodup := List.nodup_append.2 ⟨distinct, by simp, by
            rintro other among _ new rfl
            rw [List.mem_singleton] at new
            exact known (new ▸ among)⟩
          have step := ih (number + 1) problems distinct'
          rwa [List.append_assoc, List.singleton_append] at step

theorem gather_problems (number : Nat) (rules : List IgnoreRule) (problems : List IgnoreProblem)
    (lines : List String) :
    (gather number rules problems lines).2 = problems ++ problemsOf (lines.zipIdx number) := by
  induction lines generalizing number rules problems with
  | nil => exact (List.append_nil _).symm
  | cons raw lines ih =>
    rw [List.zipIdx_cons, problemsOf]
    cases read : ofLine raw with
    | error reason =>
      have told : reason? raw = some reason := by rw [reason?, read]
      rw [gather_cons_error read, ih, List.filterMap_cons_some (by rw [told]; rfl), List.append_assoc]
      rfl
    | ok taken =>
      have told : reason? raw = none := by rw [reason?, read]
      rw [gather_cons_ok read, ih, List.filterMap_cons_none (by rw [told]; rfl)]
      rfl

theorem nodup_builtin : builtin.Nodup := by decide +kernel

theorem rules_ofLinesWith (lines : List String) :
    (ofLinesWith canCompile lines).rules = (builtin ++ lines.filterMap accepted?).eraseDups ∧
      (ofLinesWith canCompile lines).rules.Nodup :=
  gather_rules 1 [] lines nodup_builtin

theorem problems_ofLinesWith (lines : List String) :
    (ofLinesWith canCompile lines).problems = problemsOf (lines.zipIdx 1) :=
  gather_problems 1 builtin [] lines

theorem mem_rules_ofLinesWith : rule ∈ (ofLinesWith canCompile lines).rules ↔
    rule ∈ builtin ∨ ∃ raw ∈ lines, accepted? raw = some rule := by
  rw [(rules_ofLinesWith lines).1, List.mem_eraseDups, List.mem_append, List.mem_filterMap]

theorem excludes_ofLinesWith : (ofLinesWith canCompile lines).excludes segments = true ↔
    ∃ rule ∈ (ofLinesWith canCompile lines).rules,
      Counts canCompile (ofLinesWith canCompile lines).rules rule ∧ rule.Matches segments :=
  excludes_compileWith

theorem isSound_of_mem (among : rule ∈ (ofLinesWith canCompile lines).rules) : rule.isSound = true := by
  have builtinSound : ∀ rule ∈ builtin, rule.isSound = true := by decide +kernel
  rcases mem_rules_ofLinesWith.1 among with builtin | ⟨raw, -, accepted⟩
  · exact builtinSound rule builtin
  · exact (Option.filter_eq_some_iff.1 accepted).2

theorem mem_rules_mono (subset : lines ⊆ more) (among : rule ∈ (ofLinesWith canCompile lines).rules) :
    rule ∈ (ofLinesWith canCompile more).rules := by
  rw [mem_rules_ofLinesWith] at among ⊢
  exact among.imp_right fun ⟨raw, inside, accepted⟩ => ⟨raw, subset inside, accepted⟩

theorem excludes_mono (subset : lines ⊆ more)
    (compiled : canCompile (globsOf (ofLinesWith canCompile more).rules) = true)
    (excluded : (ofLinesWith canCompile lines).excludes segments = true) :
    (ofLinesWith canCompile more).excludes segments = true := by
  rw [excludes_ofLinesWith] at excluded ⊢
  obtain ⟨rule, among, -, matched⟩ := excluded
  exact ⟨rule, mem_rules_mono subset among, fun _ => compiled, matched⟩

theorem perm_rules (same : ∀ raw, raw ∈ more ↔ raw ∈ lines) :
    (ofLinesWith canCompile more).rules.Perm (ofLinesWith canCompile lines).rules := by
  refine (List.perm_ext_iff_of_nodup (rules_ofLinesWith more).2 (rules_ofLinesWith lines).2).2 fun rule => ?_
  exact ⟨mem_rules_mono fun raw => (same raw).1, mem_rules_mono fun raw => (same raw).2⟩

/-- Whether globs can be compiled together does not depend on their order. -/
def Orderless (canCompile : List Glob → Bool) : Prop :=
  ∀ globs others : List Glob, globs.Perm others → canCompile globs = canCompile others

theorem excludes_reordered (orderless : Orderless canCompile) (same : ∀ raw, raw ∈ more ↔ raw ∈ lines) :
    (ofLinesWith canCompile more).excludes segments = (ofLinesWith canCompile lines).excludes segments := by
  have permuted : (ofLinesWith canCompile more).rules.Perm (ofLinesWith canCompile lines).rules := perm_rules same
  have compiles := orderless _ _ ((permuted.filter (·.kind == .glob)).filterMap fun rule =>
    (Glob.read rule.pattern).toOption)
  rw [Bool.eq_iff_iff, excludes_ofLinesWith, excludes_ofLinesWith]
  simp only [Counts, globsOf, permuted.mem_iff, compiles]

/-! Problems -/

theorem problemsOf_unlisted {entries : List (String × Nat)} (unlisted : number ∉ entries.map Prod.snd) :
    (problemsOf entries).filter (·.line == number) = [] := by
  rw [List.filter_eq_nil_iff]
  intro problem among here
  obtain ⟨entry, listed, told⟩ := List.mem_filterMap.1 among
  obtain ⟨reason, -, rfl⟩ := Option.map_eq_some_iff.1 told
  exact unlisted (List.mem_map.2 ⟨entry, listed, beq_iff_eq.1 here⟩)

theorem problemsOf_listed {entries : List (String × Nat)} (distinct : (entries.map Prod.snd).Nodup)
    (listed : (raw, number) ∈ entries) : (problemsOf entries).filter (·.line == number) =
      ((reason? raw).map fun reason => ⟨number, raw, reason⟩).toList := by
  induction entries with
  | nil => cases listed
  | cons entry entries ih =>
    rw [List.map_cons, List.nodup_cons] at distinct
    obtain ⟨unlisted, distinct⟩ := distinct
    have parts : problemsOf (entry :: entries) =
        ((reason? entry.1).map fun reason => ⟨entry.2, entry.1, reason⟩).toList ++ problemsOf entries := by
      cases told : reason? entry.1 with
      | none => exact List.filterMap_cons_none (by rw [told]; rfl)
      | some reason => exact List.filterMap_cons_some (by rw [told]; rfl)
    rw [parts, List.filter_append]
    rcases List.mem_cons.1 listed with rfl | listed
    · rw [problemsOf_unlisted unlisted, List.append_nil]
      cases reason? raw <;> simp
    · have other : entry.2 ≠ number := fun same => unlisted (same ▸ List.mem_map.2 ⟨_, listed, rfl⟩)
      rw [ih distinct listed]
      cases reason? entry.1 <;> simp [other]

def ExactlyOne (a b c : Prop) : Prop := (a ∧ ¬b ∧ ¬c) ∨ (¬a ∧ b ∧ ¬c) ∨ (¬a ∧ ¬b ∧ c)

def Represented (rules : IgnoreRules) (raw : String) : Prop := ∃ rule ∈ rules.rules, rule? raw = some rule

/-- A line is told of as it is, once, under its number. -/
def Recorded (rules : IgnoreRules) (number : Nat) (raw : String) : Prop :=
  (rules.problems.filter (·.line == number)).map (·.pattern) = [raw]

theorem recorded_iff (listed : (raw, number) ∈ lines.zipIdx 1) :
    (ofLinesWith canCompile lines).Recorded number raw ↔ (reason? raw).isSome = true := by
  have distinct : ((lines.zipIdx 1).map Prod.snd).Nodup := by
    rw [List.zipIdx_map_snd]
    exact List.nodup_range'
  rw [Recorded, problems_ofLinesWith, problemsOf_listed distinct listed]
  cases reason? raw <;> simp

theorem exactlyOne (listed : (raw, number) ∈ lines.zipIdx 1) :
    ExactlyOne (Silent raw) ((ofLinesWith canCompile lines).Represented raw)
      ((ofLinesWith canCompile lines).Recorded number raw) := by
  have inside : raw ∈ lines := List.fst_mem_of_mem_zipIdx listed
  rw [ExactlyOne, recorded_iff listed, reason?]
  have reading := reading_ofLine raw
  cases read : ofLine raw with
  | error reason =>
    rw [read] at reading
    cases reading with
    | refused spoken unsound =>
      refine .inr (.inr ⟨spoken, ?_, rfl⟩)
      rintro ⟨rule, among, is⟩
      exact absurd ((unsound rule is).symm.trans (isSound_of_mem among)) Bool.false_ne_true
  | ok taken =>
    rw [read] at reading
    cases reading with
    | silent silent none =>
      refine .inl ⟨silent, ?_, Bool.false_ne_true⟩
      rintro ⟨rule, -, is⟩
      cases none.symm.trans is
    | taken spoken is sound =>
      refine .inr (.inl ⟨spoken, ⟨_, mem_rules_ofLinesWith.2 (.inr ⟨raw, inside, ?_⟩), is⟩, Bool.false_ne_true⟩)
      exact Option.filter_eq_some_iff.2 ⟨is, sound⟩

/-! The set as a whole -/

/-- A set of rules is a plain list: the built-in rules and those of the lines. -/
structure Plain (canCompile : List Glob → Bool) (lines : List String) (set : IgnoreRules) : Prop where
  /-- A path is excluded if one of the rules by itself excludes it. -/
  excludes : canCompile (globsOf set.rules) = true → ∀ segments,
    set.excludes segments = set.rules.any (·.excludes segments)
  matched : canCompile (globsOf set.rules) = true → ∀ segments,
    (set.excludes segments = true ↔ ∃ rule ∈ set.rules, rule.Matches segments)
  unglobbed : canCompile (globsOf set.rules) = false → ∀ segments,
    (set.excludes segments = true ↔ ∃ rule ∈ set.rules, rule.kind ≠ .glob ∧ rule.Matches segments)
  /-- Of equal rules the first one is listed. -/
  listed : set.rules = (builtin ++ lines.filterMap accepted?).eraseDups
  distinct : set.rules.Nodup
  builtinFirst : builtin <+: set.rules
  /-- Lines are counted from one. -/
  exactlyOne : ∀ raw number, (raw, number) ∈ lines.zipIdx 1 →
    ExactlyOne (Silent raw) (set.Represented raw) (set.Recorded number raw)
  /-- Nothing else is recorded. -/
  numbered : ∀ problem ∈ set.problems, (problem.pattern, problem.line) ∈ lines.zipIdx 1
  ascending : set.problems.Pairwise fun a b => a.line < b.line

theorem plain_ofLinesWith (lines : List String) : Plain canCompile lines (ofLinesWith canCompile lines) where
  excludes compiled segments := by
    rw [Bool.eq_iff_iff, excludes_ofLinesWith, List.any_eq_true]
    simp only [IgnoreRule.excludes_iff, Counts, compiled, implies_true, true_and]
  matched compiled segments := by
    rw [excludes_ofLinesWith]
    simp only [Counts, compiled, implies_true, true_and]
  unglobbed refused segments := by
    rw [excludes_ofLinesWith]
    simp only [Counts, refused, Bool.false_eq_true, imp_false, ne_eq]
  listed := (rules_ofLinesWith lines).1
  distinct := (rules_ofLinesWith lines).2
  builtinFirst := by
    rw [(rules_ofLinesWith lines).1, List.eraseDups_append, eraseDups_of_nodup nodup_builtin]
    exact List.prefix_append _ _
  exactlyOne _ _ := exactlyOne
  numbered problem among := by
    rw [problems_ofLinesWith] at among
    obtain ⟨entry, listed, told⟩ := List.mem_filterMap.1 among
    obtain ⟨reason, -, rfl⟩ := Option.map_eq_some_iff.1 told
    exact listed
  ascending := by
    have counted : (lines.zipIdx 1).Pairwise fun a b => a.2 < b.2 := by
      rw [← List.pairwise_map (f := Prod.snd) (R := (· < ·)), List.zipIdx_map_snd]
      exact List.pairwise_lt_range'
    rw [problems_ofLinesWith]
    refine counted.filterMap _ fun a b before problem told other told' => ?_
    obtain ⟨_, -, rfl⟩ := Option.map_eq_some_iff.1 told
    obtain ⟨_, -, rfl⟩ := Option.map_eq_some_iff.1 told'
    exact before

/-- The rules sorted by kind exclude what the plain list of rules excludes, unless the globs cannot be compiled
together. Neither the order of the lines nor a repeated line matters, and more lines exclude more as long as their
globs can be compiled. -/
theorem ofLinesWith_plain (orderless : Orderless canCompile) (lines : List String) :
    Plain canCompile lines (ofLinesWith canCompile lines) ∧
    (∀ other, (∀ raw, raw ∈ other ↔ raw ∈ lines) → ∀ segments,
      (ofLinesWith canCompile other).excludes segments = (ofLinesWith canCompile lines).excludes segments) ∧
    ∀ more, lines ⊆ more → canCompile (globsOf (ofLinesWith canCompile more).rules) = true → ∀ segments,
      (ofLinesWith canCompile lines).excludes segments = true →
        (ofLinesWith canCompile more).excludes segments = true :=
  ⟨plain_ofLinesWith lines, fun _ same _ => excludes_reordered orderless same,
    fun _ subset compiled _ => excludes_mono subset compiled⟩

theorem orderless_canCompile : Orderless Glob.canCompile := by
  intro globs others permuted
  have patterns := permuted.filter (!·.isPlain)
  have sums := ((patterns.filter (!·.hasExtension)).map Glob.memory).foldr_eq (f := (· + ·)) 0
  simp only [Glob.canCompile, patterns.all_eq, (patterns.filter (·.hasExtension)).all_eq, sums]

def mixedLines : List String := ["# made by tools", " ./gen/ # twice", "docs/api", "*.min.js", "bad[*"]

theorem ofLinesWith_plain_mixed : Orderless Glob.canCompile ∧
    Glob.canCompile (globsOf (ofLines mixedLines).rules) = true ∧
    (ofLines mixedLines).excludes ["web", "app.min.js"] =
      (ofLines mixedLines).rules.any (·.excludes ["web", "app.min.js"]) ∧
    ("bad[*", 5) ∈ mixedLines.zipIdx 1 ∧
    ExactlyOne (Silent "bad[*") ((ofLines mixedLines).Represented "bad[*") ((ofLines mixedLines).Recorded 5 "bad[*") ∧
    (∀ raw, raw ∈ mixedLines.reverse ↔ raw ∈ mixedLines) ∧
    (ofLines mixedLines.reverse).excludes ["web", "app.min.js"] =
      (ofLines mixedLines).excludes ["web", "app.min.js"] ∧
    mixedLines ⊆ "src/**/gen?.rs" :: mixedLines ∧
    Glob.canCompile (globsOf (ofLines ("src/**/gen?.rs" :: mixedLines)).rules) = true ∧
    (ofLines mixedLines).excludes ["docs", "api", "x.md"] = true ∧
    (ofLines ("src/**/gen?.rs" :: mixedLines)).excludes ["docs", "api", "x.md"] = true := by
  obtain ⟨plain, reordered, more⟩ := ofLinesWith_plain orderless_canCompile mixedLines
  have compiled : Glob.canCompile (globsOf (ofLines mixedLines).rules) = true := by decide +kernel
  have listed : ("bad[*", 5) ∈ mixedLines.zipIdx 1 := by decide
  have same : ∀ raw, raw ∈ mixedLines.reverse ↔ raw ∈ mixedLines := fun _ => List.mem_reverse
  have compiledMore : Glob.canCompile (globsOf (ofLines ("src/**/gen?.rs" :: mixedLines)).rules) = true := by
    decide +kernel
  have excluded : (ofLines mixedLines).excludes ["docs", "api", "x.md"] = true := by decide +kernel
  exact ⟨orderless_canCompile, compiled, plain.excludes compiled _, listed, plain.exactlyOne _ _ listed, same,
    reordered _ same _, List.subset_cons_self _ _, compiledMore, excluded,
    more _ (List.subset_cons_self _ _) compiledMore _ excluded⟩

/-! A glob that is too large -/

def marks (n : Nat) : String := String.ofList (List.replicate n '?')

theorem readFrom_marks (n : Nat) (tokens : List Glob.Token) (before : Option Char) :
    Glob.readFrom ⟨tokens, []⟩ before none (List.replicate n '?') = .ok ⟨tokens.reverse ++ List.replicate n .any⟩ := by
  induction n generalizing tokens before with
  | zero => simp [Glob.readFrom, Glob.Draft.finish]
  | succ n ih =>
    rw [List.replicate_succ, Glob.readFrom, Glob.Draft.push, ih]
    simp [List.replicate_succ]

theorem read_marks (n : Nat) : Glob.read (marks n) = .ok ⟨List.replicate n .any⟩ := by
  rw [Glob.read, marks, String.toList_ofList, readFrom_marks]
  rfl

theorem accepted_marks (n : Nat) : accepted? (marks (n + 1)) = some ⟨marks (n + 1), .glob⟩ := by
  have kept : ∀ drop : Char → Bool, drop '?' = false →
      (List.replicate (n + 1) '?').dropWhile drop = List.replicate (n + 1) '?' := by
    intro drop stays
    rw [List.replicate_succ, List.dropWhile_cons_of_neg (by simp [stays])]
  have keptEnd : ∀ drop : Char → Bool, drop '?' = false →
      Text.dropWhileEnd drop (List.replicate (n + 1) '?') = List.replicate (n + 1) '?' := by
    intro drop stays
    rw [Text.dropWhileEnd, List.reverse_replicate, kept drop stays, List.reverse_replicate]
  have shown : visible (marks (n + 1)) = List.replicate (n + 1) '?' := by
    rw [visible, marks, String.toList_ofList, List.takeWhile_replicate, if_pos (by decide)]
  have normal : IgnoreRule.normalize (List.replicate (n + 1) '?') = List.replicate (n + 1) '?' := by
    rw [IgnoreRule.normalize, Text.trim, Text.trimStart, Text.trimEnd, kept _ (by decide), keptEnd _ (by decide),
      keptEnd _ (by decide), List.replicate_succ]
    rfl
  have kind : IgnoreRule.kindOf (List.replicate (n + 1) '?') = .glob := by
    simp [IgnoreRule.kindOf, List.replicate_succ]
  have rule : rule? (marks (n + 1)) = some ⟨marks (n + 1), .glob⟩ := by
    rw [rule?, shown, IgnoreRule.of?, String.toList_ofList, normal, kind]
    simp [marks]
  rw [accepted?, rule, Option.filter_some, IgnoreRule.isSound, read_marks]
  rfl

theorem sequenceStates_marks (n count : Nat) :
    Glob.sequenceStates (List.replicate n .any) count = count + n := by
  induction n generalizing count with
  | zero => rfl
  | succ n ih => rw [List.replicate_succ, Glob.sequenceStates, ih, Glob.Token.states, Nat.add_right_comm, Nat.add_assoc]

theorem canCompile_marks {n : Nat} {globs : List Glob} (among : ⟨List.replicate (n + 1) .any⟩ ∈ globs)
    (large : Glob.maxMemory < Glob.stateSize * n) : Glob.canCompile globs = false := by
  have patterned : Glob.isPlain ⟨List.replicate (n + 1) .any⟩ = false := by
    rw [Glob.isPlain, List.reverse_replicate, List.replicate_succ]
    simp [Glob.Token.isLiteral]
  have joined : Glob.hasExtension ⟨List.replicate (n + 1) .any⟩ = false := by
    rw [Glob.hasExtension, List.reverse_replicate, List.replicate_succ, List.dropWhile_cons_of_neg (by simp)]
  have memory : Glob.memory ⟨List.replicate (n + 1) .any⟩ = Glob.stateSize * (5 + (n + 1)) := by
    rw [Glob.memory, sequenceStates_marks]
  have part := List.le_sum_of_mem (List.mem_map_of_mem (f := Glob.memory) (List.mem_filter.2
    ⟨List.mem_filter.2 ⟨among, by rw [patterned]; rfl⟩, by rw [joined]; rfl⟩ :
      _ ∈ (globs.filter (!·.isPlain)).filter (!·.hasExtension)))
  have more : Glob.stateSize * n ≤ Glob.stateSize * (5 + (n + 1)) := Nat.mul_le_mul_left _ (by omega)
  rw [memory] at part
  rw [Glob.canCompile, ← List.sum_eq_foldr, decide_eq_false (by omega), Bool.and_false]

/-- A line of 450000 question marks is taken without a problem and puts all globs out of use, those that are
built in with them. -/
theorem marks_unglob :
    (ofLines [marks 450000]).problems = [] ∧
    (∃ rule ∈ (ofLines [marks 450000]).rules, rule.Matches ["x_assets"]) ∧
    (ofLines [marks 450000]).excludes ["x_assets"] = false ∧ (ofLines []).excludes ["x_assets"] = true := by
  have accepted := accepted_marks 449999
  have mem : ∀ rule, rule ∈ (ofLines [marks 450000]).rules ↔ rule ∈ builtin ∨ ⟨marks 450000, .glob⟩ = rule := by
    intro rule
    rw [ofLines, mem_rules_ofLinesWith]
    simp [accepted]
  -- One glob is beyond the limit by itself, whatever the others take.
  have refused : Glob.canCompile (globsOf (ofLines [marks 450000]).rules) = false := by
    refine canCompile_marks (n := 449999) ?_ (by decide)
    refine List.mem_filterMap.2 ⟨_, List.mem_filter.2 ⟨(mem _).2 (.inr rfl), rfl⟩, ?_⟩
    rw [read_marks]
    rfl
  have assets : (IgnoreRule.mk "*_assets" .glob).Matches ["x_assets"] :=
    IgnoreRule.excludes_iff.1 (by decide +kernel)
  refine ⟨?_, ⟨_, (mem _).2 (.inl (by decide +kernel)), assets⟩, ?_, by decide +kernel⟩
  · have taken : reason? (marks 450000) = none := by
      have reading := reading_ofLine (marks 450000)
      rw [reason?]
      cases read : ofLine (marks 450000) with
      | ok taken => rfl
      | error reason =>
        rw [read] at reading
        cases reading with
        | refused _ unsound =>
          obtain ⟨is, sound⟩ := Option.filter_eq_some_iff.1 accepted
          exact absurd (sound.symm.trans (unsound _ is)) (by decide)
    rw [ofLines, problems_ofLinesWith]
    simp [problemsOf, taken]
  -- Without globs only the other kinds are left, and no built-in rule of these is about the name.
  · have plain : Plain Glob.canCompile [marks 450000] (ofLines [marks 450000]) := plain_ofLinesWith _
    rw [← Bool.not_eq_true, plain.unglobbed refused]
    have spared : ∀ rule ∈ builtin, rule.kind ≠ .glob → rule.excludes ["x_assets"] = false := by decide +kernel
    rintro ⟨rule, among, kind, matched⟩
    rcases (mem rule).1 among with built | rfl
    · rw [← IgnoreRule.excludes_iff, spared rule built kind] at matched
      cases matched
    · exact kind rfl

end IgnoreRules

end Waymark
