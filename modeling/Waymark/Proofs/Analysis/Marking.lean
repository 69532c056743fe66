import Mathlib.Data.Nat.Find
import Waymark.Proofs.Language.Window
import Waymark.Proofs.Text.Lines

/-! A marked line that is put in above a declaration line. It declares nothing, so the same names are found; where
windows do not go below their declarations it documents what the line under it declares first, and nothing else.
-/

set_option autoImplicit false

namespace Waymark.Detector

variable {detector : Detector} {lines : List (List Char)} {mark : List Char} {name : String} {index j k : Nat}

/-! Lines below the one that is put in move down -/

/-- Where a line stands when another one is put in above line `index`. -/
def moved (index k : Nat) : Nat := if k < index then k else k + 1

theorem moved_above (above : k < index) : moved index k = k := if_pos above

theorem moved_below (below : index ≤ k) : moved index k = k + 1 := if_neg (Nat.not_lt.2 below)

theorem moved_lt_iff : moved index j < moved index k ↔ j < k := by
  unfold moved
  split <;> split <;> omega

theorem eq_moved (apart : k ≠ index) : ∃ before, k = moved index before := by
  rcases Nat.lt_or_gt_of_ne apart with above | below
  · exact ⟨k, (moved_above above).symm⟩
  · exact ⟨k - 1, by rw [moved_below (by omega)]; omega⟩

theorem moved_bounds {above : Nat} (other : k ≠ index) (within : index < k → index < j) :
    moved index k - above ≤ moved index j ∧ moved index j ≤ moved index k ↔ k - above ≤ j ∧ j ≤ k := by
  unfold moved
  split <;> split <;> omega

theorem getElem?_moved (lines : List (List Char)) (mark : List Char) (index k : Nat) :
    (lines.insertIdx index mark)[moved index k]? = lines[k]? := by
  rcases Nat.lt_or_ge k index with above | below
  · rw [moved_above above, List.getElem?_insertIdx_of_lt above]
  · rw [moved_below below, List.getElem?_insertIdx_of_gt (Nat.lt_succ_of_le below)]
    rfl

theorem getElem?_mark (inside : index < lines.length) (mark : List Char) :
    (lines.insertIdx index mark)[index]? = some mark := by
  rw [List.getElem?_insertIdx_self, if_pos (Nat.le_of_lt inside)]

theorem captures_moved (detector : Detector) (lines : List (List Char)) (mark : List Char) (index k : Nat) :
    detector.captures (lines.insertIdx index mark) (moved index k) = detector.captures lines k := by
  rw [captures, getElem?_moved]
  rfl

theorem declares_moved : detector.Declares (lines.insertIdx index mark) (moved index k) ↔
    detector.Declares lines k := by
  rw [Declares, captures_moved]
  rfl

theorem flatMap_namesOn (silent : detector.namesOn mark = []) (lines : List (List Char)) (index : Nat) :
    (lines.insertIdx index mark).flatMap detector.namesOn = lines.flatMap detector.namesOn := by
  induction lines generalizing index with
  | nil => cases index <;> simp [silent]
  | cons line rest ih =>
    cases index with
    | zero => simp [silent]
    | succ index => rw [List.insertIdx_succ_cons, List.flatMap_cons, List.flatMap_cons, ih]

section
variable (inside : index < lines.length) (silent : detector.namesOn mark = [])
include inside silent

theorem captures_mark : detector.captures (lines.insertIdx index mark) index = [] := by
  rw [captures, getElem?_mark inside]
  exact silent

theorem declares_insertIdx_iff : detector.Declares (lines.insertIdx index mark) k ↔
    ∃ before, k = moved index before ∧ detector.Declares lines before := by
  constructor
  · intro declares
    have apart : k ≠ index := by
      rintro rfl
      exact declares (captures_mark inside silent)
    obtain ⟨before, rfl⟩ := eq_moved apart
    exact ⟨before, rfl, declares_moved.1 declares⟩
  · rintro ⟨before, rfl, declares⟩
    exact declares_moved.2 declares

theorem declaresFirst_moved : detector.DeclaresFirst (lines.insertIdx index mark) name (moved index k) ↔
    detector.DeclaresFirst lines name k := by
  rw [DeclaresFirst, DeclaresFirst, captures_moved]
  refine and_congr_right fun _ => ?_
  constructor
  · intro new earlier before captured
    exact new (moved index earlier) (moved_lt_iff.2 before) (by rwa [captures_moved])
  · intro new earlier before captured
    -- A line that captures the name is not the mark, so it stood somewhere before.
    have declares : detector.Declares (lines.insertIdx index mark) earlier := List.ne_nil_of_mem captured
    obtain ⟨unmoved, rfl, -⟩ := (declares_insertIdx_iff inside silent).1 declares
    rw [captures_moved] at captured
    exact new unmoved (moved_lt_iff.1 before) captured

end

/-! Windows that do not go below their declarations -/

/-- Nothing below a declaration is searched, so only the declaration lines above it cut the search off. -/
theorem searched_iff (leading : detector.window.below = 0) : detector.Searched lines k j ↔
    k - detector.window.above.toNat ≤ j ∧ j ≤ k ∧ ∀ upper, upper < k → detector.Declares lines upper → upper < j := by
  have zero : detector.window.below.toNat = 0 := by rw [leading]; rfl
  constructor
  · intro searched
    exact ⟨searched.above, by have := searched.below; omega, searched.after⟩
  · rintro ⟨above, upward, after⟩
    exact ⟨above, by omega, after, fun lower below _ => by omega⟩

section
variable (inside : index < lines.length) (silent : detector.namesOn mark = [])
  (leading : detector.window.below = 0)
include inside silent leading

theorem searched_mark (searches : 0 < detector.window.above.toNat) :
    detector.Searched (lines.insertIdx index mark) (moved index index) index := by
  rw [searched_iff leading, moved_below (Nat.le_refl index)]
  refine ⟨by omega, Nat.le_succ index, fun upper before declares => ?_⟩
  rcases Nat.eq_or_lt_of_le (Nat.le_of_lt_succ before) with rfl | above
  · exact absurd (captures_mark inside silent) declares
  · exact above

variable (declares : detector.Declares lines index) (other : k ≠ index)
include declares other

omit inside silent in
theorem not_searched_mark : ¬detector.Searched (lines.insertIdx index mark) (moved index k) index := by
  rw [searched_iff leading]
  rintro ⟨-, upward, after⟩
  rcases Nat.lt_or_gt_of_ne other with above | below
  · rw [moved_above above] at upward
    omega
  · have cut := after (moved index index) (moved_lt_iff.2 below) (declares_moved.2 declares)
    rw [moved_below (Nat.le_refl index)] at cut
    omega

theorem searched_moved : detector.Searched (lines.insertIdx index mark) (moved index k) (moved index j) ↔
    detector.Searched lines k j := by
  rw [searched_iff leading, searched_iff leading]
  have after : (∀ upper, upper < moved index k → detector.Declares (lines.insertIdx index mark) upper →
      upper < moved index j) ↔ ∀ upper, upper < k → detector.Declares lines upper → upper < j := by
    constructor
    · intro cut upper before there
      exact moved_lt_iff.1 (cut (moved index upper) (moved_lt_iff.2 before) (declares_moved.2 there))
    · intro cut upper before there
      obtain ⟨unmoved, rfl, here⟩ := (declares_insertIdx_iff inside silent).1 there
      exact moved_lt_iff.2 (cut unmoved (moved_lt_iff.1 before) here)
  rw [after, ← and_assoc, ← and_assoc]
  -- Only distances over the mark grow, and the declaration line under the mark cuts those searches off.
  exact and_congr_left fun cut => moved_bounds other fun below => cut index below declares

theorem documented_moved : detector.Documented (lines.insertIdx index mark) (moved index k) ↔
    detector.Documented lines k := by
  constructor
  · rintro ⟨j, line, searched, present, marked⟩
    have apart : j ≠ index := by
      rintro rfl
      exact not_searched_mark leading declares other searched
    obtain ⟨unmoved, rfl⟩ := eq_moved apart
    rw [getElem?_moved] at present
    exact ⟨unmoved, line, (searched_moved inside silent leading declares other).1 searched, present, marked⟩
  · rintro ⟨j, line, searched, present, marked⟩
    refine ⟨moved index j, line, (searched_moved inside silent leading declares other).2 searched, ?_, marked⟩
    rw [getElem?_moved, present]

end

/-! Names and their first lines -/

theorem exists_declaresFirst (declared : name ∈ lines.flatMap detector.namesOn) :
    ∃ index, detector.DeclaresFirst lines name index := by
  obtain ⟨line, among, captured⟩ := List.mem_flatMap.1 declared
  obtain ⟨k, present⟩ := List.mem_iff_getElem?.1 among
  have somewhere : ∃ k, name ∈ detector.captures lines k := by
    refine ⟨k, ?_⟩
    rw [captures, present]
    exact captured
  exact ⟨Nat.find somewhere, Nat.find_spec somewhere, fun earlier before => Nat.find_min somewhere before⟩

/-- What is to be found when line `index` was given a marker. -/
structure Helps (detector : Detector) (lines : List (List Char)) (index : Nat) (before after : Analysis) :
    Prop where
  names : after.names = before.names
  count : after.lines.toNat = before.lines.toNat + 1
  documented : ∀ name ∈ before.names,
    (name ∈ after.documented ↔ detector.DeclaresFirst lines name index ∨ name ∈ before.documented)
  undocumented : ∀ name ∈ before.names,
    (name ∈ after.undocumented ↔ ¬detector.DeclaresFirst lines name index ∧ name ∈ before.undocumented)

theorem helps_of_describes {before after : Analysis} (inside : index < lines.length)
    (silent : detector.namesOn mark = []) (marked : detector.isMarked mark = true)
    (leading : detector.window.below = 0) (searches : 0 < detector.window.above.toNat)
    (declares : detector.Declares lines index) (was : detector.Describes lines before)
    (is : detector.Describes (lines.insertIdx index mark) after) : detector.Helps lines index before after := by
  have documents : detector.Documented (lines.insertIdx index mark) (moved index index) :=
    ⟨index, mark, searched_mark inside silent leading searches, getElem?_mark inside mark, marked⟩
  have first : ∀ name ∈ before.names, ∃ k, detector.DeclaresFirst lines name k := by
    intro name listed
    rw [was.names, List.mem_eraseDups] at listed
    exact exists_declaresFirst listed
  constructor
  case names => rw [is.names, was.names, flatMap_namesOn silent]
  case count =>
    rw [is.count, was.count, List.length_insertIdx, if_pos (Nat.le_of_lt inside)]
  case documented =>
    intro name listed
    -- The name is first declared under the mark, or on a line for which nothing has changed.
    obtain ⟨k, here⟩ := first name listed
    rw [is.documented name _ ((declaresFirst_moved inside silent).2 here), was.documented name k here]
    by_cases same : k = index
    · subst same
      exact ⟨fun _ => .inl here, fun _ => documents⟩
    · rw [documented_moved inside silent leading declares same]
      exact ⟨.inr, fun either => either.resolve_left fun there => same (here.unique there)⟩
  case undocumented =>
    intro name listed
    obtain ⟨k, here⟩ := first name listed
    rw [is.undocumented name _ ((declaresFirst_moved inside silent).2 here), was.undocumented name k here]
    by_cases same : k = index
    · subst same
      exact ⟨fun bare => absurd documents bare, fun both => absurd here both.1⟩
    · rw [documented_moved inside silent leading declares same]
      exact ⟨fun bare => ⟨fun there => same (here.unique there), bare⟩, And.right⟩

end Waymark.Detector

namespace Waymark.Language

variable {language : Language} {text line : List Char} {index : Nat}

/-- In a language with leading markers, a marked line that declares nothing and is put in above a declaration line
documents what that line declares first, and all other names are documented exactly if they were. -/
theorem marker_helps (leading : language.window = .leading) (plain : '\n' ∉ line)
    (marked : language.isMarked (Text.withoutReturn line) = true)
    (silent : language.detector.namesOn (Text.withoutReturn line) = [])
    (declares : language.detector.Declares (Text.lines text) index)
    (counted : (Text.lines text).length + 1 < Count.limit) :
    ∃ before after, Analysis.ofText language text = .ok before ∧
      Analysis.ofText language (Text.insertLine line index text) = .ok after ∧
      language.detector.Helps (Text.lines text) index before after := by
  have inside := declares.lt_length
  have window : language.detector.window = .leading := leading
  have below : language.detector.window.below = 0 := by rw [window]; rfl
  have above : language.detector.window.above.toNat = 10 := by rw [window]; rfl
  have read := Text.lines_insertLine plain inside
  have longer : (Text.lines (Text.insertLine line index text)).length = (Text.lines text).length + 1 := by
    rw [read, List.length_insertIdx, if_pos (Nat.le_of_lt inside)]
  -- Nothing below a declaration is searched, so no window goes beyond the last line.
  have fits : ∀ text, (Text.lines text).length < Count.limit → language.detector.Fits (Text.lines text) := by
    intro text few index inside
    rw [below]
    exact Nat.lt_trans inside few
  have few : (Text.lines text).length < Count.limit := by omega
  have few' : (Text.lines (Text.insertLine line index text)).length < Count.limit := by omega
  obtain ⟨before, first, was⟩ := Detector.analysis_describes language.detector text few (fits text few)
  obtain ⟨after, second, is⟩ := Detector.analysis_describes language.detector _ few' (fits _ few')
  rw [read] at is
  exact ⟨before, after, first, second,
    Detector.helps_of_describes inside silent marked below (above ▸ by decide) declares was is⟩

/-- One function has a marker, and its name is declared again; two others have none. -/
def halfMarked : List Char :=
  ("// @codebase-summary: reads\nfn load() \x7b\x7d\nfn save() \x7b\x7d\nfn load() \x7b\x7d\n" ++
    "fn check() \x7b\x7d\n").toList

def saveMarker : List Char := "  /// @codebase-summary: writes".toList

/-- The marker that is put in above `save` is none of `check`, which is declared below it. -/
theorem marker_helps_halfMarked : ∃ language before after, Languages.builtin.find? "rs" = some language ∧
    language.window = .leading ∧ '\n' ∉ saveMarker ∧
    language.isMarked (Text.withoutReturn saveMarker) = true ∧
    language.detector.namesOn (Text.withoutReturn saveMarker) = [] ∧
    language.detector.Declares (Text.lines halfMarked) 2 ∧ (Text.lines halfMarked).length + 1 < Count.limit ∧
    Analysis.ofText language halfMarked = .ok before ∧
    Analysis.ofText language (Text.insertLine saveMarker 2 halfMarked) = .ok after ∧
    language.detector.Helps (Text.lines halfMarked) 2 before after ∧
    before.documented = ["load"] ∧ after.documented = ["load", "save"] ∧ after.undocumented = ["check"] := by
  have found : Languages.builtin.find? "rs" = Language.of? rust := by
    have covering : sources.reverse.filter (·.covers "rs") = [rust] := by decide +kernel
    rw [Languages.find?_builtin, covering, List.findSome?_singleton]
  -- What depends on the patterns is evaluated in one go, so they are compiled once.
  have evaluated : ∃ language ∈ Language.of? rust,
      language.isMarked (Text.withoutReturn saveMarker) = true ∧
      language.detector.namesOn (Text.withoutReturn saveMarker) = [] ∧
      language.detector.Declares (Text.lines halfMarked) 2 ∧
      (Analysis.ofText language halfMarked).toOption =
        some ⟨["load", "save", "check"], ["load"], ["save", "check"], 5⟩ ∧
      (Analysis.ofText language (Text.insertLine saveMarker 2 halfMarked)).toOption =
        some ⟨["load", "save", "check"], ["load", "save"], ["check"], 6⟩ := by
    decide +kernel
  obtain ⟨language, compiled, marked, silent, declares, was, is⟩ := evaluated
  have leading : language.window = .leading := (Language.of?_window compiled).2
  have plain : '\n' ∉ saveMarker := by decide
  have counted : (Text.lines halfMarked).length + 1 < Count.limit := by decide
  obtain ⟨before, after, first, second, helps⟩ := marker_helps leading plain marked silent declares counted
  rw [first] at was
  rw [second] at is
  cases was
  cases is
  exact ⟨language, _, _, found.trans compiled, leading, plain, marked, silent, declares, counted, first, second,
    helps, rfl, rfl, rfl⟩

end Waymark.Language
