import Waymark.Proofs.Analysis
import Waymark.Proofs.Language.Builtin

/-! What the windows of two declaration lines share. No window reaches a neighbouring declaration line, so
a shared line lies between two declaration lines that follow each other, below the upper one. Windows that
do not go below their declaration share no line, and then every marker documents one line at most.
-/

set_option autoImplicit false

namespace Waymark

namespace Detector

variable {detector : Detector} {lines : List (List Char)} {name : String} {index upper lower j : Nat}

instance : Decidable (detector.Declares lines index) := inferInstanceAs (Decidable (_ ≠ _))

instance : Decidable (detector.DeclaresFirst lines name index) :=
  inferInstanceAs (Decidable (_ ∧ ∀ earlier < index, _))

/-- A line between two declaration lines that follow each other, near enough to both. -/
structure Between (detector : Detector) (lines : List (List Char)) (upper lower j : Nat) : Prop where
  after : upper < j
  before : j < lower
  below : j ≤ upper + detector.window.below.toNat
  above : lower ≤ j + detector.window.above.toNat
  follows : ∀ k, upper < k → k < lower → ¬detector.Declares lines k

/-- A marked line that is searched for the marker of what a line declares. -/
def Marks (detector : Detector) (lines : List (List Char)) (j index : Nat) : Prop :=
  detector.Searched lines index j ∧ ∃ line, lines[j]? = some line ∧ detector.isMarked line = true

theorem documented_iff_marks : detector.Documented lines index ↔ ∃ j, detector.Marks lines j index := by
  constructor
  · rintro ⟨j, line, searched, present, marked⟩
    exact ⟨j, searched, line, present, marked⟩
  · rintro ⟨j, searched, line, present, marked⟩
    exact ⟨j, line, searched, present, marked⟩

theorem DeclaresFirst.declares (first : detector.DeclaresFirst lines name index) :
    detector.Declares lines index := List.ne_nil_of_mem first.1

theorem searched_both_iff (first : detector.Declares lines upper) (second : detector.Declares lines lower)
    (order : upper < lower) :
    detector.Searched lines upper j ∧ detector.Searched lines lower j ↔
      detector.Between lines upper lower j := by
  constructor
  · rintro ⟨fromUpper, fromLower⟩
    have after := fromLower.after upper order first
    have before := fromUpper.before lower order second
    have above := fromLower.above
    refine ⟨after, before, fromUpper.below, by omega, fun k low high declares => ?_⟩
    -- A declaration line between the two would have to be on both sides of the shared line.
    have ahead := fromUpper.before k low declares
    have behind := fromLower.after k high declares
    omega
  · intro between
    have after := between.after
    have before := between.before
    have below := between.below
    have above := between.above
    constructor
    · refine ⟨by omega, below, fun k low _ => by omega, fun k high declares => ?_⟩
      have beyond : lower ≤ k := Nat.le_of_not_lt fun within => between.follows k high within declares
      omega
    · refine ⟨by omega, by omega, fun k low declares => ?_, fun k high _ => by omega⟩
      have beyond : k ≤ upper := Nat.le_of_not_lt fun within => between.follows k within low declares
      omega

theorem windows_disjoint {i k : Nat} (leading : detector.window.below.toNat = 0)
    (first : detector.Declares lines i) (second : detector.Declares lines k)
    (searched : detector.Searched lines i j) (searched' : detector.Searched lines k j) : i = k := by
  have apart : ∀ upper lower, detector.Declares lines upper → detector.Declares lines lower →
      detector.Searched lines upper j → detector.Searched lines lower j → ¬upper < lower := by
    intro upper lower first second fromUpper fromLower order
    have between := (searched_both_iff first second order).1 ⟨fromUpper, fromLower⟩
    have after := between.after
    have below := between.below
    omega
  have notBefore := apart i k first second searched searched'
  have notAfter := apart k i second first searched' searched
  omega

theorem analysis_documented (detector : Detector) (text : List Char)
    (fits : detector.Fits (Text.lines text)) :
    ∃ analysis, detector.analysis text = .ok analysis ∧ ∀ name index,
      detector.DeclaresFirst (Text.lines text) name index →
        (name ∈ analysis.documented ↔ ∃ j, detector.Marks (Text.lines text) j index) := by
  obtain ⟨told, swept, names, right⟩ := sweep_told fits List.drop_zero swept_start
  refine ⟨⟨told.map Prod.fst, (told.filter Prod.snd).map Prod.fst, (told.filter (!·.2)).map Prod.fst,
    Count.ofLength (Text.lines text)⟩, ?_, fun name index first => ?_⟩
  · simp only [analysis, swept, bind, Except.bind, pure, Except.pure]
  · have listed : name ∈ told.map Prod.fst := by
      rw [names, Analysis.mem_fresh]
      exact ⟨mem_flatMap_of_mem_captures first.1, List.not_mem_nil⟩
    have known := mem_filter_told right listed first true
    rw [← (filter_documented told).1] at known
    rw [known, ← documented_iff_marks]
    exact iff_true_left rfl

end Detector

namespace Language

open Detector

variable {language : Language} {extension : String} {text : List Char}

/-- The languages whose markers may stand in the first lines of a body. -/
def docstringNames : List String := ["Python", "Ruby"]

theorem window_of_builtin (known : Languages.builtin.find? extension = some language) :
    language.window = if language.name ∈ docstringNames then .docstring else .leading := by
  obtain ⟨source, among, compiled⟩ := Languages.source_of_find? known
  obtain ⟨name, window⟩ := of?_window compiled
  have listed : ∀ source ∈ sources,
      source.window = if source.name ∈ docstringNames then .docstring else .leading := by decide
  rw [window, name]
  exact listed source among

theorem below_of_builtin (known : Languages.builtin.find? extension = some language) :
    language.window.below.toNat ≤ 4 := by
  rw [window_of_builtin known]
  split <;> decide

/-- In a language that is known from the start a name is documented by a marker in its window. Two windows
share no line, but for languages with docstrings, where they share the lines between them that are near
enough to both. -/
theorem markers_apart (known : Languages.builtin.find? extension = some language)
    (counted : (Text.lines text).length + 4 ≤ Count.limit) :
    ∃ analysis, Analysis.ofText language text = .ok analysis ∧
      (∀ name index, language.detector.DeclaresFirst (Text.lines text) name index →
        (name ∈ analysis.documented ↔ ∃ j, language.detector.Marks (Text.lines text) j index)) ∧
      (∀ name other upper lower, language.detector.DeclaresFirst (Text.lines text) name upper →
        language.detector.DeclaresFirst (Text.lines text) other lower → upper < lower → ∀ j,
          (language.detector.Searched (Text.lines text) upper j ∧
            language.detector.Searched (Text.lines text) lower j ↔
              language.name ∈ docstringNames ∧
                language.detector.Between (Text.lines text) upper lower j)) := by
  have below := below_of_builtin known
  have fits : language.detector.Fits (Text.lines text) := by
    intro index inside
    change index + language.window.below.toNat < Count.limit
    omega
  obtain ⟨analysis, succeeds, documented⟩ := analysis_documented language.detector text fits
  refine ⟨analysis, succeeds, documented, fun name other upper lower first second order j => ?_⟩
  constructor
  · rintro ⟨fromUpper, fromLower⟩
    refine ⟨?_, (searched_both_iff first.declares second.declares order).1 ⟨fromUpper, fromLower⟩⟩
    -- If nothing below a declaration were searched, the windows would share no line.
    apply Classical.byContradiction
    intro plain
    have leading : language.detector.window.below.toNat = 0 := by
      change language.window.below.toNat = 0
      rw [window_of_builtin known, if_neg plain]
      rfl
    have same := windows_disjoint leading first.declares second.declares fromUpper fromLower
    omega
  · rintro ⟨-, between⟩
    exact (searched_both_iff first.declares second.declares order).2 between

def sharedMarker : List Char :=
  "def load(path):\n    \"\"\"@codebase-summary: reads a file\"\"\"\ndef save(path):\n".toList

structure SharesMarker (language : Language) : Prop where
  upper : language.detector.DeclaresFirst (Text.lines sharedMarker) "load" 0
  lower : language.detector.DeclaresFirst (Text.lines sharedMarker) "save" 2
  silent : ¬language.detector.Declares (Text.lines sharedMarker) 1
  window : language.window = .docstring
  analysis : Analysis.ofText language sharedMarker = .ok ⟨["load", "save"], ["load", "save"], [], 3⟩

theorem python_sharesMarker : ∃ language, Languages.builtin.find? "py" = some language ∧ SharesMarker language := by
  have found : Languages.builtin.find? "py" = Language.of? python := by
    rw [Languages.find?_builtin]
    rfl
  have evaluated : ∃ language ∈ Language.of? python,
      language.detector.DeclaresFirst (Text.lines sharedMarker) "load" 0 ∧
      language.detector.DeclaresFirst (Text.lines sharedMarker) "save" 2 ∧
      ¬language.detector.Declares (Text.lines sharedMarker) 1 ∧
      language.window = .docstring ∧
      (Analysis.ofText language sharedMarker).toOption =
        some ⟨["load", "save"], ["load", "save"], [], 3⟩ := by
    decide +kernel
  obtain ⟨language, compiled, upper, lower, silent, window, analysis⟩ := evaluated
  refine ⟨language, found.trans compiled, upper, lower, silent, window, ?_⟩
  cases succeeds : Analysis.ofText language sharedMarker with
  | error overflow =>
    rw [succeeds] at analysis
    cases analysis
  | ok found =>
    rw [succeeds] at analysis
    cases analysis
    rfl

theorem SharesMarker.between (shares : SharesMarker language) :
    language.detector.Between (Text.lines sharedMarker) 0 2 1 := by
  have window : language.detector.window = .docstring := shares.window
  refine ⟨by decide, by decide, by rw [window]; decide, by rw [window]; decide, fun k low high => ?_⟩
  obtain rfl : k = 1 := by omega
  exact shares.silent

/-- One marked line documents what two lines declare. -/
theorem marker_shared : ∃ language, Languages.builtin.find? "py" = some language ∧
    language.detector.DeclaresFirst (Text.lines sharedMarker) "load" 0 ∧
    language.detector.DeclaresFirst (Text.lines sharedMarker) "save" 2 ∧
    language.detector.Searched (Text.lines sharedMarker) 0 1 ∧
    language.detector.Searched (Text.lines sharedMarker) 2 1 ∧
    Analysis.ofText language sharedMarker = .ok ⟨["load", "save"], ["load", "save"], [], 3⟩ := by
  obtain ⟨language, known, shares⟩ := python_sharesMarker
  obtain ⟨fromLoad, fromSave⟩ :=
    (searched_both_iff shares.upper.declares shares.lower.declares (by decide)).2 shares.between
  exact ⟨language, known, shares.upper, shares.lower, fromLoad, fromSave, shares.analysis⟩

/-- A marker between two declarations of a language with docstrings. -/
theorem markers_apart_shared : ∃ language analysis, Languages.builtin.find? "py" = some language ∧
    (Text.lines sharedMarker).length + 4 ≤ Count.limit ∧
    Analysis.ofText language sharedMarker = .ok analysis ∧
    ("save" ∈ analysis.documented ↔ ∃ j, language.detector.Marks (Text.lines sharedMarker) j 2) ∧
    (language.detector.Searched (Text.lines sharedMarker) 0 1 ∧
      language.detector.Searched (Text.lines sharedMarker) 2 1 ↔
        language.name ∈ docstringNames ∧ language.detector.Between (Text.lines sharedMarker) 0 2 1) := by
  obtain ⟨language, known, shares⟩ := python_sharesMarker
  have counted : (Text.lines sharedMarker).length + 4 ≤ Count.limit := by decide
  obtain ⟨analysis, succeeds, documented, shared⟩ := markers_apart known counted
  exact ⟨language, analysis, known, counted, succeeds, documented "save" 2 shares.lower,
    shared "load" "save" 0 2 shares.upper shares.lower (by decide) 1⟩

end Language

end Waymark
