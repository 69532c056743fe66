import Waymark.Analysis

/-! What an analysis finds in a text: each name once, where it is first declared, and documented if a
marked line lies in its window and strictly between the neighbouring lines with declarations. The
search for a marker never leaves the text.
-/

set_option autoImplicit false

namespace Waymark

namespace Analysis

variable {seen names : List String} {name : String}

/-! Names that are new -/

theorem mem_fresh : name ∈ fresh seen names ↔ name ∈ names ∧ name ∉ seen := by
  induction names generalizing seen with
  | nil => simp [fresh]
  | cons head names ih =>
    rw [fresh]
    split
    · rename_i old
      rw [List.contains_iff_mem] at old
      rw [ih, List.mem_cons]
      constructor
      · rintro ⟨among, new⟩
        exact ⟨.inr among, new⟩
      · rintro ⟨rfl | among, new⟩
        · exact absurd old new
        · exact ⟨among, new⟩
    · rename_i new
      rw [List.contains_iff_mem] at new
      rw [List.mem_cons, ih, List.mem_cons, List.mem_cons]
      by_cases same : name = head
      · subst same
        simp [new]
      · simp [same]

theorem mem_fresh_or : name ∈ fresh seen names ∨ name ∈ seen ↔ name ∈ names ∨ name ∈ seen := by
  rw [mem_fresh]
  by_cases old : name ∈ seen <;> simp [old]

theorem fresh_append (seen names more : List String) :
    fresh seen (names ++ more) =
      fresh seen names ++ fresh ((fresh seen names).reverse ++ seen) more := by
  induction names generalizing seen with
  | nil => rfl
  | cons head names ih =>
    rw [List.cons_append, fresh, fresh]
    split
    · exact ih seen
    · rw [ih]
      simp

theorem fresh_eq_eraseDups (seen names : List String) :
    fresh seen names = (names.filter fun name => !seen.contains name).eraseDups := by
  induction names generalizing seen with
  | nil => rfl
  | cons head names ih =>
    rw [fresh]
    split
    · rename_i old
      rw [List.contains_iff_mem] at old
      rw [List.filter_cons_of_neg (by simpa using old), ih]
    · rename_i new
      rw [List.contains_iff_mem] at new
      rw [List.filter_cons_of_pos (by simpa using new), List.eraseDups_cons, List.filter_filter, ih]
      congr 3
      funext name
      rw [List.contains_cons, Bool.not_or]

theorem fresh_nil_eq_eraseDups (names : List String) : fresh [] names = names.eraseDups := by
  rw [fresh_eq_eraseDups]
  congr 1
  exact List.filter_eq_self.2 fun name _ => rfl

/-! Searching for a marker -/

theorem any_extract {marked : Array Bool} {first last : Nat} :
    (marked.extract first (last + 1)).any id = true ↔
      ∃ j, first ≤ j ∧ j ≤ last ∧ marked[j]? = some true := by
  rw [Array.any_eq_true']
  constructor
  · rintro ⟨_, member, rfl⟩
    obtain ⟨k, found⟩ := Array.mem_iff_getElem?.1 member
    rw [Array.getElem?_extract] at found
    split at found
    · exact ⟨first + k, by omega, by omega, found⟩
    · cases found
  · rintro ⟨j, lower, upper, found⟩
    refine ⟨true, Array.mem_iff_getElem?.2 ⟨j - first, ?_⟩, rfl⟩
    have inside : j < marked.size := (Array.getElem?_eq_some_iff.1 found).1
    rw [Array.getElem?_extract, if_pos (by omega), Nat.add_sub_cancel' lower, found]

end Analysis

namespace Detector

variable {detector : Detector} {lines rest : List (List Char)} {line : List Char} {name : String}
  {seen : List String} {index floor : Nat} {analysis : Analysis}

/-! What a text declares, line by line -/

/-- The names that a line declares in the order of the rules; none where there is no such line. -/
def captures (detector : Detector) (lines : List (List Char)) (index : Nat) : List String :=
  lines[index]?.elim [] detector.namesOn

def Declares (detector : Detector) (lines : List (List Char)) (index : Nat) : Prop :=
  detector.captures lines index ≠ []

def DeclaresFirst (detector : Detector) (lines : List (List Char)) (name : String) (index : Nat) : Prop :=
  name ∈ detector.captures lines index ∧ ∀ earlier < index, name ∉ detector.captures lines earlier

structure Searched (detector : Detector) (lines : List (List Char)) (index j : Nat) : Prop where
  above : index - detector.window.above.toNat ≤ j
  below : j ≤ index + detector.window.below.toNat
  after : ∀ k, k < index → detector.Declares lines k → k < j
  before : ∀ k, index < k → detector.Declares lines k → j < k

def Documented (detector : Detector) (lines : List (List Char)) (index : Nat) : Prop :=
  ∃ j line, detector.Searched lines index j ∧ lines[j]? = some line ∧ detector.isMarked line = true

structure Describes (detector : Detector) (lines : List (List Char)) (analysis : Analysis) : Prop where
  names : analysis.names = (lines.flatMap detector.namesOn).eraseDups
  count : analysis.lines.toNat = lines.length
  documented : ∀ name index, detector.DeclaresFirst lines name index →
    (name ∈ analysis.documented ↔ detector.Documented lines index)
  undocumented : ∀ name index, detector.DeclaresFirst lines name index →
    (name ∈ analysis.undocumented ↔ ¬detector.Documented lines index)
  documented_sublist : analysis.documented.Sublist analysis.names
  undocumented_sublist : analysis.undocumented.Sublist analysis.names
  partition : (analysis.documented ++ analysis.undocumented).Perm analysis.names

theorem captures_of_drop (detector : Detector) (ahead : lines.drop index = line :: rest) :
    detector.captures lines index = detector.namesOn line := by
  have here : lines[index]? = some line := by
    rw [← List.head?_drop, ahead]
    rfl
  rw [captures, here]
  rfl

theorem captures_of_drop_nil {k : Nat} (ahead : lines.drop index = []) (later : index ≤ k) :
    detector.captures lines k = [] := by
  have none : lines[k]? = none := List.getElem?_eq_none (by
    have := List.drop_eq_nil_iff.1 ahead
    omega)
  rw [captures, none]
  rfl

theorem drop_succ_of_drop (ahead : lines.drop index = line :: rest) : lines.drop (index + 1) = rest := by
  rw [← List.tail_drop, ahead]
  rfl

theorem Declares.lt_length {k : Nat} (declares : detector.Declares lines k) : k < lines.length := by
  apply Nat.lt_of_not_le
  intro outside
  exact declares (captures_of_drop_nil (List.drop_eq_nil_iff.2 outside) (Nat.le_refl k))

theorem DeclaresFirst.unique {i j : Nat} (here : detector.DeclaresFirst lines name i)
    (there : detector.DeclaresFirst lines name j) : i = j := by
  rcases Nat.lt_trichotomy i j with before | same | after
  · exact absurd here.1 (there.2 i before)
  · exact same
  · exact absurd there.1 (here.2 j after)

theorem mem_flatMap_of_mem_captures {k : Nat} (captured : name ∈ detector.captures lines k) :
    name ∈ lines.flatMap detector.namesOn := by
  rw [captures] at captured
  cases found : lines[k]? with
  | none =>
    rw [found] at captured
    cases captured
  | some line =>
    rw [found] at captured
    exact List.mem_flatMap.2 ⟨line, List.mem_of_getElem? found, captured⟩

theorem declarations_cons_silent (silent : detector.namesOn line = []) :
    detector.declarations index (line :: rest) = detector.declarations (index + 1) rest := by
  rw [declarations, silent]

theorem declarations_cons_declares (declares : detector.namesOn line ≠ []) :
    detector.declarations index (line :: rest) =
      ⟨index, detector.namesOn line⟩ :: detector.declarations (index + 1) rest := by
  rw [declarations]
  cases found : detector.namesOn line with
  | nil => exact absurd found declares
  | cons head names => rfl

theorem head?_declarations (detector : Detector) (ahead : lines.drop index = rest) :
    match (detector.declarations index rest).head? with
    | none => ∀ k, index ≤ k → ¬detector.Declares lines k
    | some next => index ≤ next.index ∧ detector.Declares lines next.index ∧
        ∀ k, index ≤ k → k < next.index → ¬detector.Declares lines k := by
  induction rest generalizing index with
  | nil =>
    intro k later declares
    exact declares (captures_of_drop_nil ahead later)
  | cons line rest ih =>
    have here := captures_of_drop detector ahead
    -- A line that declares nothing leaves the search to the lines behind it; any other one ends it.
    by_cases silent : detector.namesOn line = []
    · have later := ih (drop_succ_of_drop ahead)
      have skipped : ¬detector.Declares lines index := fun declares => declares (here.trans silent)
      rw [declarations_cons_silent silent]
      split at later
      · intro k onward declares
        rcases Nat.eq_or_lt_of_le onward with rfl | after
        · exact skipped declares
        · exact later k after declares
      · obtain ⟨after, declares, between⟩ := later
        refine ⟨by omega, declares, fun k onward before => ?_⟩
        rcases Nat.eq_or_lt_of_le onward with rfl | after
        · exact skipped
        · exact between k after before
    · rw [declarations_cons_declares silent]
      refine ⟨Nat.le_refl _, fun empty => silent (here.symm.trans empty), fun k onward before => ?_⟩
      exact absurd onward (Nat.not_le_of_lt before)

/-! The sweep over the declaration lines -/

/-- The last line before the next declaration line, or of the text. -/
def ceiling (detector : Detector) (lines rest : List (List Char)) (index : Nat) : Nat :=
  (detector.declarations (index + 1) rest).head?.elim (lines.length - 1) (·.index - 1)

theorem le_ceiling_iff {j : Nat} (ahead : lines.drop (index + 1) = rest) (inside : j < lines.length) :
    j ≤ detector.ceiling lines rest index ↔ ∀ k, index < k → detector.Declares lines k → j < k := by
  have next := head?_declarations detector ahead
  rw [ceiling]
  split at next
  · rename_i none
    rw [none, Option.elim_none]
    exact ⟨fun _ k after declares => absurd declares (next k after), fun _ => by omega⟩
  · rename_i line some
    obtain ⟨after, declares, between⟩ := next
    rw [some, Option.elim_some]
    constructor
    · intro below k later declares
      apply Nat.lt_of_not_le
      intro back
      exact between k later (by omega) declares
    · intro before
      have := before line.index after declares
      omega

theorem ceiling_lt_length (detector : Detector) (ahead : lines.drop (index + 1) = rest) (inside : index < lines.length) :
    detector.ceiling lines rest index < lines.length := by
  have next := head?_declarations detector ahead
  rw [ceiling]
  split at next
  · rename_i none
    rw [none, Option.elim_none]
    omega
  · rename_i line some
    have := next.2.1.lt_length
    rw [some, Option.elim_some]
    omega

/-- What a sweep knows of the lines before `index`. -/
structure Swept (detector : Detector) (lines : List (List Char)) (index : Nat) (seen : List String)
    (floor : Nat) : Prop where
  seen : ∀ name, name ∈ seen ↔ ∃ k, k < index ∧ name ∈ detector.captures lines k
  floor : ∀ j, floor ≤ j ↔ ∀ k, k < index → detector.Declares lines k → k < j

theorem swept_start : Swept detector lines 0 [] 0 where
  seen := by simp
  floor := by simp

theorem Swept.silent (swept : Swept detector lines index seen floor)
    (silent : detector.captures lines index = []) : Swept detector lines (index + 1) seen floor where
  seen name := by
    rw [swept.seen]
    constructor
    · rintro ⟨k, before, captured⟩
      exact ⟨k, by omega, captured⟩
    · rintro ⟨k, before, captured⟩
      rcases Nat.eq_or_lt_of_le (Nat.le_of_lt_succ before) with rfl | before
      · rw [silent] at captured
        cases captured
      · exact ⟨k, before, captured⟩
  floor j := by
    rw [swept.floor]
    constructor
    · intro after k before declares
      rcases Nat.eq_or_lt_of_le (Nat.le_of_lt_succ before) with rfl | before
      · exact absurd silent declares
      · exact after k before declares
    · intro after k before declares
      exact after k (by omega) declares

theorem Swept.declared {seen' : List String} (swept : Swept detector lines index seen floor)
    (declares : detector.Declares lines index)
    (known : ∀ name, name ∈ seen' ↔ name ∈ detector.captures lines index ∨ name ∈ seen) :
    Swept detector lines (index + 1) seen' (index + 1) where
  seen name := by
    rw [known, swept.seen]
    constructor
    · rintro (captured | ⟨k, before, captured⟩)
      · exact ⟨index, by omega, captured⟩
      · exact ⟨k, by omega, captured⟩
    · rintro ⟨k, before, captured⟩
      rcases Nat.eq_or_lt_of_le (Nat.le_of_lt_succ before) with rfl | before
      · exact .inl captured
      · exact .inr ⟨k, before, captured⟩
  floor j := by
    constructor
    · intro above k before _
      omega
    · intro after
      exact after index (by omega) declares

theorem Swept.floor_le (swept : Swept detector lines index seen floor) : floor ≤ index :=
  (swept.floor index).2 fun _ before _ => before

/-- The last line of each window, seen from its declaration, is a counter. -/
def Fits (detector : Detector) (lines : List (List Char)) : Prop :=
  ∀ index < lines.length, index + detector.window.below.toNat < Count.limit

theorem around_ok (fits : detector.Fits lines) (inside : index < lines.length) (floor ceiling : Nat) :
    detector.window.around index floor ceiling =
      .ok (max (index - detector.window.above.toNat) floor,
        min (index + detector.window.below.toNat) ceiling) := by
  have small := fits index inside
  have counter : (UInt64.ofNat index).toNat = index := by
    rw [UInt64.toNat_ofNat']
    exact Nat.mod_eq_of_lt (by unfold Count.limit at small; omega)
  have sum : (UInt64.ofNat index + detector.window.below).toNat =
      index + detector.window.below.toNat := by
    rw [UInt64.toNat_add, counter]
    exact Nat.mod_eq_of_lt small
  have added : Count.add (UInt64.ofNat index) detector.window.below =
      .ok (UInt64.ofNat index + detector.window.below) := by
    rw [Count.add, counter, if_pos small]
  rw [MarkerWindow.around, added]
  simp only [bind, Except.bind, pure, Except.pure, sum]

/-- The search for the marker of a declaration line stays in the text and finds what there is. -/
theorem anyMarked_documented (fits : detector.Fits lines) (ahead : lines.drop (index + 1) = rest)
    (inside : index < lines.length) (swept : Swept detector lines index seen floor) :
    ∃ first last documented,
      detector.window.around index floor (detector.ceiling lines rest index) = .ok (first, last) ∧
      Analysis.anyMarked (lines.map detector.isMarked).toArray first last = .ok documented ∧
      (documented = true ↔ detector.Documented lines index) := by
  have lowest := swept.floor_le
  have highest : index ≤ detector.ceiling lines rest index :=
    (le_ceiling_iff ahead inside).2 fun _ after _ => after
  have ends := ceiling_lt_length detector ahead inside
  refine ⟨_, _, _, around_ok fits inside floor _, if_pos ⟨by omega, by simp; omega⟩, ?_⟩
  -- The lines from the floor up to the ceiling are those that are searched.
  rw [Analysis.any_extract]
  constructor
  · rintro ⟨j, lower, upper, found⟩
    rw [List.getElem?_toArray, List.getElem?_map] at found
    obtain ⟨line, present, marked⟩ := Option.map_eq_some_iff.1 found
    refine ⟨j, line, ⟨by omega, by omega, (swept.floor j).1 (by omega), ?_⟩, present, marked⟩
    exact (le_ceiling_iff ahead (by omega)).1 (by omega)
  · rintro ⟨j, line, searched, present, marked⟩
    have inside := (List.getElem?_eq_some_iff.1 present).1
    have above := searched.above
    have below := searched.below
    have after := (swept.floor j).2 searched.after
    have before := (le_ceiling_iff ahead inside).2 searched.before
    refine ⟨j, by omega, by omega, ?_⟩
    rw [List.getElem?_toArray, List.getElem?_map, present, Option.map_some, marked]

def Told (detector : Detector) (lines : List (List Char)) (told : String × Bool) : Prop :=
  ∃ index, detector.DeclaresFirst lines told.1 index ∧
    (told.2 = true ↔ detector.Documented lines index)

theorem told_of_fresh {documented : Bool} (swept : Swept detector lines index seen floor)
    (right : documented = true ↔ detector.Documented lines index) {name : String}
    (new : name ∈ Analysis.fresh seen (detector.captures lines index)) : detector.Told lines (name, documented) := by
  obtain ⟨captured, unseen⟩ := Analysis.mem_fresh.1 new
  refine ⟨index, ⟨captured, fun k before earlier => ?_⟩, right⟩
  exact unseen ((swept.seen name).2 ⟨k, before, earlier⟩)

theorem sweep_told (fits : detector.Fits lines) (ahead : lines.drop index = rest)
    (swept : Swept detector lines index seen floor) :
    ∃ told, Analysis.sweep detector.window (lines.map detector.isMarked).toArray seen floor
        (detector.declarations index rest) = .ok told ∧
      told.map Prod.fst = Analysis.fresh seen (rest.flatMap detector.namesOn) ∧
      ∀ name ∈ told, detector.Told lines name := by
  -- Along the lines: a silent line changes nothing, one with declarations moves the floor below it.
  induction rest generalizing index seen floor with
  | nil => exact ⟨[], rfl, rfl, by simp⟩
  | cons line rest ih =>
    have next := drop_succ_of_drop ahead
    have here := captures_of_drop detector ahead
    by_cases silent : detector.namesOn line = []
    · rw [declarations_cons_silent silent, List.flatMap_cons, silent, List.nil_append]
      exact ih next (swept.silent (here.trans silent))
    have declares : detector.Declares lines index := fun empty => silent (here.symm.trans empty)
    have known : ∀ name, name ∈ (Analysis.fresh seen (detector.namesOn line)).reverse ++ seen ↔
        name ∈ detector.captures lines index ∨ name ∈ seen := by
      intro name
      rw [List.mem_append, List.mem_reverse, Analysis.mem_fresh_or, here]
    have told : ∀ documented, (documented = true ↔ detector.Documented lines index) →
        ∀ name ∈ Analysis.fresh seen (detector.namesOn line), detector.Told lines (name, documented) :=
      fun documented right name new => told_of_fresh swept right (here ▸ new)
    rw [declarations_cons_declares silent, List.flatMap_cons, Analysis.fresh_append, Analysis.sweep]
    cases new : Analysis.fresh seen (detector.namesOn line) with
    | nil =>
      -- A line that only repeats names is swept over, but it bounds the next windows.
      rw [new] at known
      exact ih next (swept.declared declares known)
    | cons head names =>
      rw [new] at known told
      obtain ⟨first, last, documented, window, searched, right⟩ :=
        anyMarked_documented fits next declares.lt_length swept
      obtain ⟨later, sweptOn, laterNames, laterTold⟩ := ih next (swept.declared declares known)
      have limit : (detector.declarations (index + 1) rest).head?.elim
          ((lines.map detector.isMarked).toArray.size - 1) (·.index - 1) =
            detector.ceiling lines rest index := by
        rw [ceiling, List.size_toArray, List.length_map]
      refine ⟨(head :: names).map (·, documented) ++ later, ?_, ?_, ?_⟩
      · simp only [limit, window, searched, sweptOn, bind, Except.bind, pure, Except.pure]
      · rw [List.map_append, List.map_map, laterNames]
        congr 1
        exact List.map_id _
      · intro pair among
        rcases List.mem_append.1 among with own | others
        · obtain ⟨name, fresh, rfl⟩ := List.mem_map.1 own
          exact told documented right name fresh
        · exact laterTold pair others

/-! Whole texts -/

theorem mem_filter_told {told : List (String × Bool)} (right : ∀ pair ∈ told, detector.Told lines pair)
    (listed : name ∈ told.map Prod.fst) (first : detector.DeclaresFirst lines name index) (wanted : Bool) :
    name ∈ (told.filter (·.2 == wanted)).map Prod.fst ↔
      (wanted = true ↔ detector.Documented lines index) := by
  have known : ∀ pair ∈ told, pair.1 = name → (pair.2 = true ↔ detector.Documented lines index) := by
    rintro pair among rfl
    obtain ⟨other, first', iff⟩ := right pair among
    rw [first.unique first']
    exact iff
  constructor
  · intro among
    obtain ⟨pair, among, same⟩ := List.mem_map.1 among
    obtain ⟨among, kept⟩ := List.mem_filter.1 among
    rw [← eq_of_beq kept]
    exact known pair among same
  · intro iff
    obtain ⟨pair, among, same⟩ := List.mem_map.1 listed
    have equal : pair.2 = wanted := by rw [Bool.eq_iff_iff, known pair among same, iff]
    exact List.mem_map.2 ⟨pair, List.mem_filter.2 ⟨among, beq_iff_eq.2 equal⟩, same⟩

theorem filter_documented (told : List (String × Bool)) :
    told.filter Prod.snd = told.filter (·.2 == true) ∧ told.filter (!·.2) = told.filter (·.2 == false) := by
  constructor
  · congr 1
    funext pair
    exact Bool.eq_iff_iff.2 (by simp)
  · congr 1
    funext pair
    exact Bool.eq_iff_iff.2 (by simp)

/-- Where the windows fit, the analysis of a text succeeds and is what its lines say. -/
theorem analysis_describes (detector : Detector) (text : List Char)
    (counted : (Text.lines text).length < Count.limit)
    (fits : detector.Fits (Text.lines text)) :
    ∃ analysis, detector.analysis text = .ok analysis ∧
      detector.Describes (Text.lines text) analysis := by
  obtain ⟨told, swept, names, right⟩ := sweep_told fits List.drop_zero swept_start
  have listed : ∀ name index, detector.DeclaresFirst (Text.lines text) name index →
      name ∈ told.map Prod.fst := by
    intro name index first
    rw [names, Analysis.mem_fresh]
    exact ⟨mem_flatMap_of_mem_captures first.1, List.not_mem_nil⟩
  -- The sweep tells each name with whether it is documented, and the two lists are the parts of what it tells.
  have apart : told.filter Prod.snd = told.filter (·.2 == true) ∧
      told.filter (!·.2) = told.filter (·.2 == false) := filter_documented told
  refine ⟨⟨told.map Prod.fst, (told.filter Prod.snd).map Prod.fst, (told.filter (!·.2)).map Prod.fst,
    Count.ofLength (Text.lines text)⟩, ?_, ?_⟩
  · simp only [analysis, swept, bind, Except.bind, pure, Except.pure]
  · constructor
    case names => exact names.trans (Analysis.fresh_nil_eq_eraseDups _)
    case count => exact Nat.mod_eq_of_lt counted
    case documented =>
      intro name index first
      rw [apart.1, mem_filter_told right (listed name index first) first]
      simp
    case undocumented =>
      intro name index first
      rw [apart.2, mem_filter_told right (listed name index first) first]
      simp
    case documented_sublist => exact List.filter_sublist.map _
    case undocumented_sublist => exact List.filter_sublist.map _
    case partition =>
      rw [← List.map_append]
      exact (List.filter_append_perm _ _).map _

/-- Lines after a plus sign declare what follows it; a number sign marks. -/
def signs : Detector where
  rules := [fun line => if line.head? = some '+' then some (String.ofList line.tail) else none]
  isMarked line := line.head? == some '#'
  window := ⟨2, 1⟩

/-- A name that is declared again is no further name, but its line keeps the marker above it from the
name below. -/
theorem analysis_describes_repeated :
    let text := "+a\n#\n+a\n+b".toList
    (Text.lines text).length < Count.limit ∧
    signs.Fits (Text.lines text) ∧
    ∃ analysis, signs.analysis text = .ok analysis ∧ signs.Describes (Text.lines text) analysis ∧
      analysis = ⟨["a", "b"], ["a"], ["b"], 4⟩ := by
  intro text
  have counted : (Text.lines text).length < Count.limit := by decide
  have fits : signs.Fits (Text.lines text) := by
    unfold Fits
    decide
  obtain ⟨analysis, succeeds, describes⟩ := analysis_describes signs text counted fits
  have known : (signs.analysis text).toOption = some ⟨["a", "b"], ["a"], ["b"], 4⟩ := by decide +kernel
  rw [succeeds] at known
  exact ⟨counted, fits, analysis, succeeds, describes, Option.some.inj known⟩

end Detector

end Waymark
