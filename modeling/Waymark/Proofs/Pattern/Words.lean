import Waymark.Proofs.Pattern.Leaves
import Waymark.Text.Blank
import Waymark.Text.Word

/-! Words with blanks between them. A pattern may take some words of a list before what it looks for. If that does
not start with a blank, it is found at the start of a word, and a word that is not listed ends the search.
-/

set_option autoImplicit false

namespace Waymark

namespace Text

variable {text rest taken blank : List Char} {c : Char}

/-- The text does not start with a blank. -/
def Fresh (text : List Char) : Prop := ∀ c ∈ text.head?, isBlank c = false

theorem not_word_of_blank (blank : isBlank c = true) : isWordChar c = false := by
  have listed : ∀ range ∈ blanks, ∀ n < range.2 + 1 - range.1, isWordChar (Char.ofNat (range.1 + n)) = false := by
    decide +kernel
  obtain ⟨range, among, within⟩ := List.any_eq_true.1 blank
  simp only [Bool.and_eq_true, decide_eq_true_eq] at within
  have here := listed range among (c.toNat - range.1) (by omega)
  rwa [Nat.add_sub_cancel' within.1, Char.ofNat_toNat] at here

theorem fresh_append {word : List Char} (some : word ≠ []) (letters : ∀ c ∈ word, isWordChar c = true) :
    Fresh (word ++ rest) := by
  intro c first
  cases word with
  | nil => exact absurd rfl some
  | cons x word =>
    obtain rfl : x = c := Option.some.inj first
    have letter := letters x List.mem_cons_self
    cases blank : isBlank x with
    | false => rfl
    | true =>
      rw [not_word_of_blank blank] at letter
      cases letter

theorem eq_dropWhile {p : Char → Bool} (all : ∀ c ∈ taken, p c = true) (stops : ∀ c ∈ rest.head?, p c = false) :
    rest = (taken ++ rest).dropWhile p := by
  rw [List.dropWhile_append_of_pos all]
  cases rest with
  | nil => rfl
  | cons c rest =>
    have stop : ¬p c = true := ne_true_of_eq_false (stops c rfl)
    rw [List.dropWhile_cons_of_neg stop]

theorem trimStart_append (all : ∀ c ∈ blank, isBlank c = true) (fresh : Fresh rest) :
    trimStart (blank ++ rest) = rest := (eq_dropWhile all fresh).symm

def stem (text : List Char) : List Char := text.takeWhile isWordChar

theorem stem_append {word : List Char} (letters : ∀ c ∈ word, isWordChar c = true)
    (ended : ∀ c ∈ rest.head?, isWordChar c = false) : stem (word ++ rest) = word := by
  rw [stem, List.takeWhile_append_of_pos letters]
  cases rest with
  | nil => simp
  | cons c rest =>
    have stop : ¬isWordChar c = true := ne_true_of_eq_false (ended c rfl)
    rw [List.takeWhile_cons_of_neg stop, List.append_nil]

/-- Blanks, and at least one. -/
structure Gap (blank : List Char) : Prop where
  some : blank ≠ []
  all : ∀ c ∈ blank, isBlank c = true

theorem Gap.head (gap : Gap blank) (rest : List Char) : ∃ c ∈ (blank ++ rest).head?, isBlank c = true := by
  cases blank with
  | nil => exact absurd rfl gap.some
  | cons c blank => exact ⟨c, rfl, gap.all c List.mem_cons_self⟩

theorem Gap.stem_append {word : List Char} (gap : Gap blank) (letters : ∀ c ∈ word, isWordChar c = true) :
    stem (word ++ (blank ++ rest)) = word := by
  obtain ⟨x, first, isBlank⟩ := gap.head rest
  refine Text.stem_append letters fun c among => ?_
  cases Option.mem_unique first among
  exact not_word_of_blank isBlank

/-- Some words of a list can be left out in front, each with the blanks behind it. -/
def Skips (words : List String) : List Char → List Char → Prop :=
  Relation.ReflTransGen fun text rest => ∃ word ∈ words, ∃ blank, Gap blank ∧ text = word.toList ++ (blank ++ rest)

def AreWords (words : List String) : Prop :=
  ∀ word ∈ words, word.toList ≠ [] ∧ ∀ c ∈ word.toList, isWordChar c = true

instance (words : List String) : Decidable (AreWords words) :=
  decidable_of_iff (∀ word ∈ words, word.toList ≠ [] ∧ word.toList.all isWordChar = true) (by
    simp only [AreWords, List.all_eq_true])

namespace Skips

variable {words : List String} {word : String}

theorem cases (wordy : AreWords words) (skips : Skips words text rest) :
    rest = text ∨ ∃ word ∈ words, stem text = word.toList ∧ ∃ blank next, Gap blank ∧
      text = word.toList ++ (blank ++ next) ∧ Skips words next rest := by
  rcases Relation.ReflTransGen.cases_head skips with rfl | ⟨next, ⟨word, among, blank, gap, same⟩, skips⟩
  · exact .inl rfl
  · refine .inr ⟨word, among, ?_, blank, next, gap, same, skips⟩
    rw [same, gap.stem_append (wordy word among).2]

theorem eq_of_unlisted (wordy : AreWords words) (skips : Skips words text rest)
    (unlisted : String.ofList (stem text) ∉ words) : rest = text := by
  rcases skips.cases wordy with same | ⟨word, among, first, -⟩
  · exact same
  · rw [first, String.ofList_toList] at unlisted
    exact absurd among unlisted

theorem fresh (wordy : AreWords words) (skips : Skips words text rest) (fresh : Fresh rest) : Fresh text := by
  rcases skips.cases wordy with rfl | ⟨word, among, -, blank, next, -, same, -⟩
  · exact fresh
  · exact same ▸ fresh_append (wordy word among).1 (wordy word among).2

theorem next (wordy : AreWords words) (skips : Skips words (word.toList ++ (blank ++ text)) rest)
    (fresh : Fresh rest) (fresh' : Fresh text) (letters : ∀ c ∈ word.toList, isWordChar c = true) (gap : Gap blank) :
    rest = word.toList ++ (blank ++ text) ∨ Skips words text rest := by
  rcases skips.cases wordy with same | ⟨other, -, first, blank', next, gap', same, skips⟩
  · exact .inl same
  · rw [gap.stem_append letters] at first
    rw [← first] at same
    have onward := congrArg trimStart (List.append_cancel_left same)
    rw [trimStart_append gap.all fresh', trimStart_append gap'.all (skips.fresh wordy fresh)] at onward
    exact .inr (onward ▸ skips)

theorem mono {more : List String} (subset : words ⊆ more) (skips : Skips words text rest) : Skips more text rest :=
  Relation.ReflTransGen.mono (fun _ _ ⟨word, among, step⟩ => ⟨word, subset among, step⟩) _ _ skips

end Skips

end Text

namespace Pattern

open Text

variable {pattern : Pattern} {parts : List Pattern} {set : CharClass} {greedy : Bool} {text rest : List Char}
  {x : Char} {word : String} {words : List String}

def literal (c : Char) : Pattern := .char ⟨[.range c c], false, false⟩

def letters (word : String) : List Pattern := word.toList.map literal

def optional (pattern : Pattern) : Pattern := .alt pattern .empty

def oneOf : List Pattern → Pattern
  | [] => .empty
  | [last] => last
  | preferred :: others => .alt preferred (oneOf others)

def blanks : CharClass := ⟨[.blank], false, false⟩

def except (c : Char) : CharClass := ⟨[.range c c], true, false⟩

def spaces : Pattern := .run blanks true

def gap : Pattern := .seq (.char blanks) spaces

def modifier (word : String) : Pattern := optional (sequence (letters word ++ [gap]))

@[simp] theorem has_blanks : blanks.has x = isBlank x := by
  simp [CharClass.has, blanks, ClassItem.has]

theorem within_single {c : Char} : c ≤ x ∧ x ≤ c ↔ x = c :=
  ⟨fun bounds => Char.le_antisymm bounds.2 bounds.1, fun same => same ▸ ⟨Char.le_refl x, Char.le_refl x⟩⟩

theorem has_single {c : Char} : CharClass.has ⟨[.range c c], false, false⟩ x = true ↔ x = c := by
  simp [CharClass.has, ClassItem.has, within_single]

@[simp] theorem has_except {c : Char} : (except c).has x = true ↔ x ≠ c := by
  rw [Ne, ← has_single (c := c)]
  simp [CharClass.has, except]

@[simp] theorem leaves_literal : (literal x).Leaves text rest ↔ text = x :: rest := by
  constructor
  · rintro ⟨c, has, same⟩
    rw [same, has_single.1 has]
  · exact fun same => ⟨x, has_single.2 rfl, same⟩

@[simp] theorem leaves_optional : (optional pattern).Leaves text rest ↔ pattern.Leaves text rest ∨ text = rest :=
  .rfl

theorem leaves_oneOf {patterns : List Pattern} (leaves : (oneOf patterns).Leaves text rest) (some : patterns ≠ []) :
    ∃ pattern ∈ patterns, pattern.Leaves text rest := by
  induction patterns with
  | nil => exact absurd rfl some
  | cons first others ih =>
    cases others with
    | nil => exact ⟨first, List.mem_cons_self, leaves⟩
    | cons second others =>
      rcases leaves with leaves | leaves
      · exact ⟨first, List.mem_cons_self, leaves⟩
      · obtain ⟨pattern, among, leaves⟩ := ih leaves (List.cons_ne_nil _ _)
        exact ⟨pattern, List.mem_cons_of_mem _ among, leaves⟩

theorem leaves_letters_append : (sequence (letters word ++ parts)).Leaves text rest ↔
    ∃ between, text = word.toList ++ between ∧ (sequence parts).Leaves between rest := by
  rw [letters]
  induction word.toList generalizing text with
  | nil => simp
  | cons x word ih =>
    rw [List.map_cons, List.cons_append, leaves_cons]
    simp only [leaves_literal, ih, List.cons_append]
    exact ⟨fun ⟨_, same, between, same', leaves⟩ => ⟨between, by rw [same, same'], leaves⟩,
      fun ⟨between, same, leaves⟩ => ⟨_, same, between, rfl, leaves⟩⟩

theorem leaves_letters : (sequence (letters word)).Leaves text rest ↔ text = word.toList ++ rest := by
  have only : (sequence (letters word ++ [])).Leaves text rest ↔ _ := leaves_letters_append
  rw [List.append_nil] at only
  exact only.trans ⟨fun ⟨_, same, (left : _ = rest)⟩ => left ▸ same, fun same => ⟨rest, same, rfl⟩⟩

theorem leaves_spaces : spaces.Leaves text rest ↔
    ∃ blank, (∀ c ∈ blank, isBlank c = true) ∧ text = blank ++ rest := by
  rw [spaces, Leaves]
  simp only [has_blanks]

theorem leaves_gap : gap.Leaves text rest ↔ ∃ blank, Gap blank ∧ text = blank ++ rest := by
  rw [gap, Leaves]
  simp only [leaves_spaces, Leaves, has_blanks]
  constructor
  · rintro ⟨_, ⟨c, blank, rfl⟩, more, all, rfl⟩
    exact ⟨c :: more, ⟨List.cons_ne_nil _ _, List.forall_mem_cons.2 ⟨blank, all⟩⟩, rfl⟩
  · rintro ⟨blank, ⟨some, all⟩, rfl⟩
    cases blank with
    | nil => exact absurd rfl some
    | cons c more =>
      obtain ⟨blank, all⟩ := List.forall_mem_cons.1 all
      exact ⟨more ++ rest, ⟨c, blank, rfl⟩, more, all, rfl⟩

theorem trimStart_of_spaces (leaves : spaces.Leaves text rest) (fresh : Fresh rest) : rest = trimStart text := by
  obtain ⟨blank, all, rfl⟩ := leaves_spaces.1 leaves
  exact (trimStart_append all fresh).symm

theorem trimStart_of_gap (leaves : gap.Leaves text rest) (fresh : Fresh rest) : rest = trimStart text := by
  obtain ⟨blank, gap, rfl⟩ := leaves_gap.1 leaves
  exact (trimStart_append gap.all fresh).symm

theorem leaves_modifier : (modifier word).Leaves text rest ↔
    (∃ blank, Gap blank ∧ text = word.toList ++ (blank ++ rest)) ∨ text = rest := by
  rw [modifier, leaves_optional, leaves_letters_append]
  refine or_congr_left ⟨?_, ?_⟩
  · rintro ⟨between, same, leaves⟩
    obtain ⟨blank, gap, rfl⟩ := leaves_gap.1 leaves
    exact ⟨blank, gap, same⟩
  · rintro ⟨blank, gap, same⟩
    exact ⟨_, same, leaves_gap.2 ⟨blank, gap, rfl⟩⟩

theorem skips_of_modifiers (leaves : (sequence (words.map modifier)).Leaves text rest) : Skips words text rest := by
  induction words generalizing text with
  | nil => exact leaves ▸ .refl
  | cons word words ih =>
    obtain ⟨between, leaves, onward⟩ := leaves_cons.1 leaves
    have skips := (ih onward).mono (List.subset_cons_self word words)
    rcases leaves_modifier.1 leaves with ⟨blank, gap, same⟩ | rfl
    · exact .head ⟨word, List.mem_cons_self, blank, gap, same⟩ skips
    · exact skips

theorem skips_of_repeated (some : words ≠ []) (leaves : (repeated (sequence
      [oneOf (words.map fun word => sequence (letters word)), gap]) greedy).Leaves text rest) :
    Skips words text rest := by
  refine Relation.ReflTransGen.mono (fun text rest step => ?_) _ _ leaves
  obtain ⟨between, leaves, spaced⟩ := leaves_cons.1 step
  obtain ⟨blank, gap, rfl⟩ := leaves_gap.1 spaced
  obtain ⟨pattern, among, leaves⟩ := leaves_oneOf leaves (by simpa using some)
  obtain ⟨word, listed, rfl⟩ := List.mem_map.1 among
  exact ⟨word, listed, blank, gap, leaves_letters.1 leaves⟩

end Pattern

end Waymark
