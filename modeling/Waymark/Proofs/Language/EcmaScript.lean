import Waymark.Analysis
import Waymark.Proofs.Language.Builtin
import Waymark.Proofs.Pattern.Words

/-! What the rules of ECMAScript say of lines that bind a name with `const`, `let` or `var`. The rules for functions
with a name, for methods and for classes find nothing there: the words before the name are not theirs, and no
parenthesis follows one of them. The rules for functions that are bound need an arrow or `function` behind the name.
-/

set_option autoImplicit false

namespace Waymark.Language.EcmaScript

open Pattern Text

variable {text rest name : List Char} {c : Char} {words : List String} {parts : List Pattern}

/-! The rules -/

def initial : CharClass := ⟨[.range 'A' 'Z', .range 'a' 'z', .range '_' '_', .range '$' '$'], false, false⟩

def inner : CharClass := ⟨[.word, .range '$' '$'], false, false⟩

def identifier : Pattern := .seq (.char initial) (.run inner true)

/-- A pattern for a line that starts with blanks and some modifiers in order. -/
def headed (words : List String) (parts : List Pattern) : Pattern :=
  .seq .start (sequence (spaces :: (words.map modifier ++ parts)))

def keyword (words : List String) : Pattern := oneOf (words.map fun word => sequence (letters word))

/-- Perhaps a colon, the parts, and then characters other than the last one, at least one of them. -/
def annotation (parts : List Pattern) (end' : Char) (greedy : Bool) : Pattern :=
  optional (sequence (literal ':' :: (parts ++ [.seq (.char (except end')) (.run (except end') greedy)])))

def parameters : List Pattern := [literal '(', .run (except ')') true, literal ')']

def functionRule : Pattern :=
  headed ["export", "default", "async"]
    (letters "function" ++ [spaces, optional (literal '*'), gap, .capture identifier])

def arrowParts : List Pattern :=
  [spaces, annotation [] '=' true, literal '=', spaces, modifier "async",
    optional (sequence [literal '<', .run (except '>') true, literal '>', spaces]),
    oneOf [sequence parameters, identifier], spaces, annotation [spaces] '=' false, spaces]

def arrowRule : Pattern :=
  headed ["export"] ([keyword ["const", "let"], gap] ++ .capture identifier :: (arrowParts ++ letters "=>"))

def boundFunctionRule : Pattern :=
  headed ["export"] ([keyword ["const", "let", "var"], gap, .capture identifier, spaces] ++
    literal '=' :: spaces :: modifier "async" :: (letters "function" ++ [.boundary]))

def methodModifiers : List String :=
  ["public", "private", "protected", "static", "async", "readonly", "override", "get", "set"]

def methodRule : Pattern :=
  .seq .start (sequence ([gap, .repeated (sequence [keyword methodModifiers, gap]) true, optional (literal '*'),
    .capture identifier, spaces, optional (sequence [literal '<', .run (except '>') true, literal '>']), spaces] ++
    (parameters ++ [spaces, annotation [spaces] '\x7b' true, literal '\x7b'])))

def classRule : Pattern :=
  headed ["export", "default", "abstract"] (letters "class" ++ [gap, .capture identifier])

def rules : List DeclarationRule :=
  [⟨.function, functionRule, []⟩, ⟨.function, arrowRule, []⟩, ⟨.function, boundFunctionRule, []⟩,
    ⟨.method, methodRule, ["if", "for", "while", "switch", "catch", "function", "return", "else", "do", "with"]⟩,
    ⟨.type, classRule, []⟩]

theorem compiled : ∃ language ∈ Language.of? ecmaScript, language.rules = rules := by decide +kernel

/-! Identifiers -/

def isInitial (c : Char) : Bool := c.isAlpha || c == '_' || c == '$'

def isInner (c : Char) : Bool := isWordChar c || c == '$'

/-- A letter, an underscore or a dollar sign, and then word characters and dollar signs. -/
def IsIdentifier (name : List Char) : Prop :=
  ∃ first more, name = first :: more ∧ isInitial first = true ∧ ∀ c ∈ more, isInner c = true

theorem isAlpha_iff : c.isAlpha = true ↔ ('A' ≤ c ∧ c ≤ 'Z') ∨ 'a' ≤ c ∧ c ≤ 'z' := by
  change (decide ('A'.val ≤ c.val ∧ c.val ≤ 'Z'.val) || (decide ('a'.val ≤ c.val) && decide (c.val ≤ 'z'.val))) = true ↔ _
  simp only [Char.le_def, Bool.or_eq_true, Bool.and_eq_true, decide_eq_true_eq]

@[simp] theorem has_initial : initial.has c = isInitial c := by
  rw [Bool.eq_iff_iff]
  simp [CharClass.has, initial, ClassItem.has, isInitial, within_single, isAlpha_iff, or_assoc]

@[simp] theorem has_inner : inner.has c = isInner c := by
  rw [Bool.eq_iff_iff]
  simp [CharClass.has, inner, ClassItem.has, isInner, within_single]

theorem inner_of_initial (first : isInitial c = true) : isInner c = true := by
  simp only [isInitial, Bool.or_eq_true, beq_iff_eq] at first
  rcases first with (letter | rfl) | rfl
  · have ascii : c.toNat < 0x80 := by
      have : c.toNat = c.val.toNat := rfl
      have bounds := isAlpha_iff.1 letter
      simp only [Char.le_def, UInt32.le_iff_toNat_le, Char.reduceVal, UInt32.reduceToNat] at bounds
      omega
    simp [isInner, isWordChar, ascii, Char.isAlphanum, letter]
  · decide
  · decide

theorem not_inner_of_blank (blank : isBlank c = true) : isInner c = false := by
  have dollar : c ≠ '$' := by
    rintro rfl
    exact absurd blank (by decide)
  simp [isInner, not_word_of_blank blank, dollar]

theorem not_blank_of_inner (inside : isInner c = true) : isBlank c = false := by
  cases blank : isBlank c with
  | false => rfl
  | true =>
    rw [not_inner_of_blank blank] at inside
    cases inside

namespace IsIdentifier

theorem inner (named : IsIdentifier name) : ∀ c ∈ name, isInner c = true := by
  obtain ⟨first, more, rfl, start, all⟩ := named
  exact List.forall_mem_cons.2 ⟨inner_of_initial start, all⟩

theorem head (named : IsIdentifier name) (rest : List Char) : ∃ c ∈ (name ++ rest).head?, isInitial c = true := by
  obtain ⟨first, more, rfl, start, -⟩ := named
  exact ⟨first, rfl, start⟩

end IsIdentifier

def openers : List String := ["export", "const", "let", "var"]

theorem identifier_of_opener {word : String} (among : word ∈ openers) : IsIdentifier word.toList := by
  simp only [openers, List.mem_cons, List.not_mem_nil, or_false] at among
  rcases among with rfl | rfl | rfl | rfl <;> exact ⟨_, _, rfl, by decide, List.all_eq_true.1 (by decide)⟩

theorem fresh_of_initial (first : ∃ c ∈ text.head?, isInitial c = true) : Fresh text := by
  obtain ⟨c, among, start⟩ := first
  intro d among'
  cases Option.mem_unique among among'
  exact not_blank_of_inner (inner_of_initial start)

theorem leaves_identifier : identifier.Leaves text rest ↔ ∃ name, IsIdentifier name ∧ text = name ++ rest := by
  rw [identifier, Leaves]
  simp only [Leaves, has_initial, has_inner]
  constructor
  · rintro ⟨_, ⟨first, start, rfl⟩, more, all, rfl⟩
    exact ⟨first :: more, ⟨first, more, rfl, start, all⟩, rfl⟩
  · rintro ⟨_, ⟨first, more, rfl, start, all⟩, rfl⟩
    exact ⟨more ++ rest, ⟨first, start, rfl⟩, more, all, rfl⟩

theorem dropWhile_of_identifier (leaves : identifier.Leaves text rest)
    (stops : ∀ c ∈ rest.head?, isInner c = false) : rest = text.dropWhile isInner := by
  obtain ⟨name, named, rfl⟩ := leaves_identifier.1 leaves
  exact eq_dropWhile named.inner stops

theorem stops_of_trimStart (first : ∃ c ∈ (trimStart text).head?, isInner c = false) :
    ∀ c ∈ text.head?, isInner c = false := by
  intro c among
  cases text with
  | nil => cases among
  | cons x text =>
    obtain rfl : x = c := Option.some.inj among
    cases blank : isBlank x with
    | true => exact not_inner_of_blank blank
    | false =>
      have stays : ¬isBlank x = true := ne_true_of_eq_false blank
      rw [trimStart, List.dropWhile_cons_of_neg stays] at first
      obtain ⟨d, here, stops⟩ := first
      obtain rfl : x = d := Option.some.inj here
      exact stops

/-! Lines that bind a name -/

/-- A line with a keyword and a name, blanks around them, and anything behind. -/
structure Binding where
  indent : List Char
  /-- The blanks behind `export`, if it is there. -/
  exported : Option (List Char)
  keyword : String
  gap : List Char
  name : List Char
  tail : List Char

namespace Binding

variable {binding : Binding}

def main (binding : Binding) : List Char :=
  binding.keyword.toList ++ (binding.gap ++ (binding.name ++ binding.tail))

def body (binding : Binding) : List Char :=
  match binding.exported with
  | none => binding.main
  | some blank => "export".toList ++ (blank ++ binding.main)

def line (binding : Binding) : List Char := binding.indent ++ binding.body

structure Proper (binding : Binding) : Prop where
  indent : ∀ c ∈ binding.indent, isBlank c = true
  exported : ∀ blank ∈ binding.exported, Gap blank
  keyword : binding.keyword ∈ ["const", "let", "var"]
  gap : Gap binding.gap
  name : IsIdentifier binding.name

namespace Proper

variable (proper : binding.Proper)
include proper

theorem letters : ∀ c ∈ binding.keyword.toList, isWordChar c = true :=
  ((by decide : AreWords ["const", "let", "var"]) binding.keyword proper.keyword).2

theorem stem_main : stem binding.main = binding.keyword.toList := proper.gap.stem_append proper.letters

theorem fresh_main : Fresh binding.main := by
  have known := proper.keyword
  rw [main]
  simp only [List.mem_cons, List.not_mem_nil, or_false] at known
  rcases known with known | known | known <;> rw [known] <;> intro c first <;> cases first <;> decide

theorem fresh_body : Fresh binding.body := by
  rw [body]
  split
  · exact proper.fresh_main
  · intro c first
    cases first
    decide

theorem trimStart_line : trimStart binding.line = binding.body := trimStart_append proper.indent proper.fresh_body

/-- If the keyword is not among the words that are left out, a search ends at it or at `export`. -/
theorem skips_body (wordy : AreWords words) (unlisted : binding.keyword ∉ words)
    (skips : Skips words binding.body rest) (fresh : Fresh rest) : rest = binding.body ∨ rest = binding.main := by
  have ended : ∀ {rest}, Skips words binding.main rest → rest = binding.main := by
    intro rest skips
    refine skips.eq_of_unlisted wordy ?_
    rwa [proper.stem_main, String.ofList_toList]
  cases exported : binding.exported with
  | none =>
    rw [body, exported] at skips
    exact .inr (ended skips)
  | some blank =>
    rw [body, exported] at skips ⊢
    rcases skips.next wordy fresh proper.fresh_main (List.all_eq_true.1 (by decide))
      (proper.exported blank exported) with same | onward
    · exact .inl same
    · exact .inr (ended onward)

theorem suffix_tail (suffix : '=' :: rest <:+ binding.line) : '=' :: rest <:+ binding.tail := by
  obtain ⟨before, same, none⟩ : ∃ before, binding.line = before ++ binding.tail ∧ '=' ∉ before := by
    have indent : '=' ∉ binding.indent := fun among => absurd (proper.indent _ among) (by decide)
    have keyword : '=' ∉ binding.keyword.toList := fun among => absurd (proper.letters _ among) (by decide)
    have gap : '=' ∉ binding.gap := fun among => absurd (proper.gap.all _ among) (by decide)
    have name : '=' ∉ binding.name := fun among => absurd (proper.name.inner _ among) (by decide)
    rw [line, body]
    split
    · refine ⟨binding.indent ++ (binding.keyword.toList ++ (binding.gap ++ binding.name)), ?_, ?_⟩
      · simp only [main, List.append_assoc]
      · simp only [List.mem_append, not_or]
        exact ⟨indent, keyword, gap, name⟩
    · rename_i blank exported
      have blank' : '=' ∉ blank := fun among => absurd ((proper.exported blank exported).all _ among) (by decide)
      refine ⟨binding.indent ++ ("export".toList ++ (blank ++ (binding.keyword.toList ++
        (binding.gap ++ binding.name)))), ?_, ?_⟩
      · simp only [main, List.append_assoc]
      · simp only [List.mem_append, not_or]
        exact ⟨indent, by decide, blank', keyword, gap, name⟩
  rw [same] at suffix
  have tail := List.suffix_append before binding.tail
  rcases List.suffix_or_suffix_of_suffix suffix tail with inside | ⟨longer, same⟩
  · exact inside
  · -- Otherwise the sign would be the last of what stands before the tail, or the tail starts with it.
    cases longer with
    | nil => exact same ▸ List.suffix_rfl
    | cons x longer =>
      obtain ⟨x', _⟩ := List.cons.inj same
      obtain ⟨front, whole⟩ := suffix
      rw [← same, ← List.append_assoc] at whole
      have among : x ∈ before := by
        rw [← List.append_cancel_right whole]
        exact List.mem_append_right _ List.mem_cons_self
      exact absurd (x' ▸ among) none

theorem head_main : ∃ c ∈ binding.main.head?, isInitial c = true := by
  have known := proper.keyword
  rw [main]
  simp only [List.mem_cons, List.not_mem_nil, or_false] at known
  rcases known with known | known | known <;> rw [known] <;> exact ⟨_, rfl, by decide⟩

theorem words_of_skips (wordy : AreWords words) (unlisted : binding.keyword ∉ words)
    (skips : Skips words (trimStart binding.line) rest) (fresh : Fresh rest) :
    ∃ word ∈ openers, ∃ blank next, Gap blank ∧ (∃ c ∈ next.head?, isInitial c = true) ∧
      rest = word.toList ++ (blank ++ next) := by
  rw [proper.trimStart_line] at skips
  have atMain : ∃ word ∈ openers, ∃ blank next, Gap blank ∧
      (∃ c ∈ next.head?, isInitial c = true) ∧ binding.main = word.toList ++ (blank ++ next) :=
    ⟨binding.keyword, List.mem_cons_of_mem _ proper.keyword, binding.gap, _, proper.gap,
      proper.name.head binding.tail, rfl⟩
  rcases proper.skips_body wordy unlisted skips fresh with rfl | rfl
  · rw [body]
    split
    · exact atMain
    · rename_i blank exported
      exact ⟨"export", by decide, blank, binding.main, proper.exported blank exported, proper.head_main, rfl⟩
  · exact atMain

end Proper

end Binding

/-! What the rules say of such a line -/

theorem leaves_headed (starts : ∀ text, (sequence parts).Leaves text rest → Fresh text)
    (leaves : (sequence (spaces :: (words.map modifier ++ parts))).Leaves text rest) (wordy : AreWords words) :
    ∃ upto, Skips words (trimStart text) upto ∧ Fresh upto ∧ (sequence parts).Leaves upto rest := by
  obtain ⟨between, blank, leaves⟩ := leaves_cons.1 leaves
  obtain ⟨upto, modifiers, leaves⟩ := leaves_append.1 leaves
  have skips := skips_of_modifiers modifiers
  have fresh := starts upto leaves
  rw [trimStart_of_spaces blank (skips.fresh wordy fresh)] at skips
  exact ⟨upto, skips, fresh, leaves⟩

variable {binding : Binding} (proper : binding.Proper)
include proper

theorem headed_finds_none {word : String} (wordy : AreWords (word :: words)) (unlisted : binding.keyword ∉ words)
    (apart : ∀ known ∈ openers,
      ¬word.toList <+: known.toList ∧ ¬known.toList <+: word.toList) :
    (headed words (letters word ++ parts)).captured? binding.line = none := by
  obtain ⟨⟨some, spelled⟩, wordy⟩ := List.forall_mem_cons.1 wordy
  refine captured?_eq_none fun rest leaves => ?_
  have starts : ∀ text, (sequence (letters word ++ parts)).Leaves text rest → Fresh text := by
    intro text leaves
    obtain ⟨between, rfl, -⟩ := leaves_letters_append.1 leaves
    exact fresh_append some spelled
  obtain ⟨upto, skips, fresh, leaves⟩ := leaves_headed starts leaves wordy
  obtain ⟨known, among, blank, next, -, -, same⟩ := proper.words_of_skips wordy unlisted skips fresh
  obtain ⟨between, same', -⟩ := leaves_letters_append.1 leaves
  have before : word.toList <+: upto := same' ▸ List.prefix_append _ _
  have before' : known.toList <+: upto := same ▸ List.prefix_append _ _
  rcases List.prefix_or_prefix_of_prefix before before' with shorter | longer
  · exact (apart known among).1 shorter
  · exact (apart known among).2 longer

omit proper in
theorem bracket_behind {behind : List Char} (leaves : (sequence (spaces :: optional (sequence [literal '<',
    .run (except '>') true, literal '>']) :: spaces :: literal '(' :: parts)).Leaves behind rest) :
    ∃ c ∈ (trimStart behind).head?, isInner c = false ∧ isInitial c = false := by
  obtain ⟨angle, blank, leaves⟩ := leaves_cons.1 leaves
  obtain ⟨angle', generics, leaves⟩ := leaves_cons.1 leaves
  obtain ⟨_, blank', leaves⟩ := leaves_cons.1 leaves
  obtain ⟨between, parenthesis, -⟩ := leaves_cons.1 leaves
  obtain rfl := leaves_literal.1 parenthesis
  rcases leaves_optional.1 generics with generics | rfl
  · obtain ⟨inside, opened, -⟩ := leaves_cons.1 generics
    obtain rfl := leaves_literal.1 opened
    rw [← trimStart_of_spaces blank (by rintro c ⟨⟩; decide)]
    exact ⟨'<', rfl, by decide, by decide⟩
  · obtain ⟨first, all, rfl⟩ := leaves_spaces.1 blank
    obtain ⟨second, all', rfl⟩ := leaves_spaces.1 blank'
    have both : ∀ c ∈ first ++ second, isBlank c = true := fun c among =>
      (List.mem_append.1 among).elim (all c) (all' c)
    rw [← List.append_assoc, trimStart_append both (by rintro c ⟨⟩; decide)]
    exact ⟨'(', rfl, by decide, by decide⟩

omit proper in
theorem unstarred {upto : List Char} (known : IsIdentifier name)
    (star : (optional (literal '*')).Leaves (name ++ rest) upto) : name ++ rest = upto := by
  rcases leaves_optional.1 star with star | same
  · have here := leaves_literal.1 star
    obtain ⟨x, front, starts⟩ := known.head rest
    rw [here] at front
    cases front
    cases starts
  · exact same

theorem method_finds_none (unlisted : binding.keyword ∉ methodModifiers) :
    methodRule.captured? binding.line = none := by
  refine captured?_eq_none fun rest leaves => ?_
  obtain ⟨start, indent, leaves⟩ := leaves_cons.1 leaves
  obtain ⟨found, modifiers, leaves⟩ := leaves_cons.1 leaves
  obtain ⟨upto, star, leaves⟩ := leaves_cons.1 leaves
  obtain ⟨behind, named, leaves⟩ := leaves_cons.1 leaves
  obtain ⟨c, first, notInner, notInitial⟩ := bracket_behind leaves
  obtain ⟨name, identifier, same⟩ := leaves_identifier.1 named
  have fresh : Fresh found := by
    rcases leaves_optional.1 star with star | rfl
    · obtain rfl := leaves_literal.1 star
      rintro c ⟨⟩
      decide
    · exact same ▸ fresh_of_initial (identifier.head behind)
  have skips := skips_of_repeated (List.cons_ne_nil _ _) modifiers
  have wordy : AreWords methodModifiers := by decide
  rw [trimStart_of_gap indent (skips.fresh wordy fresh)] at skips
  obtain ⟨word, among, spaced, next, gap, initial, rfl⟩ := proper.words_of_skips wordy unlisted skips fresh
  have known := identifier_of_opener among
  obtain rfl := unstarred known star
  -- The name is the whole word, so what is behind the blanks is the next word and no bracket.
  have cut : behind = spaced ++ next := by
    obtain ⟨x, front, blank⟩ := gap.head next
    have stops : ∀ c ∈ (spaced ++ next).head?, isInner c = false := by
      intro c among
      cases Option.mem_unique front among
      exact not_inner_of_blank blank
    rw [dropWhile_of_identifier named (stops_of_trimStart ⟨c, first, notInner⟩)]
    exact (eq_dropWhile known.inner stops).symm
  rw [cut, trimStart_append gap.all (fresh_of_initial initial)] at first
  obtain ⟨d, front, starts⟩ := initial
  cases Option.mem_unique front first
  rw [notInitial] at starts
  cases starts

theorem arrow_finds_none (quiet : ¬"=>".toList <:+: binding.tail) : arrowRule.captured? binding.line = none := by
  refine captured?_eq_none fun rest leaves => ?_
  have leaves : (sequence ((spaces :: modifier "export" :: keyword ["const", "let"] :: gap :: .capture identifier ::
      arrowParts) ++ letters "=>")).Leaves binding.line rest := leaves
  obtain ⟨between, before, leaves⟩ := leaves_append.1 leaves
  obtain rfl := leaves_letters.1 leaves
  exact quiet ((List.prefix_append _ rest).isInfix.trans (proper.suffix_tail before.suffix).isInfix)

theorem boundFunction_finds_none (quiet : ¬"function".toList <:+: binding.tail) :
    boundFunctionRule.captured? binding.line = none := by
  refine captured?_eq_none fun rest leaves => ?_
  have leaves : (sequence ((spaces :: modifier "export" :: keyword ["const", "let", "var"] :: gap ::
      .capture identifier :: spaces :: []) ++ (literal '=' :: spaces :: modifier "async" ::
        (letters "function" ++ [.boundary])))).Leaves binding.line rest := leaves
  obtain ⟨_, before, leaves⟩ := leaves_append.1 leaves
  obtain ⟨value, sign, bound⟩ := leaves_cons.1 leaves
  obtain rfl := leaves_literal.1 sign
  have bound : (sequence ((spaces :: modifier "async" :: []) ++ (letters "function" ++ [Pattern.boundary]))).Leaves
      value rest := bound
  obtain ⟨_, blank, bound⟩ := leaves_append.1 bound
  obtain ⟨behind, rfl, -⟩ := leaves_letters_append.1 bound
  have inside : "function".toList <:+: value := (List.prefix_append _ behind).isInfix.trans blank.suffix.isInfix
  exact quiet (inside.trans ((List.suffix_cons '=' value).trans (proper.suffix_tail before.suffix)).isInfix)

/-- The keyword and the name are taken as a whole by what cannot go on behind the name. -/
theorem at_name {behind : List Char} (wordy : AreWords words) (some : words ≠ [])
    (before : (sequence [keyword words, gap]).Leaves binding.main text) (named : identifier.Leaves text behind)
    (stops : ∀ c ∈ behind.head?, isInner c = false) (ends : ∀ c ∈ binding.tail.head?, isInner c = false) :
    text = binding.name ++ binding.tail ∧ behind = binding.tail := by
  obtain ⟨between, spelled, blank⟩ := leaves_cons.1 before
  obtain ⟨_, among, letters⟩ := leaves_oneOf spelled (by simpa using some)
  obtain ⟨word, listed, rfl⟩ := List.mem_map.1 among
  have same := leaves_letters.1 letters
  obtain ⟨spaced, gap, rfl⟩ := leaves_gap.1 blank
  have stem := proper.stem_main
  rw [same, gap.stem_append (wordy word listed).2] at stem
  rw [Binding.main, ← stem] at same
  obtain ⟨name, identifier, whole⟩ := leaves_identifier.1 named
  have front := congrArg trimStart (List.append_cancel_left same)
  rw [trimStart_append proper.gap.all (fresh_of_initial (proper.name.head _)),
    trimStart_append gap.all (whole ▸ fresh_of_initial (identifier.head _))] at front
  refine ⟨front.symm, ?_⟩
  rw [dropWhile_of_identifier named stops, ← front]
  exact (eq_dropWhile proper.name.inner ends).symm

theorem at_name_headed {behind : List Char} (wordy : AreWords words) (some : words ≠ [])
    (hidden : binding.exported = none)
    (before : (sequence (spaces :: (["export"].map modifier ++ [keyword words, gap]))).Leaves binding.line text)
    (named : identifier.Leaves text behind) (stops : ∀ c ∈ behind.head?, isInner c = false)
    (ends : ∀ c ∈ binding.tail.head?, isInner c = false) :
    text = binding.name ++ binding.tail ∧ behind = binding.tail := by
  have starts : ∀ start, (sequence [keyword words, gap]).Leaves start text → Fresh start := by
    intro start leaves
    obtain ⟨between, spelled, -⟩ := leaves_cons.1 leaves
    obtain ⟨_, among, letters⟩ := leaves_oneOf spelled (by simpa using some)
    obtain ⟨word, listed, rfl⟩ := List.mem_map.1 among
    rw [leaves_letters.1 letters]
    exact fresh_append (wordy word listed).1 (wordy word listed).2
  have exported : AreWords ["export"] := by decide
  have unlisted : binding.keyword ∉ ["export"] := by
    intro among
    have known := proper.keyword
    rw [List.mem_singleton.1 among] at known
    exact absurd known (by decide)
  obtain ⟨upto, skips, fresh, leaves⟩ := leaves_headed starts before exported
  rw [proper.trimStart_line] at skips
  -- The line is not exported, so nothing is left out in front of the keyword.
  have whole : binding.body = binding.main := by rw [Binding.body, hidden]
  have atMain : upto = binding.main := (proper.skips_body exported unlisted skips fresh).elim (whole ▸ ·) id
  rw [atMain] at leaves
  exact at_name proper wordy some leaves named stops ends

omit proper

/-! Arrow functions -/

variable {params body : List Char}

def arrow (name params body : List Char) : Binding :=
  ⟨[], none, "const", [' '], name, " = (".toList ++ (params ++ (") =>".toList ++ body))⟩

theorem arrow_proper (named : IsIdentifier name) : (arrow name params body).Proper where
  indent := by simp [arrow]
  exported := by simp [arrow]
  keyword := by simp [arrow]
  gap := ⟨by simp [arrow], List.forall_mem_singleton.2 (by decide)⟩
  name := named

theorem arrow_ends : ∀ c ∈ (arrow name params body).tail.head?, isInner c = false := by
  rintro c ⟨⟩
  decide

theorem arrow_leaves (closed : ')' ∉ params) :
    (sequence (arrowParts ++ letters "=>")).Leaves (arrow name params body).tail body := by
  have space : ∀ rest : List Char, spaces.Leaves (' ' :: rest) rest := fun rest =>
    leaves_spaces.2 ⟨[' '], List.forall_mem_singleton.2 (by decide), rfl⟩
  have inside : (sequence parameters).Leaves ('(' :: (params ++ (") =>".toList ++ body))) (" =>".toList ++ body) :=
    leaves_cons.2 ⟨_, leaves_literal.2 rfl, leaves_cons.2 ⟨_, ⟨params, fun c among => has_except.2 fun same =>
      closed (same ▸ among), rfl⟩, leaves_literal.2 rfl⟩⟩
  refine leaves_append.2 ⟨"=>".toList ++ body, ?_, leaves_letters.2 rfl⟩
  refine leaves_cons.2 ⟨_, space _, leaves_cons.2 ⟨_, .inr rfl, leaves_cons.2 ⟨_, leaves_literal.2 rfl, ?_⟩⟩⟩
  refine leaves_cons.2 ⟨_, space _, leaves_cons.2 ⟨_, .inr rfl, leaves_cons.2 ⟨_, .inr rfl, ?_⟩⟩⟩
  exact leaves_cons.2 ⟨_, .inl inside, leaves_cons.2 ⟨_, space _, leaves_cons.2 ⟨_, .inr rfl,
    leaves_spaces.2 ⟨[], by simp, rfl⟩⟩⟩⟩

theorem stops_of_spaces {behind : List Char} (blank : spaces.Leaves behind (c :: text)) (solid : isBlank c = false)
    (stops : isInner c = false) : trimStart behind = c :: text ∧ ∀ c ∈ behind.head?, isInner c = false := by
  have same : c :: text = trimStart behind := trimStart_of_spaces blank (by rintro d ⟨⟩; exact solid)
  exact ⟨same.symm, stops_of_trimStart (same ▸ ⟨c, rfl, stops⟩)⟩

theorem arrow_found (named : IsIdentifier name) (closed : ')' ∉ params) :
    arrowRule.captured? (arrow name params body).line = some name := by
  have proper : (arrow name params body).Proper := arrow_proper named
  have shape : arrowRule = .seq .start (sequence ((spaces :: (["export"].map modifier ++
      [keyword ["const", "let"], gap])) ++ .capture identifier :: (arrowParts ++ letters "=>"))) := rfl
  rw [shape]
  refine captured?_eq_some rfl rfl (show Leaves _ _ body from ?_) ?_
  · refine leaves_append.2 ⟨name ++ (arrow name params body).tail, ?_, leaves_cons.2 ⟨_,
      leaves_identifier.2 ⟨name, named, rfl⟩, arrow_leaves closed⟩⟩
    refine leaves_cons.2 ⟨_, leaves_spaces.2 ⟨[], by simp, rfl⟩, leaves_cons.2 ⟨_, .inr rfl, leaves_cons.2
      ⟨_, .inl (leaves_letters.2 rfl), leaves_gap.2 ⟨[' '], proper.gap, rfl⟩⟩⟩⟩
  -- However the parts match, what follows the name cannot go on inside it, so the whole name is taken.
  · intro first last rest before identifier after
    obtain ⟨_, blank, after⟩ := leaves_cons.1 after
    obtain ⟨_, typed, after⟩ := leaves_cons.1 after
    obtain ⟨value, sign, -⟩ := leaves_cons.1 after
    obtain rfl := leaves_literal.1 sign
    have stops : ∀ c ∈ last.head?, isInner c = false := by
      rcases typed with typed | rfl
      · obtain ⟨inside, colon, -⟩ := leaves_cons.1 typed
        obtain rfl := leaves_literal.1 colon
        exact (stops_of_spaces blank (by decide) (by decide)).2
      · exact (stops_of_spaces blank (by decide) (by decide)).2
    obtain ⟨same, same'⟩ := at_name_headed proper (by decide) (List.cons_ne_nil _ _) rfl before identifier stops
      arrow_ends
    rw [same, same']
    rfl

theorem arrow_not_boundFunction (named : IsIdentifier name) :
    boundFunctionRule.captured? (arrow name params body).line = none := by
  refine captured?_eq_none fun rest leaves => ?_
  have leaves : (sequence ((spaces :: (["export"].map modifier ++ [keyword ["const", "let", "var"], gap])) ++
      .capture identifier :: spaces :: literal '=' :: (spaces :: (["async"].map modifier ++
        (letters "function" ++ [.boundary]))))).Leaves (arrow name params body).line rest := leaves
  obtain ⟨first, before, leaves⟩ := leaves_append.1 leaves
  obtain ⟨last, inside, leaves⟩ := leaves_cons.1 leaves
  obtain ⟨_, blank, leaves⟩ := leaves_cons.1 leaves
  obtain ⟨value, sign, bound⟩ := leaves_cons.1 leaves
  obtain rfl := leaves_literal.1 sign
  obtain ⟨trimmed, stops⟩ := stops_of_spaces blank (by decide) (by decide)
  obtain ⟨-, same⟩ := at_name_headed (arrow_proper named) (by decide) (List.cons_ne_nil _ _) rfl before inside stops
    arrow_ends
  have opened : trimStart (arrow name params body).tail =
      '=' :: ' ' :: '(' :: (params ++ (") =>".toList ++ body)) := rfl
  rw [same, opened] at trimmed
  obtain rfl := (List.cons.inj trimmed).2
  have starts : ∀ text, (sequence (letters "function" ++ [Pattern.boundary])).Leaves text rest → Fresh text := by
    intro text leaves
    obtain ⟨between, rfl, -⟩ := leaves_letters_append.1 leaves
    exact fresh_append (by decide) (List.all_eq_true.1 (by decide))
  obtain ⟨upto, skips, -, function⟩ := leaves_headed starts bound (by decide)
  obtain ⟨between, rfl, -⟩ := leaves_letters_append.1 function
  -- What is bound starts with a parenthesis, and so with no word.
  have unlisted : ∀ text, String.ofList (stem (trimStart (' ' :: '(' :: text))) ∉ ["async"] := by
    intro text
    have none : stem (trimStart (' ' :: '(' :: text)) = [] := rfl
    rw [none]
    decide
  cases skips.eq_of_unlisted (by decide) (unlisted _)

/-- Lines that bind a name declare nothing if neither an arrow nor `function` stands behind the name. An arrow
function that is bound to a name declares that name and no other one, if it has no underscore in front. -/
theorem names_of_bindings : ∃ language,
    (∀ extension ∈ ecmaScript.extensions, Languages.builtin.find? extension = some language) ∧
    (∀ binding : Binding, binding.Proper → ¬"=>".toList <:+: binding.tail → ¬"function".toList <:+: binding.tail →
      language.detector.namesOn binding.line = []) ∧
    (∀ name params body, IsIdentifier name → name.head? ≠ some '_' → ')' ∉ params →
      language.detector.namesOn ("const ".toList ++ name ++ " = (".toList ++ params ++ ") =>".toList ++ body) =
        [String.ofList name]) := by
  obtain ⟨language, known, same⟩ := compiled
  -- Three of the rules find nothing on any such line; the other two depend on what is behind the name.
  have silent : ∀ binding : Binding, binding.Proper → functionRule.captured? binding.line = none ∧
      methodRule.captured? binding.line = none ∧ classRule.captured? binding.line = none := by
    intro binding proper
    have none : ∀ words : List String, (∀ word ∈ ["const", "let", "var"], word ∉ words) → binding.keyword ∉ words :=
      fun words apart => apart binding.keyword proper.keyword
    exact ⟨headed_finds_none proper (by decide) (none _ (by decide)) (by decide),
      method_finds_none proper (none _ (by decide)),
      headed_finds_none proper (by decide) (none _ (by decide)) (by decide)⟩
  refine ⟨language, ?_, ?_, ?_⟩
  · intro extension listed
    have covering : ∀ extension ∈ ecmaScript.extensions,
        sources.reverse.filter (·.covers extension) = [ecmaScript] := by
      decide +kernel
    rw [Languages.find?_builtin, covering extension listed, List.findSome?_singleton]
    exact known
  · intro binding proper noArrow noFunction
    obtain ⟨noName, noMethod, noClass⟩ := silent binding proper
    simp [Detector.namesOn, detector, same, rules, DeclarationRule.nameOn?, noName, noMethod, noClass,
      arrow_finds_none proper noArrow, boundFunction_finds_none proper noFunction]
  · intro name params body named shown closed
    obtain ⟨noName, noMethod, noClass⟩ := silent (arrow name params body) (arrow_proper named)
    have line : "const ".toList ++ name ++ " = (".toList ++ params ++ ") =>".toList ++ body =
        (arrow name params body).line := by
      have opening : "const ".toList = "const".toList ++ [' '] := by decide
      simp only [arrow, Binding.line, Binding.body, Binding.main, opening, List.append_assoc, List.nil_append]
    have some : name ≠ [] := by
      obtain ⟨first, more, rfl, -⟩ := named
      exact List.cons_ne_nil first more
    rw [line]
    simp [Detector.namesOn, detector, same, rules, DeclarationRule.nameOn?, DeclarationRule.admits, noName,
      noMethod, noClass, arrow_found named closed, arrow_not_boundFunction named, shown, some]

theorem names_of_bindings_load : ∃ language, Languages.builtin.find? "tsx" = some language ∧
    language.detector.namesOn "  export let retries: number = 3;".toList = [] ∧
    language.detector.namesOn "const load$ = (path, mode) => read(path);".toList = ["load$"] := by
  obtain ⟨language, found, silent, named⟩ := names_of_bindings
  refine ⟨language, found "tsx" (by decide), ?_, ?_⟩
  · have space : Gap [' '] := ⟨by decide, List.forall_mem_singleton.2 (by decide)⟩
    have proper : Binding.Proper ⟨[' ', ' '], some [' '], "let", [' '], "retries".toList, ": number = 3;".toList⟩ :=
      ⟨List.all_eq_true.1 (by decide), by rintro blank ⟨⟩; exact space, by decide, space, 'r', "etries".toList, rfl,
        by decide, List.all_eq_true.1 (by decide)⟩
    have line : "  export let retries: number = 3;".toList =
        Binding.line ⟨[' ', ' '], some [' '], "let", [' '], "retries".toList, ": number = 3;".toList⟩ := by decide
    rw [line]
    exact silent _ proper (by decide +kernel) (by decide +kernel)
  · have identifier : IsIdentifier "load$".toList :=
      ⟨'l', "oad$".toList, rfl, by decide, List.all_eq_true.1 (by decide)⟩
    have line : "const load$ = (path, mode) => read(path);".toList = "const ".toList ++ "load$".toList ++
        " = (".toList ++ "path, mode".toList ++ ") =>".toList ++ " read(path);".toList := by decide +kernel
    rw [line]
    exact named _ _ _ identifier (by decide) (by decide)

end Waymark.Language.EcmaScript
