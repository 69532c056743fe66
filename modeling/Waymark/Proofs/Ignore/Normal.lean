import Waymark.Ignore.Rule
import Waymark.Proofs.Text.Trim

/-! When rules are stored in normal form. Normalizing trims three times and each trim once, so a slash or a `./`
that goes may uncover blanks, and these stay. No other step takes a blank: a pattern is in normal form exactly if it
has no blank at its ends, and a spelling makes another rule exactly if its slashes or its `./` cover blanks.
-/

set_option autoImplicit false

namespace Waymark

namespace IgnoreRule

open Text

variable {text : List Char} {raw other : String} {rule : IgnoreRule}

/-! The trims of a pattern -/

theorem countP_dropHere (text : List Char) : (dropHere text).countP isBlank = text.countP isBlank := by
  fun_induction dropHere text with
  | case1 rest ih => rw [ih, List.countP_cons_of_neg (by decide), List.countP_cons_of_neg (by decide)]
  | case2 => rfl

theorem dropHere_suffix (text : List Char) : dropHere text <:+ text := by
  fun_induction dropHere text with
  | case1 rest ih => exact ih.trans ((List.suffix_cons _ _).trans (List.suffix_cons _ _))
  | case2 => exact List.suffix_refl _

theorem dropHere_spec (text : List Char) :
    ∃ count, text = (List.replicate count ['.', '/']).flatten ++ dropHere text := by
  fun_induction dropHere text with
  | case1 rest ih =>
    obtain ⟨count, same⟩ := ih
    exact ⟨count + 1, congrArg (['.', '/'] ++ ·) same⟩
  | case2 => exact ⟨0, rfl⟩

theorem dropHere_dropHere (text : List Char) : dropHere (dropHere text) = dropHere text := by
  fun_induction dropHere text with
  | case1 rest ih => exact ih
  | case2 text other => exact dropHere.eq_2 text other

abbrev unslashed (text : List Char) : List Char := dropWhileEnd (· == '/') text

theorem countP_unslashed (text : List Char) : (unslashed text).countP isBlank = text.countP isBlank := by
  apply countP_dropWhileEnd
  intro c slash
  rw [beq_iff_eq.1 slash]
  decide

theorem unslashed_of_suffix {part : List Char} (suffix : part <:+ unslashed text) : unslashed part = part := by
  obtain ⟨front, same⟩ := suffix
  have final : unslashed (front ++ part) = front ++ part := by
    rw [same]
    exact List.rdropWhile_idempotent _ _
  refine List.rdropWhile_eq_self_iff.2 fun some => ?_
  have last := List.rdropWhile_eq_self_iff.1 final (List.append_ne_nil_of_right_ne_nil front some)
  rwa [List.getLast_append_of_ne_nil _ some] at last

theorem dropHere_ne_nil (some : text ≠ []) (final : unslashed text = text) : dropHere text ≠ [] := by
  fun_induction dropHere text with
  | case1 rest ih =>
    have more : rest ≠ [] := by
      rintro rfl
      cases final
    have suffix : rest <:+ unslashed ('.' :: '/' :: rest) := by
      rw [final]
      exact (List.suffix_cons _ _).trans (List.suffix_cons _ _)
    exact ih more (unslashed_of_suffix suffix)
  | case2 => exact some

theorem unslashed_unslashed (text : List Char) : unslashed (unslashed text) = unslashed text :=
  unslashed_of_suffix (List.suffix_refl _)

theorem normalize_eq (text : List Char) : normalize text = dropHere (unslashed (trim text)) := rfl

theorem countP_normalize (text : List Char) : (normalize text).countP isBlank = (trim text).countP isBlank := by
  rw [normalize_eq, countP_dropHere, countP_unslashed]

/-! Spellings of a text -/

theorem normalize_padded {before after : List Char} (text : List Char) (blank : ∀ c ∈ before, isBlank c = true)
    (blank' : ∀ c ∈ after, isBlank c = true) : normalize (before ++ text ++ after) = normalize text := by
  rw [normalize_eq, trim_padded text blank blank', ← normalize_eq]

theorem normalize_normalize_iff :
    normalize (normalize text) = normalize text ↔ trim (normalize text) = normalize text := by
  constructor
  · intro same
    apply trim_eq_self_of_countP
    rw [← countP_normalize, same]
  · intro trimmed
    have suffix : normalize text <:+ unslashed (trim text) := dropHere_suffix _
    rw [normalize_eq (normalize text), trimmed, unslashed_of_suffix suffix]
    exact dropHere_dropHere _

theorem trim_ne_nil (some : normalize text ≠ []) : trim text ≠ [] := by
  intro empty
  apply some
  rw [normalize_eq, empty]
  rfl

theorem normalize_eq_nil (none : unslashed (trimEnd text) = []) : normalize text = [] := by
  by_contra some
  obtain ⟨before, after, -, -, -, -, ends⟩ := trim_ends (trim_ne_nil some)
  rw [ends, unslashed, dropWhileEnd_append] at none
  split at none
  · rename_i empty
    apply some
    rw [normalize_eq, unslashed, List.isEmpty_iff.1 empty]
    rfl
  · rename_i kept
    exact kept (List.isEmpty_iff.2 (List.append_eq_nil_iff.1 none).2)

theorem normalize_slash_iff :
    normalize (text ++ ['/']) = normalize text ↔ trim text = [] ∨ trimEnd text = text := by
  by_cases empty : trim text = []
  · have blank : ∀ c ∈ text, isBlank c = true := trim_eq_nil_iff.1 empty
    have alone : normalize (text ++ ['/'] ++ []) = normalize ['/'] := normalize_padded ['/'] blank (by simp)
    rw [List.append_nil] at alone
    rw [alone, normalize_eq text, empty]
    exact ⟨fun _ => .inl rfl, fun _ => rfl⟩
  obtain ⟨before, after, blank, blank', parts, start, ends⟩ := trim_ends empty
  have slashed : trim (text ++ ['/']) = trimStart text ++ ['/'] := by
    have more : ¬(text.dropWhile isBlank).isEmpty = true := by
      intro none
      exact empty (by rw [trim, trimStart, List.isEmpty_iff.1 none]; rfl)
    rw [trim, trimStart, List.dropWhile_append, if_neg more]
    exact trimEnd_visible _ (by decide)
  have short : unslashed (trimStart text ++ ['/']) = unslashed (trimStart text) := by
    rw [unslashed, dropWhileEnd_concat]
    rfl
  constructor
  · intro same
    -- The slash keeps the blanks before it from being trimmed, so there are none.
    have counted := congrArg (·.countP isBlank) same
    simp only [countP_normalize, slashed, start, List.countP_append, List.countP_eq_length.2 blank'] at counted
    obtain rfl : after = [] := List.length_eq_zero_iff.1 (by omega)
    right
    rw [ends]
    simpa using parts.symm
  · rintro (none | bare)
    · exact absurd none empty
    rw [ends] at bare
    obtain rfl : after = [] := List.self_eq_append_right.1 (bare.trans parts)
    rw [normalize_eq, slashed, short, start, List.append_nil, ← normalize_eq]

theorem normalize_here_iff :
    normalize ('.' :: '/' :: text) = normalize text ↔ normalize text ≠ [] ∧ trimStart text = text := by
  have pointed : trim ('.' :: '/' :: text) = ['.', '/'] ++ trimEnd text := by
    have point : isBlank '.' = false := by decide
    have front : trimEnd ['.', '/'] = ['.', '/'] := by decide
    rw [trim, trimStart, List.dropWhile_cons_of_neg (by rw [point]; decide), trimEnd]
    change dropWhileEnd isBlank (['.', '/'] ++ text) = _
    rw [dropWhileEnd_append]
    split
    · rename_i none
      rw [trimEnd, List.isEmpty_iff.1 none, List.append_nil]
      exact front
    · rfl
  by_cases none : unslashed (trimEnd text) = []
  · -- Of such a spelling the point is left, and nothing of the text.
    have point : normalize ('.' :: '/' :: text) = ['.'] := by
      rw [normalize_eq, pointed, unslashed, dropWhileEnd_append, if_pos (List.isEmpty_iff.2 none)]
      decide
    have nothing := normalize_eq_nil none
    rw [point, nothing]
    simp
  have kept : normalize ('.' :: '/' :: text) = dropHere (unslashed (trimEnd text)) := by
    rw [normalize_eq, pointed, unslashed, dropWhileEnd_append, if_neg fun empty => none (List.isEmpty_iff.1 empty)]
    rfl
  constructor
  · intro same
    have some : normalize text ≠ [] := by
      rw [← same, kept]
      exact dropHere_ne_nil none (unslashed_unslashed _)
    refine ⟨some, ?_⟩
    obtain ⟨before, after, blank, blank', parts, start, ends⟩ := trim_ends (trim_ne_nil some)
    -- No step but trimming takes blanks away, so as many blanks on both sides leave none in front.
    have counted := congrArg (·.countP isBlank) same
    simp only [kept, countP_dropHere, countP_unslashed, countP_normalize, ends, List.countP_append,
      List.countP_eq_length.2 blank] at counted
    obtain rfl : before = [] := List.length_eq_zero_iff.1 (by omega)
    rw [start]
    exact parts.symm
  · rintro ⟨some, bare⟩
    have same : trimEnd text = trim text := by rw [trim, bare]
    rw [kept, same, ← normalize_eq]

theorem normalize_slashes (bare : trimEnd text = text) (count : Nat) :
    normalize (text ++ List.replicate count '/') = normalize text := by
  induction count with
  | zero => rw [List.replicate_zero, List.append_nil]
  | succ count ih =>
    have visible : trimEnd (text ++ List.replicate count '/') = text ++ List.replicate count '/' := by
      cases count with
      | zero => rwa [List.replicate_zero, List.append_nil]
      | succ count =>
        rw [List.replicate_succ', ← List.append_assoc]
        exact trimEnd_visible _ (by decide)
    rw [List.replicate_succ', ← List.append_assoc, normalize_slash_iff.2 (.inr visible), ih]

theorem normalize_heres (some : normalize text ≠ []) (bare : trimStart text = text) (count : Nat) :
    normalize ((List.replicate count ['.', '/']).flatten ++ text) = normalize text := by
  induction count with
  | zero => rfl
  | succ count ih =>
    have visible : trimStart ((List.replicate count ['.', '/']).flatten ++ text) =
        (List.replicate count ['.', '/']).flatten ++ text := by
      cases count with
      | zero => exact bare
      | succ count => exact List.dropWhile_cons_of_neg (by decide)
    have step := normalize_here_iff.2 ⟨by rwa [ih], visible⟩
    rw [List.replicate_succ, List.flatten_cons]
    exact step.trans ih

/-! Rules -/

theorem of?_eq_none_iff : of? raw = none ↔ normalize raw.toList = [] := by
  simp [of?]

theorem of?_eq_iff : of? raw = of? other ↔ normalize raw.toList = normalize other.toList := by
  refine ⟨fun same => ?_, fun same => by rw [of?, of?, same]⟩
  by_cases none : normalize raw.toList = []
  · rw [none]
    exact (of?_eq_none_iff.1 (same ▸ of?_eq_none_iff.2 none)).symm
  · have none' : normalize other.toList ≠ [] := fun empty => none (of?_eq_none_iff.1 (same ▸ of?_eq_none_iff.2 empty))
    have patterns : String.ofList (normalize raw.toList) = String.ofList (normalize other.toList) := by
      simp only [of?, List.isEmpty_iff, none, none', if_false, Option.some.injEq, IgnoreRule.mk.injEq] at same
      exact same.1
    simpa using congrArg String.toList patterns

theorem pattern_of_of? (is : of? raw = some rule) :
    rule.pattern.toList = normalize raw.toList := by
  rw [of?] at is
  split at is
  · cases is
  · cases is
    exact String.toList_ofList

/-- The text with blanks around it, and inside of them `./` in front and slashes behind, as many as there may be. -/
def Respells (raw other : String) : Prop :=
  ∃ before heres slashes after, (∀ c ∈ before, isBlank c = true) ∧ (∀ c ∈ after, isBlank c = true) ∧
    other.toList =
      before ++ ((List.replicate heres ['.', '/']).flatten ++ raw.toList ++ List.replicate slashes '/') ++ after

theorem respells_pattern (is : of? raw = some rule) : Respells rule.pattern raw := by
  obtain ⟨before, after, around, blank, blank'⟩ := trim_spec raw.toList
  obtain ⟨dropped, behind, are⟩ := dropWhileEnd_spec (· == '/') (trim raw.toList)
  obtain ⟨heres, front⟩ := dropHere_spec (unslashed (trim raw.toList))
  have slashes : dropped = List.replicate dropped.length '/' :=
    List.eq_replicate_iff.2 ⟨rfl, fun c among => beq_iff_eq.1 (are c among)⟩
  refine ⟨before, heres, dropped.length, after, blank, blank', ?_⟩
  rw [pattern_of_of? is, normalize_eq, ← front, ← slashes, ← behind]
  exact around

theorem alike_of_respells (some : of? raw ≠ none) (bare : trim raw.toList = raw.toList)
    (respells : Respells raw other) : of? other = of? raw := by
  obtain ⟨before, heres, slashes, after, blank, blank', same⟩ := respells
  have left : normalize raw.toList ≠ [] := fun none => some (of?_eq_none_iff.2 none)
  have visible : trimEnd ((List.replicate heres ['.', '/']).flatten ++ raw.toList) =
      (List.replicate heres ['.', '/']).flatten ++ raw.toList := by
    have ends : trimEnd raw.toList = raw.toList := trimEnd_of_trim bare
    have nonempty : raw.toList ≠ [] := by
      intro empty
      rw [empty] at left
      exact left rfl
    rw [trimEnd] at ends ⊢
    rw [dropWhileEnd_append, ends, if_neg fun empty => nonempty (List.isEmpty_iff.1 empty)]
  rw [of?_eq_iff, same, normalize_padded _ blank blank', normalize_slashes visible,
    normalize_heres left (trimStart_of_trim bare)]

theorem stored_iff (is : of? raw = some rule) :
    of? rule.pattern = some rule ↔ trim rule.pattern.toList = rule.pattern.toList := by
  rw [← is, of?_eq_iff, pattern_of_of? is]
  exact normalize_normalize_iff

theorem of?_eq_some_iff (stored : of? rule.pattern = some rule) : of? raw = some rule ↔ Respells rule.pattern raw := by
  refine ⟨respells_pattern, fun respells => ?_⟩
  have made : of? rule.pattern ≠ none := by
    rw [stored]
    exact Option.some_ne_none rule
  rw [alike_of_respells made ((stored_iff stored).1 stored) respells, stored]

structure Settles (raw : String) : Prop where
  /-- The pattern of the rule makes the rule again exactly if it has no blank at its ends. -/
  stored : ∀ rule, of? raw = some rule →
    (of? rule.pattern = some rule ↔ trim rule.pattern.toList = rule.pattern.toList)
  padded : ∀ other before after, (∀ c ∈ before, isBlank c = true) → (∀ c ∈ after, isBlank c = true) →
    other.toList = before ++ raw.toList ++ after → of? other = of? raw
  /-- A slash behind the text makes no difference exactly if it covers no blank. -/
  slash : of? (raw ++ "/") = of? raw ↔ trim raw.toList = [] ∨ trimEnd raw.toList = raw.toList
  /-- Nor does a `./` in front of it, if there is a rule at all. -/
  here : of? ("./" ++ raw) = of? raw ↔ of? raw ≠ none ∧ trimStart raw.toList = raw.toList
  respelled : of? raw ≠ none → trim raw.toList = raw.toList → ∀ other, Respells raw other → of? other = of? raw
  spelled : ∀ rule, of? rule.pattern = some rule → (of? raw = some rule ↔ Respells rule.pattern raw)

/-- A rule is stored in normal form exactly if normalizing uncovered no blank. Then all spellings of its pattern make
it, and a spelling of a text makes another rule only by covering blanks. -/
theorem settles (raw : String) : Settles raw where
  stored _ := stored_iff
  padded other before after blank blank' same := by
    rw [of?_eq_iff, same]
    exact normalize_padded _ blank blank'
  slash := by
    rw [of?_eq_iff, String.toList_append]
    exact normalize_slash_iff
  here := by
    rw [of?_eq_iff, String.toList_append, ne_eq, of?_eq_none_iff]
    exact normalize_here_iff
  respelled some bare _ := alike_of_respells some bare
  spelled _ := of?_eq_some_iff

theorem settles_generated : of? "docs/generated" = some ⟨"docs/generated", .substring⟩ ∧
    Respells "docs/generated" "\t././docs/generated// " ∧
    of? "\t././docs/generated// " = some ⟨"docs/generated", .substring⟩ := by
  have made : of? "docs/generated" = some ⟨"docs/generated", .substring⟩ := by decide
  have respells : Respells "docs/generated" "\t././docs/generated// " :=
    ⟨['\t'], 2, 2, [' '], List.forall_mem_singleton.2 (by decide), List.forall_mem_singleton.2 (by decide), by decide⟩
  exact ⟨made, respells, ((settles _).spelled ⟨"docs/generated", .substring⟩ made).2 respells⟩

/-- A blank that a slash covers stays in the pattern. -/
theorem covered_blank : of? ("build " ++ "/") = some ⟨"build ", .segment⟩ ∧
    of? "build " = some ⟨"build", .segment⟩ := by
  decide

end IgnoreRule

end Waymark
