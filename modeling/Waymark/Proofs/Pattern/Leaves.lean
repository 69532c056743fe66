import Mathlib.Logic.Relation
import Waymark.Pattern.Basic

/-! What a pattern leaves of a text. `Leaves` reads a pattern as a relation between a text and the rest behind a
match. Every match obeys it, and a pattern without repetition and without places to check has a match for every
rest that the relation allows. So a pattern that can leave nothing captures nothing, and one that can leave
something captures what lies between the texts that the parts around the capture allow.
-/

set_option autoImplicit false

namespace Waymark.Pattern

variable {pattern body : Pattern} {parts earlier later : List Pattern} {set : CharClass} {greedy : Bool}
  {line text rest taken word : List Char} {c d : Cursor} {x : Char}

/-- The pattern can take the text up to the rest, places to check being granted. -/
def Leaves : Pattern → List Char → List Char → Prop
  | .empty, text, rest | .start, text, rest | .boundary, text, rest => text = rest
  | .finish, text, rest => text = [] ∧ rest = []
  | .char set, text, rest => ∃ c, set.has c = true ∧ text = c :: rest
  | .seq first second, text, rest => ∃ between, first.Leaves text between ∧ second.Leaves between rest
  | .alt preferred other, text, rest => preferred.Leaves text rest ∨ other.Leaves text rest
  | .run set _, text, rest => ∃ taken, (∀ c ∈ taken, set.has c = true) ∧ text = taken ++ rest
  | .repeated body _, text, rest => Relation.ReflTransGen body.Leaves text rest
  | .capture body, text, rest => body.Leaves text rest

theorem Leaves.suffix (leaves : pattern.Leaves text rest) : rest <:+ text := by
  induction pattern generalizing text rest with
  | empty | start | boundary => exact leaves ▸ List.suffix_rfl
  | finish => exact leaves.2 ▸ List.nil_suffix
  | char set =>
    obtain ⟨x, -, rfl⟩ := leaves
    exact List.suffix_cons x rest
  | seq first second ihFirst ihSecond =>
    obtain ⟨between, leaves, leaves'⟩ := leaves
    exact (ihSecond leaves').trans (ihFirst leaves)
  | alt preferred other ihPreferred ihOther => exact leaves.elim ihPreferred ihOther
  | run set greedy =>
    obtain ⟨taken, -, rfl⟩ := leaves
    exact List.suffix_append taken rest
  | repeated body greedy ih =>
    induction leaves with
    | refl => exact List.suffix_rfl
    | tail _ leaves before => exact (ih leaves).trans before
  | capture body ih => exact ih leaves

/-! Matches -/

/-- One place lies behind another one, and nothing was captured between them. -/
structure Cursor.Over (taken : List Char) (c d : Cursor) : Prop where
  rest : c.rest = taken ++ d.rest
  position : d.position = c.position + taken.length
  captured : d.captured = c.captured

theorem mem_runFrom {before : Option Char} {position : Nat} {captured : Option Span} {passed : List Cursor}
    (among : d ∈ Cursor.runFrom set before position captured passed text) :
    d ∈ passed ∨ ∃ taken, (∀ c ∈ taken, set.has c = true) ∧
      Cursor.Over taken ⟨before, text, position, captured⟩ d := by
  induction text generalizing before position passed with
  | nil =>
    rcases List.mem_cons.1 among with rfl | earlier
    · exact .inr ⟨[], by simp, rfl, rfl, rfl⟩
    · exact .inl earlier
  | cons x text ih =>
    -- The place that the run has come to is one of its ends.
    have here : d ∈ (⟨before, x :: text, position, captured⟩ : Cursor) :: passed →
        d ∈ passed ∨ ∃ taken, (∀ c ∈ taken, set.has c = true) ∧
          Cursor.Over taken ⟨before, x :: text, position, captured⟩ d := by
      intro among
      rcases List.mem_cons.1 among with rfl | earlier
      · exact .inr ⟨[], by simp, rfl, rfl, rfl⟩
      · exact .inl earlier
    rw [Cursor.runFrom] at among
    split at among
    · rename_i has
      rcases ih among with earlier | ⟨taken, all, moved⟩
      · exact here earlier
      · refine .inr ⟨x :: taken, List.forall_mem_cons.2 ⟨has, all⟩, congrArg (x :: ·) moved.rest, ?_, moved.captured⟩
        rw [moved.position, List.length_cons]
        exact Nat.add_right_comm position 1 taken.length
    · exact here among

theorem mem_run (among : d ∈ c.run set) : ∃ taken, (∀ x ∈ taken, set.has x = true) ∧ c.Over taken d :=
  (mem_runFrom among).resolve_left List.not_mem_nil

theorem mem_ends_run (among : d ∈ (run set greedy).ends c) : d ∈ c.run set := by
  rw [ends] at among
  cases greedy with
  | true => exact among
  | false => exact List.mem_reverse.1 among

theorem iterate_keeps {step : Cursor → List Cursor} {P : Cursor → Prop}
    (keeps : ∀ c, P c → ∀ d ∈ step c, P d) (first : P c) {fuel : Nat}
    (among : d ∈ iterate step greedy fuel c) : P d := by
  induction fuel generalizing c with
  | zero =>
    obtain rfl := List.mem_singleton.1 among
    exact first
  | succ fuel ih =>
    have onward : (d ∈ (step c).flatMap fun next =>
        if c.position < next.position then iterate step greedy fuel next else []) → P d := by
      intro further
      obtain ⟨next, stepped, further⟩ := List.mem_flatMap.1 further
      split at further
      · exact ih (keeps c first next stepped) further
      · cases further
    rw [iterate] at among
    -- To stop here comes last or first, and makes no difference to what is kept.
    cases greedy with
    | true =>
      rcases List.mem_append.1 among with further | same
      · exact onward further
      · obtain rfl := List.mem_singleton.1 same
        exact first
    | false =>
      rcases List.mem_cons.1 among with rfl | further
      · exact first
      · exact onward further

theorem mem_ends_char (among : d ∈ (char set).ends c) : ∃ x, set.has x = true ∧ c.Over [x] d := by
  obtain ⟨before, text, position, captured⟩ := c
  cases text with
  | nil => cases among
  | cons x text =>
    rw [ends] at among
    split at among
    · rename_i has
      obtain rfl := List.mem_singleton.1 among
      exact ⟨x, has, rfl, rfl, rfl⟩
    · cases among

theorem mem_ends_place {test : Bool} (among : d ∈ if test then [c] else []) : d = c ∧ test = true := by
  cases test with
  | true => exact ⟨List.mem_singleton.1 among, rfl⟩
  | false => cases among

theorem leaves_of_mem_ends (among : d ∈ pattern.ends c) : pattern.Leaves c.rest d.rest := by
  induction pattern generalizing c d with
  | empty =>
    obtain rfl := List.mem_singleton.1 among
    rfl
  | char set =>
    obtain ⟨x, has, moved⟩ := mem_ends_char among
    exact ⟨x, has, moved.rest⟩
  | start | boundary =>
    obtain ⟨rfl, -⟩ := mem_ends_place among
    rfl
  | finish =>
    obtain ⟨rfl, none⟩ := mem_ends_place among
    exact ⟨List.isEmpty_iff.1 none, List.isEmpty_iff.1 none⟩
  | seq first second ihFirst ihSecond =>
    obtain ⟨between, started, ended⟩ := List.mem_flatMap.1 among
    exact ⟨between.rest, ihFirst started, ihSecond ended⟩
  | alt preferred other ihPreferred ihOther =>
    exact (List.mem_append.1 among).imp ihPreferred ihOther
  | run set greedy =>
    obtain ⟨taken, all, moved⟩ := mem_run (mem_ends_run among)
    exact ⟨taken, all, moved.rest⟩
  | repeated body greedy ih =>
    exact iterate_keeps (P := fun d => Relation.ReflTransGen body.Leaves c.rest d.rest)
      (fun _ before _ stepped => before.tail (ih stepped)) .refl among
  | capture body ih =>
    obtain ⟨last, ended, rfl⟩ := List.mem_map.1 among
    exact ih (d := last) ended

theorem stretch_of_mem_ends (among : d ∈ pattern.ends c) :
    ∃ taken, c.rest = taken ++ d.rest ∧ d.position = c.position + taken.length := by
  -- Stretches that follow each other make one.
  have join : ∀ {a b e : Cursor}, (∃ taken, a.rest = taken ++ b.rest ∧ b.position = a.position + taken.length) →
      (∃ taken, b.rest = taken ++ e.rest ∧ e.position = b.position + taken.length) →
      ∃ taken, a.rest = taken ++ e.rest ∧ e.position = a.position + taken.length := by
    rintro a b e ⟨taken, rest, position⟩ ⟨more, rest', position'⟩
    refine ⟨taken ++ more, by rw [rest, rest', List.append_assoc], ?_⟩
    rw [position', position, List.length_append, Nat.add_assoc]
  induction pattern generalizing c d with
  | empty =>
    obtain rfl := List.mem_singleton.1 among
    exact ⟨[], rfl, rfl⟩
  | char set =>
    obtain ⟨x, -, moved⟩ := mem_ends_char among
    exact ⟨[x], moved.rest, moved.position⟩
  | start | finish | boundary =>
    obtain ⟨rfl, -⟩ := mem_ends_place among
    exact ⟨[], rfl, rfl⟩
  | seq first second ihFirst ihSecond =>
    obtain ⟨between, started, ended⟩ := List.mem_flatMap.1 among
    exact join (ihFirst started) (ihSecond ended)
  | alt preferred other ihPreferred ihOther =>
    exact (List.mem_append.1 among).elim ihPreferred ihOther
  | run set greedy =>
    obtain ⟨taken, -, moved⟩ := mem_run (mem_ends_run among)
    exact ⟨taken, moved.rest, moved.position⟩
  | repeated body greedy ih =>
    exact iterate_keeps
      (P := fun d => ∃ taken, c.rest = taken ++ d.rest ∧ d.position = c.position + taken.length)
      (fun _ before _ stepped => join before (ih stepped)) ⟨[], rfl, rfl⟩ among
  | capture body ih =>
    obtain ⟨last, ended, rfl⟩ := List.mem_map.1 among
    exact ih (d := last) ended

def isSilent : Pattern → Bool
  | .empty | .char _ | .start | .finish | .boundary | .run _ _ => true
  | .seq first second | .alt first second => first.isSilent && second.isSilent
  | .repeated body _ => body.isSilent
  | .capture _ => false

theorem captured_of_mem_ends (silent : pattern.isSilent = true) (among : d ∈ pattern.ends c) :
    d.captured = c.captured := by
  induction pattern generalizing c d with
  | empty =>
    obtain rfl := List.mem_singleton.1 among
    rfl
  | char set =>
    obtain ⟨x, -, moved⟩ := mem_ends_char among
    exact moved.captured
  | start | finish | boundary =>
    obtain ⟨rfl, -⟩ := mem_ends_place among
    rfl
  | seq first second ihFirst ihSecond =>
    rw [isSilent, Bool.and_eq_true] at silent
    obtain ⟨between, started, ended⟩ := List.mem_flatMap.1 among
    exact (ihSecond silent.2 ended).trans (ihFirst silent.1 started)
  | alt preferred other ihPreferred ihOther =>
    rw [isSilent, Bool.and_eq_true] at silent
    exact (List.mem_append.1 among).elim (ihPreferred silent.1) (ihOther silent.2)
  | run set greedy =>
    obtain ⟨taken, -, moved⟩ := mem_run (mem_ends_run among)
    exact moved.captured
  | repeated body greedy ih =>
    exact iterate_keeps (P := fun d => d.captured = c.captured)
      (fun _ before _ stepped => (ih silent stepped).trans before) rfl among
  | capture body => cases silent

/-! Finding matches -/

/-- The pattern repeats no part and does not look at its place. -/
def isPlain : Pattern → Bool
  | .empty | .char _ | .run _ _ => true
  | .start | .finish | .boundary | .repeated _ _ => false
  | .seq first second | .alt first second => first.isPlain && second.isPlain
  | .capture body => body.isPlain

theorem passed_mem_runFrom {before : Option Char} {position : Nat} {captured : Option Span} {passed : List Cursor}
    (among : d ∈ passed) : d ∈ Cursor.runFrom set before position captured passed text := by
  induction text generalizing before position passed with
  | nil => exact List.mem_cons_of_mem _ among
  | cons x text ih =>
    rw [Cursor.runFrom]
    split
    · exact ih (List.mem_cons_of_mem _ among)
    · exact List.mem_cons_of_mem _ among

theorem exists_mem_runFrom {before : Option Char} {position : Nat} {captured : Option Span} {passed : List Cursor}
    (all : ∀ x ∈ taken, set.has x = true) :
    ∃ d ∈ Cursor.runFrom set before position captured passed (taken ++ rest), d.rest = rest := by
  induction taken generalizing before position passed with
  | nil =>
    refine ⟨⟨before, rest, position, captured⟩, ?_, rfl⟩
    cases rest with
    | nil => exact List.mem_cons_self
    | cons x rest =>
      rw [List.nil_append, Cursor.runFrom]
      split
      · exact passed_mem_runFrom List.mem_cons_self
      · exact List.mem_cons_self
  | cons x taken ih =>
    obtain ⟨has, all⟩ := List.forall_mem_cons.1 all
    rw [List.cons_append, Cursor.runFrom, if_pos has]
    exact ih all

/-- A plain pattern has a match for everything that it can leave. -/
theorem exists_mem_ends (plain : pattern.isPlain = true) (leaves : pattern.Leaves c.rest rest) :
    ∃ d ∈ pattern.ends c, d.rest = rest := by
  induction pattern generalizing c rest with
  | empty => exact ⟨c, List.mem_singleton_self c, leaves⟩
  | char set =>
    obtain ⟨x, has, same⟩ := leaves
    obtain ⟨before, text, position, captured⟩ := c
    cases same
    refine ⟨⟨some x, rest, position + 1, captured⟩, ?_, rfl⟩
    have step : (char set).ends ⟨before, x :: rest, position, captured⟩ =
        [⟨some x, rest, position + 1, captured⟩] := if_pos has
    rw [step]
    exact List.mem_singleton_self _
  | start | finish | boundary | repeated => cases plain
  | seq first second ihFirst ihSecond =>
    rw [isPlain, Bool.and_eq_true] at plain
    obtain ⟨_, started, ended⟩ := leaves
    obtain ⟨between, mem, rfl⟩ := ihFirst plain.1 started
    obtain ⟨d, mem', same⟩ := ihSecond plain.2 ended
    exact ⟨d, List.mem_flatMap.2 ⟨between, mem, mem'⟩, same⟩
  | alt preferred other ihPreferred ihOther =>
    rw [isPlain, Bool.and_eq_true] at plain
    rcases leaves with leaves | leaves
    · obtain ⟨d, mem, same⟩ := ihPreferred plain.1 leaves
      exact ⟨d, List.mem_append_left _ mem, same⟩
    · obtain ⟨d, mem, same⟩ := ihOther plain.2 leaves
      exact ⟨d, List.mem_append_right _ mem, same⟩
  | run set greedy =>
    obtain ⟨taken, all, same⟩ := leaves
    obtain ⟨d, mem, left⟩ : ∃ d ∈ c.run set, d.rest = rest := by
      rw [Cursor.run, same]
      exact exists_mem_runFrom all
    refine ⟨d, ?_, left⟩
    rw [ends]
    cases greedy with
    | true => exact mem
    | false => exact List.mem_reverse.2 mem
  | capture body ih =>
    obtain ⟨d, mem, same⟩ := ih plain leaves
    exact ⟨c.capturing d, List.mem_map_of_mem mem, same⟩

theorem find?_start (pattern : Pattern) (line : List Char) :
    (seq start pattern).find? line = (pattern.ends (.atStart line)).head? := by
  have first : (seq start pattern).ends (.atStart line) = pattern.ends (.atStart line) := List.flatMap_singleton ..
  have later : ∀ (x : Char) (position : Nat) (text : List Char),
      (seq start pattern).findFrom? (some x) position text = none := by
    intro x position text
    induction text generalizing x position with
    | nil => rfl
    | cons y text ih => exact ih y (position + 1)
  cases line with
  | nil => exact congrArg List.head? first
  | cons x line =>
    rw [find?, findFrom?]
    cases found : (pattern.ends (.atStart (x :: line))).head? with
    | none => rw [← Cursor.atStart, first, found]; exact later x _ line
    | some d => rw [← Cursor.atStart, first, found]

theorem captured?_eq_none (none : ∀ rest, ¬pattern.Leaves line rest) :
    (seq start pattern).captured? line = .none := by
  have empty : pattern.ends (.atStart line) = [] :=
    List.eq_nil_iff_forall_not_mem.2 fun _ among => none _ (leaves_of_mem_ends among)
  rw [captured?, find?_start, empty]
  rfl

/-! Parts of patterns -/

def sequence : List Pattern → Pattern
  | [] => .empty
  | [last] => last
  | part :: parts => .seq part (sequence parts)

theorem mem_ends_cons : d ∈ (sequence (pattern :: parts)).ends c ↔
    ∃ between ∈ pattern.ends c, d ∈ (sequence parts).ends between := by
  cases parts with
  | nil => exact ⟨fun among => ⟨d, among, List.mem_singleton_self d⟩,
      fun ⟨between, started, same⟩ => (List.mem_singleton.1 same) ▸ started⟩
  | cons part parts => exact List.mem_flatMap

theorem mem_ends_append : d ∈ (sequence (earlier ++ parts)).ends c ↔
    ∃ between ∈ (sequence earlier).ends c, d ∈ (sequence parts).ends between := by
  induction earlier generalizing c with
  | nil => simp [sequence, ends]
  | cons part earlier ih =>
    rw [List.cons_append, mem_ends_cons]
    simp only [ih, mem_ends_cons]
    exact ⟨fun ⟨first, started, between, middle, ended⟩ => ⟨between, ⟨first, started, middle⟩, ended⟩,
      fun ⟨between, ⟨first, started, middle⟩, ended⟩ => ⟨first, started, between, middle, ended⟩⟩

theorem leaves_cons : (sequence (pattern :: parts)).Leaves text rest ↔
    ∃ between, pattern.Leaves text between ∧ (sequence parts).Leaves between rest := by
  cases parts with
  | nil => exact ⟨fun leaves => ⟨rest, leaves, rfl⟩, fun ⟨between, leaves, same⟩ => same ▸ leaves⟩
  | cons part parts => exact .rfl

theorem leaves_append : (sequence (earlier ++ parts)).Leaves text rest ↔
    ∃ between, (sequence earlier).Leaves text between ∧ (sequence parts).Leaves between rest := by
  induction earlier generalizing text with
  | nil => simp [sequence, Leaves]
  | cons part earlier ih =>
    rw [List.cons_append, leaves_cons]
    simp only [ih, leaves_cons]
    exact ⟨fun ⟨first, started, between, middle, ended⟩ => ⟨between, ⟨first, started, middle⟩, ended⟩,
      fun ⟨between, ⟨first, started, middle⟩, ended⟩ => ⟨first, started, between, middle, ended⟩⟩

/-- A plain pattern that can leave something captures what stands at the capture, if the parts around it allow
one text only. -/
theorem captured?_eq_some (plain : (sequence (earlier ++ capture body :: later)).isPlain = true)
    (silent : (sequence later).isSilent = true)
    (leaves : (sequence (earlier ++ capture body :: later)).Leaves line rest)
    (only : ∀ first last rest, (sequence earlier).Leaves line first → body.Leaves first last →
      (sequence later).Leaves last rest → first = word ++ last) :
    (seq start (sequence (earlier ++ capture body :: later))).captured? line = some word := by
  obtain ⟨_, possible, -⟩ := exists_mem_ends (c := .atStart line) plain leaves
  obtain ⟨d, preferred⟩ := Option.ne_none_iff_exists'.1 (mt List.head?_eq_none_iff.1 (List.ne_nil_of_mem possible))
  obtain ⟨first, before, among⟩ := mem_ends_append.1 (List.mem_of_head? preferred)
  obtain ⟨_, inside, after⟩ := mem_ends_cons.1 among
  rw [ends] at inside
  obtain ⟨last, within, rfl⟩ := List.mem_map.1 inside
  have captured : d.captured = some ⟨first.rest, last.position - first.position⟩ :=
    captured_of_mem_ends silent after
  obtain ⟨taken, stretch, position⟩ := stretch_of_mem_ends within
  have behind : (sequence later).Leaves last.rest d.rest := leaves_of_mem_ends (c := first.capturing last) after
  have same : first.rest = word ++ last.rest :=
    only first.rest last.rest d.rest (leaves_of_mem_ends before) (leaves_of_mem_ends within) behind
  obtain rfl : taken = word := List.append_cancel_right (stretch.symm.trans same)
  rw [captured?, find?_start, preferred, Option.bind_some, captured, Option.map_some, Span.text, position,
    Nat.add_sub_cancel_left, stretch, List.take_left]

end Waymark.Pattern
