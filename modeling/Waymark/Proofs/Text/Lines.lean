import Mathlib.Data.List.DropRight
import Mathlib.Data.List.Induction
import Waymark.Proofs.Text.Pieces
import Waymark.Text.Blank

/-! Lines are the pieces between line feeds, each without one return at its end. Blanks at the end of a text
are what trimming takes, whatever stands before them.
-/

set_option autoImplicit false

namespace Waymark.Text

variable {c : Char} {text rest part : List Char} {pieces : List (List Char)}

def withoutReturn (piece : List Char) : List Char := (dropReturn piece.reverse).reverse

theorem linesFrom_append (open' text rest : List Char) : ∃ piece pieces, split '\n' text = piece :: pieces ∧
    linesFrom open' (text ++ '\n' :: rest) =
      (dropReturn (piece.reverse ++ open')).reverse :: pieces.map withoutReturn ++ lines rest := by
  induction text generalizing open' with
  | nil => exact ⟨[], [], rfl, rfl⟩
  | cons c text ih =>
    by_cases ends : c = '\n'
    · subst ends
      obtain ⟨piece, pieces, same, read⟩ := ih []
      refine ⟨[], piece :: pieces, by rw [split_separator, same], ?_⟩
      rw [List.append_nil] at read
      rw [List.cons_append, linesFrom, if_pos rfl, read]
      rfl
    · obtain ⟨piece, pieces, same, read⟩ := ih (c :: open')
      obtain ⟨piece', pieces', same', whole⟩ := split_cons ends text
      rw [same] at same'
      cases same'
      refine ⟨_, _, whole, ?_⟩
      rw [List.cons_append, linesFrom, if_neg ends, read, List.reverse_cons, List.append_assoc]
      rfl

theorem lines_feed (text rest : List Char) :
    lines (text ++ '\n' :: rest) = (split '\n' text).map withoutReturn ++ lines rest := by
  obtain ⟨piece, pieces, same, read⟩ := linesFrom_append [] text rest
  rw [List.append_nil] at read
  rw [lines, read, same]
  rfl

/-- The text with one line more, which is put in above the line of an index and ended by a line feed. -/
def insertLine (line : List Char) : Nat → List Char → List Char
  | 0, text => line ++ '\n' :: text
  | _ + 1, [] => []
  | index + 1, c :: rest => c :: insertLine line (if c = '\n' then index else index + 1) rest

theorem lines_insertLine_first {line : List Char} (plain : '\n' ∉ line) (text : List Char) :
    lines (insertLine line 0 text) = withoutReturn line :: lines text := by
  rw [insertLine, lines_feed, split_plain plain]
  rfl

theorem lines_insertLine {line : List Char} {index : Nat} (plain : '\n' ∉ line)
    (inside : index < (lines text).length) :
    lines (insertLine line index text) = (lines text).insertIdx index (withoutReturn line) := by
  -- Along the text: the line is put in behind a line feed, or in front of all.
  have behind : ∀ open' index, index + 1 < (linesFrom open' text).length →
      linesFrom open' (insertLine line (index + 1) text) =
        (linesFrom open' text).insertIdx (index + 1) (withoutReturn line) := by
    clear inside
    induction text with
    | nil =>
      intro open' index inside
      rw [linesFrom] at inside
      split at inside <;> simp at inside
    | cons c rest ih =>
      intro open' index inside
      rw [linesFrom] at inside
      rw [insertLine, linesFrom, linesFrom]
      by_cases ends : c = '\n'
      · rw [if_pos ends, List.length_cons] at inside
        rw [if_pos ends, if_pos ends, if_pos ends, List.insertIdx_succ_cons]
        cases index with
        | zero => exact congrArg _ (lines_insertLine_first plain rest)
        | succ index => exact congrArg _ (ih [] index (Nat.lt_of_succ_lt_succ inside))
      · rw [if_neg ends] at inside
        rw [if_neg ends, if_neg ends, if_neg ends]
        exact ih (c :: open') index inside
  cases index with
  | zero => exact lines_insertLine_first plain text
  | succ index => exact behind [] index inside

theorem mem_of_mem_dropReturn {line : List Char} (member : c ∈ dropReturn line) : c ∈ line := by
  unfold dropReturn at member
  split at member
  · exact List.mem_cons_of_mem _ member
  · exact member

theorem not_mem_lines {line : List Char} (member : line ∈ lines text) : '\n' ∉ line := by
  -- Nothing is known of a line while it is open but that it has no line feed so far.
  have from' : ∀ open', '\n' ∉ open' → line ∈ linesFrom open' text → '\n' ∉ line := by
    clear member
    induction text with
    | nil =>
      intro open' plain member
      unfold linesFrom at member
      split at member
      · cases member
      · rw [List.mem_singleton.1 member, List.mem_reverse]
        exact plain
    | cons c text ih =>
      intro open' plain member
      unfold linesFrom at member
      split at member
      · rcases List.mem_cons.1 member with rfl | member
        · rw [List.mem_reverse]
          exact fun inside => plain (mem_of_mem_dropReturn inside)
        · exact ih [] List.not_mem_nil member
      · rename_i goesOn
        refine ih (c :: open') (fun inside => ?_) member
        rcases List.mem_cons.1 inside with same | inside
        · exact goesOn same.symm
        · exact plain inside
  exact from' [] List.not_mem_nil member

theorem split_lines (plain : ∀ piece ∈ pieces, '\n' ∉ piece) :
    split '\n' (pieces.flatMap (· ++ ['\n'])) = pieces ++ [[]] := by
  induction pieces with
  | nil => rfl
  | cons piece pieces ih =>
    rw [List.flatMap_cons, List.append_assoc, List.singleton_append, split_append,
      split_plain (plain piece List.mem_cons_self), ih fun piece among => plain piece (List.mem_cons_of_mem _ among)]
    rfl

theorem split_concat {separator : Char} (plain : c ≠ separator) (text : List Char) :
    ∃ front last, split separator text = front ++ [last] ∧
      split separator (text ++ [c]) = front ++ [last ++ [c]] := by
  induction text with
  | nil => exact ⟨[], [], rfl, split_plain (by simpa using plain.symm)⟩
  | cons d text ih =>
    obtain ⟨front, last, before, after⟩ := ih
    by_cases same : d = separator
    · subst same
      refine ⟨[] :: front, last, ?_, ?_⟩
      · rw [split_separator, before]
        rfl
      · rw [List.cons_append, split_separator, after]
        rfl
    · obtain ⟨piece, pieces, here, whole⟩ := split_cons same text
      obtain ⟨piece', pieces', here', whole'⟩ := split_cons same (text ++ [c])
      rw [before] at here
      rw [after] at here'
      rw [List.cons_append]
      -- The first character belongs to the last piece only where that is the only one.
      cases front with
      | nil =>
        cases here
        cases here'
        exact ⟨[], _, whole, whole'⟩
      | cons first more =>
        cases here
        cases here'
        exact ⟨_ :: more, last, whole, whole'⟩

theorem join_concat (separator : List Char) (front : List (List Char)) (last : List Char) :
    join separator (front ++ [last]) = front.flatMap (· ++ separator) ++ last := by
  induction front with
  | nil => rfl
  | cons first front ih =>
    have step : join separator (first :: (front ++ [last])) =
        first ++ separator ++ join separator (front ++ [last]) := by
      cases front <;> rfl
    rw [List.cons_append, step, ih, List.flatMap_cons, List.append_assoc _ _ last]

/-! Characters dropped at the end -/

section
variable (drop : Char → Bool) (text : List Char)

theorem dropWhileEnd_append (front : List Char) : dropWhileEnd drop (front ++ text) =
    if (dropWhileEnd drop text).isEmpty then dropWhileEnd drop front else front ++ dropWhileEnd drop text := by
  rw [dropWhileEnd, List.reverse_append, List.dropWhile_append, dropWhileEnd, List.isEmpty_reverse]
  split
  · rfl
  · rw [List.reverse_append, List.reverse_reverse]

theorem dropWhileEnd_concat (c : Char) :
    dropWhileEnd drop (text ++ [c]) = if drop c then dropWhileEnd drop text else text ++ [c] :=
  List.rdropWhile_concat drop text c

theorem dropWhileEnd_spec : ∃ dropped, text = dropWhileEnd drop text ++ dropped ∧ ∀ c ∈ dropped, drop c = true := by
  refine ⟨(text.reverse.takeWhile drop).reverse, ?_, fun c among => ?_⟩
  · rw [dropWhileEnd, ← List.reverse_append, List.takeWhile_append_dropWhile, List.reverse_reverse]
  · exact List.all_eq_true.1 List.all_takeWhile c (List.mem_reverse.1 among)

end

/-! Blanks -/

theorem trimEnd_concat (text : List Char) (blank : isBlank c = true) : trimEnd (text ++ [c]) = trimEnd text :=
  (dropWhileEnd_concat isBlank text c).trans (if_pos blank)

theorem trimEnd_visible (text : List Char) (visible : isBlank c = false) : trimEnd (text ++ [c]) = text ++ [c] :=
  (dropWhileEnd_concat isBlank text c).trans (if_neg (by simp [visible]))

theorem trimEnd_blanks (text : List Char) (blank : ∀ c ∈ rest, isBlank c = true) :
    trimEnd (text ++ rest) = trimEnd text := by
  have none : dropWhileEnd isBlank rest = [] := List.rdropWhile_eq_nil_iff.2 blank
  rw [trimEnd, dropWhileEnd_append, none]
  rfl

theorem trimEnd_spec (text : List Char) :
    ∃ blanks, text = trimEnd text ++ blanks ∧ ∀ c ∈ blanks, isBlank c = true := dropWhileEnd_spec isBlank text

theorem trimEnd_induction {motive : List Char → Prop} (text : List Char) (whole : motive text)
    (shorter : ∀ text c, isBlank c = true → motive (text ++ [c]) → motive text) : motive (trimEnd text) := by
  obtain ⟨blanks, same, blank⟩ := trimEnd_spec text
  rw [same] at whole
  generalize trimEnd text = trimmed at whole
  clear same
  induction blanks using List.reverseRecOn with
  | nil => rwa [List.append_nil] at whole
  | append_singleton blanks c ih =>
    rw [← List.append_assoc] at whole
    have last := blank c (List.mem_append_right _ List.mem_cons_self)
    exact ih (fun d among => blank d (List.mem_append_left _ among)) (shorter _ c last whole)

theorem trim_concat (text : List Char) (blank : isBlank c = true) : trim (text ++ [c]) = trim text := by
  rw [trim, trim, trimStart, List.dropWhile_append]
  split
  · rename_i nothing
    rw [List.dropWhile_cons_of_pos blank, List.dropWhile_nil, trimStart, List.isEmpty_iff.1 nothing]
  · exact trimEnd_concat _ blank

theorem trimEnd_lines (pieces : List (List Char)) :
    trimEnd (pieces.flatMap (· ++ ['\n'])) = trimEnd (join ['\n'] pieces) := by
  rcases List.eq_nil_or_concat pieces with rfl | ⟨front, last, rfl⟩
  · rfl
  · rw [List.concat_eq_append, join_concat, List.flatMap_append, List.flatMap_singleton, ← List.append_assoc,
      trimEnd_concat _ (by decide)]

theorem withoutReturn_spec (piece : List Char) :
    piece = withoutReturn piece ∨ piece = withoutReturn piece ++ ['\r'] := by
  unfold withoutReturn dropReturn
  split
  · rename_i line reversed
    right
    rw [← List.reverse_cons, ← reversed, List.reverse_reverse]
  · left
    rw [List.reverse_reverse]

/-! Where a part occurs -/

theorem occursIn_iff : occursIn part text = true ↔ part <:+: text := by
  induction text with
  | nil => rw [occursIn, List.isEmpty_iff, List.infix_nil]
  | cons c text ih => rw [occursIn, Bool.or_eq_true, ih, List.isPrefixOf_iff_prefix, List.infix_cons_iff]

end Waymark.Text
