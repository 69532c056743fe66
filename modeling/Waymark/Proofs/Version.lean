import Waymark.Proofs.Text.Decimal
import Waymark.Proofs.Text.Pieces
import Waymark.Version

/-! Counters and versions are read back from their texts. -/

set_option autoImplicit false

namespace Waymark

theorem Text.not_isBlank_of_isDigit {c : Char} (digit : c.isDigit = true) : Text.isBlank c = false := by
  have bounds : 0x30 ≤ c.toNat ∧ c.toNat ≤ 0x39 := by
    simp only [Char.isDigit, Bool.and_eq_true, decide_eq_true_eq] at digit
    exact ⟨digit.1, digit.2⟩
  simp only [Text.isBlank, Text.CharSet.has, List.any_eq_false]
  intro range member
  simp only [Text.blanks, List.mem_cons, List.not_mem_nil, or_false] at member
  rcases member with rfl | rfl | rfl | rfl | rfl | rfl | rfl | rfl | rfl | rfl <;>
    simp only [Bool.and_eq_true, decide_eq_true_eq, not_and, Nat.not_le] <;> omega

theorem Text.trim_plain {text : List Char} (plain : ∀ c ∈ text, Text.isBlank c = false) :
    Text.trim text = text := by
  have start : ∀ text : List Char, (∀ c ∈ text, Text.isBlank c = false) →
      text.dropWhile Text.isBlank = text := by
    intro text plain
    cases text with
    | nil => rfl
    | cons c text => rw [List.dropWhile_cons_of_neg (by simp [plain c])]
  rw [Text.trim, Text.trimStart, start text plain, Text.trimEnd, Text.dropWhileEnd,
    start text.reverse fun c member => plain c (List.mem_reverse.1 member), List.reverse_reverse]

theorem Count.isDigit_of_mem_text {n : Count} {c : Char} (member : c ∈ n.text) : c.isDigit = true :=
  Text.Decimal.isDigit_of_mem_write member

theorem Count.read?_text (n : Count) : Count.read? n.text = some n := by
  have unsigned : ∀ rest, n.text ≠ '+' :: rest := by
    intro rest same
    have digit : ('+' : Char).isDigit = true := isDigit_of_mem_text (same ▸ List.mem_cons_self)
    cases digit
  have digits : Count.read? n.text = (Text.Decimal.read? n.text).bind Count.ofNat? := by
    unfold Count.read?
    split
    · rename_i rest same
      exact absurd same (unsigned rest)
    · rfl
  have value : Text.Decimal.read? n.text = some n.toNat := Text.Decimal.read?_write n.toNat
  have fits : n.toNat < Count.limit := n.toNat_lt
  rw [digits, value, Option.bind_some, Count.ofNat?, if_pos fits, UInt64.ofNat_toNat]

namespace Version

theorem split_text (v : Version) : Text.split '.' v.text = [v.major.text, v.minor.text, v.patch.text] := by
  have plain : ∀ n : Count, Text.split '.' n.text = [n.text] := by
    intro n
    apply Text.split_plain
    intro point
    cases Count.isDigit_of_mem_text point
  rw [text, List.append_assoc, List.cons_append, Text.split_append, Text.split_append, plain, plain, plain]
  rfl

theorem read?_text (v : Version) : read? v.text = some v := by
  have plain : ∀ c ∈ v.text, Text.isBlank c = false := by
    intro c member
    simp only [text, List.mem_append, List.mem_cons] at member
    rcases member with (member | rfl | member) | rfl | member
    · exact Text.not_isBlank_of_isDigit (Count.isDigit_of_mem_text member)
    · rfl
    · exact Text.not_isBlank_of_isDigit (Count.isDigit_of_mem_text member)
    · rfl
    · exact Text.not_isBlank_of_isDigit (Count.isDigit_of_mem_text member)
  -- The text starts with a digit, so there is no letter to drop in front.
  have unmarked : v.text.dropWhile (· == 'v') = v.text := by
    cases digits : v.major.text with
    | nil => exact absurd digits (Text.Decimal.write_ne_nil _)
    | cons c rest =>
      have digit : c.isDigit = true := Count.isDigit_of_mem_text (digits ▸ List.mem_cons_self)
      have apart : c ≠ 'v' := by
        rintro rfl
        cases digit
      rw [text, digits, List.cons_append, List.cons_append, List.dropWhile_cons_of_neg (by simp [apart])]
  rw [read?, Text.trim_plain plain, unmarked, split_text]
  simp [Count.read?_text]

theorem parse_toText (v : Version) : parse v.toText = .ok v := by
  rw [parse, toText, String.toList_ofList, read?_text]
  rfl

end Version

end Waymark
