import Waymark.Proofs.Text.Trim
import Waymark.Proofs.Version

/-! Which texts are versions. Three counters stand between two points, each with or without a plus sign and
with any number of leading zeros; any number of `v` may stand in front, and blanks around all of it. No
other text is read, and the text that a version is written as is one of these.
-/

set_option autoImplicit false

namespace Waymark

namespace Count

open Text.Decimal

variable {n : Count} {text : List Char}

/-- The texts that a counter is read from: digits that make it up, with or without a plus sign. -/
inductive Written (n : Count) : List Char → Prop where
  | plain {digits : List Char} (numeral : IsNumeral digits n.toNat) : Written n digits
  | signed {digits : List Char} (numeral : IsNumeral digits n.toNat) : Written n ('+' :: digits)

theorem ofNat?_eq_some_iff {value : Nat} : ofNat? value = some n ↔ value = n.toNat := by
  have fits : n.toNat < limit := n.toNat_lt
  rw [ofNat?]
  split
  · rename_i small
    rw [Option.some.injEq]
    constructor
    · rintro rfl
      exact (UInt64.toNat_ofNat_of_lt' small).symm
    · intro same
      rw [same]
      exact UInt64.ofNat_toNat
  · rename_i large
    constructor
    · intro none
      cases none
    · rintro rfl
      exact absurd fits large

theorem read?_eq_some_iff : read? text = some n ↔ Written n text := by
  have numeral : ∀ digits, (Text.Decimal.read? digits).bind ofNat? = some n ↔ IsNumeral digits n.toNat := by
    intro digits
    simp only [Option.bind_eq_some_iff, Text.Decimal.read?_eq_some_iff, ofNat?_eq_some_iff, exists_eq_right]
  unfold read?
  split
  · rename_i rest
    rw [numeral]
    constructor
    · exact .signed
    · intro written
      cases written with
      | signed numeral => exact numeral
      | plain numeral => cases numeral.digit '+' List.mem_cons_self
  · rename_i unsigned
    rw [numeral]
    constructor
    · exact .plain
    · intro written
      cases written with
      | plain numeral => exact numeral
      | signed numeral => exact absurd rfl (unsigned _)

theorem written_text (n : Count) : Written n n.text := .plain (isNumeral_write n.toNat)

namespace Written

theorem ne_nil (written : Written n text) : text ≠ [] := by
  cases written with
  | plain numeral => exact numeral.some
  | signed numeral => exact List.cons_ne_nil _ _

theorem sign_or_digit {c : Char} (written : Written n text) (member : c ∈ text) : c = '+' ∨ c.isDigit = true := by
  cases written with
  | plain numeral => exact .inr (numeral.digit c member)
  | signed numeral => exact (List.mem_cons.1 member).imp_right (numeral.digit c)

end Written

end Count

namespace Version

variable {v : Version} {text body : List Char}

inductive Dotted (v : Version) : List Char → Prop where
  | counters {major minor patch : List Char} (first : v.major.Written major) (second : v.minor.Written minor)
    (third : v.patch.Written patch) : Dotted v (major ++ '.' :: minor ++ '.' :: patch)

inductive Written (v : Version) : List Char → Prop where
  | padded {before body after : List Char} (marks : Nat) (blank : ∀ c ∈ before, Text.isBlank c = true)
    (blank' : ∀ c ∈ after, Text.isBlank c = true) (dotted : Dotted v body) :
    Written v (before ++ (List.replicate marks 'v' ++ body) ++ after)

theorem dotted_text (v : Version) : Dotted v v.text :=
  .counters v.major.written_text v.minor.written_text v.patch.written_text

namespace Dotted

theorem visible {c : Char} (dotted : Dotted v body) (member : c ∈ body) : Text.isBlank c = false := by
  obtain ⟨first, second, third⟩ := dotted
  have part : ∀ {n : Count} {text : List Char}, n.Written text → c ∈ text → Text.isBlank c = false := by
    intro n text written inside
    rcases written.sign_or_digit inside with rfl | digit
    · rfl
    · exact Text.not_isBlank_of_isDigit digit
  simp only [List.mem_append, List.mem_cons] at member
  rcases member with (inside | rfl | inside) | rfl | inside
  · exact part first inside
  · rfl
  · exact part second inside
  · rfl
  · exact part third inside

theorem dropWhile_marks (dotted : Dotted v body) (marks : Nat) :
    (List.replicate marks 'v' ++ body).dropWhile (· == 'v') = body := by
  rw [List.dropWhile_append_of_pos fun c member => by simp [List.eq_of_mem_replicate member]]
  obtain ⟨first, second, third⟩ := dotted
  rename_i major minor patch
  obtain ⟨c, rest, rfl⟩ := List.exists_cons_of_ne_nil first.ne_nil
  have unmarked : c ≠ 'v' := by
    rintro rfl
    rcases first.sign_or_digit List.mem_cons_self with sign | digit
    · cases sign
    · cases digit
  exact List.dropWhile_cons_of_neg (by simp [unmarked])

theorem split_eq (dotted : Dotted v body) : ∃ major minor patch, Text.split '.' body = [major, minor, patch] ∧
    v.major.Written major ∧ v.minor.Written minor ∧ v.patch.Written patch := by
  obtain ⟨first, second, third⟩ := dotted
  rename_i major minor patch
  have plain : ∀ {n : Count} {text : List Char}, n.Written text → '.' ∉ text := by
    intro n text written point
    rcases written.sign_or_digit point with sign | digit
    · cases sign
    · cases digit
  refine ⟨major, minor, patch, ?_, first, second, third⟩
  rw [Text.split_eq_iff]
  refine ⟨List.cons_ne_nil _ _, ?_, by simp [Text.join]⟩
  simp only [List.forall_mem_cons]
  exact ⟨plain first, plain second, plain third, fun _ none => by cases none⟩

theorem of_split {major minor patch : List Char} (pieces : Text.split '.' body = [major, minor, patch])
    (first : v.major.Written major) (second : v.minor.Written minor) (third : v.patch.Written patch) :
    Dotted v body := by
  obtain ⟨-, -, rfl⟩ := Text.split_eq_iff.1 pieces
  have dotted := counters first second third
  simpa [Text.join] using dotted

end Dotted

theorem read?_eq_some_iff : read? text = some v ↔ Written v text := by
  constructor
  · intro read
    unfold read? at read
    split at read
    · rename_i major minor patch pieces
      obtain ⟨first, isFirst, read⟩ := Option.bind_eq_some_iff.1 read
      obtain ⟨second, isSecond, read⟩ := Option.bind_eq_some_iff.1 read
      obtain ⟨third, isThird, read⟩ := Option.bind_eq_some_iff.1 read
      cases read
      have dotted : Dotted ⟨first, second, third⟩ ((Text.trim text).dropWhile (· == 'v')) :=
        .of_split pieces (Count.read?_eq_some_iff.1 isFirst) (Count.read?_eq_some_iff.1 isSecond)
          (Count.read?_eq_some_iff.1 isThird)
      -- What reading drops is what may stand around the numbers: blanks, and marks inside of them.
      obtain ⟨before, after, same, blank, blank'⟩ := Text.trim_spec text
      have marks : (Text.trim text).takeWhile (· == 'v') =
          List.replicate ((Text.trim text).takeWhile (· == 'v')).length 'v' :=
        List.eq_replicate_of_mem fun c member => by simpa using List.all_eq_true.1 List.all_takeWhile c member
      have written := Written.padded ((Text.trim text).takeWhile (· == 'v')).length blank blank' dotted
      rwa [← marks, List.takeWhile_append_dropWhile, ← same] at written
    · cases read
  · rintro ⟨marks, blank, blank', dotted⟩
    rename_i before body after
    have visible : ∀ c ∈ List.replicate marks 'v' ++ body, Text.isBlank c = false := by
      intro c member
      rcases List.mem_append.1 member with mark | inside
      · rw [List.eq_of_mem_replicate mark]
        rfl
      · exact dotted.visible inside
    obtain ⟨major, minor, patch, pieces, first, second, third⟩ := dotted.split_eq
    rw [read?, Text.trim_padded _ blank blank', Text.trim_plain visible, dotted.dropWhile_marks, pieces]
    simp [Count.read?_eq_some_iff.2 first, Count.read?_eq_some_iff.2 second, Count.read?_eq_some_iff.2 third]

/-- A text is read exactly if a version is written in it, every other one is handed back as it was, and what a
version is written as reads back, so different versions are written differently. -/
theorem parse_iff_written : (∀ (text : String) (v : Version), parse text = .ok v ↔ Written v text.toList) ∧
    (∀ text malformed, parse text = .error malformed ↔ malformed = ⟨text⟩ ∧ ∀ v, ¬Written v text.toList) ∧
    (∀ (v : Version) (marks : Nat) (before after : List Char), (∀ c ∈ before, Text.isBlank c = true) →
      (∀ c ∈ after, Text.isBlank c = true) →
      parse (String.ofList (before ++ (List.replicate marks 'v' ++ v.toText.toList) ++ after)) = .ok v) ∧
    Function.Injective toText := by
  have accepts : ∀ (text : String) (v : Version), parse text = .ok v ↔ Written v text.toList := by
    intro text v
    rw [← read?_eq_some_iff, parse]
    cases read? text.toList <;> simp
  refine ⟨accepts, fun text malformed => ?_, fun v marks before after blank blank' => ?_, fun v w same => ?_⟩
  · simp only [← read?_eq_some_iff, parse]
    cases read? text.toList <;> simp [eq_comm]
  · rw [accepts, toText, String.toList_ofList, String.toList_ofList]
    exact .padded marks blank blank' v.dotted_text
  · have read := parse_toText v
    rw [same, parse_toText w] at read
    exact (Except.ok.inj read).symm

/-- The greatest counter, behind a space that does not break and two marks. -/
theorem parse_iff_written_greatest : (∀ c ∈ ['\u00a0'], Text.isBlank c = true) ∧
    (∀ c ∈ ['\t', '\n'], Text.isBlank c = true) ∧
    parse (String.ofList (['\u00a0'] ++ (List.replicate 2 'v' ++
      (toText ⟨18446744073709551615, 0, 7⟩).toList) ++ ['\t', '\n'])) = .ok ⟨18446744073709551615, 0, 7⟩ :=
  have blank : ∀ c ∈ ['\u00a0'], Text.isBlank c = true := List.all_eq_true.1 (by decide)
  have blank' : ∀ c ∈ ['\t', '\n'], Text.isBlank c = true := List.all_eq_true.1 (by decide)
  ⟨blank, blank', parse_iff_written.2.2.1 ⟨18446744073709551615, 0, 7⟩ 2 ['\u00a0'] ['\t', '\n'] blank blank'⟩

end Version

end Waymark
