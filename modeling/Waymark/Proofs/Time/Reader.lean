import Waymark.Proofs.Version
import Waymark.Time.Reader

/-! Times are read back from their texts, leap seconds and years of more than four digits included. -/

set_option autoImplicit false

namespace Waymark.Time

open Text

variable {α β : Type} {chars rest after digits : List Char} {n : Nat}

/-! Readers step by step -/

theorem Scan.bind_of_some {x : Scan α} {f : α → Scan β} {value : α} (h : x chars = some (value, rest)) :
    (x >>= f) chars = f value rest := by
  have unfolded : (x >>= f) chars = (x chars).bind fun read => f read.1 read.2 := rfl
  rw [unfolded, h, Option.bind_some]

theorem Scan.pure_apply (value : α) (chars : List Char) : (pure value : Scan α) chars = some (value, chars) := rfl

theorem Scan.blanks_visible {c : Char} (visible : isBlank c = false) (rest : List Char) :
    Scan.blanks (c :: rest) = some ((), c :: rest) := by
  have unfolded : Scan.blanks (c :: rest) = some ((), trimStart (c :: rest)) := rfl
  rw [unfolded, trimStart, List.dropWhile_cons_of_neg (by simp [visible])]

theorem Scan.literal_cons (c : Char) (rest : List Char) : Scan.literal c (c :: rest) = some ((), rest) :=
  if_pos rfl

theorem takeWhile_digits (all : ∀ c ∈ digits, c.isDigit = true) :
    digits.takeWhile Char.isDigit = digits := by
  have stops : ∀ c ∈ ([] : List Char).head?, c.isDigit = false := by simp
  have whole := (Text.Decimal.takeWhile_append all stops).1
  rwa [List.append_nil] at whole

theorem Scan.number_full (least : Nat) (all : ∀ c ∈ digits, c.isDigit = true)
    (enough : least ≤ digits.length) (rest : List Char) :
    Scan.number least (some digits.length) (digits ++ rest) = some (Text.Decimal.value digits, rest) := by
  have taken : (digits ++ rest).take digits.length = digits := List.take_left
  simp only [Scan.number, Option.elim_some, taken, takeWhile_digits all, List.drop_left]
  rw [if_neg (by omega)]

theorem Scan.number_ends (least : Nat) (all : ∀ c ∈ digits, c.isDigit = true)
    (enough : least ≤ digits.length) (ends : ∀ c ∈ rest.head?, c.isDigit = false) :
    Scan.number least none (digits ++ rest) = some (Text.Decimal.value digits, rest) := by
  have taken := (Text.Decimal.takeWhile_append all ends).1
  simp only [Scan.number, Option.elim_none, taken, List.drop_left]
  rw [if_neg (by omega)]

/-! Fields -/

theorem length_twoDigits (small : n < 100) : (twoDigits n).length = 2 :=
  Text.Decimal.length_writePadded small (by decide)

theorem isDigit_of_mem_twoDigits {c : Char} (member : c ∈ twoDigits n) : c.isDigit = true :=
  Text.Decimal.isDigit_of_mem_writePadded member

theorem Relaxed.field_twoDigits (small : n < 100) (rest : List Char) :
    Relaxed.field (twoDigits n ++ rest) = some (n, rest) := by
  have length := length_twoDigits small
  have number := Scan.number_full 1 (fun c => isDigit_of_mem_twoDigits (n := n)) (by omega) rest
  rw [length, twoDigits, Text.Decimal.value_writePadded, ← twoDigits] at number
  have visible : Scan.blanks (twoDigits n ++ rest) = some ((), twoDigits n ++ rest) := by
    cases digits : twoDigits n with
    | nil => rw [digits] at length; cases length
    | cons c more =>
      have digit : c.isDigit = true := isDigit_of_mem_twoDigits (n := n) (digits ▸ List.mem_cons_self)
      exact Scan.blanks_visible (not_isBlank_of_isDigit digit) _
  rw [Relaxed.field, Scan.bind_of_some visible, number]

theorem Relaxed.fieldAfter_twoDigits {separator : Char} (visible : isBlank separator = false)
    (small : n < 100) (rest : List Char) :
    Relaxed.fieldAfter separator (separator :: (twoDigits n ++ rest)) = some (n, rest) := by
  rw [Relaxed.fieldAfter, Scan.bind_of_some (Scan.blanks_visible visible _),
    Scan.bind_of_some (Scan.literal_cons separator _), Relaxed.field_twoDigits small]

theorem Scan.year_unsigned {least : Nat} {most : Option Nat} {c : Char} (digit : c.isDigit = true)
    (h : Scan.number least most (c :: rest) = some (n, after)) :
    Scan.year least most (c :: rest) = some ((n : Int), after) := by
  have whole : (get : Scan (List Char)) (c :: rest) = some (c :: rest, c :: rest) := rfl
  have unsigned : (do return (← Scan.number least most : Nat) : Scan Int) (c :: rest) = some ((n : Int), after) := by
    rw [Scan.bind_of_some h, Scan.pure_apply]
  rw [Scan.year, Scan.bind_of_some whole, ← unsigned]
  refine congrFun ?_ (c :: rest)
  split
  · rename_i same
    cases same
    cases digit
  · rename_i same
    cases same
    cases digit
  · rfl

theorem Scan.year_negative {least : Nat} {most : Option Nat} (h : Scan.number least none chars = some (n, rest)) :
    Scan.year least most ('-' :: chars) = some (-(n : Int), rest) := by
  have unfolded : Scan.year least most ('-' :: chars) =
      (do return -((← Scan.number least none : Nat) : Int) : Scan Int) chars := rfl
  rw [unfolded, Scan.bind_of_some h, Scan.pure_apply]

theorem Scan.year_positive {least : Nat} {most : Option Nat} (h : Scan.number least none chars = some (n, rest)) :
    Scan.year least most ('+' :: chars) = some ((n : Int), rest) := by
  have unfolded : Scan.year least most ('+' :: chars) =
      (do return ((← Scan.number least none : Nat) : Int) : Scan Int) chars := rfl
  rw [unfolded, Scan.bind_of_some h, Scan.pure_apply]

theorem Scan.year_yearText (year : Int) (rest : List Char) :
    Scan.year 1 (some 4) (yearText year ++ '-' :: rest) = some (year, '-' :: rest) := by
  have all : ∀ c ∈ Text.Decimal.writePadded 4 year.natAbs, c.isDigit = true := fun c =>
    Text.Decimal.isDigit_of_mem_writePadded
  have enough := List.length_pos_iff.2 (Text.Decimal.writePadded_ne_nil 4 year.natAbs)
  have stops : ∀ c ∈ ('-' :: rest).head?, c.isDigit = false := fun c first => by
    cases first
    rfl
  have signed := Scan.number_ends 1 all enough stops
  rw [Text.Decimal.value_writePadded] at signed
  -- Four digits are read without a sign. Any other year has one, and its digits end at the hyphen.
  by_cases plain : 0 ≤ year ∧ year ≤ 9999
  · have text : yearText year = Text.Decimal.writePadded 4 year.natAbs := if_pos (by simp [plain])
    have short : year.natAbs < 10 ^ 4 := by omega
    have length := Text.Decimal.length_writePadded short (by decide)
    have number := Scan.number_full 1 all enough ('-' :: rest)
    rw [length, Text.Decimal.value_writePadded] at number
    rw [text]
    cases digits : Text.Decimal.writePadded 4 year.natAbs with
    | nil => exact absurd digits (Text.Decimal.writePadded_ne_nil _ _)
    | cons c more =>
      rw [digits, List.cons_append] at number
      rw [List.cons_append, Scan.year_unsigned (all c (digits ▸ List.mem_cons_self)) number]
      congr 2
      omega
  · by_cases negative : year < 0
    · have text : yearText year = '-' :: Text.Decimal.writePadded 4 year.natAbs := by
        rw [yearText, if_neg (by simpa using plain), if_pos negative]
      rw [text, List.cons_append, Scan.year_negative signed]
      congr 2
      omega
    · have text : yearText year = '+' :: Text.Decimal.writePadded 4 year.natAbs := by
        rw [yearText, if_neg (by simpa using plain), if_neg negative]
      rw [text, List.cons_append, Scan.year_positive signed]
      congr 2
      omega

theorem Scan.fraction_digits {width n nanosecond : Nat} (some : 0 < width) (most : width ≤ 9)
    (fits : n < 10 ^ width) (whole : n * 10 ^ (9 - width) = nanosecond) :
    Scan.fraction ('.' :: (Text.Decimal.writePadded width n ++ ['Z'])) = .some (nanosecond, ['Z']) := by
  have unfolded : Scan.fraction ('.' :: (Text.Decimal.writePadded width n ++ ['Z'])) =
      Scan.billionths (Text.Decimal.writePadded width n ++ ['Z']) := rfl
  have length := Text.Decimal.length_writePadded fits some
  have all : ∀ c ∈ Text.Decimal.writePadded width n, c.isDigit = true := fun c =>
    Text.Decimal.isDigit_of_mem_writePadded
  have ends : ∀ most, ∀ c ∈ (['Z'].take most).head?, c.isDigit = false := by
    intro most c first
    have among := List.mem_of_mem_take (List.mem_of_mem_head? first)
    rw [List.mem_singleton.1 among]
    rfl
  have front : (Text.Decimal.writePadded width n ++ ['Z']).take 9 =
      Text.Decimal.writePadded width n ++ ['Z'].take (9 - width) := by
    rw [List.take_append, List.take_of_length_le (by omega), length]
  have taken := (Text.Decimal.takeWhile_append all (ends (9 - width))).1
  have dropped : (Text.Decimal.writePadded width n ++ ['Z']).dropWhile Char.isDigit = ['Z'] :=
    (Text.Decimal.takeWhile_append all (ends 1)).2
  rw [unfolded, Scan.billionths, front, taken, dropped, length, Text.Decimal.value_writePadded,
    Nat.pow_eq, whole]
  simp [Text.Decimal.writePadded_ne_nil]

theorem Scan.fraction_text {nanosecond : Nat} (fits : nanosecond < 1000000000) :
    Scan.fraction (fractionText nanosecond ++ ['Z']) = some (nanosecond, ['Z']) := by
  unfold fractionText
  split
  · rename_i zero
    rw [zero]
    rfl
  · split
    · exact Scan.fraction_digits (by decide) (by decide) (by omega) (by omega)
    · split
      · exact Scan.fraction_digits (by decide) (by decide) (by omega) (by omega)
      · exact Scan.fraction_digits (by decide) (by decide) (by omega) (by omega)

theorem Relaxed.zone_universal : Relaxed.zone ['Z'] = some (0, []) := rfl

/-! Whole times -/

def written (t : Time) : Written :=
  ⟨t.date.year, t.date.month, t.date.day, t.hour, t.minute, t.second, t.nanosecond⟩

theorem date_bounds (date : Date) : date.month < 100 ∧ date.day < 100 := by
  have valid := date.valid
  simp only [isDate, Bool.and_eq_true, decide_eq_true_eq] at valid
  have days : daysInMonth date.year date.month ≤ 31 := by
    unfold daysInMonth
    split
    · split <;> omega
    · split <;> omega
  omega

theorem Relaxed.scan_text (t : Time) : Relaxed.scan t.text = some ((t.written, 0), []) := by
  obtain ⟨month, day⟩ := date_bounds t.date
  have hour : t.hour.val < 100 := by omega
  have minute : t.minute.val < 100 := by omega
  have second : t.second.val < 100 := by omega
  -- A year starts with a sign or a digit.
  have front : ∀ rest, Scan.blanks (yearText t.date.year ++ rest) = some ((), yearText t.date.year ++ rest) := by
    intro rest
    have visible : ∃ c more, yearText t.date.year = c :: more ∧ isBlank c = false := by
      have first : ∀ year : Nat, ∃ c more, Text.Decimal.writePadded 4 year = c :: more ∧ isBlank c = false := by
        intro year
        cases digits : Text.Decimal.writePadded 4 year with
        | nil => exact absurd digits (Text.Decimal.writePadded_ne_nil _ _)
        | cons c more =>
          have digit : c.isDigit = true :=
            Text.Decimal.isDigit_of_mem_writePadded (digits ▸ List.mem_cons_self)
          exact ⟨c, more, rfl, not_isBlank_of_isDigit digit⟩
      unfold yearText
      split
      · exact first _
      · split
        · exact ⟨'-', _, rfl, rfl⟩
        · exact ⟨'+', _, rfl, rfl⟩
    obtain ⟨c, more, same, visible⟩ := visible
    rw [same, List.cons_append]
    exact Scan.blanks_visible visible _
  have separated : ∀ rest, Relaxed.separator ('T' :: rest) = some ((), rest) := fun _ => rfl
  have last : Scan.blanks [] = some ((), []) := rfl
  simp only [text, dateText, clockText, List.append_assoc, List.cons_append, List.nil_append]
  rw [Relaxed.scan, Scan.bind_of_some (front _), Scan.bind_of_some (Scan.year_yearText _ _),
    Scan.bind_of_some (Relaxed.fieldAfter_twoDigits rfl month _),
    Scan.bind_of_some (Relaxed.fieldAfter_twoDigits rfl day _), Scan.bind_of_some (separated _),
    Scan.bind_of_some (Relaxed.field_twoDigits hour _),
    Scan.bind_of_some (Relaxed.fieldAfter_twoDigits rfl minute _),
    Scan.bind_of_some (Relaxed.fieldAfter_twoDigits rfl second _),
    Scan.bind_of_some (Scan.fraction_text t.nanosecond.isLt),
    Scan.bind_of_some (Scan.blanks_visible rfl _), Scan.bind_of_some Relaxed.zone_universal,
    Scan.bind_of_some last]
  rfl

theorem time?_written (t : Time) : t.written.time? = some t := by
  have date : Date.of? t.date.year t.date.month t.date.day = some t.date := dif_pos t.date.valid
  have fields : ofFields? t.date t.hour t.minute t.second t.nanosecond = some t :=
    dif_pos ⟨t.hour.isLt, t.minute.isLt, t.second.isLt, t.nanosecond.isLt⟩
  simp only [Written.time?, written, date, fields, Option.bind_eq_bind, Option.bind_some]

theorem behind?_zero (t : Time) : t.behind? 0 = some t := by
  have total : (t.hour.val : Int) * 60 + t.minute.val - 0 = (t.hour.val * 60 + t.minute.val : Nat) := by omega
  have small : t.hour.val * 60 + t.minute.val < 1440 := by omega
  have sameDay : ((t.hour.val * 60 + t.minute.val : Nat) : Int) / 1440 = 0 := by omega
  have ofDay : (((t.hour.val * 60 + t.minute.val : Nat) : Int) % 1440).toNat = t.hour.val * 60 + t.minute.val := by
    omega
  have hour : (t.hour.val * 60 + t.minute.val) / 60 = t.hour.val := by omega
  have minute : (t.hour.val * 60 + t.minute.val) % 60 = t.minute.val := by omega
  have fields : ofFields? t.date t.hour t.minute t.second t.nanosecond = some t :=
    dif_pos ⟨t.hour.isLt, t.minute.isLt, t.second.isLt, t.nanosecond.isLt⟩
  have today : t.date.shift? 0 = some t.date := rfl
  simp only [behind?, total, sameDay, ofDay, hour, minute, today, Option.bind_some, fields]

theorem read?_text (t : Time) : read? t.text = some t := by
  have ends : atEnd ((t.written, (0 : Int)), ([] : List Char)) = some (t.written, 0) := rfl
  simp only [read?, Relaxed.scan_text, Option.bind_eq_bind, Option.bind_some, ends, time?_written, behind?_zero]

end Waymark.Time
