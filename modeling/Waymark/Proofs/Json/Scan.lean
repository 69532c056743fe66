import Waymark.Json.Printer
import Waymark.Json.Token
import Waymark.Proofs.Text.Decimal

/-! Tokens that were printed are scanned again: strings through their escapes, counts through their
digits.
-/

set_option autoImplicit false

namespace Waymark.Json.Token

variable {c : Char} {rest after : List Char} {token : Token} {tokens : List Token}

/-! Strings -/

theorem hexValue?_hexDigit {n : Nat} (small : n < 16) : hexValue? (hexDigit n) = some n := by
  have all : ∀ n : Fin 16, hexValue? (hexDigit n) = some n.val := by decide
  exact all ⟨n, small⟩

theorem scanText_escaped {plain : Char} (g : Gathered) (known : escaped? c = some plain) (rest : List Char) :
    scanText g ('\\' :: c :: rest) = scanText (g.push plain) rest := by
  rw [scanText.eq_def]
  split
  · rename_i same
    cases same
  · rename_i same
    cases same
    cases known
  · rename_i same
    cases same
    simp only [known]
  · rename_i other same
    cases same
    exact (other c rest rfl rfl).elim
  · rename_i same
    cases same

theorem scanText_escape (g : Gathered) (c : Char) (rest : List Char) :
    scanText g (escape c ++ rest) = scanText (g.push c) rest := by
  unfold escape
  split
  case h_8 quote backslash _ _ _ _ _ =>
    split
    · rename_i control
      have unit : unit? '0' '0' (hexDigit (c.toNat / 16)) (hexDigit (c.toNat % 16)) = some c.toNat := by
        have high := hexValue?_hexDigit (n := c.toNat / 16) (by omega)
        have low := hexValue?_hexDigit (n := c.toNat % 16) (by omega)
        have zero : hexValue? '0' = some 0 := rfl
        simp only [unit?, high, low, zero, Option.bind_eq_bind, Option.bind_some, Option.pure_def,
          Option.some.injEq]
        omega
      -- A control character is no surrogate, so its unit stands for itself.
      have plain : g.pushUnit c.toNat = g.push c := by
        have notHigh : isHighSurrogate c.toNat = false := by
          simp only [isHighSurrogate, Bool.and_eq_false_iff, decide_eq_false_iff_not]
          omega
        have notLow : isLowSurrogate c.toNat = false := by
          simp only [isLowSurrogate, Bool.and_eq_false_iff, decide_eq_false_iff_not]
          omega
        simp only [Gathered.pushUnit, notHigh, notLow, Char.ofNat_toNat, Bool.false_eq_true, if_false]
      simp only [List.cons_append, List.nil_append, scanText, unit, plain]
    · rename_i visible
      -- Any other character is written as it is and must not be read as a quote or as an escape.
      rw [List.singleton_append, scanText.eq_def]
      split
      · rename_i same
        exact absurd (List.cons.inj same).1 quote
      · rename_i same
        exact absurd (List.cons.inj same).1 backslash
      · rename_i same
        exact absurd (List.cons.inj same).1 backslash
      · rename_i same
        cases same
        rw [if_neg visible]
      · rename_i same
        cases same
  all_goals exact scanText_escaped g rfl rest

theorem scanText_escapes (before text rest : List Char) :
    scanText ⟨before, none, true⟩ (text.flatMap escape ++ '"' :: rest) =
      some (.text (some (String.ofList (before.reverse ++ text))), rest) := by
  induction text generalizing before with
  | nil => simp [scanText, Gathered.text?]
  | cons c text ih =>
    have push : Gathered.push ⟨before, none, true⟩ c = ⟨c :: before, none, true⟩ := rfl
    rw [List.flatMap_cons, List.append_assoc, scanText_escape, push, ih]
    simp

theorem scanOne_quoted (text : String) (rest : List Char) :
    scanOne (quoted text ++ rest) = some (.text (some text), rest) := by
  have scanned := scanText_escapes [] text.toList rest
  simp only [quoted, List.cons_append, List.append_assoc, scanOne]
  simpa [Gathered.empty] using scanned

/-! Counts -/

/-- What may follow a number: nothing, or what separates it from the next token. -/
def Stops (rest : List Char) : Prop := ∀ c ∈ rest.head?, c = ',' ∨ c = '\n'

theorem stops_nil : Stops [] := fun _ member => by cases member

theorem stops_comma (rest : List Char) : Stops (',' :: rest) := fun c member => by
  cases member
  exact .inl rfl

theorem stops_newline (level : Nat) (rest : List Char) : Stops (newline level ++ rest) := fun c member => by
  cases member
  exact .inr rfl

theorem absorb_eq {digits : List Char} {start : Nat}
    (fits : Text.Decimal.valueFrom start digits < Count.limit) :
    Numeral.absorb start digits = (Text.Decimal.valueFrom start digits, 0) := by
  induction digits generalizing start with
  | nil => rfl
  | cons c digits ih =>
    have grows : ∀ (digits : List Char) (start : Nat), start ≤ Text.Decimal.valueFrom start digits := by
      intro digits
      induction digits with
      | nil => exact fun start => Nat.le_refl _
      | cons c digits ih =>
        intro start
        have := ih (start * 10 + Text.Decimal.digitValue c)
        simp only [Text.Decimal.valueFrom, List.foldl_cons] at this ⊢
        omega
    have next : Text.Decimal.valueFrom start (c :: digits) =
        Text.Decimal.valueFrom (start * 10 + Text.Decimal.digitValue c) digits := rfl
    rw [next] at fits ⊢
    have := grows digits (start * 10 + Text.Decimal.digitValue c)
    rw [Numeral.absorb, if_pos (by omega), ih fits]

theorem Stops.ends (stops : Stops rest) : ∀ c ∈ rest.head?, c.isDigit = false := by
  intro c member
  rcases stops c member with rfl | rfl <;> rfl

theorem scanWhole_write (n : Nat) (ends : ∀ c ∈ rest.head?, c.isDigit = false) :
    scanWhole (Text.Decimal.write n ++ rest) = some (Text.Decimal.write n, rest) := by
  have digits : ∀ c ∈ Text.Decimal.write n, c.isDigit = true := fun c => Text.Decimal.isDigit_of_mem_write
  obtain ⟨taken, dropped⟩ := Text.Decimal.takeWhile_append digits ends
  unfold scanWhole
  split
  · -- A number that starts with zero is zero.
    rename_i zero
    cases digits : Text.Decimal.write n with
    | nil => exact absurd digits (Text.Decimal.write_ne_nil n)
    | cons first more =>
      rw [digits, List.cons_append, List.cons.injEq] at zero
      obtain ⟨rfl, rfl⟩ := zero
      obtain ⟨-, rfl⟩ := Text.Decimal.write_zero_head digits
      rfl
  · simp [takeDigits, taken, dropped, Text.Decimal.write_ne_nil]

theorem scanPower_stops (stops : Stops rest) : scanPower rest = some (none, rest) := by
  unfold scanPower
  split
  · rename_i c rest
    rcases stops c rfl with rfl | rfl <;> rfl
  · rfl

theorem scanNumber_write (n : Count) (stops : Stops rest) :
    scanNumber false (n.text ++ rest) = some (.scalar (some (.count n)), rest) := by
  have whole := scanWhole_write n.toNat stops.ends
  have fraction : scanFraction rest = some (none, rest) := by
    unfold scanFraction
    split
    · rcases stops '.' rfl with same | same <;> cases same
    · rfl
  have power := scanPower_stops stops
  have value : Numeral.absorb 0 (Text.Decimal.write n.toNat) = (n.toNat, 0) := by
    have same : Text.Decimal.valueFrom 0 (Text.Decimal.write n.toNat) = n.toNat :=
      Text.Decimal.value_write n.toNat
    have fits : Text.Decimal.valueFrom 0 (Text.Decimal.write n.toNat) < Count.limit := by
      rw [same]
      exact n.toNat_lt
    rw [absorb_eq fits, same]
  simp only [scanNumber, Count.text, whole, fraction, power, Option.bind_eq_bind, Option.bind_some]
  simp [Numeral.value, value]

theorem scanOne_digit (digit : c.isDigit = true) : scanOne (c :: rest) = scanNumber false (c :: rest) := by
  unfold scanOne
  split
  case h_12 => rfl
  all_goals
    rename_i same
    cases same
    cases digit

theorem scanOne_write (n : Nat) (rest : List Char) :
    scanOne (Text.Decimal.write n ++ rest) = scanNumber false (Text.Decimal.write n ++ rest) := by
  cases digits : Text.Decimal.write n with
  | nil => exact absurd digits (Text.Decimal.write_ne_nil _)
  | cons c more =>
    have first : c.isDigit = true := Text.Decimal.isDigit_of_mem_write (digits ▸ List.mem_cons_self)
    exact scanOne_digit first

theorem scanOne_count (n : Count) (stops : Stops rest) :
    scanOne (n.text ++ rest) = some (.scalar (some (.count n)), rest) := by
  rw [← scanNumber_write n stops]
  exact scanOne_write n.toNat rest

/-! Floats -/

/-- A float whose text is a number with a point, which is taken for the float again. -/
structure Legible (x : Float) (whole : Nat) (fraction : List Char) : Prop where
  text : floatText x = Text.Decimal.write whole ++ '.' :: fraction
  digits : ∀ c ∈ fraction, c.isDigit = true
  nonempty : fraction ≠ []
  value : Numeral.value ⟨false, Text.Decimal.write whole, fraction, true, none⟩ = some (.float x)

theorem scanOne_float {x : Float} {whole : Nat} {fraction : List Char} (legible : Legible x whole fraction)
    (stops : Stops rest) : scanOne (floatText x ++ rest) = some (.scalar (some (.float x)), rest) := by
  have point : ∀ c ∈ ('.' :: (fraction ++ rest)).head?, c.isDigit = false := by
    intro c member
    cases member
    rfl
  have whole' := scanWhole_write whole point
  obtain ⟨taken, dropped⟩ := Text.Decimal.takeWhile_append legible.digits stops.ends
  have fraction' : scanFraction ('.' :: (fraction ++ rest)) = some (some fraction, rest) := by
    simp [scanFraction, takeDigits, taken, dropped, legible.nonempty]
  rw [legible.text, List.append_assoc, List.cons_append, scanOne_write]
  simp only [scanNumber, whole', fraction', scanPower_stops stops, Option.bind_eq_bind, Option.bind_some,
    Option.getD_some, Option.isSome_some, legible.value, Option.pure_def]

end Waymark.Json.Token
