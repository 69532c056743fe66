/-! Text out of bytes that need not be well-formed. Every longest run of bytes that starts a character
without completing it is read as one replacement character.
-/

set_option autoImplicit false

namespace Waymark.Text.Utf8

def replacement : Char := '\uFFFD'

/-- The number of bytes that follow a first byte, and the bounds of the first of them. -/
structure Lead where
  following : Nat
  low : UInt8
  high : UInt8
  /-- The bits of the first byte that belong to the character. -/
  bits : Nat

/-- What the first byte of a character of more than one byte announces. Surrogates, overlong forms
and what lies beyond the last character are shut out by the bounds of the second byte. -/
def lead? (b : UInt8) : Option Lead :=
  let n := b.toNat
  if 0xC2 ≤ n && n ≤ 0xDF then some ⟨1, 0x80, 0xBF, n - 0xC0⟩
  else if n = 0xE0 then some ⟨2, 0xA0, 0xBF, 0⟩
  else if n = 0xED then some ⟨2, 0x80, 0x9F, 0xD⟩
  else if 0xE1 ≤ n && n ≤ 0xEF then some ⟨2, 0x80, 0xBF, n - 0xE0⟩
  else if n = 0xF0 then some ⟨3, 0x90, 0xBF, 0⟩
  else if n = 0xF4 then some ⟨3, 0x80, 0x8F, 4⟩
  else if 0xF1 ≤ n && n ≤ 0xF3 then some ⟨3, 0x80, 0xBF, n - 0xF0⟩
  else none

/-- Where the reader stands: between characters, or inside one that still needs bytes. -/
inductive State where
  | between
  | inside (needed : Nat) (low high : UInt8) (value : Nat)

def start (b : UInt8) : State × List Char :=
  if b.toNat < 0x80 then (.between, [Char.ofNat b.toNat])
  else
    match lead? b with
    | some lead => (.inside lead.following lead.low lead.high lead.bits, [])
    | none => (.between, [replacement])

/-- Reads a byte; one that does not continue the open character is read anew after it. -/
def step (state : State) (b : UInt8) : State × List Char :=
  match state with
  | .between => start b
  | .inside needed low high value =>
    if low ≤ b && b ≤ high then
      let value := value * 64 + (b.toNat - 0x80)
      if needed ≤ 1 then (.between, [Char.ofNat value])
      else (.inside (needed - 1) 0x80 0xBF value, [])
    else
      let (state, chars) := start b
      (state, replacement :: chars)

def readFrom (state : State) : List UInt8 → List Char
  | [] =>
    match state with
    | .between => []
    | .inside .. => [replacement]
  | b :: rest =>
    let (state, chars) := step state b
    chars ++ readFrom state rest

def read (bytes : ByteArray) : List Char :=
  match String.fromUTF8? bytes with
  | some text => text.toList
  | none => readFrom .between bytes.toList

end Waymark.Text.Utf8
