import Waymark.Pattern.Reader

/-! Patterns of ASCII characters are read from their bytes. To evaluate, that is quicker than taking the characters
from the text.
-/

set_option autoImplicit false

namespace Waymark.Pattern

variable {text : String} {bytes : List UInt8}

def asciiChars (text : String) : List Char := text.toByteArray.data.toList.map Char.ofUInt8

theorem flatMap_ofUInt8 (ascii : bytes.all (· < 128) = true) :
    (bytes.map Char.ofUInt8).flatMap String.utf8EncodeChar = bytes := by
  induction bytes with
  | nil => rfl
  | cons byte rest ih =>
    rw [List.all_cons, Bool.and_eq_true, decide_eq_true_eq] at ascii
    have small : (Char.ofUInt8 byte).utf8Size = 1 := by
      rw [Char.utf8Size_eq_one_iff, UInt32.le_iff_toNat_le]
      have bound : byte.toNat < 128 := UInt8.lt_iff_toNat_lt.1 ascii.1
      change byte.toNat ≤ 127
      omega
    have same : (Char.ofUInt8 byte).val.toUInt8 = byte := UInt8.toUInt8_toUInt32 byte
    rw [List.map_cons, List.flatMap_cons, ih ascii.2, String.utf8EncodeChar_eq_singleton small, same]
    rfl

theorem toList_of_ascii (ascii : text.toByteArray.data.toList.all (· < 128) = true) :
    text.toList = asciiChars text := by
  have same : text = String.ofList (asciiChars text) := by
    rw [← String.toByteArray_inj, String.toByteArray_ofList, List.utf8Encode, asciiChars, flatMap_ofUInt8 ascii]
    apply ByteArray.ext
    rw [List.data_toByteArray]
  exact (congrArg String.toList same).trans String.toList_ofList

def reads (text : String) : Bool :=
  text.toByteArray.data.toList.all (· < 128) && ((signs (asciiChars text)).bind (readFrom .start none)).isSome

theorem read?_of_reads (readable : reads text = true) : ∃ pattern, read? text = some pattern := by
  obtain ⟨ascii, read⟩ := Bool.and_eq_true_iff.1 readable
  rw [← toList_of_ascii ascii] at read
  exact Option.isSome_iff_exists.1 read

end Waymark.Pattern
