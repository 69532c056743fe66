import Waymark.Text.Utf8

/-! Texts out of their own bytes are read as they are.
-/

set_option autoImplicit false

namespace Waymark

theorem fromUTF8?_toUTF8 (text : String) : String.fromUTF8? text.toUTF8 = some text :=
  dif_pos text.isValidUTF8

theorem Text.Utf8.read_toUTF8 (text : String) : read text.toUTF8 = text.toList := by
  rw [read, fromUTF8?_toUTF8]

end Waymark
