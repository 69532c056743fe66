import Waymark.Document.Basic
import Waymark.Proofs.Fallible
import Waymark.Proofs.Text.Utf8

/-! Documents of an older form. A document without a tag is accepted exactly if it is of the older form, and what
it says is then carried over.
-/

set_option autoImplicit false

namespace Waymark

open Json

variable {α β : Type} {kind : DocumentKind} {shape : Shape α} {older : Shape β} {carry : β → α} {raw : ByteArray}
  {json : Json} {form : β} {result : α}

namespace Document

theorem readEither_unread {refused : Refusal} (unread : value raw = .error refused) :
    readEither kind shape older carry raw = .error refused := by
  simp only [readEither, unread, bind, Except.bind]

theorem readEither_tagged (is : value raw = .ok json) (tagged : isTagged json = true) :
    readEither kind shape older carry raw = kind.decode shape json := by
  simp only [readEither, is, tagged, bind, Except.bind, if_pos]

theorem readEither_untagged (is : value raw = .ok json) (untagged : isTagged json = false) :
    readEither kind shape older carry raw = (older.decode json).map carry := by
  simp only [readEither, is, untagged, bind, Except.bind]
  cases older.decode json <;> rfl

end Document

namespace Legacy

def Untagged (raw : ByteArray) : Prop := ∃ json, Document.value raw = .ok json ∧ Document.isTagged json = false

/-- The bytes are a document without a tag, which says this in the older form. -/
def Holds (older : Shape β) (raw : ByteArray) (form : β) : Prop :=
  ∃ json, Document.value raw = .ok json ∧ Document.isTagged json = false ∧ older.decode json = .ok form

theorem Holds.untagged (holds : Holds older raw form) : Untagged raw := by
  obtain ⟨json, is, untagged, -⟩ := holds
  exact ⟨json, is, untagged⟩

theorem Holds.readEither (holds : Holds older raw form) :
    Document.readEither kind shape older carry raw = .ok (carry form) := by
  obtain ⟨json, is, untagged, decoded⟩ := holds
  rw [Document.readEither_untagged is untagged, decoded]
  rfl

theorem holds_of_read (untagged : Untagged raw) (read : Document.readEither kind shape older carry raw = .ok result) :
    ∃ form, Holds older raw form ∧ result = carry form := by
  obtain ⟨json, is, untagged⟩ := untagged
  rw [Document.readEither_untagged is untagged] at read
  cases decoded : older.decode json with
  | error refused =>
    rw [decoded] at read
    cases read
  | ok form =>
    rw [decoded] at read
    exact ⟨form, ⟨json, is, untagged, decoded⟩, (Except.ok.inj read).symm⟩

theorem accepted_iff (untagged : Untagged raw) :
    (∃ result, Document.readEither kind shape older carry raw = .ok result) ↔ ∃ form, Holds older raw form := by
  constructor
  · rintro ⟨result, read⟩
    obtain ⟨form, holds, -⟩ := holds_of_read untagged read
    exact ⟨form, holds⟩
  · rintro ⟨form, holds⟩
    exact ⟨carry form, holds.readEither⟩

def form? (older : Shape β) (text : String) : Option β :=
  (Json.read? text.toList).bind fun json => if Document.isTagged json then none else (older.decode json).toOption

theorem holds_of_form? {text : String} (said : form? older text = some form) : Holds older text.toUTF8 form := by
  obtain ⟨json, read, said⟩ := Option.bind_eq_some_iff.1 said
  split at said
  · cases said
  · rename_i untagged
    refine ⟨json, ?_, Bool.eq_false_iff.2 untagged, Fallible.ok_of_toOption said⟩
    rw [Document.value, fromUTF8?_toUTF8, Option.bind_some, read, Option.elim_some]

end Legacy

end Waymark
