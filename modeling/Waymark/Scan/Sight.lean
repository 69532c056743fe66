import Waymark.Text.Utf8
import Waymark.Tree.Basic

/-! What a walk can make out of a tree. The names of a tree are texts that stand for the bytes that are kept on a
disk, and bytes that are no text are read as well as can be. Not every directory can be listed.
-/

set_option autoImplicit false

namespace Waymark

structure Sight where
  /-- The bytes that a name stands for. -/
  bytes : String → ByteArray
  /-- Whether a directory can be listed and a file be asked for its size, by the names that lead there from the root
  of the walk. -/
  opens : List String → Bool

namespace Sight

def text (sight : Sight) (name : String) : String := String.ofList (Text.Utf8.read (sight.bytes name))

/-- The extension of a name, which is none if its bytes are no text. -/
def extension? (sight : Sight) (name : String) : Option String :=
  (Path.extension? ⟨sight.text name⟩).filter fun extension =>
    ("." ++ extension).toUTF8.data.toList.isSuffixOf (sight.bytes name).data.toList

def namesIn (sight : Sight) (tree : Tree) (location : Location) : List String :=
  (tree.namesIn location).mergeSort fun a b =>
    decide ((sight.bytes a).data.toList ≤ (sight.bytes b).data.toList)

def clear : Sight := ⟨String.toUTF8, fun _ => true⟩

/-- The size of the buffer that a path has to fit in with the zero at its end. -/
def maxPath : Nat := 4096

/-- Names are texts, and nothing below the root is closed but where the path is too long for a call. -/
def below (root : Path) : Sight :=
  ⟨String.toUTF8, fun names => decide ((names.foldl Path.join root).text.utf8ByteSize < maxPath)⟩

end Sight

end Waymark
