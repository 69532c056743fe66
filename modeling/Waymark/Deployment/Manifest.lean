import Waymark.Json.Reader
import Waymark.Text.Blank
import Waymark.Text.Lines
import Waymark.Toml.Reader

/-! What manifests and introductory texts say about a project. -/

set_option autoImplicit false

namespace Waymark

structure Manifest where
  name : Option String
  version : Option String
  description : Option String
  deriving DecidableEq

namespace Manifest

def empty : Manifest := ⟨none, none, none⟩

def ofFields (field : String → Option String) : Manifest :=
  ⟨field "name", field "version", field "description"⟩

def textMember (json : Json) (key : String) : Option String :=
  match json.get? key with
  | some (.text value) => some value
  | _ => none

def ofJson (json : Json) : Manifest := ofFields (textMember json)

def ofToml (toml : Toml) : Manifest := ofFields fun key => (toml.get? key).bind Toml.text?

def readJson? (text : List Char) : Option Manifest := (Json.read? text).map ofJson

/-- The first of the ways that leads to a value. -/
def at? (toml : Toml) (ways : List (List String)) : Option Toml :=
  ways.findSome? fun way => way.foldlM (fun toml key => Toml.get? toml key) toml

def readToml? (ways : List (List String)) (text : List Char) : Option Manifest := do
  return ofToml (← at? (← Toml.read? text) ways)

/-- The manifests of a project and how each is read, the first one first. -/
def kinds : List (String × (List Char → Option Manifest)) :=
  [("package.json", readJson?),
   ("Cargo.toml", readToml? [["package"], ["workspace", "package"]]),
   ("pyproject.toml", readToml? [["project"], ["tool", "poetry"]])]

end Manifest

structure Introduction where
  heading : Option String
  paragraph : Option String
  deriving DecidableEq

namespace Introduction

def fileNames : List String := ["README.md", "README.txt", "README.rst", "README"]

inductive Line where
  | heading (title : List Char)
  | blank
  /-- A badge, an image or a tag. -/
  | ornament
  | prose (text : List Char)
  deriving DecidableEq

def Line.ofTrimmed (text : List Char) : Line :=
  match text with
  | [] => .blank
  | '#' :: _ => .heading (Text.trim (text.dropWhile (· = '#')))
  | '[' :: _ | '!' :: _ | '<' :: _ => .ornament
  | _ => .prose text

/-- The lines of the first paragraph, which ends at a heading or a blank line. `isOpen` tells whether
it has begun. -/
def paragraphLines (isOpen : Bool) : List Line → List (List Char)
  | [] => []
  | .prose text :: rest => text :: paragraphLines true rest
  | .ornament :: rest => paragraphLines isOpen rest
  | _ :: rest => if isOpen then [] else paragraphLines false rest

/-- The first title that is not empty, up to the heading that ends the first paragraph. -/
def title? (isOpen : Bool) : List Line → Option (List Char)
  | [] => none
  | .heading title :: rest =>
    if !title.isEmpty then some title else if isOpen then none else title? false rest
  | .prose _ :: rest => title? true rest
  | .ornament :: rest => title? isOpen rest
  | .blank :: rest => if isOpen then none else title? false rest

def ofText (text : List Char) : Introduction :=
  let lines := (Text.lines text).map fun line => Line.ofTrimmed (Text.trim line)
  let paragraph := paragraphLines false lines
  { heading := (title? false lines).map String.ofList
    paragraph := if paragraph.isEmpty then none else some (String.ofList (Text.join [' '] paragraph)) }

end Introduction

end Waymark
