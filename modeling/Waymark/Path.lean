import Waymark.Text.Lines

/-! Paths as texts with slashes between their segments. Empty segments and points inside a path say
nothing; a leading point and the root stand in front of the segments.
-/

set_option autoImplicit false

namespace Waymark

structure Path where
  text : String
  deriving DecidableEq, Inhabited

namespace Path

inductive Component where
  | root
  | here
  | up
  | name (text : String)
  deriving DecidableEq, Repr

/-- What stands in front of the segments, and the pieces between the slashes after it. -/
def split (path : Path) : List Char × List (List Char) :=
  match path.text.toList with
  | '/' :: rest => (['/'], Text.split '/' rest)
  | '.' :: '/' :: rest => (['.'], Text.split '/' ('/' :: rest))
  | ['.'] => (['.'], [])
  | chars => ([], Text.split '/' chars)

def isAbsolute (path : Path) : Bool := path.text.toList.head? == some '/'

def isSilent (piece : List Char) : Bool := piece == [] || piece == ['.']

def pieceComponent (piece : List Char) : Component :=
  if piece = ['.', '.'] then .up else .name (String.ofList piece)

def components (path : Path) : List Component :=
  let (front, pieces) := path.split
  let first := if front = ['/'] then [Component.root] else if front = ['.'] then [.here] else []
  first ++ (pieces.filter (!isSilent ·)).map pieceComponent

/-- The pieces up to the last one that says something. -/
def trimPieces (pieces : List (List Char)) : List (List Char) :=
  (pieces.reverse.dropWhile isSilent).reverse

def fileName? (path : Path) : Option String :=
  match (trimPieces path.split.2).getLast? with
  | some piece => if piece = ['.', '.'] then none else some (String.ofList piece)
  | none => none

def parent? (path : Path) : Option Path :=
  let (front, pieces) := path.split
  match (trimPieces pieces).reverse with
  | _ :: rest => some ⟨String.ofList (front ++ Text.join ['/'] (trimPieces rest.reverse))⟩
  | [] => if front = ['.'] then some ⟨""⟩ else none

/-- Appends a path; an absolute one takes the place of the first. -/
def join (path : Path) (rest : String) : Path :=
  let chars := path.text.toList
  if rest.toList.head? = some '/' then ⟨rest⟩
  else if chars.isEmpty || chars.getLast? = some '/' then ⟨path.text ++ rest⟩
  else ⟨path.text ++ "/" ++ rest⟩

def withFileName (path : Path) (name : String) : Path :=
  if path.fileName?.isSome then (path.parent?.getD path).join name else path.join name

/-- Paths above a path, the path itself first, `count` at most. -/
def ancestorsWithin : Nat → Path → List Path
  | 0, _ => []
  | count + 1, path => path :: (path.parent?.elim [] (ancestorsWithin count))

def ancestors (path : Path) : List Path := ancestorsWithin (path.text.length + 1) path

def startsWith (path base : Path) : Bool := base.components.isPrefixOf path.components

/-- What follows the last point of the last segment; a segment that starts with its only point has
no extension. -/
def extension? (path : Path) : Option String :=
  path.fileName?.bind fun name =>
    let reversed := name.toList.reverse
    match reversed.dropWhile (· != '.') with
    | _ :: _ :: _ => some (String.ofList (reversed.takeWhile (· != '.')).reverse)
    | _ => none

/-- The temporary file that is written before it takes the name of the path. -/
def temporary (path : Path) : Path :=
  path.withFileName (path.fileName?.getD "" ++ ".tmp")

end Path

end Waymark
