import Waymark.Path

/-! A tree of files, directories and links. Every node stands at its location, the names that lead to
it from the root, and the root is a directory. Paths are resolved step by step: a link is followed
from the directory that it stands in, up to a limit.
-/

set_option autoImplicit false

namespace Waymark

abbrev Location := List String

instance decidableEqContent : DecidableEq ByteArray := ByteArray.instDecidableEq

inductive Node where
  | file (content : ByteArray)
  /-- A file of a known size that cannot be read or written. -/
  | locked (size : Nat)
  | directory
  | link (target : Path)
  deriving DecidableEq

/-- A node with the time of its last change. -/
structure Item where
  node : Node
  modified : Nat
  deriving DecidableEq

inductive Fault where
  | notFound
  | notDirectory
  | isDirectory
  | alreadyExists
  | tooManyLinks
  | interrupted
  | wouldBlock
  | timedOut
  | permissionDenied
  | other
  deriving Repr, DecidableEq

structure Tree where
  items : List (Location × Item)
  /-- Where relative paths start. -/
  workingDir : Location

namespace Location

def path (location : Location) : Path := ⟨"/" ++ "/".intercalate location⟩

end Location

namespace Path

/-- The names to step along; a slash at the end asks for a directory. -/
def steps (path : Path) : List String :=
  let pieces := Text.split '/' path.text.toList
  let names := (pieces.filter (!·.isEmpty)).map String.ofList
  if pieces.getLast? = some [] && !names.isEmpty then names ++ ["."] else names

end Path

namespace Tree

def empty : Tree := ⟨[], []⟩

instance : Inhabited Tree := ⟨empty⟩

def item? (tree : Tree) (location : Location) : Option Item := tree.items.lookup location

def node? (tree : Tree) (location : Location) : Option Node :=
  if location = [] then some .directory else (tree.item? location).map (·.node)

def erase (tree : Tree) (location : Location) : Tree :=
  { tree with items := tree.items.filter (·.1 != location) }

def put (tree : Tree) (location : Location) (item : Item) : Tree :=
  { tree with items := (location, item) :: (tree.erase location).items }

/-- Steps along names from a location, as `look` tells what stands where. The last name need not be
there. At a link `follow` goes on with its target and the names that are left; the last name is
followed only if asked for. -/
def walk (look : Location → Option Node) (followLast : Bool)
    (follow : Location → Path → List String → Except Fault Location) :
    Location → List String → Except Fault Location
  | here, [] => .ok here
  | here, name :: rest =>
    match look here with
    | some .directory =>
      if name = "." then walk look followLast follow here rest
      else if name = ".." then walk look followLast follow here.dropLast rest
      else
        let next := here ++ [name]
        match look next with
        | some (.link target) =>
          if rest.isEmpty && !followLast then .ok next else follow here target rest
        | some _ => walk look followLast follow next rest
        | none => if rest.isEmpty then .ok next else .error .notFound
    | some _ => .error .notDirectory
    | none => .error .notFound

def maxLinks : Nat := 40

def walkWithin (look : Location → Option Node) (followLast : Bool) :
    Nat → Location → List String → Except Fault Location
  | 0 => walk look followLast fun _ _ _ => .error .tooManyLinks
  | limit + 1 => walk look followLast fun here target rest =>
    walkWithin look followLast limit (if target.isAbsolute then [] else here) (target.steps ++ rest)

def locate (look : Location → Option Node) (workingDir : Location) (path : Path)
    (followLast : Bool) : Except Fault Location :=
  if path.text.isEmpty then .error .notFound
  else
    walkWithin look followLast maxLinks (if path.isAbsolute then [] else workingDir) path.steps

/-- The location that a path leads to; nothing need stand there. -/
def resolve (tree : Tree) (path : Path) (followLast : Bool) : Except Fault Location :=
  locate tree.node? tree.workingDir path followLast

def find (tree : Tree) (path : Path) : Except Fault Node := do
  let location ← tree.resolve path true
  match tree.node? location with
  | some node => return node
  | none => throw .notFound

/-- The path without links, silent segments and steps up. -/
def canonical (tree : Tree) (path : Path) : Except Fault Path := do
  let location ← tree.resolve path true
  if (tree.node? location).isSome then return location.path else throw .notFound

def exists? (tree : Tree) (path : Path) : Bool := (tree.find path).isOk

def isDirectory (tree : Tree) (path : Path) : Bool :=
  match tree.find path with
  | .ok .directory => true
  | _ => false

def isFile (tree : Tree) (path : Path) : Bool :=
  match tree.find path with
  | .ok (.file _) | .ok (.locked _) => true
  | _ => false

def read (tree : Tree) (path : Path) : Except Fault ByteArray := do
  match ← tree.find path with
  | .file content => return content
  | .locked _ => throw .permissionDenied
  | .directory => throw .isDirectory
  | .link _ => throw .tooManyLinks

def readOptional (tree : Tree) (path : Path) : Except Fault (Option ByteArray) :=
  match tree.read path with
  | .ok content => .ok (some content)
  | .error .notFound => .ok none
  | .error fault => .error fault

def namesIn (tree : Tree) (location : Location) : List String :=
  let names := tree.items.filterMap fun entry =>
    if entry.1.dropLast = location then entry.1.getLast? else none
  names.mergeSort fun a b => decide (a ≤ b)

def list (tree : Tree) (path : Path) : Except Fault (List (String × Item)) := do
  let location ← tree.resolve path true
  match tree.node? location with
  | some .directory =>
    return (tree.namesIn location).filterMap fun name =>
      (tree.item? (location ++ [name])).map (name, ·)
  | some _ => throw .notDirectory
  | none => throw .notFound

def makeDirectory (tree : Tree) (path : Path) (time : Nat) : Except Fault Tree := do
  let location ← tree.resolve path false
  if (tree.node? location).isSome then throw .alreadyExists
  else return tree.put location ⟨.directory, time⟩

/-- What follows a failed attempt to make a directory: one that is there will do. -/
def settleDirectory (tree : Tree) (path : Path) (fault : Fault) : Except Fault Unit :=
  if tree.isDirectory path then .ok () else .error fault

/-- Makes the directories of a path from the first missing one on, `depth` at most. What was made
before a failure stays. -/
def makeDirectoriesWithin (time : Nat) : Nat → Tree → Path → Except Fault Unit × Tree
  | 0, tree, _ => (.error .other, tree)
  | depth + 1, tree, path =>
    if path.text.isEmpty then (.ok (), tree)
    else
      match tree.makeDirectory path time with
      | .ok tree => (.ok (), tree)
      | .error .notFound =>
        match path.parent? with
        | none => (.error .other, tree)
        | some parent =>
          match makeDirectoriesWithin time depth tree parent with
          | (.error fault, tree) => (.error fault, tree)
          | (.ok (), tree) =>
            match tree.makeDirectory path time with
            | .ok tree => (.ok (), tree)
            | .error fault => (tree.settleDirectory path fault, tree)
      | .error fault => (tree.settleDirectory path fault, tree)

def makeDirectories (tree : Tree) (path : Path) (time : Nat) : Except Fault Unit × Tree :=
  makeDirectoriesWithin time (path.text.length + 1) tree path

/-- Writes a file; a link at the end of the path is followed. -/
def write (tree : Tree) (path : Path) (content : ByteArray) (time : Nat) : Except Fault Tree := do
  let location ← tree.resolve path true
  match tree.node? location with
  | some .directory => throw .isDirectory
  | some (.link _) => throw .tooManyLinks
  | some (.locked _) => throw .permissionDenied
  | _ => return tree.put location ⟨.file content, time⟩

/-- Gives a file or a link another name, in the place of the file or link of that name. -/
def rename (tree : Tree) (source target : Path) : Except Fault Tree := do
  let origin ← tree.resolve source false
  let destination ← tree.resolve target false
  match tree.item? origin, tree.node? destination with
  | none, _ => throw .notFound
  | some ⟨.directory, _⟩, _ => throw .isDirectory
  | _, some .directory => throw .isDirectory
  | some item, _ => return (tree.erase origin).put destination item

def remove (tree : Tree) (path : Path) : Except Fault Tree := do
  let location ← tree.resolve path false
  match tree.node? location with
  | some .directory => throw .isDirectory
  | some _ => return tree.erase location
  | none => throw .notFound

def removeOptional (tree : Tree) (path : Path) : Except Fault Tree :=
  match tree.remove path with
  | .ok tree => .ok tree
  | .error .notFound => .ok tree
  | .error fault => .error fault

end Tree

end Waymark
