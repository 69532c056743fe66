import Waymark.Repository.Settings
import Waymark.Tree.Basic

/-! Version-controlled repositories: where the one of a directory lies, whether it can be opened, and the
address of its remote of origin.
-/

set_option autoImplicit false

namespace Waymark

structure Repository where
  settings : List Setting
  deriving DecidableEq

namespace Repository

/-- The directory that holds what several working trees share. -/
def commonDir (tree : Tree) (directory : Path) : Path :=
  match (tree.read (directory.join "commondir")).toOption.bind String.fromUTF8? with
  | some text => directory.join (String.ofList (Setting.trimEnd text.toList))
  | none => directory

def isRepository (tree : Tree) (directory : Path) : Bool :=
  let common := commonDir tree directory
  tree.isFile (directory.join "HEAD") && tree.isDirectory (common.join "objects") &&
    tree.isDirectory (common.join "refs")

def linkStart : String := "gitdir:"

def linkPath? (tree : Tree) (directory link : Path) : Option Path := do
  let text ← (tree.read link).toOption.bind String.fromUTF8?
  let text := Setting.trimEnd text.toList
  let start := linkStart.toList
  if start.isPrefixOf text && start.length < text.length then
    let target := (text.drop start.length).dropWhile Setting.isSpace
    return directory.join (String.ofList target)
  else none

def linkTarget? (tree : Tree) (directory link : Path) : Option Path :=
  (linkPath? tree directory link).bind fun target => (tree.canonical target).toOption

def directoryName : String := ".git"

/-- The repository of a directory: in it, named by a file in it, or the directory itself. -/
def locate? (tree : Tree) (directory : Path) : Option Path :=
  let inner := directory.join directoryName
  if tree.isFile inner then
    (linkTarget? tree directory inner).filter (isRepository tree ·)
  else if tree.isDirectory inner && isRepository tree inner then some inner
  else if isRepository tree directory then some directory
  else none

/-- Extensions of the format that change nothing for a reader of settings. -/
def extensions : List String :=
  ["extensions.noop", "extensions.objectformat", "extensions.worktreeconfig"]

def isKnownExtension (setting : Setting) : Bool :=
  !"extensions.".toList.isPrefixOf setting.name ||
    (extensions.contains (String.ofList setting.name) &&
      (setting.name != "extensions.objectformat".toList || setting.value == some "sha1".toList))

def isSupported (settings : List Setting) : Bool :=
  match Setting.last? settings "core.repositoryformatversion" with
  | none => true
  | some value =>
    match value.bind Setting.integer? with
    | some 0 => true
    | some 1 => settings.all isKnownExtension
    | _ => false

/-- Whether the working tree is where the settings say, unless there is none. -/
def hasWorkingTree (tree : Tree) (directory : Path) (settings : List Setting) : Bool :=
  match (Setting.last? settings "core.bare").elim (some false) Setting.truth? with
  | none => false
  | some true => true
  | some false =>
    match (Setting.last? settings "core.worktree").join with
    | none => true
    | some path => tree.exists? (directory.join (String.ofList path))

def settingsAt? (tree : Tree) (path : Path) : Option (List Setting) :=
  match tree.readOptional path with
  | .ok none => some []
  | .ok (some content) => Setting.read? content
  | .error _ => none

def open? (tree : Tree) (directory : Path) : Option Repository := do
  let location ← locate? tree directory
  let settings ← settingsAt? tree ((commonDir tree location).join "config")
  if isSupported settings && hasWorkingTree tree location settings then return ⟨settings⟩ else none

/-! Addresses -/

/-- What an address may start with, and what stands for it. -/
structure Substitute where
  start : List Char
  base : List Char
  deriving DecidableEq

def substitute? (setting : Setting) : Option Substitute :=
  let front := "url.".toList
  let back := ".insteadof".toList
  if front.isPrefixOf setting.name && back.isSuffixOf (setting.name.drop front.length) then
    setting.value.map fun start =>
      ⟨start, (setting.name.drop front.length).take
        (setting.name.length - front.length - back.length)⟩
  else none

/-- The longest start of the address among the substitutes, the first one of a length. -/
def longest (substitutes : List Substitute) (address : List Char) : Option Substitute :=
  (substitutes.filter fun s => s.start.isPrefixOf address && !s.start.isEmpty).foldl
    (fun best s => if best.any (s.start.length ≤ ·.start.length) then best else some s) none

def substituted (settings : List Setting) (address : List Char) : List Char :=
  match longest (settings.filterMap substitute?) address with
  | none => address
  | some s => s.base ++ address.drop s.start.length

/-- The text of bytes kept as characters. -/
def textOf? (chars : List Char) : Option String :=
  String.fromUTF8? ⟨(chars.map fun c => UInt8.ofNat c.toNat).toArray⟩

/-- The address of the remote of origin. -/
def origin? (repository : Repository) : Option String := do
  let address ← (Setting.last? repository.settings "remote.origin.url").join
  if address.isEmpty then none else textOf? (substituted repository.settings address)

end Repository

end Waymark
