import Waymark.Deployment.Error
import Waymark.Deployment.Host
import Waymark.Text.Lowercase

/-! Finding out where a run takes place. The nearest marker file above the working directory, outside the
tool's own directory, attaches the tool to a host; without one the tool works on itself.
-/

set_option autoImplicit false

namespace Waymark

/-- Which rule led to a context. -/
inductive Layout where
  | marker (path : Path)
  | canonical
  | unrecognized
  deriving DecidableEq

structure Ambiguity where
  chosen : Path
  candidates : List Path
  deriving DecidableEq

def Ambiguity.message (ambiguity : Ambiguity) : String :=
  String.ofList (Text.Decimal.write ambiguity.candidates.length) ++ " marker files found; using " ++
    ambiguity.chosen.text

structure Resolution where
  context : Context
  config : Config
  layout : Layout
  ambiguity : Option Ambiguity
  deriving DecidableEq

namespace Resolution

def defaultDepth : Nat := 8

/-- Names of the tool's own directory, in lower case. -/
def canonicalNames : List String := ["arkival", "arkival-v4"]

def lowerName (path : Path) : Option String :=
  path.fileName?.map fun name => String.ofList (Text.lowercase name.toList)

def isCanonical (path : Path) : Bool := (lowerName path).any canonicalNames.contains

/-- The path without links, or as it is where it leads nowhere. -/
def settled (tree : Tree) (path : Path) : Path := (tree.canonical path).toOption.getD path

/-- The marker files outside the tool's directory, the nearest first. -/
def markers (tree : Tree) (toolRoot workingDir : Path) (depth : Nat) : List Path :=
  (((workingDir.ancestors.take (depth + 1)).filter (!·.startsWith toolRoot)).map
    (·.join Config.fileName)).filter (tree.isFile ·)

def ambiguity? (candidates : List Path) : Option Ambiguity :=
  match candidates with
  | chosen :: _ :: _ => some ⟨chosen, candidates⟩
  | _ => none

/-- The host of a marker file: the directory that its configuration names, or its own. -/
def hostOf (tree : Tree) (marker : Path) (config : Config) : Path :=
  let directory := marker.parent?.getD ⟨""⟩
  config.hostRoot.elim directory fun host => settled tree (directory.join host)

def standalone (tree : Tree) (toolRoot : Path) : Except DeploymentError Resolution := do
  let config ← Config.load tree (toolRoot.join Config.fileName)
  let layout := if isCanonical toolRoot then .canonical else .unrecognized
  return ⟨.standalone toolRoot, config, layout, none⟩

def attached (tree : Tree) (toolRoot marker : Path) (ambiguity : Option Ambiguity) :
    Except DeploymentError Resolution := do
  let config ← Config.load tree marker
  let host := hostOf tree marker config
  return ⟨.attached toolRoot host (.gather tree host), config, .marker marker, ambiguity⟩

def resolve (tree : Tree) (toolRoot workingDir : Path) (depth : Nat) :
    Except DeploymentError Resolution :=
  if !tree.isDirectory toolRoot then .error (.toolRoot toolRoot)
  else
    let toolRoot := settled tree toolRoot
    let candidates := markers tree toolRoot (settled tree workingDir) depth
    match candidates with
    | [] => standalone tree toolRoot
    | marker :: _ => attached tree toolRoot marker (ambiguity? candidates)

end Resolution

end Waymark
