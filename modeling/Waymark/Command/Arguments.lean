import Waymark.Handoff.Synchronizer
import Waymark.Summary.Verbosity

/-! The arguments of the command line. Options stand before or after the name of a command; a value
follows its option after a space or an equals sign. The options on where to work may be given at every
level, and the innermost one counts.
-/

set_option autoImplicit false

namespace Waymark

inductive Command where
  /-- With `force` the summary before is archived even where the version stays. -/
  | scan (force : Bool) (verbosity : Option Verbosity)
  | incoming
  | outgoing (request : HandoffRequest)
  | status
  deriving DecidableEq

structure Invocation where
  toolRoot : Option Path
  workingDir : Option Path
  verbose : Bool
  command : Command
  deriving DecidableEq

namespace Arguments

inductive Stop where
  | help
  | usage
  deriving Repr, DecidableEq

structure Setting where
  long : String
  short : Option Char
  takesValue : Bool
  repeats : Bool
  accepts : String → Bool

def toolRoot : Setting := ⟨"tool-root", none, true, false, (!·.isEmpty)⟩

def workingDir : Setting := ⟨"cwd", none, true, false, (!·.isEmpty)⟩

def verbose : Setting := ⟨"verbose", some 'v', false, false, fun _ => true⟩

def force : Setting := ⟨"force", none, false, false, fun _ => true⟩

def verbosity : Setting := ⟨"verbosity", none, true, false, fun text => (Verbosity.read text).isOk⟩

def summary : Setting := ⟨"summary", none, true, false, fun _ => true⟩

def outcome : Setting := ⟨"outcome", none, true, false, fun text => (Outcome.read text).isOk⟩

def task : Setting := ⟨"task", none, true, true, fun _ => true⟩

def common : List Setting := [toolRoot, workingDir, verbose]

/-- Settings that were given, by their long names, in order. -/
abbrev Given := List (String × String)

/-- What stands at one level: its settings, and the name that opens the next with what follows it. -/
structure Level where
  given : Given
  next : Option (String × List String)
  deriving DecidableEq

def add (given : Given) (setting : Setting) (value : String) : Except Stop Given :=
  if !setting.accepts value then .error .usage
  else if !setting.repeats && (given.lookup setting.long).isSome then .error .usage
  else .ok (given ++ [(setting.long, value)])

/-- Whether an argument cannot be the value of the option before it. -/
def looksLikeOption (arg : String) : Bool := arg.toList.head? = some '-' && arg ≠ "-"

def addLetters (settings : List Setting) : Given → List Char → Except Stop Given
  | given, [] => .ok given
  | given, c :: rest =>
    if c = 'h' then .error .help
    else
      match settings.find? (·.short == some c) with
      | some setting =>
        if setting.takesValue then .error .usage
        else (add given setting "") >>= fun given => addLetters settings given rest
      | none => .error .usage

def splitLong (text : List Char) : String × Option String :=
  let name := text.takeWhile (· != '=')
  let value := if name.length < text.length then some (String.ofList (text.drop (name.length + 1)))
    else none
  (String.ofList name, value)

def level (settings : List Setting) (commands : List String) :
    Given → List String → Except Stop Level
  | given, [] => .ok ⟨given, none⟩
  | given, arg :: rest =>
    match arg.toList with
    | ['-', '-'] => if rest.isEmpty then .ok ⟨given, none⟩ else .error .usage
    | '-' :: '-' :: text =>
      let (name, value) := splitLong text
      if name = "help" then .error (if value.isNone then .help else .usage)
      else
        match settings.find? (·.long == name) with
        | none => .error .usage
        | some setting =>
          if setting.takesValue then
            match value, rest with
            | some value, rest =>
              (add given setting value) >>= fun given => level settings commands given rest
            | none, value :: rest =>
              if looksLikeOption value then .error .usage
              else (add given setting value) >>= fun given => level settings commands given rest
            | none, [] => .error .usage
          else if value.isSome then .error .usage
          else (add given setting "") >>= fun given => level settings commands given rest
    | '-' :: c :: letters =>
      (addLetters settings given (c :: letters)) >>= fun given => level settings commands given rest
    | _ => if commands.contains arg then .ok ⟨given, some (arg, rest)⟩ else .error .usage

def helpPaths : List (List String) :=
  [[], ["help"], ["scan"], ["status"], ["handoff"], ["handoff", "help"], ["handoff", "incoming"],
   ["handoff", "outgoing"]]

def helpOn {α : Type} (names : List String) : Except Stop α :=
  .error (if helpPaths.contains names then .help else .usage)

def lastLevel (settings : List Setting) (args : List String) : Except Stop Given := do
  return (← level settings [] [] args).given

def scan (args : List String) : Except Stop (Given × Command) := do
  let given ← lastLevel (common ++ [force, verbosity]) args
  let chosen := (given.lookup verbosity.long).bind fun text => (Verbosity.read text).toOption
  return (given, .scan (given.lookup force.long).isSome chosen)

def outgoing (args : List String) : Except Stop (Given × Command) := do
  let given ← lastLevel (common ++ [summary, outcome, task]) args
  let some text := given.lookup summary.long | throw .usage
  let chosen := (given.lookup outcome.long).bind fun text => (Outcome.read text).toOption
  let tasks := (given.filter (·.1 == task.long)).map Prod.snd
  return (given, .outgoing ⟨text, chosen.getD .unresolved, tasks⟩)

def handoff (args : List String) : Except Stop (Given × Command) := do
  match ← level common ["incoming", "outgoing", "help"] [] args with
  | ⟨given, some ("incoming", rest)⟩ => return (given ++ (← lastLevel common rest), .incoming)
  | ⟨given, some ("outgoing", rest)⟩ =>
    let (inner, command) ← outgoing rest
    return (given ++ inner, command)
  | ⟨_, some (_, rest)⟩ => helpOn ("handoff" :: rest)
  | ⟨_, none⟩ => throw .usage

def innermost (given : Given) (setting : Setting) : Option String :=
  given.reverse.lookup setting.long

def read (args : List String) : Except Stop Invocation := do
  let outer ← level common ["scan", "handoff", "status", "help"] [] args
  let (inner, command) ← match outer.next with
    | some ("scan", rest) => scan rest
    | some ("handoff", rest) => handoff rest
    | some ("status", rest) => (lastLevel common rest).map (·, .status)
    | some (_, rest) => helpOn rest
    | none => throw .usage
  let given := outer.given ++ inner
  return {
    toolRoot := (innermost given toolRoot).map Path.mk
    workingDir := (innermost given workingDir).map Path.mk
    verbose := (innermost given verbose).isSome
    command }

end Arguments

end Waymark
