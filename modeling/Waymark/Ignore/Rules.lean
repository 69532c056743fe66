import Waymark.Count
import Waymark.Glob.Compile
import Waymark.Ignore.Rule
import Waymark.Path

/-! Sets of ignore rules: the built-in ones and those of an ignore file, sorted by kind so that a path
is tested against all rules of a kind at once.
-/

set_option autoImplicit false

namespace Waymark

structure IgnoreProblem where
  /-- Counted from one. -/
  line : Nat
  pattern : String
  reason : String
  deriving Repr, DecidableEq

def IgnoreProblem.message (problem : IgnoreProblem) : String :=
  "ignore rule on line " ++ String.ofList (Text.Decimal.write problem.line) ++ " ('" ++
    problem.pattern ++ "') skipped: " ++ problem.reason

structure IgnoreRules where
  /-- All rules, each once, the built-in ones first. -/
  rules : List IgnoreRule
  segments : List String
  substrings : List String
  globs : List Glob
  problems : List IgnoreProblem

namespace IgnoreRules

/-- What every scan leaves out: version control, dependencies, build results, state of tools and the
archives of earlier runs. -/
def builtinPatterns : List String :=
  [".git", ".hg", ".svn",
   "node_modules", "__pycache__", ".pytest_cache", "vendor", "target", "build", "dist", "out",
   "bin", "obj", ".next", ".nuxt", "coverage", ".cache", ".venv", "venv", ".pythonlibs",
   "test-results", "*_assets",
   ".local", ".config", ".vscode", ".idea", ".DS_Store",
   "language_scan_tests", "codebase_summary/history", "checkpoints", "workflow_export_package"]

def builtin : List IgnoreRule := builtinPatterns.filterMap IgnoreRule.of?

/-- The rule of a line, nothing where only a comment stands, or why the line makes no rule. -/
def ofLine (raw : String) : Except String (Option IgnoreRule) :=
  let text := Text.trim (raw.toList.takeWhile (· != '#'))
  if text.isEmpty then .ok none
  else
    match IgnoreRule.of? (String.ofList text) with
    | none => .error "pattern is empty after normalization"
    | some rule =>
      if rule.kind = .glob then
        match Glob.read rule.pattern with
        | .ok _ => .ok (some rule)
        | .error refusal =>
          .error ("error parsing glob '" ++ rule.pattern ++ "': " ++ refusal.message)
      else .ok (some rule)

/-- Adds the rules of the lines from line `number` on to rules and problems gathered so far. -/
def gather (number : Nat) (rules : List IgnoreRule) (problems : List IgnoreProblem) :
    List String → List IgnoreRule × List IgnoreProblem
  | [] => (rules, problems)
  | raw :: rest =>
    match ofLine raw with
    | .ok none => gather (number + 1) rules problems rest
    | .ok (some rule) =>
      gather (number + 1) (if rules.contains rule then rules else rules ++ [rule]) problems rest
    | .error reason => gather (number + 1) rules (problems ++ [⟨number, raw, reason⟩]) rest

def globsOf (rules : List IgnoreRule) : List Glob :=
  (rules.filter (·.kind == .glob)).filterMap fun rule => (Glob.read rule.pattern).toOption

/-- Sorts the rules by kind. Globs that cannot be compiled together are left out, all of them. -/
def compileWith (canCompile : List Glob → Bool) (rules : List IgnoreRule) (problems : List IgnoreProblem) :
    IgnoreRules where
  rules
  segments := (rules.filter (·.kind == .segment)).map (·.pattern)
  substrings := (rules.filter (·.kind == .substring)).map (·.pattern)
  globs := if canCompile (globsOf rules) then globsOf rules else []
  problems

def compile : List IgnoreRule → List IgnoreProblem → IgnoreRules := compileWith Glob.canCompile

/-- The built-in rules and those of the lines of an ignore file, where `canCompile` tells which globs can be compiled
together. -/
def ofLinesWith (canCompile : List Glob → Bool) (lines : List String) : IgnoreRules :=
  let (rules, problems) := gather 1 builtin [] lines
  compileWith canCompile rules problems

def ofLines : List String → IgnoreRules := ofLinesWith Glob.canCompile

def ofFile (text : Option String) : IgnoreRules :=
  ofLines (text.elim [] fun text => (Text.lines text.toList).map String.ofList)

def excludes (rules : IgnoreRules) (segments : List String) : Bool :=
  let joined := "/".intercalate segments
  segments.any rules.segments.contains ||
    rules.substrings.any (fun part => Text.occursIn part.toList joined.toList) ||
    rules.globs.any (fun glob => glob.isMatch joined || segments.any glob.isMatch)

def segmentOf : Path.Component → String
  | .root => "/"
  | .here => "."
  | .up => ".."
  | .name text => text

def excludesPath (rules : IgnoreRules) (path : Path) : Bool :=
  rules.excludes (path.components.map segmentOf)

end IgnoreRules

end Waymark
