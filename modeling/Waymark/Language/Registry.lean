import Std.Data.HashMap
import Waymark.Language.Builtin

/-! Languages in the order in which they were registered, and for each extension the place of its language among
them. How a pattern compiles is left open, so any calls can be looked at, those that fail too. A scan, whose languages
are known from the start, finds the same ones in `Languages`, a sorted table that can be evaluated.
-/

set_option autoImplicit false

namespace Waymark

structure LanguageRegistry where
  languages : Array Language
  /-- Places of languages, under extensions in lower case. -/
  byExtension : Std.HashMap String Nat

namespace LanguageRegistry

def empty : LanguageRegistry := ⟨#[], ∅⟩

/-! Reading -/

def find? (registry : LanguageRegistry) (extension : String) : Option Language := do
  let place ← registry.byExtension[Languages.key extension]?
  registry.languages[place]?

def isRegistered (registry : LanguageRegistry) (extension : String) : Bool :=
  registry.byExtension.contains (Languages.key extension)

def extensions (registry : LanguageRegistry) : List String := registry.byExtension.keys.mergeSort fun a b => a ≤ b

/-! Registering -/

/-- What is done with a registry; a failure keeps what was done before it. -/
abbrev Registering (ε α : Type) := ExceptT ε (StateM LanguageRegistry) α

variable {ε : Type} (compile : String → Except ε Pattern)

def compileRule (source : RuleSource) : Except ε DeclarationRule := do
  let pattern ← compile source.pattern
  return ⟨source.kind, pattern, source.reserved⟩

/-- The language of a source, or why the first pattern that does not compile does not. -/
def compileLanguage (source : LanguageSource) : Except ε Language := do
  let rules ← source.rules.mapM (compileRule compile)
  let marker ← compile source.marker
  return ⟨source.name, rules, marker, source.window⟩

/-- Adds a language; under an extension that others have too it takes their place. -/
def register (source : LanguageSource) : Registering ε Unit := do
  let language ← ofExcept (compileLanguage compile source)
  let place := (← get).languages.size
  modify fun registry => { registry with languages := registry.languages.push language }
  source.extensions.forM fun extension =>
    modify fun registry => { registry with byExtension := registry.byExtension.insert (Languages.key extension) place }

def builtin : Except ε LanguageRegistry :=
  match (Language.sources.forM (register compile) : Registering ε Unit) empty with
  | (.ok (), registry) => .ok registry
  | (.error error, _) => .error error

end LanguageRegistry

end Waymark
