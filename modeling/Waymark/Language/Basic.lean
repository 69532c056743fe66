import Waymark.Count
import Waymark.Pattern.Reader
import Waymark.Table
import Waymark.Text.Lowercase

/-! Languages: how declarations and documentation markers look on a line, and how far from its
declaration a marker may stand. A language is found by the extension of a file; of languages that
share an extension the last one registered counts.
-/

set_option autoImplicit false

namespace Waymark

inductive DeclarationKind where
  | function
  | method
  | type
  deriving Repr, DecidableEq

/-- A declaration pattern as it is written, with the names that it does not take. -/
structure RuleSource where
  kind : DeclarationKind
  pattern : String
  reserved : List String
  deriving Repr, DecidableEq

/-- How many lines above and below a declaration are searched for its marker. -/
structure MarkerWindow where
  above : Count
  below : Count
  deriving Repr, DecidableEq

namespace MarkerWindow

def leading : MarkerWindow := ⟨10, 0⟩

/-- A comment above the declaration or a text in the first lines of its body. -/
def docstring : MarkerWindow := ⟨10, 4⟩

end MarkerWindow

structure LanguageSource where
  name : String
  extensions : List String
  rules : List RuleSource
  marker : String
  window : MarkerWindow
  deriving Repr, DecidableEq

structure DeclarationRule where
  kind : DeclarationKind
  pattern : Pattern
  reserved : List String
  deriving Repr, DecidableEq

namespace DeclarationRule

def of? (source : RuleSource) : Option DeclarationRule :=
  (Pattern.read? source.pattern).map fun pattern => ⟨source.kind, pattern, source.reserved⟩

def admits (rule : DeclarationRule) (name : List Char) : Bool :=
  !name.isEmpty && name.head? != some '_' && !rule.reserved.contains (String.ofList name)

def nameOn? (rule : DeclarationRule) (line : List Char) : Option String :=
  (rule.pattern.captured? line).bind fun name =>
    if rule.admits name then some (String.ofList name) else none

end DeclarationRule

structure Language where
  name : String
  rules : List DeclarationRule
  marker : Pattern
  window : MarkerWindow
  deriving Repr, DecidableEq

namespace Language

def of? (source : LanguageSource) : Option Language := do
  let rules ← source.rules.mapM DeclarationRule.of?
  let marker ← Pattern.read? source.marker
  return ⟨source.name, rules, marker, source.window⟩

def isMarked (language : Language) (line : List Char) : Bool := language.marker.isMatch line

end Language

/-- Languages by extension, in lower case and without the point. -/
structure Languages where
  byExtension : Table Language
  deriving DecidableEq

namespace Languages

def none : Languages := ⟨.empty⟩

/-- The form in which extensions are compared. -/
def key (extension : String) : String :=
  String.ofList (Text.asciiLowercase extension.toList)

def add (languages : Languages) (extensions : List String) (language : Language) : Languages :=
  ⟨extensions.foldl (fun table extension => table.insert (key extension) language)
    languages.byExtension⟩

/-- Registers a language under all of its extensions, or under none if a pattern is malformed. -/
def register? (languages : Languages) (source : LanguageSource) : Option Languages :=
  (Language.of? source).map (languages.add source.extensions)

def find? (languages : Languages) (extension : String) : Option Language :=
  languages.byExtension.get? (key extension)

def extensions (languages : Languages) : List String := languages.byExtension.names

end Languages

end Waymark
