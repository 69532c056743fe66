import Waymark.Language.Basic

/-! The languages that are known from the start: their extensions, the patterns that find their
declarations, and the comments that may hold a marker.
-/

set_option autoImplicit false

namespace Waymark.Language

def slashMarker : String := "(//+!?|/\\*+|^\\s*\\*)\\s*@codebase-summary:"

def hashMarker : String := "(#+)\\s*@codebase-summary:"

def docstringMarker : String := "(#+|\"\"\"|'''|^\\s*)\\s*@codebase-summary:"

def dashMarker : String := "(--+)\\s*@codebase-summary:"

def cReserved : List String :=
  ["if", "for", "while", "switch", "return", "sizeof", "else", "do", "case"]

def cPlusPlusReserved : List String :=
  ["if", "for", "while", "switch", "catch", "return", "sizeof", "else", "do", "new", "delete",
   "throw", "case"]

def javaReserved : List String :=
  ["if", "for", "while", "switch", "catch", "return", "new", "else", "do", "synchronized", "throw"]

def ecmaScript : LanguageSource where
  name := "ECMAScript"
  extensions := ["js", "jsx", "ts", "tsx", "mjs", "cjs"]
  rules := [
    ⟨.function,
      "^\\s*(?:export\\s+)?(?:default\\s+)?(?:async\\s+)?function\\s*\\*?\\s+([A-Za-z_$][\\w$]*)",
      []⟩,
    ⟨.function,
      "^\\s*(?:export\\s+)?(?:const|let)\\s+([A-Za-z_$][\\w$]*)\\s*(?::[^=]+)?=\\s*" ++
      "(?:async\\s+)?(?:<[^>]*>\\s*)?(?:\\([^)]*\\)|[A-Za-z_$][\\w$]*)\\s*" ++
      "(?::\\s*[^=]+?)?\\s*=>",
      []⟩,
    ⟨.function,
      "^\\s*(?:export\\s+)?(?:const|let|var)\\s+([A-Za-z_$][\\w$]*)\\s*=\\s*" ++
      "(?:async\\s+)?function\\b",
      []⟩,
    ⟨.method,
      "^\\s+(?:(?:public|private|protected|static|async|readonly|override|get" ++
      "|set)\\s+)*\\*?([A-Za-z_$][\\w$]*)\\s*(?:<[^>]*>)?\\s*\\([^)]*\\)\\s*" ++
      "(?::\\s*[^\x7b]+)?\\\x7b",
      ["if", "for", "while", "switch", "catch", "function", "return", "else", "do", "with"]⟩,
    ⟨.type,
      "^\\s*(?:export\\s+)?(?:default\\s+)?(?:abstract\\s+)?class\\s+([A-Za-z_$][\\w$]*)",
      []⟩]
  marker := slashMarker
  window := .leading

def python : LanguageSource where
  name := "Python"
  extensions := ["py"]
  rules := [
    ⟨.function,
      "^\\s*(?:async\\s+)?def\\s+([A-Za-z_]\\w*)\\s*\\(",
      []⟩,
    ⟨.type,
      "^\\s*class\\s+([A-Za-z_]\\w*)\\s*[:(]",
      []⟩]
  marker := docstringMarker
  window := .docstring

def rust : LanguageSource where
  name := "Rust"
  extensions := ["rs"]
  rules := [
    ⟨.function,
      "^\\s*(?:pub(?:\\([^)]*\\))?\\s+)?(?:const\\s+)?(?:async\\s+)?(?:unsafe\\s+)?" ++
      "(?:extern\\s+\"[^\"]*\"\\s+)?fn\\s+([A-Za-z_]\\w*)",
      []⟩,
    ⟨.type,
      "^\\s*(?:pub(?:\\([^)]*\\))?\\s+)?(?:struct|enum|trait|union)\\s+([A-Za-z_]\\w*)",
      []⟩]
  marker := slashMarker
  window := .leading

def go : LanguageSource where
  name := "Go"
  extensions := ["go"]
  rules := [
    ⟨.function,
      "^\\s*func\\s+([A-Za-z_]\\w*)\\s*[\\(\\[]",
      []⟩,
    ⟨.method,
      "^\\s*func\\s+\\([^)]*\\)\\s+([A-Za-z_]\\w*)\\s*[\\(\\[]",
      []⟩,
    ⟨.type,
      "^\\s*type\\s+([A-Za-z_]\\w*)\\s+(?:struct|interface)\\b",
      []⟩]
  marker := slashMarker
  window := .leading

def java : LanguageSource where
  name := "Java"
  extensions := ["java"]
  rules := [
    ⟨.method,
      "^\\s*(?:(?:public|private|protected|static|final|abstract|synchronized|native" ++
      "|default|strictfp)\\s+)*(?:<[^>]+>\\s+)?[\\w<>\\[\\],.?]+\\s+([A-Za-z_$][\\w$]*)" ++
      "\\s*\\([^)]*\\)\\s*(?:throws\\s+[\\w.,\\s]+)?\\\x7b",
      javaReserved⟩,
    ⟨.type,
      "^\\s*(?:(?:public|private|protected|static|final|abstract|sealed)\\s+)*(?:class" ++
      "|interface|enum|record)\\s+([A-Za-z_]\\w*)",
      []⟩]
  marker := slashMarker
  window := .leading

def kotlin : LanguageSource where
  name := "Kotlin"
  extensions := ["kt", "kts"]
  rules := [
    ⟨.function,
      "^\\s*(?:(?:public|private|protected|internal|override|open|suspend|inline" ++
      "|operator|infix|tailrec|abstract)\\s+)*fun\\s+(?:<[^>]+>\\s*)?" ++
      "(?:[\\w.]+\\.)?([A-Za-z_]\\w*)\\s*\\(",
      []⟩,
    ⟨.type,
      "^\\s*(?:(?:public|private|protected|internal|open|abstract|sealed|data|enum|inner" ++
      "|annotation)\\s+)*(?:class|interface|object)\\s+([A-Za-z_]\\w*)",
      []⟩]
  marker := slashMarker
  window := .leading

def c : LanguageSource where
  name := "C"
  extensions := ["c", "h"]
  rules := [
    ⟨.function,
      "^\\s*(?:[A-Za-z_]\\w*[\\s\\*]+)+([A-Za-z_]\\w*)\\s*\\([^;]*\\)\\s*\\\x7b",
      cReserved⟩,
    ⟨.function,
      "^(?:[A-Za-z_]\\w*[\\s\\*]+)+([A-Za-z_]\\w*)\\s*\\([^;\x7b]*\\)\\s*;",
      cReserved⟩]
  marker := slashMarker
  window := .leading

def cPlusPlus : LanguageSource where
  name := "C++"
  extensions := ["cpp", "cc", "cxx", "hpp", "hh", "hxx"]
  rules := [
    ⟨.function,
      "^\\s*(?:template\\s*<[^>]*>\\s*)?(?:[A-Za-z_][\\w:<>,]*[\\s\\*&]+)+" ++
      "(?:[A-Za-z_]\\w*::)?(~?[A-Za-z_]\\w*)\\s*\\([^;]*\\)\\s*(?:const\\s*)?" ++
      "(?:noexcept\\s*)?(?:override\\s*)?(?:->\\s*[\\w:<>]+\\s*)?\\\x7b",
      cPlusPlusReserved⟩,
    ⟨.function,
      "^(?:[A-Za-z_][\\w:<>,]*[\\s\\*&]+)+([A-Za-z_]\\w*)\\s*\\([^;\x7b]*\\)\\s*;",
      cPlusPlusReserved⟩,
    ⟨.method,
      "^\\s*([A-Z]\\w*)\\s*\\([^;]*\\)\\s*(?::[^\x7b]*)?\\\x7b",
      cPlusPlusReserved⟩,
    ⟨.type,
      "^\\s*(?:template\\s*<[^>]*>\\s*)?(?:class|struct)\\s+([A-Za-z_]\\w*)\\s*" ++
      "(?:final\\s*)?(?::[^\x7b;]*)?\\\x7b?\\s*$",
      []⟩]
  marker := slashMarker
  window := .leading

def cSharp : LanguageSource where
  name := "C#"
  extensions := ["cs"]
  rules := [
    ⟨.method,
      "^\\s*(?:(?:public|private|protected|internal|static|virtual|override|abstract" ++
      "|sealed|async|extern|unsafe|new|partial)\\s+)*[\\w<>\\[\\],.?]+\\s+([A-Za-z_]\\w*)" ++
      "\\s*(?:<[^>]+>)?\\s*\\([^)]*\\)\\s*(?:where\\s+[^\x7b]+)?(?:\\\x7b|=>)",
      javaReserved⟩,
    ⟨.type,
      "^\\s*(?:(?:public|private|protected|internal|static|abstract|sealed" ++
      "|partial)\\s+)*(?:class|interface|struct|enum|record)\\s+([A-Za-z_]\\w*)",
      []⟩]
  marker := slashMarker
  window := .leading

def swift : LanguageSource where
  name := "Swift"
  extensions := ["swift"]
  rules := [
    ⟨.function,
      "^\\s*(?:@\\w+\\s+)*(?:(?:public|private|fileprivate|internal|open|static|class" ++
      "|override|mutating|final)\\s+)*func\\s+([A-Za-z_]\\w*)\\s*(?:<[^>]+>)?\\s*\\(",
      []⟩,
    ⟨.type,
      "^\\s*(?:(?:public|private|fileprivate|internal|open|final)\\s+)*(?:class|struct" ++
      "|enum|protocol|extension|actor)\\s+([A-Za-z_]\\w*)",
      ["func", "var", "let"]⟩]
  marker := slashMarker
  window := .leading

def php : LanguageSource where
  name := "PHP"
  extensions := ["php"]
  rules := [
    ⟨.function,
      "^\\s*(?:(?:public|private|protected|static|abstract" ++
      "|final)\\s+)*function\\s+&?([A-Za-z_]\\w*)\\s*\\(",
      []⟩,
    ⟨.type,
      "^\\s*(?:(?:abstract|final)\\s+)?(?:class|interface|trait|enum)\\s+([A-Za-z_]\\w*)",
      []⟩]
  marker := "(//+|/\\*+|^\\s*\\*|#)\\s*@codebase-summary:"
  window := .leading

def ruby : LanguageSource where
  name := "Ruby"
  extensions := ["rb"]
  rules := [
    ⟨.function,
      "^\\s*def\\s+(?:self\\.)?([A-Za-z_]\\w*[?!=]?)",
      []⟩,
    ⟨.type,
      "^\\s*(?:class|module)\\s+([A-Z]\\w*)",
      []⟩]
  marker := docstringMarker
  window := .docstring

def dart : LanguageSource where
  name := "Dart"
  extensions := ["dart"]
  rules := [
    ⟨.function,
      "^\\s*(?:(?:static|external|factory)\\s+)*(?:[\\w<>?,\\s]+\\s+)?([A-Za-z_]\\w*)\\s*" ++
      "(?:<[^>]+>)?\\s*\\([^)]*\\)\\s*(?:async\\*?\\s*|sync\\*\\s*)?(?:\\\x7b|=>)",
      ["if", "for", "while", "switch", "catch", "return", "else", "do"]⟩,
    ⟨.type,
      "^\\s*(?:abstract\\s+)?(?:class|mixin|enum|extension)\\s+([A-Za-z_]\\w*)",
      []⟩]
  marker := slashMarker
  window := .leading

def scala : LanguageSource where
  name := "Scala"
  extensions := ["scala", "sc"]
  rules := [
    ⟨.function,
      "^\\s*(?:(?:private|protected|override|final|implicit|inline)" ++
      "(?:\\[[^\\]]*\\])?\\s+)*def\\s+([A-Za-z_]\\w*)",
      []⟩,
    ⟨.type,
      "^\\s*(?:(?:abstract|final|sealed|case|implicit)\\s+)*(?:class|trait|object" ++
      "|enum)\\s+([A-Za-z_]\\w*)",
      []⟩]
  marker := slashMarker
  window := .leading

def lua : LanguageSource where
  name := "Lua"
  extensions := ["lua"]
  rules := [
    ⟨.function,
      "^\\s*(?:local\\s+)?function\\s+(?:[\\w]+[.:])*([A-Za-z_]\\w*)\\s*\\(",
      []⟩,
    ⟨.function,
      "^\\s*(?:local\\s+)?([A-Za-z_]\\w*)\\s*=\\s*function\\s*\\(",
      []⟩]
  marker := dashMarker
  window := .leading

def shell : LanguageSource where
  name := "Shell"
  extensions := ["sh", "bash", "zsh"]
  rules := [
    ⟨.function,
      "^\\s*function\\s+([A-Za-z_][\\w-]*)",
      []⟩,
    ⟨.function,
      "^\\s*([A-Za-z_][\\w-]*)\\s*\\(\\)\\s*\\\x7b?",
      ["function"]⟩]
  marker := hashMarker
  window := .leading

def powerShell : LanguageSource where
  name := "PowerShell"
  extensions := ["ps1", "psm1"]
  rules := [
    ⟨.function,
      "(?i)^\\s*(?:function|filter)\\s+([A-Za-z][\\w-]*)",
      []⟩]
  marker := "(#|<#)\\s*@codebase-summary:"
  window := .leading

def sql : LanguageSource where
  name := "SQL"
  extensions := ["sql"]
  rules := [
    ⟨.function,
      "(?i)^\\s*create\\s+(?:or\\s+replace\\s+)?(?:function|procedure|trigger)\\s+" ++
      "(?:[\\w\"]+\\.)?\"?([A-Za-z_]\\w*)",
      []⟩]
  marker := dashMarker
  window := .leading

def clojure : LanguageSource where
  name := "Clojure"
  extensions := ["clj", "cljs", "cljc"]
  rules := [
    ⟨.function,
      "^\\s*\\((?:defn-?|defmacro|defmulti)\\s+([A-Za-z][\\w\\-\\?!*]*)",
      []⟩]
  marker := "(;+)\\s*@codebase-summary:"
  window := .leading

def r : LanguageSource where
  name := "R"
  extensions := ["r"]
  rules := [
    ⟨.function,
      "^\\s*([A-Za-z][\\w.]*)\\s*(?:<-|=)\\s*function\\s*\\(",
      []⟩]
  marker := hashMarker
  window := .leading

def sources : List LanguageSource :=
  [ecmaScript, python, rust, go, java, kotlin, c, cPlusPlus, cSharp, swift, php, ruby, dart,
   scala, lua, shell, powerShell, sql, clojure, r]

end Waymark.Language

namespace Waymark.Languages

def builtin : Languages :=
  Language.sources.foldl (fun languages source => (languages.register? source).getD languages) none

end Waymark.Languages
