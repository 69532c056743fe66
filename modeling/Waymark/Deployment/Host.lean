import Waymark.Deployment.Context
import Waymark.Deployment.Manifest
import Waymark.Repository.Basic

/-! Gathering what a host project says about itself. Each field comes from the first source that has it:
the manifests in their order, then the introduction. What cannot be read says nothing.
-/

set_option autoImplicit false

namespace Waymark

def technologySigns : List (String × String) :=
  [("package.json", "Node.js"), ("tsconfig.json", "TypeScript"), ("vite.config.ts", "Vite"),
   ("vite.config.js", "Vite"), ("next.config.js", "Next.js"), ("vue.config.js", "Vue.js"),
   ("Cargo.toml", "Rust"), ("pyproject.toml", "Python"), ("requirements.txt", "Python"),
   ("go.mod", "Go"), ("pom.xml", "Java/Maven"), ("build.gradle", "Java/Gradle"),
   ("composer.json", "PHP"), ("Gemfile", "Ruby")]

namespace HostMetadata

def textAt? (tree : Tree) (hostRoot : Path) (name : String) : Option (List Char) :=
  ((tree.read (hostRoot.join name)).toOption.bind String.fromUTF8?).map String.toList

def manifests (tree : Tree) (hostRoot : Path) : List Manifest :=
  Manifest.kinds.filterMap fun kind => (textAt? tree hostRoot kind.1).bind kind.2

def introduction (tree : Tree) (hostRoot : Path) : Introduction :=
  ((Introduction.fileNames.findSome? (textAt? tree hostRoot ·)).map Introduction.ofText).getD
    ⟨none, none⟩

/-- Takes over from a manifest what is not known yet. The word for an unknown version is taken for
none. -/
def merge (found later : Manifest) : Manifest where
  name := found.name <|> later.name
  version :=
    if found.version.all (· == unknown) then later.version <|> found.version else found.version
  description := found.description <|> later.description

def technologiesOf (tree : Tree) (hostRoot : Path) : List String :=
  ((technologySigns.filter fun sign => tree.exists? (hostRoot.join sign.1)).map Prod.snd).eraseDups

def gather (tree : Tree) (hostRoot : Path) : HostMetadata :=
  let found := (manifests tree hostRoot).foldl merge .empty
  let opening := introduction tree hostRoot
  let known := placeholder hostRoot
  { name := (found.name <|> opening.heading).getD known.name
    version := found.version.getD known.version
    technologies := technologiesOf tree hostRoot
    description := found.description <|> opening.paragraph
    remote := (Repository.open? tree hostRoot).bind Repository.origin? }

end HostMetadata

end Waymark
