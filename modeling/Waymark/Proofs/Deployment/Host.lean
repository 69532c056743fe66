import Mathlib.Data.List.TakeWhile
import Waymark.Deployment.Host

/-! What a host says about itself, field by field. A name and a description are those of the first source that has
one. A version that is spelled like the word for an unknown one gives way to a later version, and a heading behind the
line at which the first paragraph of an introduction ends is not seen.
-/

set_option autoImplicit false

namespace Waymark

namespace Introduction

variable {lines : List Line}

/-! The lines of an introduction -/

def linesOf (text : List Char) : List Line := (Text.lines text).map fun line => .ofTrimmed (Text.trim line)

def Line.prose? : Line → Option (List Char)
  | .prose text => some text
  | _ => none

def Line.title? : Line → Option (List Char)
  | .heading title => if title.isEmpty then none else some title
  | _ => none

def Line.continues : Line → Bool
  | .prose _ | .ornament => true
  | .heading _ | .blank => false

/-- The lines before the first prose. -/
def front (lines : List Line) : List Line := lines.takeWhile (·.prose?.isNone)

def body (lines : List Line) : List Line := (lines.dropWhile (·.prose?.isNone)).takeWhile Line.continues

/-- The lines behind the first paragraph, with the one that ends it. -/
def rest (lines : List Line) : List Line := (lines.dropWhile (·.prose?.isNone)).dropWhile Line.continues

theorem front_body_rest (lines : List Line) : front lines ++ (body lines ++ rest lines) = lines := by
  rw [body, rest, List.takeWhile_append_dropWhile, front, List.takeWhile_append_dropWhile]

theorem title?_of_continues {line : Line} (continues : line.continues = true) : line.title? = none := by
  cases line with
  | prose | ornament => rfl
  | heading | blank => cases continues

theorem findSome?_title?_body (lines : List Line) : (body lines).findSome? Line.title? = none :=
  List.findSome?_eq_none_iff.2 fun _ among => title?_of_continues (List.mem_takeWhile_imp among)

/-! What is read of them -/

theorem paragraphLines_open (lines : List Line) :
    paragraphLines true lines = (lines.takeWhile Line.continues).filterMap Line.prose? := by
  induction lines with
  | nil => rfl
  | cons line lines ih =>
    cases line with
    | prose text => exact congrArg (text :: ·) ih
    | ornament => exact ih
    | heading | blank => rfl

theorem paragraphLines_eq (lines : List Line) :
    paragraphLines false lines = (body lines).filterMap Line.prose? := by
  induction lines with
  | nil => rfl
  | cons line lines ih =>
    cases line with
    | prose text => exact congrArg (text :: ·) (paragraphLines_open lines)
    | heading | blank | ornament => exact ih

theorem title?_open (lines : List Line) :
    title? true lines = ((lines.dropWhile Line.continues).take 1).findSome? Line.title? := by
  induction lines with
  | nil => rfl
  | cons line lines ih =>
    cases line with
    | prose | ornament => exact ih
    | heading title => cases title <;> rfl
    | blank => rfl

theorem title?_eq (lines : List Line) :
    title? false lines = (front lines ++ (rest lines).take 1).findSome? Line.title? := by
  -- Nothing but prose leaves the front: a heading without a title is passed over like a blank line.
  induction lines with
  | nil => rfl
  | cons line lines ih =>
    cases line with
    | prose => exact title?_open lines
    | blank | ornament => exact ih
    | heading title =>
      cases title with
      | nil => exact ih
      | cons => rfl

/-- A title behind the line that ends the first paragraph. -/
def lateTitle? (lines : List Line) : Option (List Char) := ((rest lines).drop 1).findSome? Line.title?

theorem findSome?_title? (lines : List Line) :
    lines.findSome? Line.title? = (title? false lines).or (lateTitle? lines) := by
  calc
    lines.findSome? Line.title? = (front lines ++ (body lines ++ rest lines)).findSome? Line.title? := by
      rw [front_body_rest]
    _ = ((front lines).findSome? Line.title?).or
        (((rest lines).take 1 ++ (rest lines).drop 1).findSome? Line.title?) := by
      rw [List.findSome?_append, List.findSome?_append, findSome?_title?_body, Option.none_or, List.take_append_drop]
    _ = (title? false lines).or (lateTitle? lines) := by
      rw [title?_eq, List.findSome?_append, List.findSome?_append, Option.or_assoc, lateTitle?]

def firstHeading? (text : List Char) : Option String := ((linesOf text).findSome? Line.title?).map String.ofList

def firstParagraph? (text : List Char) : Option String :=
  match (body (linesOf text)).filterMap Line.prose? with
  | [] => none
  | prose => some (String.ofList (Text.join [' '] prose))

theorem paragraph_ofText (text : List Char) : (ofText text).paragraph = firstParagraph? text := by
  rw [firstParagraph?, ← paragraphLines_eq]
  change (if (paragraphLines false (linesOf text)).isEmpty then none
    else some (String.ofList (Text.join [' '] (paragraphLines false (linesOf text))))) = _
  cases paragraphLines false (linesOf text) <;> rfl

/-- The first heading with a title, up to the line that ends the first paragraph. -/
def earlyHeading? (text : List Char) : Option String :=
  ((front (linesOf text) ++ (rest (linesOf text)).take 1).findSome? Line.title?).map String.ofList

def lateHeading? (text : List Char) : Option String := (lateTitle? (linesOf text)).map String.ofList

theorem heading_ofText (text : List Char) : (ofText text).heading = earlyHeading? text :=
  congrArg (Option.map String.ofList) (title?_eq (linesOf text))

theorem firstHeading?_eq (text : List Char) : firstHeading? text = (earlyHeading? text).or (lateHeading? text) := by
  rw [firstHeading?, findSome?_title?, title?_eq, Option.map_or]
  rfl

end Introduction

namespace HostMetadata

variable {tree : Tree} {hostRoot : Path}

/-! Manifests -/

/-- What the manifests that can be read say in a field, the first one first. -/
def offers (tree : Tree) (hostRoot : Path) (field : Manifest → Option String) : List String :=
  (manifests tree hostRoot).filterMap field

/-- What is known of the version: the word for an unknown one tells nothing. -/
def known? (manifest : Manifest) : Option String := manifest.version.filter (· != unknown)

theorem known?_merge (found later : Manifest) : known? (merge found later) = (known? found).or (known? later) := by
  simp only [known?, merge]
  cases found.version with
  | none => cases later.version <;> rfl
  | some version =>
    -- The word for an unknown version is replaced, and kept if there is nothing to replace it.
    by_cases spelled : version = unknown
    · subst spelled
      cases later.version <;> rfl
    · simp [Option.filter_some, spelled]

theorem getD_known? (manifest : Manifest) : (known? manifest).getD unknown = manifest.version.getD unknown := by
  rw [known?]
  cases manifest.version with
  | none => rfl
  | some version =>
    rw [Option.filter_some]
    by_cases spelled : version = unknown
    · simp [spelled]
    · simp [spelled]

theorem foldl_merge (field : Manifest → Option String)
    (merges : ∀ found later, field (merge found later) = (field found).or (field later)) (found : Manifest)
    (manifests : List Manifest) : field (manifests.foldl merge found) = (field found).or (manifests.findSome? field) := by
  induction manifests generalizing found with
  | nil => exact Option.or_none.symm
  | cons later manifests ih =>
    rw [List.foldl_cons, ih, merges, Option.or_assoc, List.findSome?_cons]
    cases field later <;> rfl

theorem findSome?_known? (manifests : List Manifest) :
    manifests.findSome? known? = (manifests.filterMap (·.version)).find? (· != unknown) := by
  induction manifests with
  | nil => rfl
  | cons manifest manifests ih =>
    rw [List.findSome?_cons, List.filterMap_cons, ih, known?]
    cases manifest.version with
    | none => rfl
    | some version =>
      rw [List.find?_cons, Option.filter_some]
      cases version != unknown <;> rfl

/-! Where each field comes from -/

def readme? (tree : Tree) (hostRoot : Path) : Option (List Char) := Introduction.fileNames.findSome? (textAt? tree hostRoot)

def firstName (tree : Tree) (hostRoot : Path) : String :=
  ((offers tree hostRoot (·.name)).head?.or ((readme? tree hostRoot).bind Introduction.firstHeading?)).getD
    (hostRoot.fileName?.getD unknown)

def firstVersion (tree : Tree) (hostRoot : Path) : String := (offers tree hostRoot (·.version)).head?.getD unknown

def firstDescription (tree : Tree) (hostRoot : Path) : Option String :=
  (offers tree hostRoot (·.description)).head?.or ((readme? tree hostRoot).bind Introduction.firstParagraph?)

theorem heading_introduction (tree : Tree) (hostRoot : Path) :
    (introduction tree hostRoot).heading = (readme? tree hostRoot).bind Introduction.earlyHeading? := by
  rw [introduction, ← readme?]
  cases readme? tree hostRoot with
  | none => rfl
  | some text => exact Introduction.heading_ofText text

theorem paragraph_introduction (tree : Tree) (hostRoot : Path) :
    (introduction tree hostRoot).paragraph = (readme? tree hostRoot).bind Introduction.firstParagraph? := by
  rw [introduction, ← readme?]
  cases readme? tree hostRoot with
  | none => rfl
  | some text => exact Introduction.paragraph_ofText text

theorem firstHeading?_readme (tree : Tree) (hostRoot : Path) :
    (readme? tree hostRoot).bind Introduction.firstHeading? =
      ((readme? tree hostRoot).bind Introduction.earlyHeading?).or
        ((readme? tree hostRoot).bind Introduction.lateHeading?) := by
  cases readme? tree hostRoot with
  | none => rfl
  | some text => exact Introduction.firstHeading?_eq text

theorem name_gather (tree : Tree) (hostRoot : Path) :
    (gather tree hostRoot).name =
      ((offers tree hostRoot (·.name)).head?.or ((readme? tree hostRoot).bind Introduction.earlyHeading?)).getD
        (hostRoot.fileName?.getD unknown) := by
  have found : ((manifests tree hostRoot).foldl merge .empty).name = _ :=
    foldl_merge (·.name) (fun _ _ => Option.orElse_eq_or) .empty (manifests tree hostRoot)
  rw [← heading_introduction, offers, List.head?_filterMap]
  simp only [gather, found, Option.orElse_eq_orElse, Option.orElse_eq_or]
  rfl

theorem description_gather (tree : Tree) (hostRoot : Path) :
    (gather tree hostRoot).description = firstDescription tree hostRoot := by
  have found : ((manifests tree hostRoot).foldl merge .empty).description = _ :=
    foldl_merge (·.description) (fun _ _ => Option.orElse_eq_or) .empty (manifests tree hostRoot)
  rw [firstDescription, ← paragraph_introduction, offers, List.head?_filterMap]
  simp only [gather, found, Option.orElse_eq_orElse, Option.orElse_eq_or]
  rfl

theorem version_gather (tree : Tree) (hostRoot : Path) :
    (gather tree hostRoot).version = ((offers tree hostRoot (·.version)).find? (· != unknown)).getD unknown := by
  have version := foldl_merge known? known?_merge .empty (manifests tree hostRoot)
  rw [offers, ← findSome?_known?]
  exact (getD_known? _).symm.trans (congrArg (·.getD unknown) version)

theorem getD_find?_iff (versions : List String) :
    (versions.find? (· != unknown)).getD unknown = versions.head?.getD unknown ↔
      (versions.head? = some unknown → ∀ version ∈ versions, version = unknown) := by
  cases versions with
  | nil => simp
  | cons first versions =>
    by_cases spelled : first = unknown
    · subst spelled
      constructor
      · intro same _ version among
        -- Another version would be found in place of the first one.
        by_contra other
        have found : ((unknown :: versions).find? (· != unknown)).isSome = true :=
          List.find?_isSome.2 ⟨version, among, by simpa using other⟩
        obtain ⟨value, search⟩ := Option.isSome_iff_exists.1 found
        rw [search] at same
        exact absurd same (by simpa using List.find?_some search)
      · intro all
        rw [List.find?_eq_none.2 fun version among => by simp [all rfl version among]]
        rfl
    · simp [spelled]

theorem getD_or_iff {α : Type} (named early late : Option α) (default : α) :
    (named.or early).getD default = (named.or (early.or late)).getD default ↔
      (named.or early = none → ∀ heading ∈ late, heading = default) := by
  cases named with
  | some name => simp
  | none =>
    cases early with
    | some heading => simp
    | none =>
      cases late with
      | none => simp
      | some heading => simp [eq_comm]

/-- The description is that of the first source that has one. The version is that of the first manifest that has one
which is not the word for an unknown one. The name is that of the first manifest that has one, or else the first
heading of the introduction, as far as it is looked for, or else that of the directory. So a version of the first
manifest that has one is lost if it is that word and another manifest has another version, and a heading is lost if no
manifest has a name and it stands behind the line that ends the first paragraph. -/
theorem gather_fields (tree : Tree) (hostRoot : Path) :
    (gather tree hostRoot).description = firstDescription tree hostRoot ∧
      (gather tree hostRoot).version = ((offers tree hostRoot (·.version)).find? (· != unknown)).getD unknown ∧
      (gather tree hostRoot).name =
        ((offers tree hostRoot (·.name)).head?.or ((readme? tree hostRoot).bind Introduction.earlyHeading?)).getD
          (hostRoot.fileName?.getD unknown) ∧
      ((gather tree hostRoot).version = firstVersion tree hostRoot ↔
        ((offers tree hostRoot (·.version)).head? = some unknown →
          ∀ version ∈ offers tree hostRoot (·.version), version = unknown)) ∧
      ((gather tree hostRoot).name = firstName tree hostRoot ↔
        ((offers tree hostRoot (·.name)).head?.or ((readme? tree hostRoot).bind Introduction.earlyHeading?) = none →
          ∀ heading ∈ (readme? tree hostRoot).bind Introduction.lateHeading?,
            heading = hostRoot.fileName?.getD unknown)) := by
  refine ⟨description_gather tree hostRoot, version_gather tree hostRoot, name_gather tree hostRoot, ?_, ?_⟩
  · rw [version_gather, firstVersion]
    exact getD_find?_iff _
  · have heading : (readme? tree hostRoot).bind Introduction.firstHeading? = _ := firstHeading?_readme tree hostRoot
    rw [name_gather, firstName, heading]
    exact getD_or_iff ..

/-- A till that says of itself that its version is unknown, and its name behind a paragraph. -/
def till : Tree where
  items :=
    [(["till"], ⟨.directory, 0⟩),
     (["till", "package.json"], ⟨.file "\x7b\"version\": \"unknown\"\x7d".toUTF8, 0⟩),
     (["till", "Cargo.toml"], ⟨.file "[package]\nversion = \"1.0.0\"\n".toUTF8, 0⟩),
     (["till", "README.md"], ⟨.file "Plain prose.\n\n# Shop\n".toUTF8, 0⟩)]
  workingDir := []

theorem gather_overlooks : (gather till ⟨"/till"⟩).version = "1.0.0" ∧ firstVersion till ⟨"/till"⟩ = "unknown" ∧
    (gather till ⟨"/till"⟩).name = "till" ∧ firstName till ⟨"/till"⟩ = "Shop" := by
  decide +kernel

end HostMetadata

end Waymark
