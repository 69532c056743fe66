import Waymark.Changelog.Category
import Waymark.Text.Blank
import Waymark.Text.Lines
import Waymark.Time.Basic
import Waymark.Version

/-! The checkpoint log, a text of sections with the newest first. A section starts at a heading of
the second level that names a checkpoint and runs up to the next one.
-/

set_option autoImplicit false

namespace Waymark

structure Checkpoint where
  timestamp : Time
  changelogVersion : Version
  projectVersion : Option Version
  category : Category
  summary : String
  deriving DecidableEq

namespace Checkpoint

def heading : String := "## Automated Checkpoint: "

/-- The section of a checkpoint. Further lines of the summary are indented, so that none of them
starts a section. -/
def render (entry : Checkpoint) : List Char :=
  let summary := Text.join ['\n', ' ', ' '] (Text.lines (Text.trim entry.summary.toList))
  let project := (entry.projectVersion.map Version.text).getD "none".toList
  heading.toList ++ entry.timestamp.heading ++
    "\n\n### Project State\n- **Version**: ".toList ++ entry.changelogVersion.text ++
    "\n- **Project Version**: ".toList ++ project ++
    "\n- **Type**: ".toList ++ entry.category.toText.toList ++
    "\n\n### Recent Changes\n- ".toList ++ summary ++ "\n\n---\n".toList

end Checkpoint

namespace CheckpointLog

def header : String :=
  "# Arkival Checkpoint Log\n\n*Generated by: arkival-storage*\n\n" ++
    "Newest checkpoints first. Older sections are pruned automatically.\n\n"

def startsSection (line : List Char) : Bool :=
  "## ".toList.isPrefixOf line && Text.occursIn "Checkpoint".toList line

/-- The lines from each section start on; what stands before the first one is left out. -/
def sectionLines : List (List Char) → List (List (List Char))
  | [] => []
  | line :: rest =>
    if startsSection line then
      (line :: rest.takeWhile (!startsSection ·)) :: sectionLines rest
    else sectionLines rest

/-- The sections of a log, every line ended by a line feed. -/
def sections (log : List Char) : List (List Char) :=
  (sectionLines (Text.lines log)).map fun lines => lines.flatMap (· ++ ['\n'])

/-- The lines that start a section, without their number signs. -/
def headings (log : List Char) : List (List Char) :=
  ((Text.lines log).filter startsSection).map fun line => Text.trim (line.dropWhile (· == '#'))

/-- Puts a checkpoint in front and keeps the newest sections, at least one. -/
def prepend (log : List Char) (entry : Checkpoint) (retention : Nat) : List Char :=
  let kept := (entry.render :: sections log).take (max retention 1)
  header.toList ++ kept.flatMap fun lines => Text.trimEnd lines ++ ['\n', '\n']

end CheckpointLog

end Waymark
