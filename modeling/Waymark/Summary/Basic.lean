import Waymark.Count
import Waymark.Table
import Waymark.Time.Basic
import Waymark.Version
import Waymark.Summary.Verbosity

/-! What a scan found, file by file and summed up over the project. -/

set_option autoImplicit false

namespace Waymark

structure FileRecord where
  /-- Relative to the scanned root, segments separated by slashes. -/
  path : String
  language : String
  /-- Declared names in order of first appearance. -/
  names : List String
  /-- The names without a marker near their declaration. -/
  unmarked : List String
  documented : Count
  functions : Count
  lines : Count
  deriving DecidableEq

namespace FileRecord

def undocumented (record : FileRecord) : Count :=
  if record.documented ≤ record.functions then record.functions - record.documented else 0

/-- What stands before the last slash, or a point where there is none. -/
def directory (record : FileRecord) : String :=
  let path := record.path.toList
  if path.contains '/' then
    String.ofList ((path.reverse.dropWhile (· != '/')).drop 1).reverse
  else "."

end FileRecord

structure LanguageCount where
  files : Count
  functions : Count
  deriving DecidableEq, Inhabited

structure LanguageDetail where
  files : Count
  functions : Count
  documented : Count
  coverage : Float
  lines : Count
  deriving DecidableEq, Inhabited

/-- What a run read and what it left out. -/
structure RunReport where
  filesScanned : Count
  skippedBinary : Count
  skippedUnreadable : Count
  skippedOversized : Count
  ruleErrors : Count
  directoriesPruned : Count
  deriving DecidableEq, Inhabited

def RunReport.skippedFiles (report : RunReport) : Except Overflow Count := do
  (← report.skippedBinary.add report.skippedUnreadable).add report.skippedOversized

structure Summary where
  version : Version
  generatedAt : Time
  totalFiles : Count
  totalFunctions : Count
  documentedFunctions : Count
  coverage : Float
  languages : Table LanguageCount
  attribution : String
  verbosity : Verbosity
  details : Option (Table LanguageDetail)
  runReport : Option RunReport
  deriving DecidableEq

/-- Whether the totals that decide the version are equal. -/
def Summary.sameCounts (a b : Summary) : Bool :=
  a.totalFiles == b.totalFiles && a.totalFunctions == b.totalFunctions &&
    a.documentedFunctions == b.documentedFunctions

/-- The whole number nearest to one that is not negative, of two the upper one. From `2 ^ 53` on every
float is whole. -/
def nearestWhole (x : Float) : Float :=
  if x < 9007199254740992 then (((x * 2).toUInt64 + 1) / 2).toFloat else x

/-- The documented part in percent, to one place; nothing out of nothing is zero. -/
def coverage (documented total : Count) : Float :=
  if total = 0 then 0
  else nearestWhole (documented.toFloat / total.toFloat * 100 * 10) / 10

end Waymark
