import Waymark.Summary.Basic

/-! The report of files with more undocumented declarations than a threshold, by directory. -/

set_option autoImplicit false

namespace Waymark

structure MissingFile where
  path : String
  undocumented : Count
  total : Count
  deriving DecidableEq

structure MissingDocs where
  generatedAt : Time
  threshold : Count
  totalFiles : Count
  totalUndocumented : Count
  directories : Table (List MissingFile)
  deriving DecidableEq

namespace MissingDocs

def isEmpty (report : MissingDocs) : Bool := report.directories.isEmpty

def empty (threshold : Count) (now : Time) : MissingDocs := ⟨now, threshold, 0, 0, .empty⟩

/-- Lists a file if it has more undocumented declarations than the threshold, and at least one. -/
def add (report : MissingDocs) (record : FileRecord) : Except Overflow MissingDocs := do
  let undocumented := record.undocumented
  if undocumented = 0 || undocumented ≤ report.threshold then return report
  let file : MissingFile := ⟨record.path, undocumented, record.functions⟩
  let listed := (report.directories.get? record.directory).getD []
  return { report with
    totalFiles := ← report.totalFiles.next
    totalUndocumented := ← report.totalUndocumented.add undocumented
    directories := report.directories.insert record.directory (listed ++ [file]) }

def ofRecords (records : List FileRecord) (threshold : Count) (now : Time) :
    Except Overflow MissingDocs :=
  records.foldlM add (empty threshold now)

end MissingDocs

end Waymark
