import Waymark.Changelog.Category
import Waymark.Count
import Waymark.Table
import Waymark.Time.Basic
import Waymark.Version

/-! The changelog: numbered entries, newest first, with statistics derived from them. Entries beyond
a retention are taken out to be archived, and the statistics remember how many.
-/

set_option autoImplicit false

namespace Waymark

structure ChangelogEntry where
  id : String
  version : Version
  date : Time
  category : Category
  summary : String
  projectVersion : Option Version
  deriving DecidableEq

structure ChangelogStatistics where
  totalEntries : Count
  byCategory : Table Count
  archivedEntries : Count
  deriving DecidableEq, Inhabited

structure Changelog where
  version : Version
  lastUpdated : Option Time
  /-- Newest first. -/
  entries : List ChangelogEntry
  statistics : ChangelogStatistics
  /-- The number of the last entry that was recorded. -/
  sequence : Count
  deriving DecidableEq

namespace Changelog

def empty : Changelog := ⟨.first, none, [], default, 0⟩

instance : Inhabited Changelog := ⟨empty⟩

/-- The name of the entry with a number, as in `change_007`. -/
def entryId (number : Count) : String :=
  "change_" ++ String.ofList (Text.Decimal.writePadded 3 number.toNat)

def countByCategory (entries : List ChangelogEntry) : Table Count :=
  entries.foldl (fun table entry =>
    let name := entry.category.toText
    table.insert name ((table.get? name).getD 0 + 1)) .empty

/-- Derives the statistics anew; the number of archived entries stays. -/
def refresh (log : Changelog) : Changelog :=
  { log with statistics :=
    { log.statistics with
      totalEntries := Count.ofLength log.entries
      byCategory := countByCategory log.entries } }

/-- Records a change as the newest entry under the next number and the next minor version. A number
that was taken stays taken where the version cannot be raised. -/
def record (log : Changelog) (category : Category) (summary : String)
    (projectVersion : Option Version) (now : Time) : Changelog × Except Overflow ChangelogEntry :=
  match log.sequence.next with
  | .error overflow => (log, .error overflow)
  | .ok sequence =>
    let log := { log with sequence }
    match log.version.bumpMinor with
    | .error overflow => (log, .error overflow)
    | .ok version =>
      let entry : ChangelogEntry :=
        ⟨entryId sequence, version, now, category, summary, projectVersion⟩
      ({ log with version, entries := entry :: log.entries, lastUpdated := some now }.refresh,
        .ok entry)

/-- Takes out the entries beyond the newest `retention`. -/
def takeOverflow (log : Changelog) (retention : Nat) :
    Changelog × Except Overflow (List ChangelogEntry) :=
  if log.entries.length ≤ retention then (log, .ok [])
  else
    let removed := log.entries.drop retention
    let log := { log with entries := log.entries.take retention }
    match log.statistics.archivedEntries.add (Count.ofLength removed) with
    | .error overflow => (log, .error overflow)
    | .ok archivedEntries =>
      ({ log with statistics := { log.statistics with archivedEntries } }.refresh, .ok removed)

def recent (log : Changelog) (category : Category) (limit : Nat) : List ChangelogEntry :=
  (log.entries.take limit).filter (·.category == category)

end Changelog

structure ChangelogArchive where
  archivedAt : Time
  projectVersion : Option Version
  count : Count
  entries : List ChangelogEntry
  deriving DecidableEq

end Waymark
