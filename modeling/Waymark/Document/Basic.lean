import Waymark.Document.Legacy

/-! Documents as bytes. A summary, a changelog and a session are also read in their older forms,
which are told apart by the absence of a tag.
-/

set_option autoImplicit false

namespace Waymark

namespace Document

open Json

def value (raw : ByteArray) : Decoded Json :=
  ((String.fromUTF8? raw).bind fun text => Json.read? text.toList).elim (.error .malformed) .ok

def isTagged (json : Json) : Bool := (json.get? "schema").isSome

/-- Reads a document that has an older form, which is told by the absence of a tag. -/
def readEither {α β : Type} (kind : DocumentKind) (shape : Shape α) (older : Shape β) (carry : β → α)
    (raw : ByteArray) : Decoded α := do
  let json ← value raw
  if isTagged json then kind.decode shape json
  else return carry (← older.decode json)

def readSummary (raw : ByteArray) : Decoded Summary :=
  readEither .summary Summary.shape Legacy.summaryShape (·.toSummary) raw

def readChangelog (raw : ByteArray) : Decoded Changelog :=
  readEither .changelog Changelog.shape Legacy.changelogShape (·.toChangelog) raw

/-- A session of the older form is read under the given id. -/
def readSession (raw : ByteArray) (id : SessionId) : Decoded Session :=
  readEither .session Session.shape Legacy.sessionShape (·.toSession id) raw

def readHandoff (raw : ByteArray) : Decoded Handoff := do
  DocumentKind.handoff.decode Handoff.shape (← value raw)

def readMissingDocs (raw : ByteArray) : Decoded MissingDocs := do
  DocumentKind.missingDocs.decode MissingDocs.shape (← value raw)

end Document

namespace Summary
def write (summary : Summary) : String := DocumentKind.summary.write summary.members
end Summary

namespace Changelog
def write (log : Changelog) : String := DocumentKind.changelog.write log.members
end Changelog

namespace Session
def write (session : Session) : String := DocumentKind.session.write session.members
end Session

namespace Handoff
def write (handoff : Handoff) : String := DocumentKind.handoff.write handoff.members
end Handoff

namespace MissingDocs
def write (report : MissingDocs) : String := DocumentKind.missingDocs.write report.members
end MissingDocs

namespace ChangelogArchive
def write (archive : ChangelogArchive) : String := DocumentKind.archive.write archive.members
end ChangelogArchive

end Waymark
