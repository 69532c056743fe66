import Waymark.Changelog.Basic
import Waymark.Session.Basic
import Waymark.Store.Error

/-! The phases between two handoffs. A session is open exactly in the active phase, and nothing is held
before the stored documents have been read.
-/

set_option autoImplicit false

namespace Waymark

/-- What was read when the phase of the incoming session began. -/
structure Inherited where
  previous : Option Session
  changelog : Changelog
  /-- The version of the stored summary. -/
  projectVersion : Option Version
  deriving DecidableEq

inductive Phase where
  | idle
  | loaded (inherited : Inherited)
  | active (inherited : Inherited) (session : Session)
  deriving DecidableEq

namespace Phase

def toText : Phase → String
  | .idle => "idle"
  | .loaded _ => "incoming loaded"
  | .active .. => "active"

def session? : Phase → Option Session
  | .active _ session => some session
  | _ => none

def inherited? : Phase → Option Inherited
  | .idle => none
  | .loaded inherited => some inherited
  | .active inherited _ => some inherited

end Phase

inductive Transition where
  | load
  | begin
  | recordTask
  deriving Repr, DecidableEq

def Transition.toText : Transition → String
  | .load => "load incoming state"
  | .begin => "begin a session"
  | .recordTask => "record a task"

inductive HandoffError where
  | invalidTransition (transition : Transition) (phase : Phase)
  | emptySummary
  /-- A stored document could not be read. -/
  | storage (error : StoreError)
  /-- The documents were not committed; the session stays open. -/
  | uncommitted (error : StoreError)
  | overflow (refused : Overflow)
  deriving DecidableEq

namespace HandoffError

def message : HandoffError → Option String
  | .invalidTransition transition phase =>
    some ("cannot " ++ transition.toText ++ " while " ++ phase.toText)
  | .emptySummary => some "session summary must not be empty"
  | .storage error => error.message.map ("storage error: " ++ ·)
  | .uncommitted error =>
    error.message.map ("partial update: handoff stores were not committed: " ++ ·)
  | .overflow refused => some refused.message

end HandoffError

end Waymark
