import Waymark.Deployment.Mode
import Waymark.Session.Outcome
import Waymark.SessionId
import Waymark.Time.Basic
import Waymark.Version

/-! The record of a working session, and the handoff to the next one that is derived from it. -/

set_option autoImplicit false

namespace Waymark

structure Session where
  id : SessionId
  startedAt : Time
  /-- Set when the session is handed off. -/
  completedAt : Option Time
  completedTasks : List String
  priorityItems : List String
  mode : Mode
  outcome : Outcome
  lastSummary : Option String
  projectVersion : Option Version
  deriving DecidableEq

def Session.start (id : SessionId) (mode : Mode) (startedAt : Time) : Session where
  id
  startedAt
  completedAt := none
  completedTasks := []
  priorityItems := []
  mode
  outcome := .unresolved
  lastSummary := none
  projectVersion := none

structure Handoff where
  generatedAt : Time
  sessionId : SessionId
  outcome : Outcome
  summary : String
  instructions : List String
  priorityActions : List String
  completedTasks : List String
  mode : Mode
  projectVersion : Option Version
  changelogVersion : Version
  deriving DecidableEq

def Outcome.instructions : Outcome → List String
  | .completed =>
    ["Review completed work and verify functionality",
     "Consider next feature priorities from roadmap",
     "Check for any edge cases or improvements needed"]
  | .unresolved =>
    ["Review the unresolved issue in detail",
     "Try alternative approaches to the problem",
     "Consider breaking down the issue into smaller tasks",
     "Document any new findings or attempted solutions"]

def Handoff.ofSession (session : Session) (changelogVersion : Version) (generatedAt : Time) :
    Handoff where
  generatedAt
  sessionId := session.id
  outcome := session.outcome
  summary := session.lastSummary.getD ""
  instructions := session.outcome.instructions
  priorityActions := session.priorityItems
  completedTasks := session.completedTasks
  mode := session.mode
  projectVersion := session.projectVersion
  changelogVersion

end Waymark
