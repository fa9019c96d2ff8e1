import SnapshotAgent.Text.Lower
import SnapshotAgent.Text.Blank
/-!
# States and triggers of an upload

An upload is `running` until it ends as `completed` or `failed`; it was started by the
`scheduled` job, by a `manual` request, or `discovered` already running. Both are read from text
trimmed and in any case, and written in lower case.
-/

namespace SnapshotAgent.Upload

open SnapshotAgent.Text

/-- The state of an upload. -/
inductive Status where
  | running
  | completed
  | failed
  deriving DecidableEq, Repr, Inhabited

/-- The name of a state. -/
def Status.name : Status → String
  | .running => "running"
  | .completed => "completed"
  | .failed => "failed"

/-- Every state but `running` ends an upload. -/
def Status.isTerminal : Status → Bool
  | .running => false
  | _ => true

/-- Reads a state, trimmed and in any case; the message of a refusal shows the text as compared. -/
def Status.parse (s : String) : Except String Status :=
  let t := lower (trim s)
  if t = "running" then .ok .running
  else if t = "completed" then .ok .completed
  else if t = "failed" then .ok .failed
  else .error ("invalid upload status: " ++ t ++
    " (expected \"running\", \"completed\" or \"failed\")")

/-- What started an upload. -/
inductive Trigger where
  | scheduled
  | manual
  | discovered
  deriving DecidableEq, Repr, Inhabited

/-- The name of a trigger. -/
def Trigger.name : Trigger → String
  | .scheduled => "scheduled"
  | .manual => "manual"
  | .discovered => "discovered"

/-- Reads a trigger, trimmed and in any case. -/
def Trigger.parse (s : String) : Except String Trigger :=
  let t := lower (trim s)
  if t = "scheduled" then .ok .scheduled
  else if t = "manual" then .ok .manual
  else if t = "discovered" then .ok .discovered
  else .error ("invalid trigger type: " ++ t ++
    " (expected \"scheduled\", \"manual\" or \"discovered\")")

/-- A state's name reads back as the state. -/
theorem Status.parse_name (s : Status) : Status.parse s.name = .ok s := by
  cases s <;> rfl

/-- A trigger's name reads back as the trigger. -/
theorem Trigger.parse_name (t : Trigger) : Trigger.parse t.name = .ok t := by
  cases t <;> rfl

end SnapshotAgent.Upload
