import SnapshotAgent.Time.Duration
import SnapshotAgent.Text.Blank
/-!
# Failures of the external tool

The agent drives one external program, the node tool. One invocation can be cancelled, run past
its time limit, fail to start, exit with a non-zero code (its output is kept), or fail while its
output is read. Each failure names the program as it was configured.
-/

namespace SnapshotAgent.Tool

open SnapshotAgent.Time

/-- How one invocation of the tool failed. -/
inductive CommandError where
  /-- The caller gave up before the invocation finished. -/
  | cancelled (program : String)
  /-- The invocation ran longer than its limit. -/
  | timeout (program : String) (limit : Duration)
  /-- The program could not be started. -/
  | spawn (program : String) (reason : String)
  /-- The program exited with a non-zero code. -/
  | exit (program : String) (code : Int) (stdout stderr : String)
  /-- Reading the program's output failed. -/
  | io (program : String) (reason : String)
  deriving Repr, DecidableEq, Inhabited

/-- How a failed invocation is worded; an exit shows the trimmed error output. -/
def CommandError.message : CommandError → String
  | .cancelled p => "command '" ++ p ++ "' cancelled"
  | .timeout p limit => "command '" ++ p ++ "' timed out after " ++ limit.text
  | .spawn p reason => "failed to spawn '" ++ p ++ "': " ++ reason
  | .exit p code _ stderr =>
    "command '" ++ p ++ "' exited with code " ++ toString code ++ ": " ++ Text.trim stderr
  | .io p reason => "IO error while running '" ++ p ++ "': " ++ reason

/-- The name of the kind of failure. -/
def CommandError.kind : CommandError → String
  | .cancelled _ => "Cancelled"
  | .timeout _ _ => "Timeout"
  | .spawn _ _ => "Spawn"
  | .exit _ _ _ _ => "Exit"
  | .io _ _ => "Io"

end SnapshotAgent.Tool
