import SnapshotAgent.Tool.Error
import SnapshotAgent.Shell.Spawn
import SnapshotAgent.Testing.StandIn
/-!
# Running the tool as a child process

An invocation first gives up when the caller has already cancelled. Then the program is started:
the stand-in node tool at its path when one is installed, else one of the system's programs
(`Shell.Run`). A program that runs at least as long as the time limit is stopped and the
invocation times out; its output is lost. Otherwise both outputs are read as UTF-8, ill-formed
parts replaced, and an exit code other than zero is a failure that keeps the output. A process
killed by a signal has no exit code and is reported with code -1.
-/

namespace SnapshotAgent.Tool

open SnapshotAgent.Time

/-- What a successful invocation printed. -/
structure Output where
  stdout : String
  stderr : String
  deriving Repr, DecidableEq, Inhabited

/-- Starts a program: the stand-in at its path, else a system program. -/
def spawnProgram (standIn : Option String) (program : String) (args : List String) :
    Except Shell.SpawnRefusal Shell.Execution :=
  if standIn = some program then
    let r := Testing.standIn args
    .ok { stdout := Text.utf8Bytes r.stdout, stderr := Text.utf8Bytes r.stderr,
          ending := .exited r.code.toNat }
  else Shell.runProgram program args

/-- Whether a run of this length is stopped by the limit. -/
def overLimit (limit : Option Duration) (elapsed : Nat) : Bool :=
  match limit with
  | some l => l.totalNanos ≤ elapsed
  | none => false

/-- Runs a program to its end and reports it as the tool's invocation. -/
def runCommand (standIn : Option String) (cancelled : Bool) (limit : Option Duration)
    (program : String) (args : List String) : Except CommandError Output :=
  if cancelled then .error (.cancelled program)
  else match spawnProgram standIn program args with
    | .error r => .error (.spawn program r.reason)
    | .ok e =>
      match limit with
      | some l => if overLimit limit e.elapsed then .error (.timeout program l) else finished e
      | none => finished e
where
  finished (e : Shell.Execution) : Except CommandError Output :=
    let out := Text.decodeLossy e.stdout
    let err := Text.decodeLossy e.stderr
    match e.ending with
    | .exited 0 => .ok ⟨out, err⟩
    | .exited c => .error (.exit program c out err)
    | .signalled _ => .error (.exit program (-1) out err)

/-- A cancelled caller starts nothing. -/
theorem runCommand_cancelled (standIn : Option String) (limit : Option Duration)
    (program : String) (args : List String) :
    runCommand standIn true limit program args = .error (.cancelled program) := rfl

end SnapshotAgent.Tool
