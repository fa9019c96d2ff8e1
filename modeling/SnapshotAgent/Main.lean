import SnapshotAgent.Program
import Std.Time
/-!
# The executable

The command line of `snapd`: it reads `SNAPD_CONFIG` and the configuration file from the host,
runs the program over them (`World.main`) at the current time, prints what the run printed,
writes the error line on standard error, and exits with the run's code. The store lives only for
the run.
-/

open SnapshotAgent

/-- The file system the run sees: a fresh one holding the configuration file, when it can be
read. -/
def hostFiles (path : String) : IO FileSystem := do
  try
    let text ← IO.FS.readFile path
    pure (FileSystem.fresh.put path (.text text))
  catch _ => pure FileSystem.fresh

/-- Runs `snapd` with its arguments. -/
def main (args : List String) : IO UInt32 := do
  let configVar ← IO.getEnv "SNAPD_CONFIG"
  let now ← Std.Time.Timestamp.now
  let clock := Time.Instant.ofUnixNanos now.toNanosecondsSinceUnixEpoch.val
  let bare : World := { files := FileSystem.fresh, configVar, clock }
  let path := match parseCommandLine args with
    | .ok inv => bare.configPath inv
    | .error _ => ""
  let (_, exit) := { bare with files := ← hostFiles path }.main args
  IO.print exit.stdout
  if let some line := exit.errorLine then IO.eprintln line
  pure exit.code.toUInt32
