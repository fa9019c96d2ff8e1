import SnapshotAgent.Number.Shortest
/-!
# Sample tool reports

The text the node tool prints for `node job <node> info upload`, for a job that runs (with or
without progress) and for one that finished with an exit code. Tests script the tool with these
texts; the upload-info reader must make of them a running or a finished snapshot.
-/

namespace SnapshotAgent.Testing

/-- The three lines every report ends with. -/
def reportTail : String :=
  "restart_count:    0\nupgrade_blocking: true\nlogs:             <empty>\n"

/-- The report of a running job, with its percent done and chunk counts when given. -/
def runningReport (progress : Option (Float × Int × Int)) : String :=
  let progressLine := match progress with
    | some (percent, done, total) =>
      "progress:         " ++ Number.fixedPlaces 2 percent ++ "% (" ++ toString done ++ "/" ++
        toString total ++ " multi-client upload)\n"
    | none => ""
  "status:           2025-12-07 12:00:00 UTC| Running\n" ++ progressLine ++ reportTail

/-- The report of a job that finished with an exit code after `total` chunks. -/
def finishedReport (code : Int) (total : Int) : String :=
  "status:           2025-12-07 13:41:43 UTC| Finished with exit code " ++ toString code ++
    " and message `done`\n" ++
  "progress:         100.00% (" ++ toString total ++ "/" ++ toString total ++
    " multi-client upload completed)\n" ++ reportTail

end SnapshotAgent.Testing
