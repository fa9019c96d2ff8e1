import SnapshotAgent.Upload.Record
/-!
# The status report

The operator's view of the agent: the uploads in progress, then, for idle nodes, the last upload
that completed.

```text
Active uploads: 1

Node:       eth
  ID:       1
  Started:  2025-01-01 10:00:00 UTC
  Elapsed:  1h02m03s
  Trigger:  scheduled
  Status:   running
  Progress: 25.00%
  Chunks:   812/3248

Last completed:
  idle: #9 at 2025-01-01 09:30:15 UTC (1h30m15s)
```

Elapsed times count whole seconds (a negative time counts as zero) and drop the leading units
that are zero: `5s`, `1m05s`, `1h02m03s`. The progress has two decimals, rounded half to even on
the exact value; the chunk counts show only when both are known.
-/

namespace SnapshotAgent.Upload

open SnapshotAgent.Time

/-- An elapsed time as hours, minutes and seconds, dropping leading zero units. -/
def formatElapsed (d : Span) : String :=
  let total := (max d.wholeSeconds 0).toNat
  let h := total / 3600
  let m := total % 3600 / 60
  let s := total % 60
  if h > 0 then toString h ++ "h" ++ padded 2 m ++ "m" ++ padded 2 s ++ "s"
  else if m > 0 then toString m ++ "m" ++ padded 2 s ++ "s"
  else toString s ++ "s"

/-- A time as the report shows it. -/
def reportTime (t : Instant) : String := t.plainText ++ " UTC"

/-- The block of one running upload. -/
def runningBlock (now : Instant) (r : Record) : String :=
  let progress := match r.progressPercent with
    | some p => "  Progress: " ++ Number.fixedPlaces 2 p ++ "%\n"
    | none => ""
  let chunks := match r.chunksCompleted, r.chunksTotal with
    | some c, some t => "  Chunks:   " ++ toString c ++ "/" ++ toString t ++ "\n"
    | _, _ => ""
  "\nNode:       " ++ r.nodeName ++ "\n" ++
  "  ID:       " ++ toString r.id ++ "\n" ++
  "  Started:  " ++ reportTime r.startedAt ++ "\n" ++
  "  Elapsed:  " ++ formatElapsed (r.elapsed now) ++ "\n" ++
  "  Trigger:  " ++ r.trigger.name ++ "\n" ++
  "  Status:   " ++ r.status.name ++ "\n" ++ progress ++ chunks

/-- The line of one last completed upload. -/
def completedLine (now : Instant) (r : Record) : String :=
  "  " ++ r.nodeName ++ ": #" ++ toString r.id ++ " at " ++
    (match r.completedAt with
      | some t => reportTime t
      | none => "") ++ " (" ++ formatElapsed (r.elapsed now) ++ ")\n"

/-- The report over the running uploads and the last completed ones. -/
def renderStatus (running latest : List Record) (now : Instant) : String :=
  let head :=
    if running.isEmpty then "No active uploads\n"
    else "Active uploads: " ++ toString running.length ++ "\n" ++
      String.join (running.map (runningBlock now))
  let tail :=
    if latest.isEmpty then ""
    else "\nLast completed:\n" ++ String.join (latest.map (completedLine now))
  head ++ tail

/-- A time that has not started yet has taken no time. -/
theorem formatElapsed_neg (d : Span) (h : d.wholeSeconds ≤ 0) : formatElapsed d = "0s" := by
  have : (max d.wholeSeconds 0).toNat = 0 := by omega
  simp [formatElapsed, this]
  rfl

end SnapshotAgent.Upload
