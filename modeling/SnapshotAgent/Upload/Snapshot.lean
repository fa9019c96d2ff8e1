import SnapshotAgent.Text.Digit
import SnapshotAgent.Text.Lower
import SnapshotAgent.Text.Search
import SnapshotAgent.Number.Integer
import SnapshotAgent.Number.FloatText
import SnapshotAgent.Time.Text
/-!
# Snapshots of the upload job

The external tool describes a node's upload job as `key: value` lines:

```text
status:           2025-12-07 13:41:43 UTC| Finished with exit code 0 and message `done`
progress:         100.00% (3248/3248 multi-client upload completed)
restart_count:    0
upgrade_blocking: true
logs:             <empty>
```

`Snapshot.parse` reads such a text and never fails: what it cannot understand leaves a field
unset. Its rules:

* A text that is blank, or whose lower case holds one of the *sentinels* ("no job", "no upload",
  "not found", "unknown status", "job_status failed"), says that no job exists.
* Each line is split at its first colon; keys are compared trimmed and in lower case, values
  are trimmed. A later line overrides an earlier one.
* A status `YYYY-MM-DD HH:MM:SS UTC | text` gives the start time (when it is a real date and
  time) and leaves `text` to be examined; otherwise the whole value is examined. Digits of any
  script match the pattern, but only ASCII digits make a time.
* The first `exit code` (in any case) followed by blanks and an optionally negative number gives
  the exit code, when the number fits 32 bits.
* The job runs when the lower-cased text mentions "running"; otherwise it has stopped when it
  mentions a terminal word, and else the earlier verdict stands.
* A progress value gives the percent before its first `%` (see `parsePercent`) and the chunk
  counts of the first `(done/total`, kept only when both fit 64 bits and done ≤ total.
-/

namespace SnapshotAgent.Upload

open SnapshotAgent.Text SnapshotAgent.Number SnapshotAgent.Time

/-- What the tool reported about a node's upload job at one moment. -/
structure Snapshot where
  isRunning : Bool := false
  statusLine : Option String := none
  startedAt : Option Instant := none
  exitCode : Option Int := none
  progressPercent : Option Float := none
  chunksCompleted : Option Int := none
  chunksTotal : Option Int := none
  restartCount : Option String := none
  upgradeBlocking : Option String := none
  logs : Option String := none
  rawOutput : String := ""

/-- The snapshot of a node with no upload job, keeping what the tool said. -/
def Snapshot.notRunning (raw : String) : Snapshot := { rawOutput := raw }

/-- The message recorded when the job is seen to have ended: its status line. -/
def Snapshot.completionMessage (s : Snapshot) : Option String := s.statusLine

/-- A snapshot has progress when it knows a percent or a chunk count. -/
def Snapshot.hasProgress (s : Snapshot) : Bool :=
  s.progressPercent.isSome || s.chunksCompleted.isSome || s.chunksTotal.isSome

/-- The job ended with a non-zero exit code. -/
def Snapshot.exitedWithFailure (s : Snapshot) : Bool :=
  match s.exitCode with
  | some c => c != 0
  | none => false

/-- Lower-case phrases meaning that no upload job exists on the node. -/
def sentinels : List String :=
  ["no job", "no upload", "not found", "job 'upload' not found", "unknown status",
    "job_status failed"]

/-- Status words that mark a finished job; "running" is checked before them. -/
def terminalWords : List String :=
  ["finished", "completed", "failed", "exit code", "unknown", "error"]

/-- True when the lower case of the text holds a sentinel. -/
def hasSentinel (text : String) : Bool :=
  let lowered := lower text
  sentinels.any fun s => s.occursIn lowered

/-- Reads a percent such as `" 25.00%"`: trimmed, one `%` removed from the end, trimmed again, and
read as a floating-point number; kept only when finite and between 0 and 100. -/
def parsePercent (s : String) : Option Float :=
  let t := trim s
  let t := if t.endsWith "%" then trim (String.ofList t.toList.dropLast) else t
  match readFloat t with
  | some v => if v.isFinite && 0.0 ≤ v && v ≤ 100.0 then some v else none
  | none => none

/-! ## The patterns of a status and a progress value -/

/-- Takes exactly `n` decimal digits of any script. -/
def takeAnyDigits : Nat → List Char → Option (List Char × List Char)
  | 0, cs => some ([], cs)
  | n + 1, c :: cs =>
    if isDecimalDigit c then (takeAnyDigits n cs).map fun (d, r) => (c :: d, r) else none
  | _ + 1, [] => none

/-- Takes one or more decimal digits of any script, as many as there are. -/
def takeDigitRun (cs : List Char) : Option (List Char × List Char) :=
  let ds := cs.takeWhile isDecimalDigit
  if ds.isEmpty then none else some (ds, cs.dropWhile isDecimalDigit)

/-- Expects a literal text at the front. -/
def expectText (lit : List Char) (cs : List Char) : Option (List Char) :=
  if lit.isPrefixOf cs then some (cs.drop lit.length) else none

/-- Matches `D4-D2-D2 D2:D2:D2`, blanks, `UTC`, blanks, `|`, blanks at the front of a status;
answers the date-time characters and the rest of the status. -/
def matchTimestamped (cs : List Char) : Option (List Char × List Char) := do
  let (y, r) ← takeAnyDigits 4 cs
  let r ← expectText ['-'] r
  let (mo, r) ← takeAnyDigits 2 r
  let r ← expectText ['-'] r
  let (d, r) ← takeAnyDigits 2 r
  let r ← expectText [' '] r
  let (h, r) ← takeAnyDigits 2 r
  let r ← expectText [':'] r
  let (mi, r) ← takeAnyDigits 2 r
  let r ← expectText [':'] r
  let (s, r) ← takeAnyDigits 2 r
  let r ← expectText "UTC".toList (dropBlanks r)
  let r ← expectText ['|'] (dropBlanks r)
  pure (y ++ ['-'] ++ mo ++ ['-'] ++ d ++ [' '] ++ h ++ [':'] ++ mi ++ [':'] ++ s, dropBlanks r)

/-- Compares two characters, ignoring ASCII case. -/
def sameIgnoringCase (a b : Char) : Bool := asciiLower a == asciiLower b

/-- Matches `exit code`, blanks, an optional minus and digits at the front; answers the number's
text. -/
def matchExitCodeHere (cs : List Char) : Option (List Char) := do
  let phrase := "exit code".toList
  if cs.length < phrase.length then none
  else if !(List.zipWith sameIgnoringCase phrase (cs.take phrase.length)).all id then none
  else
    let r := cs.drop phrase.length
    let afterBlanks := dropBlanks r
    if afterBlanks.length = r.length then none
    else
      match afterBlanks with
      | '-' :: r' => (takeDigitRun r').map fun (ds, _) => '-' :: ds
      | r' => (takeDigitRun r').map fun (ds, _) => ds

/-- The number of the leftmost `exit code` match. -/
def findExitCode : List Char → Option (List Char)
  | [] => none
  | c :: cs =>
    match matchExitCodeHere (c :: cs) with
    | some n => some n
    | none => findExitCode cs

/-- Matches `(`, blanks, digits, blanks, `/`, blanks, digits at the front. -/
def matchChunksHere (cs : List Char) : Option (List Char × List Char) := do
  let r ← expectText ['('] cs
  let (done, r) ← takeDigitRun (dropBlanks r)
  let r ← expectText ['/'] (dropBlanks r)
  let (total, _) ← takeDigitRun (dropBlanks r)
  pure (done, total)

/-- The counts of the leftmost chunk pattern. -/
def findChunks : List Char → Option (List Char × List Char)
  | [] => none
  | c :: cs =>
    match matchChunksHere (c :: cs) with
    | some m => some m
    | none => findChunks cs

/-! ## Reading the lines -/

/-- A read integer, or nothing when it does not fit. -/
def readOk (r : Except IntegerError Int) : Option Int :=
  match r with
  | .ok v => some v
  | .error _ => none

/-- Takes a status value into the snapshot. -/
def Snapshot.withStatus (s : Snapshot) (value : List Char) : Snapshot :=
  let (startedAt, text) := match matchTimestamped value with
    | some (stamp, rest) => (Instant.readPlain (String.ofList stamp), rest)
    | none => (s.startedAt, value)
  let exitCode := (findExitCode text).bind fun ds => readOk (readI32 (String.ofList ds))
  let lowered := lower (String.ofList text)
  let isRunning :=
    if "running".occursIn lowered then true
    else if terminalWords.any (·.occursIn lowered) then false
    else s.isRunning
  { s with statusLine := some (String.ofList value), startedAt, exitCode, isRunning }

/-- Takes a progress value into the snapshot. -/
def Snapshot.withProgress (s : Snapshot) (value : List Char) : Snapshot :=
  let s := match splitFirst '%' value with
    | some (before, _) => { s with progressPercent := parsePercent (String.ofList before) }
    | none => s
  match findChunks value with
  | some (done, total) =>
    match readOk (readI64 (String.ofList done)), readOk (readI64 (String.ofList total)) with
    | some c, some t => if c ≤ t then { s with chunksCompleted := some c, chunksTotal := some t } else s
    | _, _ => s
  | none => s

/-- Takes one `key: value` line into the snapshot. -/
def Snapshot.withLine (s : Snapshot) (line : List Char) : Snapshot :=
  match splitFirst ':' line with
  | none => s
  | some (key, rawValue) =>
    let value := (trim (String.ofList rawValue)).toList
    let k := lower (trim (String.ofList key))
    if k = "status" then s.withStatus value
    else if k = "progress" then s.withProgress value
    else if k = "restart_count" then { s with restartCount := some (String.ofList value) }
    else if k = "upgrade_blocking" then { s with upgradeBlocking := some (String.ofList value) }
    else if k = "logs" then { s with logs := some (String.ofList value) }
    else s

/-- Reads the tool's description of an upload job. -/
def Snapshot.parse (output : String) : Snapshot :=
  let t := trim output
  if t.isEmpty || hasSentinel t then Snapshot.notRunning t
  else (lines t.toList).foldl Snapshot.withLine { rawOutput := t }

/-- A text holding a sentinel describes no running job. -/
theorem Snapshot.parse_of_hasSentinel {output : String} (h : hasSentinel (trim output) = true) :
    (Snapshot.parse output).isRunning = false := by
  simp [Snapshot.parse, h, Snapshot.notRunning]

end SnapshotAgent.Upload
