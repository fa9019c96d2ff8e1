import SnapshotAgent.Shell.Process
import SnapshotAgent.Shell.Format
import SnapshotAgent.Shell.Condition
/-!
# Utilities: what they share, and the small ones

A utility runs on its name (the one it was called by, which its messages begin with), its
arguments, its input and the files; it answers an execution and the files after it. Its
messages follow one layout: `name: message`, and after a usage error a line pointing to
`--help`.

Here are `echo`, `printf`, `sleep`, `cat`, `true`, `false`, `basename`, `dirname`, `seq`,
`test`, `[` and `tee`.
-/

namespace SnapshotAgent.Shell

/-- What a utility did: its execution and the files after it. -/
structure Outcome where
  execution : Execution := {}
  files : Files := {}
  deriving Inhabited

/-- The bytes of a message line. -/
def messageLine (name message : String) : List UInt8 :=
  Text.utf8Bytes (name ++ ": " ++ message ++ "\n")

/-- The message of a usage error, with the pointer to `--help`. -/
def usageHint (name message : String) : List UInt8 :=
  Text.utf8Bytes (name ++ ": " ++ message ++ "\nTry '" ++ name ++ " --help' for more information.\n")

/-- A usage error with its status. -/
def usageFailureCode (fs : Files) (name message : String) (code : Nat) : Outcome :=
  { execution := { stderr := usageHint name message, ending := .exited code }, files := fs }

/-- A usage error: the message, and the status 1. -/
def usageFailure (fs : Files) (name message : String) : Outcome := usageFailureCode fs name message 1

/-- A word in quotes as the utilities quote it in messages. -/
def quoted (s : String) : String := "'" ++ s ++ "'"

/-- The lines of bytes, each without its newline; a last line without a newline counts. -/
def splitLines (bs : List UInt8) : List (List UInt8) :=
  let parts := bs.splitOn 10
  match parts.getLast? with
  | some [] => parts.dropLast
  | _ => parts

/-- Lines written out, each with a newline. -/
def joinLines (ls : List (List UInt8)) : List UInt8 :=
  ls.flatMap (· ++ [10])

/-- Reads the inputs named by operands (`-` or none is the input): for each, its name and bytes,
or the message of why it cannot be read. -/
def readInputs (name : String) (operands : List String) (stdin : List UInt8) (fs : Files) :
    List (String × Except String (List UInt8)) :=
  let ops := if operands.isEmpty then ["-"] else operands
  ops.map fun op =>
    if op = "-" then (op, .ok stdin)
    else match fs.read op with
      | .ok bs => (op, .ok bs)
      | .error e => (op, .error (name ++ ": " ++ op ++ ": " ++ e.text))

/-- Splits arguments into options and operands; `--` ends the options, and a lone `-` is an
operand. -/
def splitOptions (args : List String) : List String × List String :=
  let rec go (fuel : Nat) (opts : List String) : List String → List String × List String
    | [] => (opts, [])
    | "--" :: rest => (opts, rest)
    | a :: rest =>
      match fuel with
      | 0 => (opts, a :: rest)
      | fuel + 1 =>
        if a.startsWith "-" && a.length > 1 then go fuel (opts ++ [a]) rest
        else
          let (o, ops) := go fuel opts rest
          (o, a :: ops)
  go (args.length + 1) [] args

/-! ## Small utilities -/

/-- Reads a `sleep` interval in nanoseconds: a decimal number and a unit `s`, `m`, `h` or `d`. -/
def readInterval (a : String) : Option Nat :=
  let cs := a.toList
  let (body, unit) := match cs.getLast? with
    | some 's' => (cs.dropLast, 1)
    | some 'm' => (cs.dropLast, 60)
    | some 'h' => (cs.dropLast, 3600)
    | some 'd' => (cs.dropLast, 86400)
    | _ => (cs, 1)
  let whole := body.takeWhile Char.isDigit
  let rest := body.dropWhile Char.isDigit
  let frac := match rest with
    | '.' :: f => if f.all Char.isDigit then some f else none
    | [] => some []
    | _ => none
  match frac with
  | none => none
  | some f =>
    if whole.isEmpty && f.isEmpty then none
    else
      let digits := (whole ++ f).foldl (fun acc c => acc * 10 + (c.toNat - 48)) 0
      some (digits * unit * 1000000000 / Nat.pow 10 f.length)

/-- `sleep`: the sum of its intervals. -/
def runSleep (name : String) (args : List String) (fs : Files) : Outcome :=
  if args.isEmpty then usageFailure fs name "missing operand"
  else
    match args.find? fun a => (readInterval a).isNone with
    | some bad => usageFailure fs name ("invalid time interval " ++ quoted bad)
    | none => { execution := { elapsed := args.foldl (fun acc a => acc + (readInterval a).getD 0) 0 }, files := fs }

/-- `printf`: the format and its arguments, after a first `--`. -/
def runPrintf (name : String) (args : List String) (fs : Files) : Outcome :=
  let args := match args with
    | "--" :: rest => rest
    | _ => args
  match args with
  | [] => usageFailure fs name "missing operand"
  | format :: rest =>
    let r := printf .program format rest
    { execution := { stdout := r.out.toList,
                     stderr := r.warnings.foldl (fun acc w => acc ++ messageLine name w) [],
                     ending := .exited r.status },
      files := fs }

/-- `cat`: its inputs one after the other. -/
def runCat (name : String) (args : List String) (stdin : List UInt8) (fs : Files) : Outcome :=
  let (_, operands) := splitOptions args
  let inputs := readInputs name operands stdin fs
  let e := inputs.foldl (fun (e : Execution) (_, r) =>
    match r with
    | .ok bs => { e with stdout := e.stdout ++ bs }
    | .error m => { e with stderr := e.stderr ++ Text.utf8Bytes (m ++ "\n"), ending := .exited 1 }) {}
  { execution := e, files := fs }

/-- `tee`: the input to the output and to each file (`-a` appends). -/
def runTee (name : String) (args : List String) (stdin : List UInt8) (fs : Files) : Outcome :=
  let (opts, operands) := splitOptions args
  let append := opts.any fun o => o = "-a" || o = "--append"
  let (fs, err, failed) := operands.foldl (fun (fs, err, failed) path =>
    match fs.write path stdin append with
    | .ok fs => (fs, err, failed)
    | .error e => (fs, err ++ messageLine name (path ++ ": " ++ e.text), true)) (fs, [], false)
  { execution := { stdout := stdin, stderr := err, ending := .exited (if failed then 1 else 0) }, files := fs }

/-- The last component of a path: trailing slashes dropped, and a path of slashes only is `/`. -/
def baseName (path : String) : String :=
  if !path.isEmpty && path.all (· = '/') then "/"
  else
    let trimmed := (path.toList.reverse.dropWhile (· = '/')).reverse
    String.ofList (trimmed.reverse.takeWhile (· ≠ '/')).reverse

/-- A base name without a suffix, unless the suffix is all of it. -/
def removeSuffix (base suffix : String) : String :=
  if !suffix.isEmpty && base.endsWith suffix && base != suffix then
    String.ofList (base.toList.take (base.length - suffix.length))
  else base

/-- `basename`: a path and perhaps a suffix, or with `-a` (or `-s`) several paths. -/
def runBasename (name : String) (args : List String) (fs : Files) : Outcome :=
  let (opts, operands) := splitOptions args
  let multiple := opts.any fun o => o = "-a" || o = "--multiple" || o.startsWith "-s"
  let suffixOpt := opts.findSome? fun o =>
    if o.startsWith "--suffix=" then some (o.drop 9).toString
    else if o.startsWith "-s" && o.length > 2 then some (o.drop 2).toString else none
  -- `-s SUFFIX` takes the next word as the suffix
  let (suffixOpt, operands) :=
    if opts.contains "-s" then (operands.head?, operands.drop 1) else (suffixOpt, operands)
  match operands with
  | [] => usageFailure fs name "missing operand"
  | _ =>
    if multiple then
      let out := operands.foldl (fun acc p => acc ++ baseName p ++ "\n") ""
      let out := match suffixOpt with
        | some sfx => operands.foldl (fun acc p => acc ++ removeSuffix (baseName p) sfx ++ "\n") ""
        | none => out
      { execution := { stdout := Text.utf8Bytes out }, files := fs }
    else
      match operands with
      | [p] => { execution := { stdout := Text.utf8Bytes (baseName p ++ "\n") }, files := fs }
      | [p, sfx] => { execution := { stdout := Text.utf8Bytes (removeSuffix (baseName p) sfx ++ "\n") }, files := fs }
      | _ :: _ :: extra :: _ => usageFailure fs name ("extra operand " ++ quoted extra)
      | [] => usageFailure fs name "missing operand"

/-- The directory part of a path: `.` when there is none, `/` for the root. -/
def dirName (path : String) : String :=
  let trimmed := (path.toList.reverse.dropWhile (· = '/')).reverse
  if trimmed.isEmpty then (if path.startsWith "/" then "/" else ".")
  else
    let dir := (trimmed.reverse.dropWhile (· ≠ '/')).reverse
    if dir.isEmpty then "."
    else
      let dir := (dir.reverse.dropWhile (· = '/')).reverse
      if dir.isEmpty then "/" else String.ofList dir

/-- `dirname`: the directory of each path. -/
def runDirname (name : String) (args : List String) (fs : Files) : Outcome :=
  let (_, operands) := splitOptions args
  if operands.isEmpty then usageFailure fs name "missing operand"
  else { execution := { stdout := Text.utf8Bytes (operands.foldl (fun acc p => acc ++ dirName p ++ "\n") "") }, files := fs }

/-! ## seq -/

/-- A decimal number as an integer of units of `10^-places`. -/
structure Decimal where
  units : Int
  places : Nat
  deriving Repr, Inhabited

/-- Reads a decimal number: a sign, digits, and digits after a point. -/
def Decimal.read (s : String) : Option Decimal :=
  let (neg, body) := match s.toList with
    | '-' :: r => (true, r)
    | '+' :: r => (false, r)
    | r => (false, r)
  let whole := body.takeWhile Char.isDigit
  let rest := body.drop whole.length
  let frac := match rest with
    | '.' :: f => if f.all Char.isDigit then some f else none
    | [] => some []
    | _ => none
  match frac with
  | none => none
  | some f =>
    if whole.isEmpty && f.isEmpty then none
    else
      let v : Nat := (whole ++ f).foldl (fun a d => a * 10 + (d.toNat - 48)) 0
      some { units := if neg then -(v : Int) else v, places := f.length }

/-- A decimal's units at more places. -/
def Decimal.at (d : Decimal) (places : Nat) : Int := d.units * Nat.pow 10 (places - d.places)

/-- Writes units of `10^-places` with that many places. -/
def decimalText (units : Int) (places : Nat) : String :=
  let a := units.natAbs
  let whole := a / Nat.pow 10 places
  let frac := toString (a % Nat.pow 10 places)
  (if units < 0 then "-" else "") ++ toString whole ++
    (if places = 0 then "" else "." ++ Number.zeros (places - frac.length) ++ frac)

/-- `seq`: numbers from the first to the last by the step, with the places of the first and
the step; `-s` separates them, `-w` pads them to one width. -/
def runSeq (name : String) (args : List String) (fs : Files) : Outcome := Id.run do
  let mut sep := "\n"
  let mut width := false
  let mut rest := args
  let mut operands : List String := []
  for _ in args do
    match rest with
    | "-s" :: s :: more => sep := s; rest := more
    | "-w" :: more => width := true; rest := more
    | a :: more =>
      if a.startsWith "-s" && a.length > 2 then sep := (a.drop 2).toString; rest := more
      else operands := operands ++ [a]; rest := more
    | [] => pure ()
  let nums := operands.map fun o => (o, Decimal.read o)
  match nums.find? (·.2.isNone) with
  | some (bad, _) => return usageFailure fs name ("invalid floating point argument: " ++ quoted bad)
  | none =>
    let ds := nums.filterMap (·.2)
    let one : Decimal := { units := 1, places := 0 }
    let (first, step, last) : Decimal × Decimal × Decimal := match ds with
      | [l] => (one, one, l)
      | [f, l] => (f, one, l)
      | [f, s, l] => (f, s, l)
      | _ => (default, default, default)
    if ds.isEmpty then return usageFailure fs name "missing operand"
    if ds.length > 3 then return usageFailure fs name ("extra operand " ++ quoted (operands.getD 3 ""))
    if step.units = 0 then
      return usageFailure fs name ("invalid Zero increment value: " ++ quoted (operands.getD 1 ""))
    let places := max first.places step.places
    let scale := max places last.places
    let a := first.at scale
    let d := step.at scale
    let z := last.at scale
    let count : Nat := if d > 0 then (if z < a then 0 else ((z - a) / d).toNat + 1)
      else (if z > a then 0 else ((a - z) / (-d)).toNat + 1)
    let values := (List.range count).map fun (i : Nat) => a + d * (i : Int)
    let texts := values.map fun v => decimalText (v / Nat.pow 10 (scale - places)) places
    let texts := if width then
        let w := texts.foldl (fun m t => max m t.length) 0
        texts.map fun t =>
          if t.startsWith "-" then "-" ++ Number.zeros (w - t.length) ++ (t.drop 1).toString
          else Number.zeros (w - t.length) ++ t
      else texts
    let out := if texts.isEmpty then "" else sep.intercalate texts ++ "\n"
    return { execution := { stdout := Text.utf8Bytes out }, files := fs }

/-! ## test and [ -/

/-- The `test` utility (`[` when `bracket`, which needs its closing `]`). -/
def runTest (name : String) (bracket : Bool) (args : List String) (fs : Files) : Outcome :=
  let words : Option (List String) :=
    if bracket then (if args.getLast? = some "]" then some args.dropLast else none) else some args
  match words with
  | none => { execution := { stderr := messageLine name "missing ']'", ending := .exited 2 }, files := fs }
  | some ws =>
    match countedTest fs ws with
    | .ok v => { execution := { ending := .exited (if v then 0 else 1) }, files := fs }
    | .error e => { execution := { stderr := messageLine name e.utilityMessage, ending := .exited 2 }, files := fs }

end SnapshotAgent.Shell
