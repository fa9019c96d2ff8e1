import SnapshotAgent.Shell.Builtin
import SnapshotAgent.Shell.Pattern
import SnapshotAgent.Shell.Regex
/-!
# Running a script

The interpreter: it expands words (parameters with their operators, command substitutions,
arithmetic, then field splitting), performs redirections, and runs commands: builtins,
functions, and programs through a runner it is given. Compound commands run as the language
says: a pipeline's commands each in a subshell, the output of one the input of the next; `&&`
and `||` by the status; `if`, `while`, `until`, `for` and `case`; subshells, whose changes to
variables do not outlast them, and groups, whose changes do.

An expansion error ends the plain shell with status 2; in `bash` it drops the rest of the
top-level command and sets the status 1 (or, for `${name?}`, ends the shell).

Every recursion takes fuel, and a loop makes at most `loopLimit` iterations; a run that runs out
of either is taken to run forever, which only a time limit can stop.
-/

namespace SnapshotAgent.Shell

/-- How a program is run from the shell: the program, the name it was called by, its arguments,
its input, the files and the exported variables. -/
abbrev Runner := Program → String → List String → List UInt8 → Files → List (String × String) → Outcome

/-- Marks the run as one that never ends. -/
def diverge : ShellM Unit :=
  modify fun s => { s with ended := some (.exited s.status), elapsed := forever }

/-- Reports an expansion error: the plain shell ends with status 2; `bash` ends with status 1
when `fatal`, else drops the rest of the top-level command. -/
def expansionError (text : String) (fatal : Bool) : ShellM Unit := do
  complain text
  let s ← get
  if s.bash then
    if fatal then finish (.exited 1)
    else
      setStatus 1
      modify fun s => { s with flow := some .abandon }
  else finish (.exited 2)

/-- Runs an action in a subshell: only its output, files, input, time and status outlast it, and
a signal it sent to the shell's own process. -/
def subshell (act : ShellM Unit) : ShellM Unit := do
  let saved ← get
  act
  let after ← get
  let status := match after.ended with
    | some (.exited c) => c
    | some (.signalled n) => 128 + n
    | none => after.status
  let ended := match after.ended with
    | some (.signalled n) => some (.signalled n)
    | _ => if after.elapsed ≥ forever then after.ended else saved.ended
  set { saved with out := after.out, err := after.err, captures := after.captures,
                   files := after.files, elapsed := after.elapsed, status := status,
                   ended := ended, input := after.input }

/-- Runs an action with its standard output captured: the bytes it wrote. -/
def captured (act : ShellM Unit) : ShellM (List UInt8) := do
  let s ← get
  let level := s.captures.size
  let inner : ShellState := { s with captures := s.captures.push #[], fds := { s.fds with one := .capture level } }
  set inner
  act
  let after ← get
  let bytes := (after.captures[level]?.getD #[]).toList
  set { after with captures := after.captures.extract 0 level, fds := s.fds }
  return bytes

/-- The text of a command substitution's output: decoded, newlines at the end removed. -/
def substitutionText (bs : List UInt8) : String :=
  let trimmed := (bs.reverse.dropWhile (· = 10)).reverse
  Text.decodeLossy trimmed

/-- The fragments of `$@` and `$*`. -/
def ShellState.paramsFrags (s : ShellState) (star quoted : Bool) : List Frag :=
  if quoted then
    if star then
      let sep := match s.var? "IFS" with
        | some v => String.ofList (v.toList.take 1)
        | none => " "
      [.text (sep.intercalate s.params) true false]
    else
      (s.params.map fun p => [Frag.text p true false]).intersperse [Frag.hardBreak] |>.flatten
  else
    (s.params.map fun p => [Frag.text p false true]).intersperse [Frag.softBreak] |>.flatten

/-- The names whose values the shell itself sets. -/
def specialParams : List String := ["@", "*", "#", "?", "-", "$", "!", "0"]

/-- The program a utility is, if it reads its input. -/
def Program.readsInput : Program → Bool
  | .shell _ => true
  | .utility u =>
    match u with
    | .cat | .wc | .head | .tail | .tr | .cut | .sort | .uniq | .rev | .tee | .grep | .sed => true
    | _ => false

/-- The special builtins: their errors end the plain shell and their assignments stay. -/
def specialBuiltins : List String :=
  [":", "break", "continue", "eval", "exec", "exit", "export", "readonly", "return", "set",
   "shift", "trap", "unset", ".", "times"]

/-- The regular builtins. -/
def regularBuiltins (bash : Bool) : List String :=
  ["echo", "printf", "test", "[", "true", "false", "cd", "pwd", "read", "local", "kill", "wait",
   "umask", "command", "type"] ++ (if bash then ["let", "source"] else [])

/-- Writes the trace of a command for `set -x`. -/
def trace (fields : List String) : ShellM Unit := do
  let s ← get
  if s.xtrace then
    let shown := fields.map fun f =>
      if s.bash && (f.isEmpty || f.any fun c => c = ' ' || c = '\t' || c = '\n' || c = singleQuote || c = '"' || c = '$')
      then "'" ++ f ++ "'" else f
    emitErr (Text.utf8Bytes ("+ " ++ " ".intercalate shown ++ "\n"))

/-- Sets the status from a cut-short loop or function level: a `break` or `continue` for this
loop is used up here. Answers whether the loop goes on. -/
def loopGoesOn : ShellM Bool := do
  let s ← get
  if s.ended.isSome then return false
  match s.flow with
  | some (.breakLoop n) =>
    set { s with flow := if n > 1 then some (.breakLoop (n - 1)) else none }
    return false
  | some (.continueLoop n) =>
    if n > 1 then
      set { s with flow := some (.continueLoop (n - 1)) }
      return false
    else
      set { s with flow := none }
      return true
  | some _ => return false
  | none => return true

/-- Ends the shell on a failed command under `set -e`, outside conditions. -/
def checkErrexit : ShellM Unit := do
  let s ← get
  if s.errexit && s.conditions = 0 && s.status ≠ 0 && !s.interrupted then finish (.exited s.status)

/-- Runs an action as a condition, where `set -e` does not hold. -/
def asCondition (act : ShellM Unit) : ShellM Unit := do
  modify fun s => { s with conditions := s.conditions + 1 }
  act
  modify fun s => { s with conditions := s.conditions - 1 }

/-- The message for a file that a redirection cannot open. -/
def redirectMessage (bash : Bool) (create : Bool) (path : String) (e : FileError) : String :=
  if bash then path ++ ": " ++ e.text
  else if create then
    "cannot create " ++ path ++ ": " ++ (if e = .missing then "Directory nonexistent" else e.text)
  else "cannot open " ++ path ++ ": " ++ (if e = .missing then "No such file" else e.text)

/-- Points a descriptor at a sink. -/
def Fds.point (f : Fds) (fd : Nat) (k : Sink) : Fds :=
  if fd = 1 then { f with one := k } else if fd = 2 then { f with two := k } else f

/-- The sink a descriptor writes to, for the descriptors there are. -/
def Fds.sink? (f : Fds) (fd : Nat) : Option Sink :=
  if fd = 1 then some f.one else if fd = 2 then some f.two else none

/-- The sink for an output path: the null device discards, and the names of the two outputs
stand for them. -/
def outputSink (f : Fds) (path : String) : Sink :=
  if path = "/dev/null" then .discard
  else if path = "/dev/stdout" then f.one
  else if path = "/dev/stderr" then f.two
  else .file path

/-- Reports a syntax error of a script read from `source`, whose first line is line `base + 1`
of the shell: the plain shell names what it found; `bash` names the token and shows the line,
or the quote left open, or the end of the script. -/
def reportSyntax (source : String) (base : Nat) (e : SyntaxError) : ShellM Unit := do
  let s ← get
  let line := e.line + base
  if s.bash then
    let lead := s.name ++ ": -c: line " ++ toString line ++ ": "
    let lineText := (source.splitOn "\n").getD (e.line - 1) ""
    let text := match e.note, e.unclosed, e.found with
      | some n, _, found =>
        (if n.isEmpty then "" else lead ++ n ++ "\n") ++
          (match found with
           | some t => lead ++ "syntax error near `" ++ t ++ "'\n" ++ lead ++ "`" ++ lineText ++ "'\n"
           | none => lead ++ "syntax error: unexpected end of file\n")
      | none, some q, _ => lead ++ "unexpected EOF while looking for matching `" ++ String.singleton q ++ "'\n"
      | none, none, some t =>
        lead ++ "syntax error near unexpected token `" ++ t ++ "'\n" ++ lead ++ "`" ++ lineText ++ "'\n"
      | none, none, none => lead ++ "syntax error: unexpected end of file\n"
    emitErr (Text.utf8Bytes text)
  else
    modify fun st => { st with line := line }
    complain e.message

/-- Evaluates the text of an arithmetic expression for the command named `command` (`((` or
`[[`): its assignments are made, and an error is reported under the command's name. -/
def arithAs (command : String) (text : String) : ShellM (Option Int) := do
  let s ← get
  match arithmetic s.bash s.var? text with
  | .ok (v, assigned) =>
    for (n, x) in assigned do
      let _ ← assignVar n (toString x)
    return some v
  | .error e =>
    complain (command ++ ": " ++ e.message s.bash text)
    return none

/-- The source of a regular expression from the fragments of its word: quoted text stands for
itself, its special characters escaped. -/
def regexSource (frags : List Frag) : String :=
  let special (c : Char) : Bool := "\\.[]()*+?^$|".toList.contains c || c = '\x7b' || c = '\x7d'
  frags.foldl (fun acc f => match f with
    | .text t quoted _ =>
      if quoted then acc ++ String.ofList (t.toList.flatMap fun c => if special c then ['\\', c] else [c])
      else acc ++ t
    | .hardBreak | .softBreak => acc ++ " ") ""

/-- Whether an option of `set -o` is on. -/
def ShellState.optionOn (s : ShellState) (name : String) : Bool :=
  (name = "errexit" && s.errexit) || (name = "nounset" && s.nounset) || (name = "xtrace" && s.xtrace)

/-- The arithmetic comparisons of `[[ … ]]`. -/
def arithComparison (op : String) (x y : Int) : Bool :=
  match op with
  | "-eq" => x = y
  | "-ne" => x ≠ y
  | "-lt" => x < y
  | "-le" => x ≤ y
  | "-gt" => x > y
  | _ => x ≥ y

mutual
/-- Expands the parts of a word into fragments; none after an expansion error. -/
def expandParts : Nat → Runner → List Part → ShellM (Option (List Frag))
  | 0, _, _ => do diverge; return none
  | fuel + 1, runner, parts => do
    let mut acc : List Frag := []
    for p in parts do
      match ← expandPart fuel runner p with
      | some fs => acc := acc ++ fs
      | none => return none
      if (← get).interrupted then return none
    return some acc

/-- Expands a part of a word. -/
def expandPart : Nat → Runner → Part → ShellM (Option (List Frag))
  | 0, _, _ => do diverge; return none
  | fuel + 1, runner, p =>
    match p with
    | .lit s quoted => return some [.text s quoted false]
    | .param name op arg quoted => expandParam fuel runner name op arg quoted
    | .command script quoted => do
      match ← commandOutput fuel runner script with
      | some out => return some [.text out quoted !quoted]
      | none => return none
    | .arith text quoted => do
      match ← arithText fuel runner text with
      | none => return none
      | some expr =>
        let s ← get
        match arithmetic s.bash s.var? expr with
        | .ok (v, assigned) =>
          for (n, x) in assigned do
            let _ ← assignVar n (toString x)
          return some [.text (toString v) quoted !quoted]
        | .error e =>
          expansionError (e.message s.bash expr) false
          return none

/-- Expands the text of an arithmetic expression as in double quotes; none when the expansion
failed, which has been reported. -/
def arithText : Nat → Runner → String → ShellM (Option String)
  | 0, _, _ => do diverge; return none
  | fuel + 1, runner, text => do
    let s ← get
    match readPieces (text.length + 2) s.bash true text.toList #[] with
    | .error e =>
      expansionError e.message false
      return none
    | .ok parts =>
      match ← expandParts fuel runner parts.toList with
      | none => return none
      | some frags => return some (joinFrags frags)

/-- Expands a parameter with its operator. -/
def expandParam : Nat → Runner → String → ParamOp → List Part → Bool → ShellM (Option (List Frag))
  | 0, _, _, _, _, _ => do diverge; return none
  | fuel + 1, runner, name, op, arg, quoted => do
    let s ← get
    let isList := name = "@" || name = "*"
    let value? := s.param? name
    let valueFrags (v : String) : List Frag := [.text v quoted !quoted]
    let plain : ShellM (Option (List Frag)) := do
      if isList then return some (s.paramsFrags (name = "*") quoted)
      match value? with
      | some v => return some (valueFrags v)
      | none =>
        if s.nounset && !specialParams.contains name then
          if s.bash then
            complain (name ++ ": unbound variable")
            finish (.exited 127)
          else expansionError (name ++ ": parameter not set") true
          return none
        else return some (valueFrags "")
    let isSet (colon : Bool) : Bool :=
      if isList then !s.params.isEmpty && (!colon || s.params.any (!·.isEmpty))
      else match value? with
        | some v => !colon || !v.isEmpty
        | none => false
    match op with
    | .bad text =>
      expansionError (text ++ ": bad substitution") false
      return none
    | .plain => plain
    | .length =>
      if isList then return some (valueFrags (toString s.params.length))
      match value? with
      | some v => return some (valueFrags (toString (Text.utf8Bytes v).length))
      | none =>
        if s.nounset && !specialParams.contains name then
          if s.bash then
            complain (name ++ ": unbound variable")
            finish (.exited 127)
          else expansionError (name ++ ": parameter not set") true
          return none
        else return some (valueFrags "0")
    | .useDefault colon =>
      if isSet colon then plain else expandParts fuel runner arg
    | .assignDefault colon =>
      if isSet colon then plain
      else
        match ← expandParts fuel runner arg with
        | none => return none
        | some frags =>
          let v := joinFrags frags
          if isName name then
            let _ ← assignVar name v
            return some (valueFrags v)
          else
            expansionError (name ++ ": bad variable name") true
            return none
    | .requireSet colon =>
      if isSet colon then plain
      else
        match ← expandParts fuel runner arg with
        | none => return none
        | some frags =>
          let msg := joinFrags frags
          let msg := if !msg.isEmpty then msg
            else if colon then "parameter null or not set" else "parameter not set"
          expansionError (name ++ ": " ++ msg) true
          return none
    | .useAlternative colon =>
      if isSet colon then expandParts fuel runner arg
      else return some (if quoted then [.text "" true false] else [])
    | .trimSuffix longest =>
      match ← expandParts fuel runner arg with
      | none => return none
      | some frags =>
        let pat := Pattern.ofPieces (patternPieces frags)
        return some (valueFrags (trimSuffix longest pat (value?.getD "")))
    | .trimPrefix longest =>
      match ← expandParts fuel runner arg with
      | none => return none
      | some frags =>
        let pat := Pattern.ofPieces (patternPieces frags)
        return some (valueFrags (trimPrefix longest pat (value?.getD "")))

/-- Runs a command substitution: its output's text; none when the shell is cut short. -/
def commandOutput : Nat → Runner → String → ShellM (Option String)
  | 0, _, _ => do diverge; return none
  | fuel + 1, runner, script => do
    let s ← get
    let steps := parseScript s.bash script
    let inner : ShellM Unit := do
      modify fun st => { st with lineBase := s.line - 1 }
      runTop fuel runner script (s.line - 1) steps
    let bytes ← captured (subshell inner)
    if (← get).interrupted then return none
    return some (substitutionText bytes)

/-- Expands a word into fields. -/
def expandFields : Nat → Runner → Word → ShellM (Option (List String))
  | 0, _, _ => do diverge; return none
  | fuel + 1, runner, w => do
    match ← expandParts fuel runner w with
    | some frags => return some (splitFields (← get).separators frags)
    | none => return none

/-- Expands a word into one text, without splitting. -/
def expandText : Nat → Runner → Word → ShellM (Option String)
  | 0, _, _ => do diverge; return none
  | fuel + 1, runner, w => do
    match ← expandParts fuel runner w with
    | some frags => return some (joinFrags frags)
    | none => return none

/-- Performs redirections, answering whether they all succeeded; an error is reported with the
status 2 (1 in `bash`). -/
def redirect : Nat → Runner → List Redir → ShellM Bool
  | 0, _, _ => do diverge; return false
  | fuel + 1, runner, redirs => do
    for r in redirs do
      match r with
      | .here fd body =>
        match ← expandText fuel runner body with
        | none => return false
        | some text => if fd = 0 then modify fun s => { s with input := Text.utf8Bytes text }
      | .file fd op target =>
        match ← expandText fuel runner target with
        | none => return false
        | some path =>
          let s ← get
          match op with
          | .output | .clobber | .append =>
            if fd ≥ 3 then continue
            let sink := outputSink s.fds path
            match sink with
            | .file p =>
              match s.files.write p [] (op = .append) with
              | .ok fs => set { s with files := fs, fds := s.fds.point fd sink }
              | .error e =>
                complain (redirectMessage s.bash true path e)
                setStatus (if s.bash then 1 else 2)
                return false
            | k => set { s with fds := s.fds.point fd k }
          | .input | .readWrite =>
            if fd ≠ 0 then continue
            match s.files.read path with
            | .ok bs => set { s with input := bs }
            | .error e =>
              if op = .readWrite && e = .missing then
                match s.files.write path [] true with
                | .ok fs => set { s with files := fs, input := [] }
                | .error e2 =>
                  complain (redirectMessage s.bash true path e2)
                  setStatus (if s.bash then 1 else 2)
                  return false
              else
                complain (redirectMessage s.bash false path e)
                setStatus (if s.bash then 1 else 2)
                return false
          | .dupOutput =>
            if path = "-" then set { s with fds := s.fds.point fd .discard }
            else
              match path.toNat? with
              | some m =>
                match s.fds.sink? m with
                | some k => set { s with fds := s.fds.point fd k }
                | none =>
                  if m ≠ 0 then
                    complain (path ++ ": Bad file descriptor")
                    setStatus (if s.bash then 1 else 2)
                    return false
              | none =>
                if s.bash then
                  -- `>&file` sends both outputs to the file
                  match s.files.write path [] false with
                  | .ok fs => set { s with files := fs, fds := { one := .file path, two := .file path } }
                  | .error e =>
                    complain (redirectMessage true true path e)
                    setStatus 1
                    return false
                else
                  complain "Syntax error: Bad fd number"
                  finish (.exited 2)
                  return false
          | .dupInput => pure ()
    return true

/-- Runs an action under redirections, which last only for it. -/
def withRedirs : Nat → Runner → List Redir → ShellM Unit → ShellM Unit
  | 0, _, _, _ => diverge
  | fuel + 1, runner, redirs, act => do
    if redirs.isEmpty then act
    else
      let s ← get
      if ← redirect fuel runner redirs then
        act
        let takesInput := redirs.any fun r => match r with
          | .here 0 _ => true
          | .file 0 .input _ | .file 0 .readWrite _ => true
          | _ => false
        modify fun after => { after with fds := s.fds, input := if takesInput then s.input else after.input }
      else
        modify fun after => { after with fds := s.fds, input := s.input }

/-- Runs a command. -/
def runCommand : Nat → Runner → Command → ShellM Unit
  | 0, _, _ => diverge
  | fuel + 1, runner, c => do
    if (← get).interrupted then return
    match c with
    | .simple assigns words redirs line =>
      runSimple fuel runner assigns words redirs line
      checkErrexit
    | .pipeline negated cs =>
      if negated then asCondition (runPipeline fuel runner cs) else runPipeline fuel runner cs
      if negated then modify fun s => { s with status := if s.status = 0 then 1 else 0 }
      else checkErrexit
    | .andOr first rest =>
      if rest.isEmpty then runCommand fuel runner first
      else
        asCondition (runCommand fuel runner first)
        let n := rest.length
        let mut i := 0
        for (isAnd, p) in rest do
          i := i + 1
          let s ← get
          if s.interrupted then break
          if isAnd == (s.status == 0) then
            if i = n then runCommand fuel runner p else asCondition (runCommand fuel runner p)
    | .sequence cs =>
      for x in cs do
        if (← get).interrupted then break
        runCommand fuel runner x
    | .subshell body redirs =>
      withRedirs fuel runner redirs (subshell (runCommand fuel runner body))
      checkErrexit
    | .group body redirs => withRedirs fuel runner redirs (runCommand fuel runner body)
    | .ifThen arms otherwise redirs =>
      withRedirs fuel runner redirs (runIf fuel runner arms otherwise)
    | .loop negated cond body redirs =>
      withRedirs fuel runner redirs (runLoop fuel runner negated cond body)
    | .forIn var items body redirs =>
      withRedirs fuel runner redirs (runFor fuel runner var items body)
    | .caseOf subject arms redirs =>
      withRedirs fuel runner redirs (runCase fuel runner subject arms)
    | .function name body =>
      modify fun s => { s with functions := (name, body) :: s.functions.filter (·.1 != name) }
      setStatus 0
    | .arithmetic text line =>
      modify fun s => { s with line := line + s.lineBase }
      match ← arithText fuel runner text with
      | none => pure ()
      | some expr =>
        match ← arithAs "((" expr with
        | some v => setStatus (if v ≠ 0 then 0 else 1)
        | none => setStatus 1
      checkErrexit
    | .conditional test line =>
      modify fun s => { s with line := line + s.lineBase }
      match ← condValue fuel runner test with
      | some b => setStatus (if b then 0 else 1)
      | none => pure ()
      checkErrexit
    | .forArith start test step body redirs =>
      withRedirs fuel runner redirs (runForArith fuel runner start test step body)

/-- Evaluates a test of `[[ … ]]`; none when an expansion failed or a regular expression did not
read (status 2), which has been reported. -/
def condValue : Nat → Runner → CondExpr → ShellM (Option Bool)
  | 0, _, _ => do diverge; return none
  | fuel + 1, runner, e =>
    match e with
    | .word w => do
      match ← expandText fuel runner w with
      | some t => return some !t.isEmpty
      | none => return none
    | .not e => do return (← condValue fuel runner e).map (!·)
    | .and a b => do
      match ← condValue fuel runner a with
      | some true => condValue fuel runner b
      | r => return r
    | .or a b => do
      match ← condValue fuel runner a with
      | some false => condValue fuel runner b
      | r => return r
    | .unary op w => do
      match ← expandText fuel runner w with
      | none => return none
      | some t =>
        let s ← get
        if op = "-v" then return some (s.var? t).isSome
        else if op = "-o" then return some (s.optionOn t)
        else return some (unaryTest s.files op t)
    | .binary op l r => do
      match ← expandText fuel runner l with
      | none => return none
      | some a =>
        if op = "==" || op = "=" || op = "!=" then
          match ← expandParts fuel runner r with
          | none => return none
          | some frags =>
            let m := patternMatches (Pattern.ofPieces (patternPieces frags)) a.toList
            return some (if op = "!=" then !m else m)
        else if op = "=~" then
          match ← expandParts fuel runner r with
          | none => return none
          | some frags =>
            match Regex.read true (regexSource frags) with
            | .ok (re, _) => return some (firstMatch re a.toList.toArray 0).isSome
            | .error _ =>
              setStatus 2
              return none
        else
          match ← expandText fuel runner r with
          | none => return none
          | some b =>
            if ["-eq", "-ne", "-lt", "-le", "-gt", "-ge"].contains op then
              match ← arithAs "[[" a with
              | none => return some false
              | some x =>
                match ← arithAs "[[" b with
                | none => return some false
                | some y => return some (arithComparison op x y)
            else return some ((binaryTest (← get).files op a b).toOption.getD false)

/-- Runs `for (( start; test; step ))`; an empty test holds. -/
def runForArith : Nat → Runner → String → String → String → Command → ShellM Unit
  | 0, _, _, _, _, _ => diverge
  | fuel + 1, runner, start, test, step, body => do
    let blank (t : String) : Bool := t.all fun c => c = ' ' || c = '\t' || c = '\n'
    let eval (t : String) : ShellM (Option Int) := do
      if blank t then return some 1
      match ← arithText fuel runner t with
      | none => return none
      | some expr => arithAs "((" expr
    match ← eval start with
    | none =>
      if !(← get).interrupted then setStatus 1
    | some _ =>
      modify fun s => { s with loops := s.loops + 1 }
      let mut last := 0
      let mut finished := false
      let mut failed := false
      for _ in [0:loopLimit] do
        match ← eval test with
        | none =>
          failed := true
          finished := true
          break
        | some v =>
          if v = 0 then
            finished := true
            break
        runCommand fuel runner body
        last := (← get).status
        if !(← loopGoesOn) then
          finished := true
          break
        if (← eval step).isNone then
          failed := true
          finished := true
          break
      modify fun s => { s with loops := s.loops - 1 }
      if !finished then diverge
      else if !(← get).interrupted then setStatus (if failed then 1 else last)

/-- Runs `if`: the first branch whose condition holds, else the `else` branch; the status is 0
when none runs. -/
def runIf : Nat → Runner → List (Command × Command) → Option Command → ShellM Unit
  | 0, _, _, _ => diverge
  | fuel + 1, runner, arms, otherwise => do
    for (cond, body) in arms do
      asCondition (runCommand fuel runner cond)
      if (← get).interrupted then return
      if (← get).status = 0 then
        runCommand fuel runner body
        return
    match otherwise with
    | some body => runCommand fuel runner body
    | none => setStatus 0

/-- Runs `while` (or `until`, when negated). -/
def runLoop : Nat → Runner → Bool → Command → Command → ShellM Unit
  | 0, _, _, _, _ => diverge
  | fuel + 1, runner, negated, cond, body => do
    modify fun s => { s with loops := s.loops + 1 }
    let mut last := 0
    let mut finished := false
    for _ in [0:loopLimit] do
      asCondition (runCommand fuel runner cond)
      if !(← loopGoesOn) then
        finished := true
        break
      if ((← get).status = 0) == negated then
        finished := true
        break
      runCommand fuel runner body
      last := (← get).status
      if !(← loopGoesOn) then
        finished := true
        break
    modify fun s => { s with loops := s.loops - 1 }
    if !finished then diverge
    else if !(← get).interrupted then setStatus last

/-- Runs `for`. -/
def runFor : Nat → Runner → String → Option (List Word) → Command → ShellM Unit
  | 0, _, _, _, _ => diverge
  | fuel + 1, runner, var, items, body => do
    let values ← match items with
      | none => pure (some (← get).params)
      | some ws => do
        let mut acc : List String := []
        for w in ws do
          match ← expandFields fuel runner w with
          | some fs => acc := acc ++ fs
          | none => return
        pure (some acc)
    match values with
    | none => pure ()
    | some vs =>
      modify fun s => { s with loops := s.loops + 1 }
      let mut last := 0
      for v in vs do
        let _ ← assignVar var v
        runCommand fuel runner body
        last := (← get).status
        if !(← loopGoesOn) then break
      modify fun s => { s with loops := s.loops - 1 }
      if !(← get).interrupted then setStatus last

/-- Runs `case`: the first arm with a pattern that matches the subject. -/
def runCase : Nat → Runner → Word → List (List Word × Command) → ShellM Unit
  | 0, _, _, _ => diverge
  | fuel + 1, runner, subject, arms => do
    match ← expandText fuel runner subject with
    | none => pure ()
    | some text =>
      for (pats, body) in arms do
        for pw in pats do
          match ← expandParts fuel runner pw with
          | none => return
          | some frags =>
            if patternMatches (Pattern.ofPieces (patternPieces frags)) text.toList then
              runCommand fuel runner body
              return
      setStatus 0

/-- Runs a pipeline: each command in a subshell, the output of one the input of the next. -/
def runPipeline : Nat → Runner → List Command → ShellM Unit
  | 0, _, _ => diverge
  | fuel + 1, runner, cs => do
    match cs with
    | [c] => runCommand fuel runner c
    | _ =>
      let n := cs.length
      let mut i := 0
      let mut feed : Option (List UInt8) := none
      let outer := (← get).input
      for c in cs do
        i := i + 1
        if (← get).ended.isSome then break
        match feed with
        | some bs => modify fun s => { s with input := bs }
        | none => pure ()
        if i = n then subshell (runCommand fuel runner c)
        else
          let bs ← captured (subshell (runCommand fuel runner c))
          feed := some bs
      if feed.isSome then modify fun s => { s with input := if n > 1 then outer else s.input }

/-- Runs a simple command: expansions, assignments, redirections, then the command. -/
def runSimple : Nat → Runner → List (String × Word) → List Word → List Redir → Nat → ShellM Unit
  | 0, _, _, _, _, _ => diverge
  | fuel + 1, runner, assigns, words, redirs, line => do
    modify fun s => { s with line := line + s.lineBase }
    let mut fields : List String := []
    for w in words do
      match ← expandFields fuel runner w with
      | some fs => fields := fields ++ fs
      | none => return
    let mut values : List (String × String) := []
    let mut substituted := false
    for (n, w) in assigns do
      let hasCommand := w.any fun p => match p with
        | .command _ _ => true
        | _ => false
      substituted := substituted || hasCommand
      match ← expandText fuel runner w with
      | some v => values := values ++ [(n, v)]
      | none => return
    match fields with
    | [] =>
      let s ← get
      if s.xtrace && !values.isEmpty then trace (values.map fun (n, v) => n ++ "=" ++ v)
      let mut ok := true
      for (n, v) in values do
        if !(← assignVar n v) then
          ok := false
          if !(← get).bash then finish (.exited 2)
      let now := (← get).status
      let status := if !ok then 1 else if substituted then now else 0
      withRedirs fuel runner redirs (setStatus status)
    | name :: args =>
      trace fields
      if name = "exec" && args.isEmpty then
        -- redirections of `exec` alone stay for the rest of the shell
        if ← redirect fuel runner redirs then setStatus 0
      else
        withRedirs fuel runner redirs (runNamed fuel runner name args values)

/-- Runs a command by its name, with the assignments before it: a special builtin (whose
assignments stay), a function, a regular builtin, else a program (which gets them in its
environment). -/
def runNamed : Nat → Runner → String → List String → List (String × String) → ShellM Unit
  | 0, _, _, _, _ => diverge
  | fuel + 1, runner, name, args, values => do
    let s ← get
    if specialBuiltins.contains name then
      for (n, v) in values do
        let _ ← assignVar n v
      runSpecial fuel runner name args
    else
      match s.functions.lookup name with
      | some body =>
        let saved := values.map fun (n, _) => (n, s.var? n)
        for (n, v) in values do
          let _ ← assignVar n v
        runFunction fuel runner body args
        modify fun st => saved.foldl (fun st (n, old) => match old with
          | some v => st.assign n v
          | none => st.unset n) st
      | none =>
        if (regularBuiltins s.bash).contains name then
          let saved := values.map fun (n, _) => (n, s.var? n)
          for (n, v) in values do
            let _ ← assignVar n v
          runRegular fuel runner name args
          modify fun st => saved.foldl (fun st (n, old) => match old with
            | some v => st.assign n v
            | none => st.unset n) st
        else runExternal fuel runner name args values

/-- Runs a special builtin. -/
def runSpecial : Nat → Runner → String → List String → ShellM Unit
  | 0, _, _, _ => diverge
  | fuel + 1, runner, name, args => do
    match name with
    | ":" => setStatus 0
    | "break" => loopBuiltin true args
    | "continue" => loopBuiltin false args
    | "exit" => exitBuiltin args
    | "return" => returnBuiltin args
    | "export" => exportBuiltin false args
    | "readonly" => exportBuiltin true args
    | "set" => setBuiltin args
    | "shift" => shiftBuiltin args
    | "unset" => unsetBuiltin args
    | "trap" => trapBuiltin args
    | "times" =>
      emitOut (Text.utf8Bytes "0m0.000s 0m0.000s\n0m0.000s 0m0.000s\n")
      setStatus 0
    | "eval" =>
      let text := " ".intercalate args
      if text.isEmpty then setStatus 0
      else runText fuel runner text
    | "exec" =>
      match args with
      | [] => setStatus 0
      | p :: rest =>
        runNamed fuel runner p rest []
        let s ← get
        if s.ended.isNone then finish (.exited s.status)
    | "." =>
      match args with
      | [] =>
        complain ".: usage: . filename [arguments]"
        setStatus 2
      | path :: _ => sourceFile fuel runner "." path
    | _ => setStatus 0

/-- Runs a regular builtin. -/
def runRegular : Nat → Runner → String → List String → ShellM Unit
  | 0, _, _, _ => diverge
  | fuel + 1, runner, name, args => do
    let s ← get
    match name with
    | "echo" => echoBuiltin args
    | "printf" => printfBuiltin args
    | "test" => testBuiltin false args
    | "[" => testBuiltin true args
    | "true" => setStatus 0
    | "false" => setStatus 1
    | "cd" => cdBuiltin args
    | "pwd" =>
      emitOut (Text.utf8Bytes ((s.var? "PWD").getD "/" ++ "\n"))
      setStatus 0
    | "read" => readBuiltin args
    | "local" => localBuiltin args
    | "kill" => killBuiltin args
    | "wait" => setStatus 0
    | "umask" =>
      if args.isEmpty then emitOut (Text.utf8Bytes "0022\n")
      setStatus 0
    | "let" => letBuiltin args
    | "source" =>
      match args with
      | [] =>
        complain "source: filename argument required"
        setStatus 2
      | path :: _ => sourceFile fuel runner "source" path
    | "command" =>
      match args with
      | "-v" :: names =>
        let mut status := 0
        for n in names do
          if specialBuiltins.contains n || (regularBuiltins s.bash).contains n || (s.functions.lookup n).isSome then
            emitOut (Text.utf8Bytes (n ++ "\n"))
          else
            match resolve n with
            | .ok _ => emitOut (Text.utf8Bytes ((if n.contains '/' then n else "/usr/bin/" ++ n) ++ "\n"))
            | .error _ => status := 1
        setStatus status
      | n :: rest =>
        if specialBuiltins.contains n then runSpecial fuel runner n rest
        else if (regularBuiltins s.bash).contains n then runRegular fuel runner n rest
        else runExternal fuel runner n rest []
      | [] => setStatus 0
    | "type" =>
      let mut status := 0
      for n in args do
        if specialBuiltins.contains n then
          emitOut (Text.utf8Bytes (n ++ " is a special shell builtin\n"))
        else if (s.functions.lookup n).isSome then
          emitOut (Text.utf8Bytes (n ++ (if s.bash then " is a function\n" else " is a shell function\n")))
        else if (regularBuiltins s.bash).contains n then
          emitOut (Text.utf8Bytes (n ++ " is a shell builtin\n"))
        else
          match resolve n with
          | .ok _ => emitOut (Text.utf8Bytes (n ++ " is " ++ (if n.contains '/' then n else "/usr/bin/" ++ n) ++ "\n"))
          | .error _ =>
            status := if s.bash then 1 else 127
            if s.bash then complain ("type: " ++ n ++ ": not found")
            else emitOut (Text.utf8Bytes (n ++ ": not found\n"))
      setStatus status
    | _ => setStatus 0

/-- Runs a function: the arguments are its positional parameters while it runs, and its `local`
names get their values back after. -/
def runFunction : Nat → Runner → Command → List String → ShellM Unit
  | 0, _, _, _ => diverge
  | fuel + 1, runner, body, args => do
    let s ← get
    set { s with params := args, locals := [] :: s.locals }
    runCommand fuel runner body
    modify fun st =>
      let frame := st.locals.headD []
      let st := frame.foldl (fun st (n, old) => match old with
        | some v => st.assign n v
        | none => st.unset n) st
      { st with params := s.params, locals := st.locals.drop 1,
                flow := if st.flow = some .returnFrom then none else st.flow }

/-- Runs a program through the runner; its output goes to the command's descriptors. -/
def runExternal : Nat → Runner → String → List String → List (String × String) → ShellM Unit
  | 0, _, _, _, _ => diverge
  | _ + 1, runner, name, args, values => do
    let s ← get
    match resolve name with
    | .ok p =>
      let env := (s.exported.filterMap fun n => (s.var? n).map fun v => (n, v)) ++ values
      let o := runner p name args s.input s.files env
      emit s.fds.one o.execution.stdout
      emit s.fds.two o.execution.stderr
      modify fun st => { st with files := o.files, elapsed := st.elapsed + o.execution.elapsed,
                                 input := if p.readsInput then [] else st.input,
                                 status := match o.execution.ending with
                                   | .exited c => c
                                   | .signalled n => 128 + n }
      if o.execution.elapsed ≥ forever then diverge
    | .error .denied =>
      complain (name ++ (if s.bash then (if s.files.isDirectory name then ": Is a directory" else ": Permission denied") else ": Permission denied"))
      setStatus 126
    | .error .missing =>
      complain (name ++ (if s.bash then (if name.contains '/' then ": No such file or directory" else ": command not found") else ": not found"))
      setStatus 127

/-- Runs a file's text in this shell. -/
def sourceFile : Nat → Runner → String → String → ShellM Unit
  | 0, _, _, _ => diverge
  | fuel + 1, runner, cmd, path => do
    let s ← get
    match s.files.read path with
    | .ok bs => runText fuel runner (Text.decodeLossy bs)
    | .error e =>
      if s.bash then
        complain (path ++ ": " ++ e.text)
        setStatus 1
      else
        complain (cmd ++ ": cannot open " ++ path ++ ": No such file")
        finish (.exited 2)

/-- Reads text as a script and runs it in this shell, as `eval` does: a `break`, `continue` or
`return` reaches the commands around it. -/
def runText : Nat → Runner → String → ShellM Unit
  | 0, _, _ => diverge
  | fuel + 1, runner, text => do
    let s ← get
    let steps := parseScript s.bash text
    modify fun st => { st with lineBase := s.line - 1 }
    for st in steps do
      if (← get).interrupted then break
      match st with
      | .run c => runCommand fuel runner c
      | .fail e =>
        reportSyntax text (s.line - 1) e
        if (← get).bash then setStatus 2 else finish (.exited 2)
    modify fun st => { st with lineBase := s.lineBase }

/-- Runs the steps of a script read from `source` at its top level (its lines shifted by `base`): after an expansion error in `bash` the next
command runs; a `return` ends the script; a syntax error ends the shell with status 2. -/
def runTop : Nat → Runner → String → Nat → List Step → ShellM Unit
  | 0, _, _, _, _ => diverge
  | fuel + 1, runner, source, base, steps => do
    for st in steps do
      let s ← get
      if s.ended.isSome then break
      match s.flow with
      | some .returnFrom => break
      | some _ => set { s with flow := none }
      | none => pure ()
      match st with
      | .run c => runCommand fuel runner c
      | .fail e =>
        reportSyntax source base e
        finish (.exited 2)
    modify fun s => { s with flow := none }
end

/-- The variables a shell starts with. -/
def initialVars : List (String × String) :=
  [("IFS", " \t\n"), ("OPTIND", "1"), ("PS1", "$ "), ("PS2", "> "), ("PS4", "+ "),
   ("PATH", "/usr/local/sbin:/usr/local/bin:/usr/sbin:/usr/bin:/sbin:/bin")]

/-- How much fuel a script gets. -/
def scriptFuel : Nat := 5000

/-- Runs a script with its parameters, input, files and environment. -/
def runScript (runner : Runner) (bash : Bool) (name : String) (params : List String)
    (script : String) (stdin : List UInt8) (files : Files) (env : List (String × String)) :
    Outcome :=
  let st : ShellState := { name, bash, params, input := stdin, files,
                           vars := env ++ initialVars.filter (fun (n, _) => (env.lookup n).isNone),
                           exported := env.map (·.1) }
  let steps := parseScript bash script
  let whole : ShellM Unit := do
    runTop scriptFuel runner script 0 steps
    let s ← get
    match s.exitTrap, s.ended with
    | some action, e =>
      let stop := match e with
        | some (.signalled _) => true
        | _ => false
      if !stop && !action.isEmpty && s.elapsed < forever then
        let code := match e with
          | some (.exited c) => c
          | _ => s.status
        set { s with ended := none, flow := none, status := code, exitTrap := none }
        runText scriptFuel runner action
        let after ← get
        if after.ended.isNone then set { after with ended := some (.exited code) }
    | none, _ => pure ()
  let ((), s) := whole.run st
  { execution := { stdout := s.out.toList, stderr := s.err.toList,
                   ending := s.ended.getD (.exited s.status), elapsed := s.elapsed },
    files := s.files }

end SnapshotAgent.Shell
