import SnapshotAgent.Shell.State
import SnapshotAgent.Shell.Arith
/-!
# Builtins

The commands the shell runs itself, without starting a program: `echo`, `printf`, `test` and
`[`, `true`, `false`, `:`, `exit`, `return`, `break`, `continue`, `export`, `readonly`,
`unset`, `shift`, `set`, `local`, `read`, `kill`, `cd`, `pwd`, `wait`, `umask`, `trap` and, in
`bash`, `let`. Those that run other commands (`eval`, `exec`, `command`, `.`) are with the
interpreter.

The plain shell's `echo` reads escapes in every word; the one of `bash` reads them only after
`-e`. An error of a special builtin (`exit`, `shift`, …) ends the plain shell with status 2; an
error of another builtin sets its status.
-/

namespace SnapshotAgent.Shell

/-- The signals by name and number. -/
def signalNumber? (name : String) : Option Nat :=
  let n := if name.startsWith "SIG" then (name.drop 3).toString else name
  match n.toNat? with
  | some v => if v ≤ 64 then some v else none
  | none =>
    let names := ["HUP", "INT", "QUIT", "ILL", "TRAP", "ABRT", "BUS", "FPE", "KILL", "USR1", "SEGV",
      "USR2", "PIPE", "ALRM", "TERM", "STKFLT", "CHLD", "CONT", "STOP", "TSTP", "TTIN", "TTOU",
      "URG", "XCPU", "XFSZ", "VTALRM", "PROF", "WINCH", "IO", "PWR", "SYS"]
    match names.idxOf? n with
    | some i => some (i + 1)
    | none => none

/-- Signals whose default action does not end a process. -/
def ignoredSignals : List Nat := [0, 17, 18, 19, 20, 21, 22, 23, 28]

/-- `echo`. -/
def echoBuiltin (args : List String) : ShellM Unit := do
  let s ← get
  emitOut (if s.bash then programEcho args else shellEcho args)
  setStatus 0

/-- `test`, and `[` when `bracket`. -/
def testBuiltin (bracket : Bool) (args : List String) : ShellM Unit := do
  let s ← get
  let cmd := if bracket then "[" else "test"
  let words : Option (List String) :=
    if bracket then (if args.getLast? = some "]" then some args.dropLast else none) else some args
  match words with
  | none =>
    complain (cmd ++ ": " ++ (if s.bash then "missing ']'" else "missing ]"))
    setStatus 2
  | some ws =>
    if s.bash then
      match countedTest s.files ws with
      | .ok v => setStatus (if v then 0 else 1)
      | .error e =>
        complain (cmd ++ ": " ++ e.bashMessage)
        setStatus 2
    else
      match plainTest s.files (ws.length + 1) false ws with
      | .ok v => setStatus (if v then 0 else 1)
      | .error e =>
        complain (cmd ++ ": " ++ e.message)
        setStatus 2

/-- Reads an exit status argument: a plain number (the plain shell) or any integer (`bash`,
modulo 256). -/
def exitCode? (bash : Bool) (a : String) : Option Nat :=
  if bash then (a.toInt?.map fun v => (v % 256).toNat)
  else if !a.isEmpty && a.all Char.isDigit then some (a.toNat! % 256) else none

/-- `exit`. -/
def exitBuiltin (args : List String) : ShellM Unit := do
  let s ← get
  match args with
  | [] => finish (.exited s.status)
  | a :: _ =>
    match exitCode? s.bash a with
    | some c => finish (.exited c)
    | none =>
      if s.bash then
        complain ("exit: " ++ a ++ ": numeric argument required")
        finish (.exited 2)
      else
        complain ("exit: Illegal number: " ++ a)
        finish (.exited 2)

/-- `return`: ends the running function (or, in the plain shell, the script) with a status. -/
def returnBuiltin (args : List String) : ShellM Unit := do
  let s ← get
  let code := match args with
    | a :: _ => exitCode? s.bash a
    | [] => some s.status
  match code with
  | none =>
    if s.bash then
      complain ("return: " ++ args.headD "" ++ ": numeric argument required")
      setStatus 2
    else
      complain ("return: Illegal number: " ++ args.headD "")
      finish (.exited 2)
  | some c =>
    if s.bash && s.locals.isEmpty then
      complain "return: can only `return' from a function or sourced script"
      setStatus 1
    else
      setStatus c
      modify fun s => { s with flow := some .returnFrom }

/-- `break` and `continue`. -/
def loopBuiltin (isBreak : Bool) (args : List String) : ShellM Unit := do
  let s ← get
  let cmd := if isBreak then "break" else "continue"
  let n := match args with
    | a :: _ => a.toNat?
    | [] => some 1
  match n with
  | none | some 0 =>
    if s.bash then
      complain (cmd ++ ": " ++ args.headD "" ++ ": loop count out of range")
      setStatus 1
    else
      complain (cmd ++ ": Illegal number: " ++ args.headD "")
      finish (.exited 2)
  | some k =>
    if s.loops = 0 then
      if s.bash then
        complain (cmd ++ ": only meaningful in a `for', `while', or `until' loop")
      setStatus 0
    else
      setStatus 0
      let count := min k s.loops
      modify fun s => { s with flow := some (if isBreak then .breakLoop count else .continueLoop count) }

/-- Whether a word is `name=value` with a name, and its two parts. -/
def nameValue? (a : String) : Option (String × Option String) :=
  match a.splitOn "=" with
  | [n] => if isName n then some (n, none) else none
  | n :: _ => if isName n then some (n, some (a.drop (n.length + 1)).toString) else none
  | [] => none

/-- Sets a variable unless it is read-only; answers whether it was set. -/
def assignVar (name value : String) : ShellM Bool := do
  let s ← get
  if s.readonly.contains name then
    if s.bash then complain (name ++ ": readonly variable")
    else complain (name ++ ": is read only")
    return false
  else
    set (s.assign name value)
    return true

/-- How the printf builtin was called. -/
inductive PrintfCall where
  /-- A format and its arguments; the output goes to the variable when one is named. -/
  | run (target : Option String) (format : String) (args : List String)
  /-- No format. -/
  | usage
  /-- An option the builtin does not take, with the complaint. -/
  | badOption (message : String)
  /-- A variable name that is not one. -/
  | badName (name : String)
  deriving Repr, Inhabited

/-- Reads the printf builtin's options: bash takes `-v name`; both end the options at `--`. -/
def printfCall (bash : Bool) : List String → PrintfCall
  | [] => .usage
  | "--" :: rest =>
    match rest with
    | f :: more => .run none f more
    | [] => .usage
  | a :: rest =>
    if a.startsWith "-" && a.length > 1 then
      if bash && a.startsWith "-v" then
        let (name, rest) := if a = "-v" then (rest.head?, rest.drop 1) else (some (a.drop 2).toString, rest)
        match name with
        | none => .badOption "-v: option requires an argument"
        | some n =>
          if !isName n then .badName n
          else match rest with
            | "--" :: f :: more => .run (some n) f more
            | f :: more => .run (some n) f more
            | [] => .usage
      else if bash then .badOption ((a.take 2).toString ++ ": invalid option")
      else .badOption ("Illegal option " ++ (a.take 2).toString)
    else .run none a rest

/-- `printf`: the shell's own, or bash's with `-v`. -/
def printfBuiltin (args : List String) : ShellM Unit := do
  let s ← get
  let usage := "printf: usage: printf [-v var] format [arguments]\n"
  match printfCall s.bash args with
  | .usage =>
    if s.bash then emitErr (Text.utf8Bytes usage) else complain "printf: usage: printf format [arg ...]"
    setStatus 2
  | .badOption m =>
    complain ("printf: " ++ m)
    if s.bash then emitErr (Text.utf8Bytes usage)
    setStatus 2
  | .badName n =>
    complain ("printf: `" ++ n ++ "': not a valid identifier")
    setStatus 2
  | .run target format rest =>
    let r := printf (if s.bash then .bash else .shell) format rest
    match target with
    | none => emitOut r.out.toList
    | some n =>
      let _ ← assignVar n (Text.decodeLossy r.out.toList)
    for w in r.warnings do complain ("printf: " ++ w)
    setStatus r.status

/-- `export` and `readonly`. -/
def exportBuiltin (readonly : Bool) (args : List String) : ShellM Unit := do
  let cmd := if readonly then "readonly" else "export"
  let mut ok := true
  for a in args.filter (· != "-p") do
    match nameValue? a with
    | some (n, v) =>
      match v with
      | some value =>
        if !(← assignVar n value) then
          ok := false
          if !(← get).bash then finish (.exited 2)
      | none => pure ()
      if readonly then modify fun s => { s with readonly := n :: s.readonly }
      else modify fun s => { s with exported := n :: s.exported }
    | none =>
      ok := false
      if (← get).bash then complain (cmd ++ ": `" ++ a ++ "': not a valid identifier")
      else
        complain (cmd ++ ": " ++ a ++ ": bad variable name")
        finish (.exited 2)
  setStatus (if ok then 0 else 1)

/-- `unset`. -/
def unsetBuiltin (args : List String) : ShellM Unit := do
  let mut status := 0
  let names := args.filter fun a => a != "-v" && a != "-f"
  let functions := args.contains "-f"
  for n in names do
    let s ← get
    if functions then set { s with functions := s.functions.filter (·.1 != n) }
    else if s.readonly.contains n then
      if s.bash then
        complain ("unset: " ++ n ++ ": cannot unset: readonly variable")
        status := 1
      else
        complain ("unset: " ++ n ++ ": is read only")
        finish (.exited 2)
    else set (s.unset n)
  setStatus status

/-- `shift`. -/
def shiftBuiltin (args : List String) : ShellM Unit := do
  let s ← get
  let n := match args with
    | a :: _ => a.toNat?
    | [] => some 1
  match n with
  | some k =>
    if k ≤ s.params.length then
      set { s with params := s.params.drop k }
      setStatus 0
    else if s.bash then
      complain ("shift: " ++ toString k ++ ": shift count out of range")
      setStatus 1
    else
      complain "shift: can't shift that many"
      finish (.exited 2)
  | none =>
    if s.bash then
      complain ("shift: " ++ args.headD "" ++ ": numeric argument required")
      setStatus 1
    else
      complain ("shift: Illegal number: " ++ args.headD "")
      finish (.exited 2)

/-- `set`: options `-e`, `-u`, `-x` (and `+` to clear them), and new positional parameters
after `--` or the options. -/
def setBuiltin (args : List String) : ShellM Unit := do
  let mut rest := args
  let mut params : Option (List String) := none
  for _ in args do
    match rest with
    | [] => pure ()
    | "--" :: more =>
      params := some more
      rest := []
    | a :: more =>
      if (a.startsWith "-" || a.startsWith "+") && a.length > 1 then
        let on := a.startsWith "-"
        if a.drop 1 == "o" then
          match more with
          | opt :: after =>
            if opt == "errexit" then modify fun s => { s with errexit := on }
            else if opt == "nounset" then modify fun s => { s with nounset := on }
            else if opt == "xtrace" then modify fun s => { s with xtrace := on }
            rest := after
          | [] => rest := []
        else
          for c in (a.drop 1).toString.toList do
            if c = 'e' then modify fun s => { s with errexit := on }
            else if c = 'u' then modify fun s => { s with nounset := on }
            else if c = 'x' then modify fun s => { s with xtrace := on }
          rest := more
      else
        params := some (a :: more)
        rest := []
  match params with
  | some ps => modify fun s => { s with params := ps }
  | none => pure ()
  setStatus 0

/-- `local`: in a function, each name gets a value of its own until the function returns. -/
def localBuiltin (args : List String) : ShellM Unit := do
  let s ← get
  match s.locals with
  | [] =>
    if s.bash then
      complain "local: can only be used in a function"
      setStatus 1
    else
      complain "local: not in a function"
      finish (.exited 2)
  | frame :: outer =>
    let mut frame := frame
    for a in args do
      match nameValue? a with
      | some (n, v) =>
        let st ← get
        if !(frame.any (·.1 == n)) then frame := (n, st.var? n) :: frame
        match v with
        | some value => set (st.assign n value)
        | none => pure ()
      | none => pure ()
    modify fun st => { st with locals := frame :: outer }
    setStatus 0

/-- Reads a line of input for `read`: the line without its newline (with `raw`, backslashes
kept; else a backslash escapes the next character and joins lines), and whether a newline ended
it. -/
def readLine (raw : Bool) (fuel : Nat) (input : List UInt8) (acc : List UInt8) :
    List UInt8 × List UInt8 × Bool :=
  match fuel with
  | 0 => (acc.reverse, input, false)
  | fuel + 1 =>
    match input with
    | [] => (acc.reverse, [], false)
    | 10 :: rest => (acc.reverse, rest, true)
    | 92 :: rest =>
      if raw then readLine raw fuel rest (92 :: acc)
      else
        match rest with
        | 10 :: more => readLine raw fuel more acc
        | b :: more => readLine raw fuel more (b :: acc)
        | [] => (acc.reverse, [], false)
    | b :: rest => readLine raw fuel rest (b :: acc)

/-- Splits a line among names: each takes a field, the last takes the rest with separators at
its ends removed. -/
def assignFields (seps : List Char) (line : String) (names : List String) : List (String × String) :=
  let isBlankSep (c : Char) : Bool := seps.contains c && (c = ' ' || c = '\t' || c = '\n')
  let rec go (fuel : Nat) (cs : List Char) : List String → List (String × String)
    | [] => []
    | [n] =>
      let body := (cs.dropWhile isBlankSep).reverse.dropWhile isBlankSep |>.reverse
      [(n, String.ofList body)]
    | n :: more =>
      match fuel with
      | 0 => []
      | fuel + 1 =>
        let cs := cs.dropWhile isBlankSep
        let field := cs.takeWhile fun c => !seps.contains c
        let after := cs.drop field.length
        -- a separator that is not blank, with the blanks around it
        let after := after.dropWhile isBlankSep
        let after := match after with
          | c :: r => if seps.contains c && !isBlankSep c then r.dropWhile isBlankSep else after
          | [] => []
        (n, String.ofList field) :: go fuel after more
  go (line.length + names.length + 1) line.toList names

/-- `read`: a line of input into names (`REPLY` in `bash` when none are given). The status is 1
when the input ended before a newline. -/
def readBuiltin (args : List String) : ShellM Unit := do
  let s ← get
  let raw := args.contains "-r"
  let names := args.filter fun a => !a.startsWith "-"
  if names.isEmpty && !s.bash then
    complain "read: arg count"
    setStatus 2
  else
    let names := if names.isEmpty then ["REPLY"] else names
    let (line, rest, complete) := readLine raw (s.input.length + 1) s.input []
    modify fun st => { st with input := rest }
    let text := Text.decodeLossy line
    let seps := s.separators
    for (n, v) in assignFields seps text names do
      let _ ← assignVar n v
    setStatus (if complete then 0 else 1)

/-- `kill`: a signal option, then process ids. Only the shell's own process is there; a signal
whose default is to end a process ends the shell. -/
def killBuiltin (args : List String) : ShellM Unit := do
  let (sig, pids) := match args with
    | "-s" :: name :: rest => (signalNumber? name, rest)
    | "--" :: rest => (some 15, rest)
    | a :: rest =>
      if a.startsWith "-" && a.length > 1 then (signalNumber? (a.drop 1).toString, rest)
      else (some 15, a :: rest)
    | [] => (some 15, [])
  match sig with
  | none =>
    let name := match args with
      | "-s" :: name :: _ => name
      | a :: _ => (a.drop 1).toString
      | [] => ""
    complain ("kill: invalid signal number or name: " ++ name)
    setStatus 1
  | some n =>
    if pids.isEmpty then
      complain "kill: usage: kill [-s sigspec | -signum | -sigspec] [pid | job]... or\nkill -l [exitstatus]"
      setStatus 2
    else
      setStatus 0
      for pid in pids do
        if (← get).ended.isSome then continue
        match pid.toInt? with
        | none =>
          complain ("kill: Illegal number: " ++ pid)
          setStatus 1
        | some v =>
          if v = shellPid || v = 0 || v = -1 then
            if !ignoredSignals.contains n then finish (.signalled n)
          else
            complain "kill: No such process"
            setStatus 1

/-- `cd`: to a directory that exists. -/
def cdBuiltin (args : List String) : ShellM Unit := do
  let s ← get
  match args with
  | [] => setStatus 0
  | d :: _ =>
    if s.files.isDirectory d then
      set (s.assign "PWD" (trimSlashes d))
      setStatus 0
    else if s.bash then
      complain ("cd: " ++ d ++ ": " ++ (if s.files.exists d then "Not a directory" else "No such file or directory"))
      setStatus 1
    else
      complain ("cd: can't cd to " ++ d)
      setStatus 2

/-- `let` of `bash`: each argument an arithmetic expression; the status is 0 when the last is
not zero. -/
def letBuiltin (args : List String) : ShellM Unit := do
  let mut last : Int := 0
  for a in args do
    let s ← get
    match arithmetic true s.var? a with
    | .ok (v, assigned) =>
      for (n, x) in assigned do
        let _ ← assignVar n (toString x)
      last := v
    | .error e =>
      complain (e.message true a)
      setStatus 1
      return
  setStatus (if last = 0 then 1 else 0)

/-- `trap`: the action to run when the shell exits (`EXIT` or `0`); other signals are noted
and not acted on. -/
def trapBuiltin (args : List String) : ShellM Unit := do
  match args with
  | action :: conds =>
    if conds.any fun c => c = "EXIT" || c = "0" then
      modify fun s => { s with exitTrap := if action = "-" || action.isEmpty then (if action.isEmpty then some "" else none) else some action }
    setStatus 0
  | [] => setStatus 0

end SnapshotAgent.Shell
