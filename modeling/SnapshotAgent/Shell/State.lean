import SnapshotAgent.Shell.Syntax
import SnapshotAgent.Shell.Utility.Basic
/-!
# The shell's state

What a running shell holds: its name (`$0`, which also begins its messages), its dialect, the
positional parameters, variables (with those exported to children and those read-only), the
functions, the status of the last command, where its descriptors write, its input, the files,
and how it is going: ended (with an exit code or a signal), or cutting a run short by `break`,
`continue` or `return`.

Output goes to sinks: the process's two outputs, a capture (the output of a pipeline's command
or of a command substitution, collected for what follows), a file, or nowhere. Captures nest,
and the innermost is the last.

Words expand into fragments: text that was quoted, literal text, text from an expansion (which
field splitting may split), and the breaks between the fields of `"$@"`. Splitting follows the
rules for the characters of `IFS`: blanks among them gather into one separator and are dropped
at the ends, any other separates exactly one field from the next.
-/

namespace SnapshotAgent.Shell

/-- Where a descriptor writes. -/
inductive Sink where
  | stdout
  | stderr
  | capture (level : Nat)
  | file (path : String)
  | discard
  deriving Repr, DecidableEq, Inhabited

/-- Where the two output descriptors write. -/
structure Fds where
  one : Sink := .stdout
  two : Sink := .stderr
  deriving Repr, DecidableEq, Inhabited

/-- How a run is cut short. -/
inductive Flow where
  | breakLoop (count : Nat)
  | continueLoop (count : Nat)
  | returnFrom
  /-- The rest of the current top-level command is dropped, after an expansion error. -/
  | abandon
  deriving Repr, DecidableEq, Inhabited

/-- The shell's process id, which `$$` names. -/
def shellPid : Nat := 4242

/-- The most iterations a loop makes; a loop that would make more never ends. -/
def loopLimit : Nat := 200000

/-- Nanoseconds that stand for a run that never ends. -/
def forever : Nat := 1000000000000000000

/-- The shell's state. -/
structure ShellState where
  /-- `$0`, also the name in the shell's messages. -/
  name : String
  bash : Bool := false
  params : List String := []
  vars : List (String × String) := []
  exported : List String := []
  readonly : List String := []
  functions : List (String × Command) := []
  /-- For each function running, innermost first, the values its `local` names had before. -/
  locals : List (List (String × Option String)) := []
  status : Nat := 0
  out : Array UInt8 := #[]
  err : Array UInt8 := #[]
  captures : Array (Array UInt8) := #[]
  fds : Fds := {}
  input : List UInt8 := []
  files : Files := {}
  elapsed : Nat := 0
  ended : Option Ending := none
  flow : Option Flow := none
  loops : Nat := 0
  /-- How deep in conditions (of `if`, `while`, `&&`, `||`, `!`) the run is; `set -e` holds
  only at depth zero. -/
  conditions : Nat := 0
  line : Nat := 1
  lineBase : Nat := 0
  errexit : Bool := false
  nounset : Bool := false
  xtrace : Bool := false
  exitTrap : Option String := none
  deriving Inhabited

/-- The shell at work. -/
abbrev ShellM := StateM ShellState

/-- Whether the run is cut short: ended, or in a `break`, `continue` or `return`. -/
def ShellState.interrupted (s : ShellState) : Bool := s.ended.isSome || s.flow.isSome

/-- Writes bytes to a sink. -/
def emit (sink : Sink) (bs : List UInt8) : ShellM Unit :=
  modify fun s => match sink with
    | .stdout => { s with out := s.out ++ bs.toArray }
    | .stderr => { s with err := s.err ++ bs.toArray }
    | .capture k => { s with captures := s.captures.modify k (· ++ bs.toArray) }
    | .file p =>
      match s.files.write p bs true with
      | .ok fs => { s with files := fs }
      | .error _ => s
    | .discard => s

/-- Writes to standard output. -/
def emitOut (bs : List UInt8) : ShellM Unit := do emit (← get).fds.one bs

/-- Writes to standard error. -/
def emitErr (bs : List UInt8) : ShellM Unit := do emit (← get).fds.two bs

/-- The lead of the shell's messages: `name: line: ` or, for `bash`, `name: line N: `. -/
def ShellState.lead (s : ShellState) : String :=
  if s.bash then s.name ++ ": line " ++ toString s.line ++ ": "
  else s.name ++ ": " ++ toString s.line ++ ": "

/-- Writes one of the shell's own messages to standard error. -/
def complain (text : String) : ShellM Unit := do
  let s ← get
  emitErr (Text.utf8Bytes (s.lead ++ text ++ "\n"))

/-- Sets the status of the last command. -/
def setStatus (code : Nat) : ShellM Unit := modify fun s => { s with status := code }

/-- Ends the shell. -/
def finish (e : Ending) : ShellM Unit := modify fun s => { s with ended := some e }

/-- A variable's value, if it is set. -/
def ShellState.var? (s : ShellState) (name : String) : Option String :=
  (s.vars.find? (·.1 == name)).map (·.2)

/-- The value of a parameter, if it is set. -/
def ShellState.param? (s : ShellState) (name : String) : Option String :=
  match name with
  | "$" => some (toString shellPid)
  | "?" => some (toString s.status)
  | "#" => some (toString s.params.length)
  | "@" | "*" => if s.params.isEmpty then none else some (" ".intercalate s.params)
  | "0" => some s.name
  | "!" => none
  | "-" => some ""
  | "LINENO" => some (toString s.line)
  | _ =>
    match name.toNat? with
    | some 0 => some s.name
    | some n => s.params[n - 1]?
    | none => s.var? name

/-- Sets a variable. -/
def ShellState.assign (s : ShellState) (name value : String) : ShellState :=
  { s with vars := (name, value) :: s.vars.filter (·.1 != name) }

/-- Removes a variable. -/
def ShellState.unset (s : ShellState) (name : String) : ShellState :=
  { s with vars := s.vars.filter (·.1 != name) }

/-- The field separators: `IFS`, or blank, tab and newline when it is unset. -/
def ShellState.separators (s : ShellState) : List Char :=
  match s.var? "IFS" with
  | some v => v.toList
  | none => [' ', '\t', '\n']

/-! ## Fragments and fields -/

/-- A piece of an expanded word. -/
inductive Frag where
  /-- Text, whether it was quoted, and whether field splitting may split it (text that came
  from an unquoted expansion). -/
  | text (s : String) (quoted : Bool) (split : Bool)
  /-- A break between fields that always makes one, as between the words of `"$@"`. -/
  | hardBreak
  /-- A break between fields that makes one only after text, as in unquoted `$@`. -/
  | softBreak
  deriving Repr, DecidableEq, Inhabited

/-- The state of field splitting: the fields done, the field being built, and whether the last
separator was a blank one that ended a field. -/
structure Splitting where
  done : Array String := #[]
  current : Option String := none
  afterBlank : Bool := false
  deriving Inhabited

/-- Ends the field being built, if there is one. -/
def Splitting.close (st : Splitting) : Splitting :=
  match st.current with
  | some c => { done := st.done.push c, current := none, afterBlank := false }
  | none => st

/-- Adds text that is not split. -/
def Splitting.add (st : Splitting) (t : String) : Splitting :=
  { st with current := some (st.current.getD "" ++ t), afterBlank := false }

/-- Adds a character of text that may be split. -/
def Splitting.step (seps : List Char) (st : Splitting) (c : Char) : Splitting :=
  if !seps.contains c then st.add (String.singleton c)
  else if c = ' ' || c = '\t' || c = '\n' then
    match st.current with
    | some _ => { st.close with afterBlank := true }
    | none => st
  else if st.afterBlank then { st with afterBlank := false }
  else { done := st.done.push (st.current.getD ""), current := none, afterBlank := false }

/-- Splits fragments into fields. -/
def splitFields (seps : List Char) (frags : List Frag) : List String :=
  let st := frags.foldl (fun (st : Splitting) f =>
    match f with
    | .text t _ false => st.add t
    | .text t _ true => t.toList.foldl (Splitting.step seps) st
    | .hardBreak => { done := st.done.push (st.current.getD ""), current := none, afterBlank := false }
    | .softBreak => st.close) {}
  (st.close).done.toList

/-- The text of fragments, unsplit, with a blank for each break. -/
def joinFrags (frags : List Frag) : String :=
  frags.foldl (fun acc f => match f with
    | .text t _ _ => acc ++ t
    | .hardBreak | .softBreak => acc ++ " ") ""

/-- The pieces of fragments for a pattern: quoted text and text that may hold pattern
characters. -/
def patternPieces (frags : List Frag) : List (String × Bool) :=
  frags.filterMap fun f => match f with
    | .text t q _ => some (t, q)
    | .hardBreak | .softBreak => some (" ", true)

/-- Text that is quoted is never split. -/
theorem splitFields_quoted (seps : List Char) (t : String) :
    splitFields seps [.text t true false] = [t] := by
  simp [splitFields, Splitting.add, Splitting.close]

end SnapshotAgent.Shell
