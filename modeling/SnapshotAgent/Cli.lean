import SnapshotAgent.Logging
import SnapshotAgent.Json.Decode
/-!
# The command line

`snapd [OPTIONS] [COMMAND]` with the commands `daemon` (the default), `status`, `upload <NODE>`
and `version`, and three options that may stand before or after the command: `--config <PATH>`,
`--log-level <LEVEL>` (`error`, `warn`, `info`, `debug` or `trace`, exactly so) and `--console`.

The words are read left to right, in two levels: the words before the command and those after
it. An option's value is the rest of its word after `=`, else the next word, unless that one is
`--`, an option, or on the top level a command's name. A value in its own word is checked only
when the next option, the command, the node or the end of the words is reached, so an unknown
word before that is refused first. Each option may be given once on each level, and on the
command's level it overrides the top level. `--` ends the options: every later word is an
operand. `-h`, `--help` and the `help` command ask for help, and `-V` and `--version` before the
command for the version. A refused command line is reported by the kind of the refusal only.
-/

namespace SnapshotAgent

/-- What the agent is asked to do. -/
inductive Command where
  | daemon
  | status
  | upload (node : String)
  | version
  deriving Repr, DecidableEq, Inhabited

/-- The command's name. -/
def Command.name : Command → String
  | .daemon => "daemon"
  | .status => "status"
  | .upload _ => "upload"
  | .version => "version"

/-- A parsed command line. -/
structure Invocation where
  config : Option String := none
  logLevel : Option LogLevel := none
  console : Bool := false
  command : Option Command := none
  deriving Repr, Inhabited

/-- The command to run: the one given, else `daemon`. -/
def Invocation.effective (i : Invocation) : Command := i.command.getD .daemon

/-- A parsed command line as JSON: the command to run, the node of `upload`, whether the command
was given, and the options. -/
def Invocation.toJson (i : Invocation) : Json :=
  let node := match i.command with
    | some (.upload n) => some n
    | _ => none
  .obj [("command", .str i.effective.name), ("node", Json.ofOption .str node),
    ("explicit_command", .bool i.command.isSome), ("config", Json.ofOption .str i.config),
    ("log_level", Json.ofOption .str (i.logLevel.map LogLevel.name)), ("console", .bool i.console)]

/-- Why a command line was not accepted. -/
inductive CliError where
  | invalidSubcommand
  | unknownArgument
  | invalidValue
  | missingRequiredArgument
  | argumentConflict
  | tooManyValues
  | displayHelp
  | displayVersion
  deriving Repr, DecidableEq, Inhabited

/-- The refusal's kind as the parser names it. -/
def CliError.kind : CliError → String
  | .invalidSubcommand => "InvalidSubcommand"
  | .unknownArgument => "UnknownArgument"
  | .invalidValue => "InvalidValue"
  | .missingRequiredArgument => "MissingRequiredArgument"
  | .argumentConflict => "ArgumentConflict"
  | .tooManyValues => "TooManyValues"
  | .displayHelp => "DisplayHelp"
  | .displayVersion => "DisplayVersion"

/-- Whether the refusal only asks for help or the version. -/
def CliError.isRequest : CliError → Bool
  | .displayHelp | .displayVersion => true
  | _ => false

/-- The words the top level reads as commands; `help` asks for help on the words after it. -/
def commandNames : List String := ["daemon", "status", "upload", "version", "help"]

/-- Where the reading is. -/
structure CliState where
  inv : Invocation := {}
  /-- The command word read so far, if any. -/
  commandWord : Option String := none
  /-- Whether `upload` still waits for its node. -/
  awaitingNode : Bool := false
  /-- Whether `--` was read. -/
  operandsOnly : Bool := false
  /-- The option whose value the next word must give. -/
  pending : Option String := none
  /-- An option with the value the next word gave it, not checked yet. -/
  held : Option (String × String) := none
  /-- The options given on the current level: before the command, or after it. -/
  given : List String := []
  /-- The words after `help`, once `help` was read as the command. -/
  helpWords : Option (List String) := none

/-- Whether a word looks like an option rather than a value. -/
def looksLikeOption (w : String) : Bool := w.startsWith "-" && w != "-"

/-- Splits `--name=value` into the name and the value. -/
def splitLong (w : String) : String × Option String :=
  let body := (w.drop 2).toString
  match body.splitOn "=" with
  | [] => (body, none)
  | [n] => (n, none)
  | n :: rest => (n, some ("=".intercalate rest))

/-- Gives an option its value: refused when the option was given before on this level, then
when the value is not one the option takes. -/
def CliState.assign (st : CliState) (name value : String) : Except CliError CliState :=
  if st.given.contains name then .error .argumentConflict
  else
    let st := { st with given := name :: st.given }
    match name with
    | "config" =>
      if value.isEmpty then .error .invalidValue
      else .ok { st with inv := { st.inv with config := some value } }
    | _ =>
      match LogLevel.ofName? value with
      | some l => .ok { st with inv := { st.inv with logLevel := some l } }
      | none => .error .invalidValue

/-- Finishes the option read last, before anything else is taken in: one still without a value
is refused, and a value waiting in `held` is checked now. -/
def CliState.settle (st : CliState) : Except CliError CliState :=
  match st.pending, st.held with
  | some _, _ => .error .invalidValue
  | none, some (name, value) => { st with held := none }.assign name value
  | none, none => .ok st

/-- Reads a long option. A flag with a value is refused before the option read last is
finished; an unknown option is refused without finishing it. -/
def CliState.longOption (st : CliState) (w : String) : Except CliError CliState :=
  let (name, inline) := splitLong w
  match name with
  | "config" | "log-level" => do
    let st ← st.settle
    match inline with
    | some v => st.assign name v
    | none => pure { st with pending := some name }
  | "console" =>
    if inline.isSome then .error .tooManyValues
    else do
      let st ← st.settle
      if st.given.contains name then throw .argumentConflict
      pure { st with given := name :: st.given, inv := { st.inv with console := true } }
  | "help" =>
    if inline.isSome then .error .tooManyValues
    else do
      let _ ← st.settle
      throw .displayHelp
  | "version" =>
    if st.commandWord.isSome then .error .unknownArgument
    else if inline.isSome then .error .tooManyValues
    else do
      let _ ← st.settle
      throw .displayVersion
  | _ => .error .unknownArgument

/-- Reads a short option: only its first letter counts. -/
def CliState.shortOption (st : CliState) (w : String) : Except CliError CliState :=
  match w.toList.drop 1 with
  | 'h' :: _ => do
    let _ ← st.settle
    throw .displayHelp
  | 'V' :: _ =>
    if st.commandWord.isSome then .error .unknownArgument
    else do
      let _ ← st.settle
      throw .displayVersion
  | _ => .error .unknownArgument

/-- Reads an operand: the command word, then the node of `upload`. After `--` a command's name
is no longer a command. -/
def CliState.operand (st : CliState) (w : String) : Except CliError CliState :=
  match st.commandWord with
  | none =>
    if st.operandsOnly then
      .error (if commandNames.contains w then .unknownArgument else .invalidSubcommand)
    else
      let enter (c : Option Command) : Except CliError CliState := do
        let st ← st.settle
        pure { st with commandWord := some w, given := [], awaitingNode := c.isNone,
                       inv := { st.inv with command := c <|> st.inv.command } }
      match w with
      | "daemon" => enter (some .daemon)
      | "status" => enter (some .status)
      | "version" => enter (some .version)
      | "upload" => enter none
      | "help" => .ok { st with helpWords := some [] }
      | _ => .error .invalidSubcommand
  | some _ =>
    if st.awaitingNode then do
      let st ← st.settle
      pure { st with awaitingNode := false, inv := { st.inv with command := some (.upload w) } }
    else .error .unknownArgument

/-- Reads one word. A word after an option that waits for its value is that value, unless it is
`--`, an option, or a command's name on the top level. -/
def CliState.readWord (st : CliState) (w : String) : Except CliError CliState :=
  match st.helpWords with
  | some ws => .ok { st with helpWords := some (ws ++ [w]) }
  | none =>
    match st.pending with
    | some name =>
      if st.operandsOnly then .ok { st with pending := none, held := some (name, w) }
      else if st.commandWord.isNone && commandNames.contains w then
        if w == "help" then .ok { st with helpWords := some [] } else .error .invalidValue
      else if w == "--" then .ok { st with operandsOnly := true }
      else if w.startsWith "--" then st.longOption w
      else if looksLikeOption w then st.shortOption w
      else .ok { st with pending := none, held := some (name, w) }
    | none =>
      if st.operandsOnly then st.operand w
      else if w == "--" then .ok { st with operandsOnly := true }
      else if w.startsWith "--" then st.longOption w
      else if looksLikeOption w then st.shortOption w
      else st.operand w

/-- What `help` followed by these words gives: help on the program or on one of its commands,
and a refusal for any other path, as the commands have no commands of their own. -/
def helpRequest : List String → CliError
  | [] => .displayHelp
  | [w] => if commandNames.contains w then .displayHelp else .invalidSubcommand
  | _ => .invalidSubcommand

/-- Parses the words after the program's name. -/
def parseCommandLine (args : List String) : Except CliError Invocation := do
  let st ← args.foldlM CliState.readWord {}
  if let some ws := st.helpWords then throw (helpRequest ws)
  let st ← st.settle
  if st.awaitingNode then throw .missingRequiredArgument
  pure st.inv

/-- With no words the agent runs as a daemon. -/
theorem parseCommandLine_nil : (parseCommandLine []).map Invocation.effective = .ok .daemon := rfl

end SnapshotAgent
