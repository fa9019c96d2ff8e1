/-!
# Log levels

The agent logs at the most detailed level allowed by, first, the command line's `--log-level`,
then the `SNAPD_LOG` variable (`error`, `warn` or `warning`, `info`, `debug`, `trace`, in any
case and with blanks around), and last `info`. Logging is installed once per process; a second
installation is refused.
-/

namespace SnapshotAgent

/-- How much the agent logs. -/
inductive LogLevel where
  | error
  | warn
  | info
  | debug
  | trace
  deriving Repr, DecidableEq, Inhabited

/-- How log lines are written. -/
inductive LogFormat where
  | console
  | json
  deriving Repr, DecidableEq, Inhabited

/-- A level as the command line names it. -/
def LogLevel.ofName? : String → Option LogLevel
  | "error" => some .error
  | "warn" => some .warn
  | "info" => some .info
  | "debug" => some .debug
  | "trace" => some .trace
  | _ => none

/-- The level's name on the command line. -/
def LogLevel.name : LogLevel → String
  | .error => "error"
  | .warn => "warn"
  | .info => "info"
  | .debug => "debug"
  | .trace => "trace"

/-- A level as the environment names it. -/
def LogLevel.ofEnv? (s : String) : Option LogLevel :=
  let t := String.ofList ((s.toList.dropWhile Char.isWhitespace).reverse.dropWhile
    Char.isWhitespace).reverse
  match String.ofList (t.toList.map Char.toLower) with
  | "warning" => some .warn
  | other => LogLevel.ofName? other

/-- The level in force. -/
def LogLevel.resolve (flag : Option LogLevel) (env : Option String) : LogLevel :=
  match flag with
  | some l => l
  | none => (env.bind LogLevel.ofEnv?).getD .info

/-- Installs logging unless it is installed already. -/
def installLogging (installed : Bool) (_level : LogLevel) (_format : LogFormat) :
    Except String Unit :=
  if installed then
    .error "failed to initialise logging: a global default trace dispatcher has already been set"
  else .ok ()

/-- The command line's level wins over the environment's. -/
theorem LogLevel.resolve_flag (l : LogLevel) (env : Option String) :
    LogLevel.resolve (some l) env = l := rfl

end SnapshotAgent
