import SnapshotAgent.Cli
import SnapshotAgent.Agent.Assembly
import SnapshotAgent.Files
/-!
# The program

What one run of `snapd` does, as a function of the world it runs in: the files it reads and
writes, the `SNAPD_CONFIG` variable, the installed node tool, the network and the clock.

`version` prints the version and touches nothing. Every other command reads the configuration
(from `--config`, else `SNAPD_CONFIG` when it is set and not empty, else
`/etc/snapd/config.toml`), checks that the protocols and transports it names are registered,
opens the upload store at the configured path (creating the file and its tables where missing),
and then:

* `status` prints the status report over the configured nodes at the current time;
* `upload <node>` starts an upload by hand and prints its id, or fails when one is running;
* `daemon` runs until the shutdown signal and stops the scheduler within the configured time.

The store's file keeps what the run wrote, whether or not the command succeeded.

As an executable the program exits 0 after a successful run, 1 after a failed one (writing
`snapd error: <failure>` on standard error), and 2 for a command line it does not accept; asking
for help or the version prints it and exits 0.
-/

namespace SnapshotAgent

open SnapshotAgent.Time

/-- The program's version. -/
def programVersion : String := "0.1.0"

/-- Where the configuration is read when neither the command line nor the environment says. -/
def defaultConfigPath : String := "/etc/snapd/config.toml"

/-- What a run of the program sees and changes. -/
structure World where
  files : FileSystem
  /-- Who answers HTTP requests; by default no service does. -/
  network : Network.Responder := Network.unreachable
  /-- The value of `SNAPD_CONFIG`, if it is set. -/
  configVar : Option String := none
  /-- Where the stand-in node tool is installed, if it is. -/
  standIn : Option String := none
  clock : Instant
  deriving Inhabited

/-- The configuration path of a run. -/
def World.configPath (w : World) (inv : Invocation) : String :=
  match inv.config with
  | some p => p
  | none =>
    match w.configVar with
    | some v => if v.isEmpty then defaultConfigPath else v
    | none => defaultConfigPath

/-- Reads and validates the configuration file. -/
def World.loadConfig (w : World) (path : String) : Except Failure Config.ConfigFile :=
  match w.files.readText path with
  | .error reason => .error (.config ("cannot read config file " ++ path ++ ": " ++ reason))
  | .ok text => Config.ConfigFile.parse text

/-- Opens the upload store at a path, creating the file and the tables where missing. -/
def World.openStore (w : World) (path : String) : World × Except Failure Store.Database :=
  match w.files.openDatabase path with
  | .error e => (w, .error (.store (.database e)))
  | .ok (files, db) =>
    match db.openUploads with
    | .error e => ({ w with files }, .error (.store (.database e)))
    | .ok db => ({ w with files := files.saveDatabase path db }, .ok db)

/-- What a run printed and how it ended. -/
structure Outcome where
  stdout : String := ""
  result : Except Failure Unit := .ok ()
  deriving Inhabited

/-- Runs a command of an assembled agent over its store. -/
def runCommand (agent : Agent.AgentParts) (host : Agent.Host) : Command → Outcome × Agent.Host
  | .version => ({ stdout := "snapd " ++ programVersion ++ "\n" }, host)
  | .daemon => ({ result := agent.runUntilShutdown }, host)
  | .status =>
    match host.store.statusReport agent.config.nodeNames host.clock with
    | .ok text => ({ stdout := text }, host)
    | .error e => ({ result := .error (.store e) }, host)
  | .upload node =>
    match (agent.manualUpload node).run.run host with
    | (.ok id, host) => ({ stdout := "Upload started for " ++ node ++ " (id " ++ toString id ++ ")\n" }, host)
    | (.error e, host) => ({ result := .error e }, host)

/-- Runs a parsed command line. -/
def World.run (w : World) (inv : Invocation) : World × Outcome :=
  match inv.effective with
  | .version => (w, { stdout := "snapd " ++ programVersion ++ "\n" })
  | command =>
    let assembled := (w.loadConfig (w.configPath inv)).bind fun c =>
      Agent.AgentParts.assemble c Metrics.Protocols.defaults Notify.Notifiers.defaults
    match assembled with
    | .error e => (w, { result := .error e })
    | .ok agent =>
      let path := agent.config.database.path
      match w.openStore path with
      | (w, .error e) => (w, { result := .error e })
      | (w, .ok db) =>
        let tool := Agent.ToolHost.processes w.standIn agent.config.agent.commandTimeout
        let host : Agent.Host := { store := ⟨db, false⟩, clock := w.clock, tool, network := w.network }
        let (out, host) := runCommand agent host command
        ({ w with files := w.files.saveDatabase path host.store.db }, out)

/-- How the executable ended: its exit code, what it printed, and its error line. -/
structure Exit where
  code : Nat
  stdout : String
  errorLine : Option String
  deriving Repr, Inhabited

/-- The help the executable prints. -/
def helpText : String :=
  "Schedule, discover and track blockchain snapshot uploads.\n\n" ++
  "Usage: snapd [OPTIONS] [COMMAND]\n\n" ++
  "Commands:\n" ++
  "  daemon   Run the scheduler until SIGINT/SIGTERM (default)\n" ++
  "  status   Show uploads currently in progress\n" ++
  "  upload   Start an upload for one node now\n" ++
  "  version  Print version information\n" ++
  "  help     Print this message or the help of the given subcommand(s)\n\n" ++
  "Options:\n" ++
  "      --config <PATH>      Path to the config file (TOML)\n" ++
  "      --log-level <LEVEL>  Logging level (error, warn, info, debug, trace) " ++
  "[possible values: error, warn, info, debug, trace]\n" ++
  "      --console            Human-readable logs instead of JSON lines when running the daemon\n" ++
  "  -h, --help               Print help (see more with " ++ "'--help')\n" ++
  "  -V, --version            Print version\n"

/-- The first line of a text. -/
def firstLine (s : String) : String := (s.splitOn "\n").headD ""

/-- Runs the executable with its arguments. -/
def World.main (w : World) (args : List String) : World × Exit :=
  match parseCommandLine args with
  | .error .displayVersion => (w, ⟨0, "snapd " ++ programVersion ++ "\n", none⟩)
  | .error .displayHelp => (w, ⟨0, helpText, none⟩)
  | .error _ => (w, ⟨2, "", none⟩)
  | .ok inv =>
    let (w, out) := w.run inv
    match out.result with
    | .ok () => (w, ⟨0, out.stdout, none⟩)
    | .error e => (w, ⟨1, out.stdout, some ("snapd error: " ++ firstLine e.message)⟩)

/-- Asking for the version touches nothing. -/
theorem World.run_version (w : World) (inv : Invocation) (h : inv.effective = .version) :
    w.run inv = (w, { stdout := "snapd 0.1.0\n" }) := by
  simp [World.run, h, programVersion]

end SnapshotAgent
