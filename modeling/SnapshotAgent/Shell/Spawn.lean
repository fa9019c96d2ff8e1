import SnapshotAgent.Shell.Run
import SnapshotAgent.Shell.Utility.Expr
import SnapshotAgent.Shell.Utility.Lines
import SnapshotAgent.Shell.Utility.Search
/-!
# Starting programs

A program is found by its name or path (`resolve`) and run: a utility by its own function, the
shell by the interpreter, whose programs are run the same way one level deeper. Nesting is
bounded; a program started with nothing to read gets empty input and the files of a fresh
system.

The shell reads its options first: `-c` (alone or among other letters) takes the script from
the first operand, and the next operand is its name; without `-c` the first operand is a script
file, and without operands the script is the input.
-/

namespace SnapshotAgent.Shell

/-- Runs a utility. -/
def runUtility (u : Utility) (name : String) (args : List String) (stdin : List UInt8) (fs : Files) :
    Outcome :=
  match u with
  | .echo => { execution := { stdout := programEcho args }, files := fs }
  | .printf => runPrintf name args fs
  | .sleep => runSleep name args fs
  | .cat => runCat name args stdin fs
  | .succeed => { files := fs }
  | .fail => { execution := { ending := .exited 1 }, files := fs }
  | .expr => runExpr name args fs
  | .basename => runBasename name args fs
  | .dirname => runDirname name args fs
  | .seq => runSeq name args fs
  | .test => runTest name false args fs
  | .bracket => runTest name true args fs
  | .wc => runWc name args stdin fs
  | .head => runEnds name true args stdin fs
  | .tail => runEnds name false args stdin fs
  | .tr => runTr name args stdin fs
  | .cut => runCut name args stdin fs
  | .sort => runSort name args stdin fs
  | .uniq => runUniq name args stdin fs
  | .rev => runRev name args stdin fs
  | .tee => runTee name args stdin fs
  | .grep => runGrep name args stdin fs
  | .sed => runSed name args stdin fs

/-- How the shell was asked to run. -/
inductive ShellCall where
  | command (script : String) (name : Option String) (params : List String)
  | file (path : String) (params : List String)
  | input
  | missingCommand
  deriving Repr, Inhabited

/-- Reads the shell's options. -/
def shellCall (args : List String) : ShellCall :=
  go (args.length + 1) false args
where
  /-- Reads options until the first operand. -/
  go (fuel : Nat) (cmd : Bool) : List String → ShellCall
    | "--" :: rest => done cmd rest
    | a :: rest =>
      match fuel with
      | 0 => done cmd (a :: rest)
      | fuel + 1 =>
        if (a.startsWith "-" || a.startsWith "+") && a.length > 1 then go fuel (cmd || a.contains 'c') rest
        else done cmd (a :: rest)
    | [] => done cmd []
  /-- The call, from the operands. -/
  done (cmd : Bool) : List String → ShellCall
    | s :: n :: ps => if cmd then .command s (some n) ps else .file s (n :: ps)
    | [s] => if cmd then .command s none [] else .file s []
    | [] => if cmd then .missingCommand else .input

/-- Runs the shell with its arguments. -/
def runShell (runner : Runner) (bash : Bool) (argv0 : String) (args : List String)
    (stdin : List UInt8) (fs : Files) (env : List (String × String)) : Outcome :=
  match shellCall args with
  | .command script name params => runScript runner bash (name.getD argv0) params script stdin fs env
  | .input => runScript runner bash argv0 [] (Text.decodeLossy stdin) [] fs env
  | .file path params =>
    match fs.read path with
    | .ok bs => runScript runner bash path params (Text.decodeLossy bs) stdin fs env
    | .error _ =>
      if bash then
        { execution := { stderr := Text.utf8Bytes (argv0 ++ ": " ++ path ++ ": No such file or directory\n"),
                         ending := .exited 127 }, files := fs }
      else
        { execution := { stderr := Text.utf8Bytes (argv0 ++ ": 0: cannot open " ++ path ++ ": No such file\n"),
                         ending := .exited 2 }, files := fs }
  | .missingCommand =>
    if bash then
      { execution := { stderr := Text.utf8Bytes (argv0 ++ ": -c: option requires an argument\n"), ending := .exited 2 },
        files := fs }
    else
      { execution := { stderr := Text.utf8Bytes (argv0 ++ ": 0: -c requires an argument\n"), ending := .exited 2 },
        files := fs }

/-- Runs a program with nesting bounded by the depth. -/
def runAt : Nat → Runner
  | 0 => fun _ argv0 _ _ fs _ =>
    { execution := { stderr := Text.utf8Bytes (argv0 ++ ": too many nested programs\n"), ending := .exited 126 },
      files := fs }
  | d + 1 => fun p argv0 args stdin fs env =>
    match p with
    | .shell bash => runShell (runAt d) bash argv0 args stdin fs env
    | .utility u => runUtility u argv0 args stdin fs

/-- Starts a program by its name or path and runs it to its end, with no input. -/
def runProgram (program : String) (args : List String) : Except SpawnRefusal Execution :=
  (resolve program).map fun p => (runAt 16 p program args [] {} []).execution

/-- A program that is not there cannot be started. -/
theorem runProgram_empty (args : List String) : runProgram "" args = .error .missing := rfl

end SnapshotAgent.Shell
