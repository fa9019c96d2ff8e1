import SnapshotAgent.Text.Utf8
/-!
# Processes, programs and files

A run of a program is pure: it takes the program, its arguments, its input and the files there
are, and answers what the process wrote on its two outputs, how it ended (an exit code, or the
signal that killed it) and how long it slept.

The programs there are: the system shell (`sh` and `dash`, and `bash`) and a set of utilities. A
program named without a slash is looked up in the usual directories; one named with a slash must
be at that path. A directory or a plain file cannot be run.

The files are those of the system, which can be seen but not read (their contents belong to the
machine), the null device, and the files that a run writes.
-/

namespace SnapshotAgent.Shell

/-- How a process ended. -/
inductive Ending where
  | exited (code : Nat)
  | signalled (signal : Nat)
  deriving Repr, DecidableEq, Inhabited

/-- What a finished process did. -/
structure Execution where
  stdout : List UInt8 := []
  stderr : List UInt8 := []
  ending : Ending := .exited 0
  /-- Nanoseconds the process spent. -/
  elapsed : Nat := 0
  deriving Repr, Inhabited

/-- The utilities there are. -/
inductive Utility where
  | echo | printf | sleep | cat | succeed | fail | expr | basename | dirname | seq | test
  | bracket | wc | head | tail | tr | cut | sort | uniq | rev | tee | grep | sed
  deriving Repr, DecidableEq, Inhabited

/-- The programs there are. -/
inductive Program where
  | shell (bash : Bool)
  | utility (u : Utility)
  deriving Repr, DecidableEq, Inhabited

/-- Why a program cannot be started, worded as the system words it. -/
inductive SpawnRefusal where
  | missing
  | denied
  deriving Repr, DecidableEq, Inhabited

/-- The refusal's text. -/
def SpawnRefusal.reason : SpawnRefusal → String
  | .missing => "No such file or directory (os error 2)"
  | .denied => "Permission denied (os error 13)"

/-- The programs by their file names. -/
def programNamed : String → Option Program
  | "sh" | "dash" => some (.shell false)
  | "bash" => some (.shell true)
  | "echo" => some (.utility .echo)
  | "printf" => some (.utility .printf)
  | "sleep" => some (.utility .sleep)
  | "cat" => some (.utility .cat)
  | "true" => some (.utility .succeed)
  | "false" => some (.utility .fail)
  | "expr" => some (.utility .expr)
  | "basename" => some (.utility .basename)
  | "dirname" => some (.utility .dirname)
  | "seq" => some (.utility .seq)
  | "test" => some (.utility .test)
  | "[" => some (.utility .bracket)
  | "wc" => some (.utility .wc)
  | "head" => some (.utility .head)
  | "tail" => some (.utility .tail)
  | "tr" => some (.utility .tr)
  | "cut" => some (.utility .cut)
  | "sort" => some (.utility .sort)
  | "uniq" => some (.utility .uniq)
  | "rev" => some (.utility .rev)
  | "tee" => some (.utility .tee)
  | "grep" => some (.utility .grep)
  | "sed" => some (.utility .sed)
  | _ => none

/-- The directories where programs live. -/
def programDirs : List String := ["/usr/bin", "/bin"]

/-- The system's directories. -/
def systemDirectories : List String :=
  ["/", "/bin", "/boot", "/dev", "/etc", "/home", "/lib", "/lib64", "/media", "/mnt", "/opt",
   "/proc", "/root", "/run", "/sbin", "/srv", "/sys", "/tmp", "/usr", "/usr/bin", "/usr/lib",
   "/usr/local", "/usr/local/bin", "/usr/sbin", "/usr/share", "/var", "/var/tmp"]

/-- The system's plain files. -/
def systemFiles : List String :=
  ["/etc/passwd", "/etc/hosts", "/etc/hostname", "/etc/group", "/etc/os-release"]

/-- Paths that exist but cannot be run: directories and plain files. -/
def unrunnable : List String := systemDirectories ++ systemFiles ++ ["/dev/null"]

/-- A path without its trailing slashes, the root kept. -/
def trimSlashes (p : String) : String :=
  let cs := (p.toList.reverse.dropWhile (· = '/')).reverse
  if cs.isEmpty && p.startsWith "/" then "/" else String.ofList cs

/-- The directory part of a path and its last component. -/
def splitPath (path : String) : String × String :=
  let dir := String.ofList ((path.toList.reverse.dropWhile (· ≠ '/')).reverse.dropLast)
  let file := String.ofList (path.toList.reverse.takeWhile (· ≠ '/')).reverse
  (dir, file)

/-- Finds the program a name or path stands for. -/
def resolve (program : String) : Except SpawnRefusal Program :=
  if program.isEmpty then .error .missing
  else if program.contains '/' then
    let path := trimSlashes program
    let (dir, file) := splitPath path
    if unrunnable.contains path then .error .denied
    else if programDirs.contains dir && !program.endsWith "/" then
      match programNamed file with
      | some p => .ok p
      | none => .error .missing
    else .error .missing
  else match programNamed program with
    | some p => .ok p
    | none => .error .missing

/-- A program that is not there cannot be started. -/
theorem resolve_empty : resolve "" = .error .missing := rfl

/-! ## Files -/

/-- The files a run has written, newest first, by path. -/
structure Files where
  written : List (String × List UInt8) := []
  deriving Repr, Inhabited

/-- Why a file cannot be read or written. -/
inductive FileError where
  | missing
  | directory
  /-- A system file, whose contents are not known here. -/
  | unreadable
  deriving Repr, DecidableEq, Inhabited

/-- The text of a file error. -/
def FileError.text : FileError → String
  | .missing => "No such file or directory"
  | .directory => "Is a directory"
  | .unreadable => "Permission denied"

/-- Whether a path names a directory. -/
def Files.isDirectory (_ : Files) (path : String) : Bool :=
  systemDirectories.contains (trimSlashes path)

/-- Whether a path names something that exists. -/
def Files.exists (fs : Files) (path : String) : Bool :=
  fs.isDirectory path || systemFiles.contains path || path = "/dev/null" ||
    (fs.written.lookup path).isSome ||
    (match splitPath (trimSlashes path) with
     | (dir, file) => programDirs.contains dir && (programNamed file).isSome)

/-- Whether a path names a plain file. -/
def Files.isFile (fs : Files) (path : String) : Bool :=
  fs.exists path && !fs.isDirectory path && path != "/dev/null"

/-- The contents of a file. -/
def Files.read (fs : Files) (path : String) : Except FileError (List UInt8) :=
  if path = "/dev/null" then .ok []
  else match fs.written.lookup path with
    | some bs => .ok bs
    | none =>
      if fs.isDirectory path then .error .directory
      else if fs.exists path then .error .unreadable
      else .error .missing

/-- Writes a file, or appends to it. -/
def Files.write (fs : Files) (path : String) (bs : List UInt8) (append : Bool) :
    Except FileError Files :=
  if path = "/dev/null" then .ok fs
  else if fs.isDirectory path || path.endsWith "/" then .error .directory
  else
    let (dir, _) := splitPath path
    if path.startsWith "/" && !dir.isEmpty && !fs.isDirectory dir then .error .missing
    else
      let old := if append then (fs.written.lookup path).getD [] else []
      .ok { written := (path, old ++ bs) :: fs.written.filter (·.1 != path) }

/-- A written file reads back. -/
theorem Files.read_write (path : String) (bs : List UInt8) (fs fs' : Files)
    (h : fs.write path bs false = .ok fs') (hnull : path ≠ "/dev/null") :
    fs'.read path = .ok bs := by
  unfold Files.write at h
  simp only [hnull, if_false] at h
  split at h
  · exact absurd h (by simp)
  · split at h
    · exact absurd h (by simp)
    · simp only [Except.ok.injEq] at h
      subst h
      simp [Files.read, hnull]

end SnapshotAgent.Shell
