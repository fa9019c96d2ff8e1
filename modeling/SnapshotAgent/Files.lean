import SnapshotAgent.Store.Table
/-!
# Files

The part of the file system the agent reads and writes: directories, text files (the
configuration) and database files. Paths are absolute; repeated and trailing slashes do not
count. A fresh system has the usual top-level directories and `/dev/null`, which reads as empty.

Reading a path that is a directory, or that does not exist, fails with the operating system's
words for it.

A database file is opened as the engine opens it: `:memory:` (or no path) is a fresh database
that is never written back; a missing file is created when its directory exists; a directory, or
a file in a missing directory, cannot be opened (code 14); a text file that is not empty is not a
database (code 26).
-/

namespace SnapshotAgent

/-- What a path holds. -/
inductive Entry where
  | directory
  | text (contents : String)
  | database (db : Store.Database)
  deriving Inhabited

/-- A file system: entries by normalised path. -/
structure FileSystem where
  entries : List (String × Entry)
  deriving Inhabited

/-- A path with repeated and trailing slashes removed. -/
def normalizePath (p : String) : String :=
  let parts := (p.splitOn "/").filter (· ≠ "")
  if p.startsWith "/" then "/" ++ "/".intercalate parts else "/".intercalate parts

/-- The directory holding a path. -/
def parentPath (p : String) : String :=
  let parts := ((normalizePath p).splitOn "/").filter (· ≠ "")
  "/" ++ "/".intercalate parts.dropLast

/-- The usual directories of a fresh system. -/
def standardDirectories : List String :=
  ["/", "/bin", "/boot", "/dev", "/etc", "/home", "/lib", "/mnt", "/opt", "/proc", "/root",
   "/run", "/sbin", "/srv", "/sys", "/tmp", "/usr", "/usr/bin", "/usr/lib", "/usr/local",
   "/var", "/var/lib", "/var/tmp"]

/-- A fresh system. -/
def FileSystem.fresh : FileSystem :=
  ⟨standardDirectories.map (·, Entry.directory) ++ [("/dev/null", .text "")]⟩

/-- What a path holds. -/
def FileSystem.get? (fs : FileSystem) (p : String) : Option Entry :=
  let n := normalizePath p
  (fs.entries.find? (·.1 == n)).map (·.2)

/-- Sets what a path holds. -/
def FileSystem.put (fs : FileSystem) (p : String) (e : Entry) : FileSystem :=
  let n := normalizePath p
  ⟨(fs.entries.filter (·.1 != n)) ++ [(n, e)]⟩

/-- Whether a path is a directory. -/
def FileSystem.isDirectory (fs : FileSystem) (p : String) : Bool :=
  match fs.get? p with
  | some .directory => true
  | _ => false

/-- Why a path cannot be read, in the operating system's words. -/
def FileSystem.missing (fs : FileSystem) (p : String) : String :=
  let parts := ((normalizePath p).splitOn "/").filter (· ≠ "")
  let prefixes := (List.range parts.length).map fun i => "/" ++ "/".intercalate (parts.take i)
  if prefixes.any fun q => q != "/" && (fs.get? q).isSome && !fs.isDirectory q then
    "Not a directory (os error 20)"
  else "No such file or directory (os error 2)"

/-- Reads a text file. -/
def FileSystem.readText (fs : FileSystem) (p : String) : Except String String :=
  match fs.get? p with
  | some (.text s) => .ok s
  | some .directory => .error "Is a directory (os error 21)"
  | some (.database _) => .error "stream did not contain valid UTF-8"
  | none => .error (fs.missing p)

/-- Whether a database path names a database kept only in memory. -/
def inMemory (p : String) : Bool := p.isEmpty || p == ":memory:"

/-- The engine's refusal to open a file. -/
def cannotOpen : Store.DbError := .engine 14 "unable to open database file"

/-- Opens the database at a path, creating the file when it is missing. -/
def FileSystem.openDatabase (fs : FileSystem) (p : String) :
    Except Store.DbError (FileSystem × Store.Database) :=
  if inMemory p then .ok (fs, {})
  else match fs.get? p with
    | some (.database db) => .ok (fs, db)
    | some .directory => .error cannotOpen
    | some (.text s) => if s.isEmpty then .ok (fs, {}) else .error (.engine 26 "file is not a database")
    | none =>
      if fs.isDirectory (parentPath p) then .ok (fs.put p (.database {}), {})
      else .error cannotOpen

/-- Writes a database back to its file. -/
def FileSystem.saveDatabase (fs : FileSystem) (p : String) (db : Store.Database) : FileSystem :=
  if inMemory p then fs else fs.put p (.database db)

/-- Written contents read back. -/
theorem FileSystem.readText_put (fs : FileSystem) (p s : String) :
    (fs.put p (.text s)).readText p = .ok s := by
  have h : List.find? (fun _ => false) fs.entries = none := by simp [List.find?_eq_none]
  simp [FileSystem.readText, FileSystem.put, FileSystem.get?, h]

end SnapshotAgent
