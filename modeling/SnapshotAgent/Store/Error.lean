/-!
# Store failures

Two layers of failure meet in the upload store. The database layer reports `DbError`: a pool
that timed out or closed, a broken connection, a query that found no row, or an error returned by
the database engine with its numeric result code. The store itself reports `StoreError`: a second
running upload for a node, a patch that would leave a row inconsistent, a row that cannot be
read back, a database error (possibly after retries), or protocol data that is not valid JSON.

Only contention is worth another attempt: a lost connection, a pool timeout, garbled data from
the driver, and the engine's `BUSY` (5) and `LOCKED` (6) result codes, extended codes included
(`DbError.isTransient`). A constraint violation or a missing row will fail the same way again.
-/

namespace SnapshotAgent.Store

/-- A failure reported by the database layer. -/
inductive DbError where
  /-- No connection became free in time. -/
  | poolTimedOut
  /-- The connection to the database failed. -/
  | io (message : String)
  /-- The driver received data it could not understand. -/
  | protocol (message : String)
  /-- A query that must return a row returned none. -/
  | rowNotFound
  /-- The pool was closed before a connection was taken. -/
  | poolClosed
  /-- The engine refused a statement with a result code and its message. -/
  | engine (code : Nat) (message : String)
  /-- A column of a result row could not be read as the expected type. -/
  | columnDecode (column : String) (reason : String)
  deriving Repr, DecidableEq, Inhabited

/-- The engine's result code for a failed `CHECK` constraint. -/
def checkFailedCode : Nat := 275

/-- The engine's result code for a violated `UNIQUE` constraint. -/
def uniqueFailedCode : Nat := 2067

/-- How the database layer words a failure. -/
def DbError.message : DbError → String
  | .poolTimedOut => "pool timed out while waiting for an open connection"
  | .io m => "error communicating with database: " ++ m
  | .protocol m => "encountered unexpected or invalid data: " ++ m
  | .rowNotFound => "no rows returned by a query that expected to return at least one row"
  | .poolClosed => "attempted to acquire a connection on a closed pool"
  | .engine code m => "error returned from database: (code: " ++ toString code ++ ") " ++ m
  | .columnDecode column reason =>
    "error occurred while decoding column \"" ++ column ++ "\": " ++ reason

/-- Whether a database failure comes from contention and may pass on another attempt. -/
def DbError.isTransient : DbError → Bool
  | .io _ | .poolTimedOut | .protocol _ => true
  | .engine code _ => code % 256 = 5 || code % 256 = 6
  | _ => false

/-- Whether the engine refused a row because a unique index or the primary key already holds
its key. -/
def DbError.isUniqueViolation : DbError → Bool
  | .engine code _ => code = uniqueFailedCode || code = 1555
  | _ => false

/-- A failure of the upload store. -/
inductive StoreError where
  /-- A `running` row already exists for this node. -/
  | conflict (node : String)
  /-- The patch would leave its row inconsistent. -/
  | invalidPatch (reason : String)
  /-- A stored row holds a value its column cannot mean. -/
  | corrupt (reason : String)
  /-- Every allowed attempt failed with a transient error; the last one is kept. -/
  | exhausted (attempts : Nat) (last : DbError)
  /-- The database refused the operation. -/
  | database (cause : DbError)
  /-- Protocol data could not be written or read as JSON. -/
  | serde (message : String)
  deriving Repr, DecidableEq, Inhabited

/-- How the store words a failure. -/
def StoreError.message : StoreError → String
  | .conflict node => "upload already running for node '" ++ node ++ "'"
  | .invalidPatch reason => "invalid upload patch: " ++ reason
  | .corrupt reason => "corrupt upload row: " ++ reason
  | .exhausted n last =>
    "database operation failed after " ++ toString n ++ " attempts: " ++ last.message
  | .database cause => "database error: " ++ cause.message
  | .serde m => "serialization error: " ++ m

/-- The name of the kind of failure. -/
def StoreError.kind : StoreError → String
  | .conflict _ => "Conflict"
  | .invalidPatch _ => "InvalidPatch"
  | .corrupt _ => "Corrupt"
  | .exhausted _ _ => "Exhausted"
  | .database _ => "Database"
  | .serde _ => "Serde"

/-- A busy database is contention. -/
theorem isTransient_busy (m : String) : (DbError.engine 5 m).isTransient = true := rfl

/-- A violated unique index is not contention. -/
theorem isTransient_unique (m : String) :
    (DbError.engine uniqueFailedCode m).isTransient = false := rfl

end SnapshotAgent.Store
