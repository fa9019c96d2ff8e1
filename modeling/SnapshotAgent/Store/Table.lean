import SnapshotAgent.Store.Expr
import SnapshotAgent.Store.Error
/-!
# Tables, views, triggers and the database

A database is a list of tables, indexes, views and triggers. A table has columns, `CHECK`
constraints, foreign keys and rows; each row has a row id and one value per column, and rows are
kept in the order of their row ids (of their primary key, in a table without row ids). A column
declared `INTEGER PRIMARY KEY` is the row id itself. A table declared `AUTOINCREMENT` never reuses
a row id: the highest one it gave out is kept in the table `sqlite_sequence`.

A view is a named query; a trigger names a table, an event, a time and the statements it runs.

Names of tables, columns, indexes, views and triggers are compared without regard to ASCII case.
-/

namespace SnapshotAgent.Store

/-- A column of a table. -/
structure Column where
  name : String
  declared : String := ""
  notNull : Bool := false
  default : Option Expr := none
  collation : Option Collation := none
  /-- Whether the column is the row id (`INTEGER PRIMARY KEY`). -/
  rowKey : Bool := false
  deriving Inhabited

/-- The affinity of a column. -/
def Column.affinity (c : Column) : Affinity := Affinity.ofDeclared c.declared

/-- A `CHECK` constraint: its text as written, its expression, and the column whose definition
holds it, if it was written in one; such a check goes with its column. -/
structure Check where
  text : String
  expr : Expr
  owner : Option String := none
  deriving Inhabited

/-- What a foreign key does when its parent row goes or changes. -/
inductive ForeignAction where
  | noAction
  | restrict
  | setNull
  | setDefault
  | cascade
  deriving Repr, DecidableEq, Inhabited

/-- A foreign key: its columns refer to a parent table's columns (its primary key when none are
named). -/
structure ForeignKey where
  columns : List String
  parent : String
  parentColumns : List String := []
  onDelete : ForeignAction := .noAction
  onUpdate : ForeignAction := .noAction
  deriving Inhabited

/-- A row: its id and a value per column. -/
structure Row where
  rowid : Int
  cells : List Cell
  deriving Inhabited

/-- A table. -/
structure Table where
  name : String
  columns : List Column
  checks : List Check := []
  foreignKeys : List ForeignKey := []
  autoincrement : Bool := false
  strict : Bool := false
  withoutRowid : Bool := false
  /-- The primary key's columns, when it is not the row id. -/
  primaryKey : List String := []
  rows : List Row := []
  deriving Inhabited

/-- An index; a unique one refuses two rows with the same key among those its filter selects. -/
structure Index where
  name : String
  table : String
  columns : List String
  unique : Bool
  filter : Option Expr := none
  /-- Whether the index stands for a primary key that is not the row id. -/
  primary : Bool := false
  deriving Inhabited

/-- A view: a named query, with column names if they were given. -/
structure View where
  name : String
  columns : List String := []
  query : Query
  deriving Inhabited

/-- When a trigger runs, relative to its event. -/
inductive TriggerTime where
  | before
  | after
  | insteadOf
  deriving Repr, DecidableEq, Inhabited

/-- The event a trigger watches; an update trigger may name the columns it watches. -/
inductive TriggerEvent where
  | insert
  | update (columns : List String)
  | delete
  deriving Repr, DecidableEq, Inhabited

/-- A trigger. -/
structure Trigger where
  name : String
  table : String
  time : TriggerTime
  event : TriggerEvent
  condition : Option Expr := none
  body : List Change
  deriving Inhabited

/-- A database: its tables, indexes, views and triggers. -/
structure Database where
  tables : List Table := []
  indexes : List Index := []
  views : List View := []
  triggers : List Trigger := []
  deriving Inhabited

/-- Whether two names are the same name. -/
def sameName (a b : String) : Bool := lowerAscii a == lowerAscii b

/-- The error of a refused statement with a result code. -/
def engineError (code : Nat) (message : String) : DbError := .engine code message

/-- The plain error code of the engine. -/
def genericCode : Nat := 1

/-- The table of a name. -/
def Database.table? (db : Database) (name : String) : Option Table :=
  db.tables.find? fun t => sameName t.name name

/-- The view of a name. -/
def Database.view? (db : Database) (name : String) : Option View :=
  db.views.find? fun v => sameName v.name name

/-- The table of a name, or the engine's refusal. -/
def Database.table (db : Database) (name : String) : Except DbError Table :=
  match db.table? name with
  | some t => .ok t
  | none => .error (engineError genericCode ("no such table: " ++ name))

/-- Replaces the table of the same name. -/
def Database.putTable (db : Database) (t : Table) : Database :=
  { db with tables := db.tables.map fun u => if sameName u.name t.name then t else u }

/-- Whether a name is taken by a table, a view or an index. -/
def Database.nameTaken (db : Database) (name : String) : Bool :=
  (db.table? name).isSome || (db.view? name).isSome || db.indexes.any (sameName ·.name name)

/-- The position of a column. -/
def Table.columnIndex? (t : Table) (name : String) : Option Nat :=
  t.columns.findIdx? fun c => sameName c.name name

/-- The column of a name. -/
def Table.column? (t : Table) (name : String) : Option Column :=
  t.columns.find? fun c => sameName c.name name

/-- Whether a name is one of the row id's own names. -/
def isRowidName (name : String) : Bool :=
  sameName name "rowid" || sameName name "oid" || sameName name "_rowid_"

/-- The column that is the row id, if any. -/
def Table.rowKey? (t : Table) : Option Column := t.columns.find? (·.rowKey)

/-- Whether a table can resolve a column name: its own columns, and the row id's names unless
it has none. -/
def Table.resolves (t : Table) (name : String) : Bool :=
  (t.columnIndex? name).isSome || (isRowidName name && !t.withoutRowid)

/-- The value of a column in a row; the row id's names give the row id. -/
def Table.cell (t : Table) (r : Row) (name : String) : Cell :=
  match t.columnIndex? name with
  | some i => if (t.columns.getD i default).rowKey then .integer r.rowid else r.cells.getD i .null
  | none => if isRowidName name then .integer r.rowid else .null

/-- The values of a row's primary key, for a table without row ids. -/
def Table.keyOf (t : Table) (r : Row) : List Cell := t.primaryKey.map (t.cell r)

/-- Whether row `a` goes before row `b` in the table's order. -/
def Table.rowBefore (t : Table) (a b : Row) : Bool :=
  if t.withoutRowid then
    let rec go : List Cell → List Cell → Bool
      | x :: xs, y :: ys => match x.compare y with
        | .lt => true
        | .gt => false
        | .eq => go xs ys
      | _, _ => false
    go (t.keyOf a) (t.keyOf b)
  else a.rowid < b.rowid

/-- Puts a row in its place among rows kept in order. -/
def Table.placeRow (t : Table) (r : Row) : List Row → List Row
  | [] => [r]
  | o :: rest => if t.rowBefore r o then r :: o :: rest else o :: t.placeRow r rest

/-- The table with a row added in its place. -/
def Table.addRow (t : Table) (r : Row) : Table := { t with rows := t.placeRow r t.rows }

/-- The highest row id in a table, 0 when it is empty. -/
def Table.maxRowid (t : Table) : Int :=
  match t.rows with
  | [] => 0
  | r :: rest => rest.foldl (fun m o => max m o.rowid) r.rowid

/-- The affinity a table gives a column: its declared type's, except that `ANY` in a strict
table converts nothing. -/
def Table.columnAffinity (t : Table) (c : Column) : Affinity :=
  if t.strict && upperAscii c.declared == "ANY" then .none else c.affinity

/-- The names of a table's primary key: the row id's column, or the declared key's columns. -/
def Table.primaryKeyNames (t : Table) : List String :=
  match t.rowKey? with
  | some c => [c.name]
  | none => t.primaryKey

/-- The name of the table that keeps the highest row id of each autoincrement table. -/
def sequenceTableName : String := "sqlite_sequence"

/-- The value `sqlite_sequence` holds for a table, if it has a row for it. -/
def Database.sequenceOf (db : Database) (table : String) : Option Int :=
  (db.table? sequenceTableName).bind fun s =>
    (s.rows.find? fun r => match r.cells with
      | .text n :: _ => sameName n table
      | _ => false).bind fun r => match r.cells with
        | [_, .integer v] => some v
        | [_, c] => some c.toInteger
        | _ => none

/-- Placing a row among others adds exactly that row. -/
theorem Table.placeRow_length (t : Table) (r : Row) (rows : List Row) :
    (t.placeRow r rows).length = rows.length + 1 := by
  induction rows with
  | nil => rfl
  | cons o rest ih =>
    unfold Table.placeRow
    split <;> simp [ih]

end SnapshotAgent.Store
