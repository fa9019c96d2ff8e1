import SnapshotAgent.Store.Sql.Parse
import SnapshotAgent.Store.Sql.Resolve
import SnapshotAgent.Store.Sql.Write
/-!
# Running SQL text

The last stage: running statements on a database, one after another, in a session. Each
statement is checked before it runs (its tables, columns and functions must exist, and so must
those of the triggers it fires) and then runs as a whole: when one of its rows breaks a
constraint, the statement's changes are undone (`ABORT`, the default), kept up to that row
(`FAIL`), or the whole transaction is undone (`ROLLBACK`). The statements before a failing one
keep their effect.

A session may open a transaction with `BEGIN` or `SAVEPOINT`; `COMMIT` ends it, `ROLLBACK`
undoes it, `ROLLBACK TO` undoes the changes since a savepoint, `RELEASE` forgets savepoints. A
transaction still open when the text has run is undone.

A run answers how many rows the statements changed, counted as the engine's change counter
counts them: each statement adds the counter's value after it, and only `INSERT`, `UPDATE` and
`DELETE` set the counter, so any other statement adds the count of the last change before it.
-/

namespace SnapshotAgent.Store

open Sql

/-- The depth evaluation may nest to. -/
def evalFuel : Nat := 2000

/-- The name of the `n`-th index a table's own keys need. -/
def autoIndexName (table : String) (n : Nat) : String :=
  "sqlite_autoindex_" ++ table ++ "_" ++ toString n

/-- The shape of a table for name checks, under a name. -/
def Table.sourceShape (t : Table) (name : String) : SourceShape :=
  { name, columns := t.columns.map (·.name), hasRowid := !t.withoutRowid }

/-- Checks that names resolve against one table's columns only. -/
def checkAgainst (db : Database) (t : Table) (es : List Expr) : Except DbError Unit :=
  checkExprs evalFuel { db, frames := [[t.sourceShape t.name]] } es

/-- The table `sqlite_sequence`. -/
def sequenceTable : Table :=
  { name := sequenceTableName, columns := [{ name := "name" }, { name := "seq" }] }

/-- Refuses a name kept for the engine's own tables. -/
def checkObjectName (name : String) : Except DbError Unit :=
  if (lowerAscii name).startsWith "sqlite_" then
    refuse ("object name reserved for internal use: " ++ name)
  else .ok ()

/-- Refuses a new table or view whose name is taken. -/
def Database.checkNewName (db : Database) (name : String) : Except DbError Unit := do
  if let some t := db.table? name then refuse ("table " ++ t.name ++ " already exists")
  if let some v := db.view? name then refuse ("view " ++ v.name ++ " already exists")
  if db.indexes.any (sameName ·.name name) then refuse ("there is already an index named " ++ name)

/-- Creates a table with the indexes its keys need; the first table with `AUTOINCREMENT` brings
`sqlite_sequence`. -/
def Database.runCreateTable (db : Database) (t : Table) (keys : List UniqueKey)
    (ifNotExists : Bool) : Except DbError Database := do
  if ((db.table? t.name).isSome || (db.view? t.name).isSome) && ifNotExists then return db
  checkObjectName t.name
  db.checkNewName t.name
  let rec dup : List Column → Option String
    | [] => none
    | c :: rest => if rest.any (sameName ·.name c.name) then some c.name else dup rest
  if let some c := dup t.columns then refuse ("duplicate column name: " ++ c)
  checkAgainst db t (t.checks.map (·.expr))
  checkExprs evalFuel { db } (t.columns.filterMap (·.default))
  for k in keys do
    for c in k.columns do
      if !t.resolves c then refuse ("no such column: " ++ c)
  for c in t.primaryKey do
    if !t.resolves c then refuse ("no such column: " ++ c)
  let indexes := (keys.zip (List.range keys.length)).map fun (k, i) =>
    ({ name := autoIndexName t.name (i + 1), table := t.name, columns := k.columns, unique := true,
       primary := k.primary } : Index)
  let db := { db with tables := db.tables ++ [t], indexes := db.indexes ++ indexes }
  if t.autoincrement && (db.table? sequenceTableName).isNone then
    pure { db with tables := db.tables ++ [sequenceTable] }
  else pure db

/-- Creates an index: the table must exist, the name be free, the filter's and then the key's
names resolve, and a unique index finds no key twice among the rows it covers. -/
def Database.runCreateIndex (db : Database) (ix : Index) (ifNotExists : Bool) :
    Except DbError Database := do
  let some t := db.table? ix.table
    | refuse ("no such table: main." ++ ix.table)
  if let some old := db.indexes.find? (fun i => sameName i.name ix.name) then
    if ifNotExists then return db
    refuse ("index " ++ old.name ++ " already exists")
  if let some other := db.table? ix.name then
    refuse ("there is already a table named " ++ other.name)
  checkObjectName ix.name
  if let some f := ix.filter then checkAgainst db t [f]
  for c in ix.columns do
    if !t.resolves c then refuse ("no such column: " ++ c)
  let db' := { db with indexes := db.indexes ++ [ix] }
  if ix.unique then
    let scope (r : Row) : Scope := { db := db', frames := [[t.bind none r]] }
    let covered := t.rows.filter fun r => match ix.filter with
      | some f => match evalExpr evalFuel (scope r) f with
        | .ok v => v.truth? == some true
        | .error _ => false
      | none => true
    let colls := ix.columns.map fun n => ((t.column? n).bind (·.collation)).getD .binary
    let rec sweep : List Row → List Row → Except DbError Unit
      | _, [] => .ok ()
      | seen, r :: rest =>
        if seen.any fun o => keysCollide colls (ix.columns.map (t.cell o)) (ix.columns.map (t.cell r)) then
          .error (engineError 2067 (uniqueMessage t ix.columns))
        else sweep (seen ++ [r]) rest
    sweep [] covered
  pure db'

/-- Creates a view. -/
def Database.runCreateView (db : Database) (v : View) (ifNotExists : Bool) :
    Except DbError Database := do
  if ((db.table? v.name).isSome || (db.view? v.name).isSome) && ifNotExists then return db
  checkObjectName v.name
  db.checkNewName v.name
  pure { db with views := db.views ++ [v] }

/-- Creates a trigger; triggers are kept newest first. -/
def Database.runCreateTrigger (db : Database) (tr : Trigger) (ifNotExists : Bool) :
    Except DbError Database := do
  if db.triggers.any (sameName ·.name tr.name) then
    if ifNotExists then return db
    refuse ("trigger " ++ tr.name ++ " already exists")
  if (lowerAscii tr.table).startsWith "sqlite_" then refuse "cannot create trigger on system table"
  match db.table? tr.table, db.view? tr.table with
  | some t, _ =>
    if tr.time == .insteadOf then refuse ("cannot create INSTEAD OF trigger on table: " ++ t.name)
  | none, some v =>
    if tr.time != .insteadOf then
      refuse ("cannot create " ++ (if tr.time == .before then "BEFORE" else "AFTER") ++
        " trigger on view: " ++ v.name)
  | none, none => refuse ("no such table: main." ++ tr.table)
  pure { db with triggers := tr :: db.triggers }

/-- Drops a table with its indexes and triggers. -/
def Database.runDropTable (db : Database) (name : String) (ifExists : Bool) :
    Except DbError Database :=
  match db.table? name with
  | none =>
    if (db.view? name).isSome then refuse ("use DROP VIEW to delete view " ++ name)
    else if ifExists then .ok db else refuse ("no such table: " ++ name)
  | some t =>
    if sameName t.name sequenceTableName then refuse ("table " ++ t.name ++ " may not be dropped")
    else
      let db := { db with tables := db.tables.filter (!sameName ·.name t.name),
                          indexes := db.indexes.filter (!sameName ·.table t.name),
                          triggers := db.triggers.filter (!sameName ·.table t.name) }
      match db.table? sequenceTableName with
      | some s =>
        let keep (r : Row) : Bool := match r.cells with
          | .text n :: _ => !sameName n t.name
          | _ => true
        .ok (db.putTable { s with rows := s.rows.filter keep })
      | none => .ok db

/-- Drops an index. -/
def Database.runDropIndex (db : Database) (name : String) (ifExists : Bool) :
    Except DbError Database :=
  match db.indexes.find? (sameName ·.name name) with
  | some ix =>
    if ix.name.startsWith "sqlite_autoindex_" then
      refuse "index associated with UNIQUE or PRIMARY KEY constraint cannot be dropped"
    else .ok { db with indexes := db.indexes.filter (!sameName ·.name name) }
  | none => if ifExists then .ok db else refuse ("no such index: " ++ name)

/-- Drops a view and its triggers. -/
def Database.runDropView (db : Database) (name : String) (ifExists : Bool) :
    Except DbError Database :=
  match db.view? name with
  | some v => .ok { db with views := db.views.filter (!sameName ·.name v.name),
                            triggers := db.triggers.filter (!sameName ·.table v.name) }
  | none =>
    if (db.table? name).isSome then refuse ("use DROP TABLE to delete table " ++ name)
    else if ifExists then .ok db else refuse ("no such view: " ++ name)

/-- Drops a trigger. -/
def Database.runDropTrigger (db : Database) (name : String) (ifExists : Bool) :
    Except DbError Database :=
  if db.triggers.any (sameName ·.name name) then
    .ok { db with triggers := db.triggers.filter (!sameName ·.name name) }
  else if ifExists then .ok db
  else refuse ("no such trigger: " ++ name)

/-- Adds a column; existing rows take its default. -/
def Database.runAddColumn (db : Database) (table : String) (c : Column) (checks : List Check)
    (unique : Bool) (foreign : List ForeignKey) : Except DbError Database := do
  let t ← db.table table
  if (t.columnIndex? c.name).isSome then refuse ("duplicate column name: " ++ c.name)
  if unique then refuse "Cannot add a UNIQUE column"
  checkExprs evalFuel { db } c.default.toList
  let value ← match c.default with
    | some e => (evalExpr evalFuel { db } e).mapError fun
      | .failed err _ => err
      | .ignored => engineError genericCode "RAISE(IGNORE)"
    | none => pure .null
  if c.notNull && value.isNull then refuse "Cannot add a NOT NULL column with default value NULL"
  if !foreign.isEmpty && !value.isNull then
    refuse "Cannot add a REFERENCES column with non-NULL default value"
  let stored := value.store (t.columnAffinity c)
  let t' := { t with columns := t.columns ++ [c], checks := t.checks ++ checks,
                     foreignKeys := t.foreignKeys ++ foreign,
                     rows := t.rows.map fun r => { r with cells := r.cells ++ [stored] } }
  checkAgainst db t' (checks.map (·.expr))
  pure (db.putTable t')

/-- Renames a table, with its indexes, triggers and `sqlite_sequence` row. -/
def Database.runRenameTable (db : Database) (table newName : String) : Except DbError Database := do
  let t ← db.table table
  if db.nameTaken newName then
    refuse ("there is already another table or index with this name: " ++ newName)
  let rename (n : String) : String := if sameName n t.name then newName else n
  let db := { db with
    tables := db.tables.map fun (u : Table) => if sameName u.name t.name then { u with name := newName } else u,
    indexes := db.indexes.map fun (ix : Index) => { ix with table := rename ix.table },
    triggers := db.triggers.map fun (tr : Trigger) => { tr with table := rename tr.table } }
  match db.table? sequenceTableName with
  | some s =>
    let fix (r : Row) : Row := match r.cells with
      | .text n :: rest => { r with cells := .text (rename n) :: rest }
      | _ => r
    pure (db.putTable { s with rows := s.rows.map fix })
  | none => pure db

/-- Source text with each name token that names the column `old` written as `newName`: bare
where the name stood bare and the new name was written bare, else in double quotes. -/
def renameInText (text old newName : String) (quotedNew : Bool) : String :=
  let cs := text.toList
  let quoted := "\"" ++ newName.replace "\"" "\"\"" ++ "\""
  let hits := (lex text).tokens.toList.filter fun t =>
    (t.kind = .word || t.kind = .quotedName) && sameName t.value old
  let step (acc : List Char × Nat) (t : Tok) : List Char × Nat :=
    (acc.1 ++ (cs.drop acc.2).take (t.start - acc.2) ++
      (if t.kind = .word && !quotedNew then newName else quoted).toList, t.stop)
  let (out, pos) := hits.foldl step ([], 0)
  String.ofList (out ++ cs.drop pos)

/-- Renames a column in its table, in the table's checks and in the indexes over it. -/
def Database.runRenameColumn (db : Database) (table old newName : String) (quotedNew : Bool) :
    Except DbError Database := do
  let t ← db.table table
  if (t.columnIndex? old).isNone then refuse ("no such column: \"" ++ old ++ "\"")
  if (t.columnIndex? newName).isSome then refuse ("duplicate column name: " ++ newName)
  let rename (n : String) : String := if sameName n old then newName else n
  let checks := t.checks.map fun k =>
    { text := renameInText k.text old newName quotedNew, expr := k.expr.mapColumns rename,
      owner := k.owner.map rename }
  let foreignKeys := t.foreignKeys.map fun fk => { fk with columns := fk.columns.map rename }
  pure { (db.putTable { t with columns := t.columns.map (fun c => { c with name := rename c.name }),
                               checks, foreignKeys,
                               primaryKey := t.primaryKey.map rename })
    with indexes := db.indexes.map fun ix =>
      if sameName ix.table t.name then
        { ix with columns := ix.columns.map rename, filter := ix.filter.map (·.mapColumns rename) }
      else ix }

/-- Drops a column with the checks written in its definition. The column must be no key, and
the schema must still read without it: first the table, whose other checks may not name it, then
its indexes in the order they were made. -/
def Database.runDropColumn (db : Database) (table column : String) : Except DbError Database := do
  let t ← db.table table
  let some i := t.columnIndex? column
    | refuse ("no such column: \"" ++ column ++ "\"")
  let c := t.columns.getD i default
  let indexes := db.indexes.filter (sameName ·.table t.name)
  if c.rowKey || t.primaryKey.any (sameName · column) ||
      indexes.any fun ix => ix.primary && ix.columns.any (sameName · column) then
    refuse ("cannot drop PRIMARY KEY column: \"" ++ column ++ "\"")
  if indexes.any fun ix => ix.name.startsWith "sqlite_autoindex_" && ix.columns.any (sameName · column) then
    refuse ("cannot drop UNIQUE column: \"" ++ column ++ "\"")
  if t.columns.length = 1 then
    refuse ("cannot drop column \"" ++ column ++ "\": no other columns exist")
  let checks := t.checks.filter fun k => !((k.owner.map (sameName · column)).getD false)
  if checks.any fun k => k.expr.columns.any (sameName · column) then
    refuse ("error in table " ++ t.name ++ " after drop column: no such column: " ++ column)
  if let some ix := indexes.find? fun ix => ix.columns.any (sameName · column) ||
      ((ix.filter.map Expr.columns).getD []).any (sameName · column) then
    refuse ("error in index " ++ ix.name ++ " after drop column: no such column: " ++ column)
  pure (db.putTable { t with columns := t.columns.eraseIdx i, checks,
                             rows := t.rows.map fun r => { r with cells := r.cells.eraseIdx i } })

/-! ## Checking a change before it runs -/

/-- The shape of the table or view a change writes, under a name, with whether it is a view. -/
def Database.targetShape (db : Database) (name : String) (asName : Option String) :
    Except DbError (SourceShape × Bool) :=
  match db.table? name with
  | some t =>
    if sameName t.name "sqlite_master" || sameName t.name "sqlite_schema" then
      refuse ("table " ++ t.name ++ " may not be modified")
    else .ok (t.sourceShape (asName.getD t.name), false)
  | none =>
    match db.view? name with
    | some v =>
      match checkQuery evalFuel { db, schema := "main." } v.query with
      | .ok cols => .ok ({ name := asName.getD v.name,
                           columns := if v.columns.isEmpty then cols else v.columns }, true)
      | .error e => .error e
    | none => refuse ("no such table: " ++ name)

/-- The trigger rows `NEW` and `OLD` of a shape. -/
def SourceShape.triggerRows (s : SourceShape) : List SourceShape :=
  [{ s with name := "new", qualifiedOnly := true }, { s with name := "old", qualifiedOnly := true }]

mutual
/-- Checks a statement that reads or changes rows, and the bodies of the triggers it fires. -/
def checkChange : Nat → Names → List String → Change → Except DbError Unit
  | 0, _, _, _ => refuse "parser stack overflow"
  | fuel + 1, n, running, c =>
    match c with
    | .select q => do
      let _ ← checkQuery fuel n q
      pure ()
    | .insert ins => do
      let (shape, isView) ← n.db.targetShape ins.table ins.asName
      if isView && (n.db.firing ins.table .insteadOf .insert []).isEmpty then
        refuse ("cannot modify " ++ ins.table ++ " because it is a view")
      if let some cols := ins.columns then
        for col in cols do
          if !(shape.columns.any (sameName · col) || (shape.hasRowid && isRowidName col)) then
            refuse ("table " ++ ins.table ++ " has no column named " ++ col)
      let width ← match ins.source with
        | .values rows => do
          let w := (rows.head?.map List.length).getD 0
          if rows.any (·.length != w) then refuse "all VALUES must have the same number of terms"
          for r in rows do
            checkExprs fuel { n with frames := [], aggregates := false } r
          pure (some w)
        | .query q => some <$> (List.length <$> checkQuery fuel n q)
        | .defaults => pure none
      if let some w := width then
        match ins.columns with
        | some cols =>
          if w != cols.length then
            refuse (toString w ++ " values for " ++ toString cols.length ++ " columns")
        | none =>
          if w != shape.columns.length then
            refuse ("table " ++ ins.table ++ " has " ++ toString shape.columns.length ++
              " columns but " ++ toString w ++ " values were supplied")
      for u in ins.upserts do
        if let some ts := u.target then
          for col in ts do
            if !shape.columns.any (sameName · col) then refuse ("no such column: " ++ col)
        if let .update assignments filter := u.action then
          let excluded := { shape with name := "excluded", qualifiedOnly := true }
          let here := { n with frames := [shape, excluded] :: n.frames }
          for (cols, e) in assignments do
            for col in cols do
              if !shape.columns.any (sameName · col) then refuse ("no such column: " ++ col)
            checkExpr fuel here e
          if let some f := filter then checkExpr fuel here f
      checkReturning fuel n shape ins.returning
      checkFired fuel n running ins.table shape (if isView then .insteadOf else .before) .insert
    | .update u => do
      let (shape, isView) ← n.db.targetShape u.table u.asName
      let assigned := u.assignments.flatMap (·.1)
      if isView && (n.db.firing u.table .insteadOf (.update assigned) []).isEmpty then
        refuse ("cannot modify " ++ u.table ++ " because it is a view")
      let extra ← match u.source with
        | some src => checkSource fuel n src
        | none => pure []
      let here := { n with frames := (shape :: extra) :: n.frames }
      for (cols, e) in u.assignments do
        for col in cols do
          if !(shape.columns.any (sameName · col) || (shape.hasRowid && isRowidName col)) then
            refuse ("no such column: " ++ col)
        checkExpr fuel here e
      if let some f := u.filter then checkExpr fuel here f
      checkReturning fuel n shape u.returning
      checkFired fuel n running u.table shape (if isView then .insteadOf else .before) (.update assigned)
    | .delete d => do
      let (shape, isView) ← n.db.targetShape d.table d.asName
      if isView && (n.db.firing d.table .insteadOf .delete []).isEmpty then
        refuse ("cannot modify " ++ d.table ++ " because it is a view")
      if let some f := d.filter then checkExpr fuel { n with frames := [shape] :: n.frames } f
      checkReturning fuel n shape d.returning
      checkFired fuel n running d.table shape (if isView then .insteadOf else .before) .delete

/-- Checks the `RETURNING` columns of a change. -/
def checkReturning : Nat → Names → SourceShape → List ResultColumn → Except DbError Unit
  | 0, _, _, _ => refuse "parser stack overflow"
  | fuel + 1, n, shape, columns =>
    checkExprs fuel { n with frames := [shape] :: n.frames } (columns.filterMap fun
      | .expr e _ _ => some e
      | _ => none)

/-- Checks the bodies of the triggers a change fires: those of its time, then the `AFTER` ones. -/
def checkFired : Nat → Names → List String → String → SourceShape → TriggerTime → TriggerEvent →
    Except DbError Unit
  | 0, _, _, _, _, _, _ => refuse "parser stack overflow"
  | fuel + 1, n, running, table, shape, time, event => do
    let fired := n.db.firing table time event running ++
      (if time == .insteadOf then [] else n.db.firing table .after event running)
    for tr in fired do
      let inner : Names := { db := n.db, frames := [shape.triggerRows], inTrigger := true,
                             schema := "main." }
      if let some c := tr.condition then checkExpr fuel inner c
      checkBody fuel inner (tr.name :: running) tr.body

/-- Checks the statements of a trigger's body. -/
def checkBody : Nat → Names → List String → List Change → Except DbError Unit
  | 0, _, _, _ => refuse "parser stack overflow"
  | _ + 1, _, _, [] => .ok ()
  | fuel + 1, n, running, c :: rest => do
    checkChange fuel n running c
    checkBody fuel n running rest
end

/-! ## Sessions -/

/-- A session: what statements wrote, and the open transaction, if any: the database when it
began and its savepoints, newest first. -/
structure Session where
  effects : Effects
  begun : Option Database := none
  savepoints : List (String × Database) := []
  /-- Whether a savepoint opened the transaction, which releasing it then commits. -/
  bySavepoint : Bool := false
  deriving Inhabited

/-- A session over a database. -/
def Session.start (db : Database) : Session := { effects := { db } }

/-- The database of a session. -/
def Session.db (s : Session) : Database := s.effects.db

/-- Replaces the database of a session. -/
def Session.withDb (s : Session) (db : Database) : Session :=
  { s with effects := { s.effects with db } }

/-- The session with its open transaction undone. -/
def Session.rollback (s : Session) : Session :=
  match s.begun with
  | some db => { s.withDb db with begun := none, savepoints := [], bySavepoint := false }
  | none => s

/-- Runs a change as a statement: checked first, then run as a whole. Answers the rows it
returns. -/
def Session.perform (s : Session) (params : List Cell) (ctes : List Cte) (c : Change) :
    Session × Except DbError (List (List Cell)) :=
  let named := ctes.map fun (.cte name cols q) => ({ name, columns := cols, query := q } : NamedQuery)
  let checked : Except DbError Unit := do
    let n : Names := { db := s.db, ctes := named.reverse }
    for q in named do
      let _ ← checkQuery evalFuel { db := s.db } q.query
    checkChange evalFuel n [] c
  match checked with
  | .error e => (s, .error e)
  | .ok () =>
    let before := s.effects
    let ctx : WriteCtx := { params, ctes := named.reverse }
    let (r, e) := (runChange evalFuel ctx c).run { before with counted := 0 }
    let isWrite := match c with
      | .select _ => false
      | _ => true
    match r with
    | .ok rows =>
      if isWrite && e.db.foreignKeyBroken then
        ({ s with effects := { before with lastRowid := e.lastRowid } },
          .error (engineError 787 "FOREIGN KEY constraint failed"))
      else
        let e := if isWrite then { e with changes := e.counted, totalChanges := e.totalChanges + e.counted }
          else e
        ({ s with effects := e }, .ok rows)
    | .error stop =>
      let (err, mode) := match stop with
        | .failed err mode => (err, mode)
        | .ignored => (engineError genericCode "RAISE(IGNORE)", Conflict.abort)
      match mode with
      | .fail => ({ s with effects := e }, .error err)
      | .rollback =>
        let s' := { s with effects := { before with lastRowid := e.lastRowid } }
        (s'.rollback, .error err)
      | _ => ({ s with effects := { before with lastRowid := e.lastRowid } }, .error err)

/-- Runs a statement that changes the schema. -/
def Session.schema (s : Session) (r : Except DbError Database) : Session × Except DbError Unit :=
  match r with
  | .ok db => (s.withDb db, .ok ())
  | .error e => (s, .error e)

/-- Runs one statement. -/
def Session.run (s : Session) (st : Statement) : Session × Except DbError Unit :=
  let db := s.db
  match st with
  | .createTable t keys ine => s.schema (db.runCreateTable t keys ine)
  | .createIndex ix ine => s.schema (db.runCreateIndex ix ine)
  | .createView v ine => s.schema (db.runCreateView v ine)
  | .createTrigger tr ine => s.schema (db.runCreateTrigger tr ine)
  | .change ctes c =>
    let (s, r) := s.perform [] ctes c
    (s, r.map fun _ => ())
  | .dropTable name ie => s.schema (db.runDropTable name ie)
  | .dropIndex name ie => s.schema (db.runDropIndex name ie)
  | .dropView name ie => s.schema (db.runDropView name ie)
  | .dropTrigger name ie => s.schema (db.runDropTrigger name ie)
  | .addColumn table c checks unique fks => s.schema (db.runAddColumn table c checks unique fks)
  | .renameTable table n => s.schema (db.runRenameTable table n)
  | .renameColumn table old n q => s.schema (db.runRenameColumn table old n q)
  | .dropColumn table c => s.schema (db.runDropColumn table c)
  | .begin =>
    if s.begun.isSome then (s, refuse "cannot start a transaction within a transaction")
    else ({ s with begun := some db }, .ok ())
  | .commit =>
    if s.begun.isNone then (s, refuse "cannot commit - no transaction is active")
    else ({ s with begun := none, savepoints := [], bySavepoint := false }, .ok ())
  | .rollback none =>
    if s.begun.isNone then (s, refuse "cannot rollback - no transaction is active")
    else (s.rollback, .ok ())
  | .rollback (some name) =>
    match s.savepoints.dropWhile (fun (n, _) => !sameName n name) with
    | (n, saved) :: older => ({ s.withDb saved with savepoints := (n, saved) :: older }, .ok ())
    | [] => (s, refuse ("no such savepoint: " ++ name))
  | .savepoint name =>
    let bySavepoint := s.bySavepoint || s.begun.isNone
    let begun := s.begun.orElse fun _ => some db
    ({ s with begun, bySavepoint, savepoints := (name, db) :: s.savepoints }, .ok ())
  | .release name =>
    match s.savepoints.dropWhile (fun (n, _) => !sameName n name) with
    | _ :: older =>
      if older.isEmpty && s.bySavepoint then
        ({ s with begun := none, savepoints := [], bySavepoint := false }, .ok ())
      else ({ s with savepoints := older }, .ok ())
    | [] => (s, refuse ("no such savepoint: " ++ name))
  | .other => (s, .ok ())

/-- Runs SQL text: the database after the statements that ran, with a transaction still open
undone, and the number of changed rows or the first refusal. -/
def Database.runSql (db : Database) (text : String) : Database × Except DbError Nat :=
  let rec go : List Parsed → Session → Nat → Session × Except DbError Nat
    | [], s, total => (s, .ok total)
    | .error m :: _, s, _ => (s, .error (engineError genericCode m))
    | .ok st :: rest, s, total =>
      match s.run st with
      | (s, .error e) => (s, .error e)
      | (s, .ok ()) => go rest s (total + s.effects.changes)
  let (s, r) := go (readScript text) (Session.start db) 0
  (s.rollback.db, r)

end SnapshotAgent.Store
