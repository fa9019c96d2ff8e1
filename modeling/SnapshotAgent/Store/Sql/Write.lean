import SnapshotAgent.Store.Sql.Eval
/-!
# Writing rows

`INSERT`, `UPDATE` and `DELETE` as the engine runs them, one row at a time.

Inserting a row:

1. the columns not given take their defaults, and every value is converted by its column's
   affinity; a row id given must be an integer (`datatype mismatch`);
2. the `BEFORE INSERT` triggers run, with the row as `NEW` (its row id -1 when none was given);
3. a row id is chosen when none was given: one more than the highest in the table, and for an
   `AUTOINCREMENT` table one more than the highest it ever gave out, kept in `sqlite_sequence`;
4. the constraints are checked: `NOT NULL` column by column, then each `CHECK`, then the row id
   and each unique index; a conflict is resolved by the statement's mode (`ABORT` by default),
   or an `ON CONFLICT` clause of the statement;
5. a strict table refuses a value of the wrong type for its column;
6. the row is written, and the `AFTER INSERT` triggers run.

An update computes the new values of a row from the row as it was, runs `BEFORE UPDATE`
triggers, checks the constraints that touch the columns it sets, writes the row and runs
`AFTER UPDATE` triggers. A delete runs `BEFORE DELETE` triggers, removes the row, applies the
foreign keys that refer to it (`ON DELETE CASCADE` removes the rows that refer to it), and runs
`AFTER DELETE` triggers.

Triggers run newest first; a trigger does not fire again while it runs. `RAISE(IGNORE)` in a
trigger drops the change of the current row and the statement goes on with the next one.
Changes are counted only for the statement's own rows: not those of triggers, of foreign keys,
or of rows a `REPLACE` removed.
-/

namespace SnapshotAgent.Store

/-- What statements write: the database, the last row id inserted, the change counters, and the
rows the running statement changed so far. -/
structure Effects where
  db : Database
  lastRowid : Int := 0
  changes : Nat := 0
  totalChanges : Nat := 0
  counted : Nat := 0
  deriving Inhabited

/-- A computation that writes rows and may stop. -/
abbrev Write := ExceptT Stop (StateM Effects)

/-- Where a statement runs: its parameters and common table expressions; inside a trigger, the
rows `NEW` and `OLD` and the conflict mode of the statement that fired it, if that one named
one; the triggers running; and whether its rows count as changes. -/
structure WriteCtx where
  params : List Cell := []
  ctes : List NamedQuery := []
  outer : List Frame := []
  conflict : Option Conflict := none
  running : List String := []
  counts : Bool := true
  deriving Inhabited

/-- The scope of evaluation over some frames, inside the statement's context. -/
def Effects.scope (e : Effects) (ctx : WriteCtx) (frames : List Frame) : Scope :=
  { db := e.db, params := ctx.params, frames := frames ++ ctx.outer, ctes := ctx.ctes,
    call := { changes := e.changes, totalChanges := e.totalChanges, lastInsertRowid := e.lastRowid } }

/-- A result of evaluation as a step of writing. -/
def liftStop {α : Type} (r : Except Stop α) : Write α :=
  match r with
  | .ok a => pure a
  | .error s => throw s

/-- Evaluates an expression over some frames. -/
def evalIn (fuel : Nat) (ctx : WriteCtx) (frames : List Frame) (e : Expr) : Write Cell := do
  liftStop (evalExpr fuel ((← get).scope ctx frames) e)

/-- Runs a query over some frames. -/
def queryIn (fuel : Nat) (ctx : WriteCtx) (frames : List Frame) (q : Query) : Write Relation := do
  liftStop (runQuery fuel ((← get).scope ctx frames) q)

/-- The current state of a table. -/
def currentTable (name : String) : Write Table := do
  match (← get).db.table? name with
  | some t => pure t
  | none => throw (.abort (engineError genericCode ("no such table: " ++ name)))

/-- Replaces a table in the database. -/
def putTable (t : Table) : Write Unit :=
  modify fun e => { e with db := e.db.putTable t }

/-- A failure with a code, stopping the statement in a mode. -/
def failWith {α : Type} (mode : Conflict) (code : Nat) (message : String) : Write α :=
  throw (.failed (engineError code message) mode)

/-- How a failure stops the statement under a conflict mode: `FAIL` and `ROLLBACK` as named,
anything else as `ABORT`. -/
def stopMode (mode : Conflict) : Conflict :=
  match mode with
  | .fail => .fail
  | .rollback => .rollback
  | _ => .abort

/-- Runs a step and answers whether a trigger dropped the change with `RAISE(IGNORE)`. -/
def catchIgnored (x : Write Unit) : Write Bool :=
  tryCatch (do x; pure false) fun
    | .ignored => pure true
    | s => throw s

/-- A row of a table as the trigger row of a name, answering only qualified names. -/
def Table.triggerRow (t : Table) (name : String) (cells : List Cell) (rowid : Int) : Binding :=
  { t.bind none ⟨rowid, cells⟩ with name, qualifiedOnly := true }

/-- The values of a row with one column's value replaced. -/
def setCell (cells : List Cell) (i : Nat) (v : Cell) : List Cell := cells.set i v

/-- Whether two keys are equal, under the collations of the key's columns; `NULL`s never are. -/
def keysCollide (colls : List Collation) (a b : List Cell) : Bool :=
  a.length == b.length && ((a.zip b).zip colls).all fun ((x, y), c) =>
    match x, y with
    | .null, _ | _, .null => false
    | _, _ => x.compareWith c y == .eq

/-- The unique indexes of a table, newest first, as the engine checks them. -/
def Database.uniqueIndexes (db : Database) (t : Table) : List Index :=
  (db.indexes.filter fun ix => ix.unique && sameName ix.table t.name).reverse

/-- The text of a unique key's failure. -/
def uniqueMessage (t : Table) (columns : List String) : String :=
  "UNIQUE constraint failed: " ++ ", ".intercalate (columns.map fun c => t.name ++ "." ++ c)

/-- The canonical name of a strict column's type. -/
def strictTypeName (declared : String) : String :=
  let d := upperAscii declared
  if d = "INT" then "INT" else d

/-- Whether a strict column takes a value. -/
def strictAccepts (declared : String) (c : Cell) : Bool :=
  match upperAscii declared, c with
  | _, .null => true
  | "ANY", _ => true
  | "INT", .integer _ | "INTEGER", .integer _ => true
  | "REAL", .real _ | "REAL", .integer _ => true
  | "TEXT", .text _ => true
  | "BLOB", .blob _ => true
  | _, _ => false

/-- The first value of a row a strict table refuses, with its column. -/
def Table.strictRefusal (t : Table) (cells : List Cell) : Option (Column × Cell) :=
  if !t.strict then none
  else (t.columns.zip cells).find? fun (c, v) => !strictAccepts c.declared v

/-- The columns of a table's key that a foreign key refers to. -/
def ForeignKey.parentKey (fk : ForeignKey) (parent : Table) : List String :=
  if fk.parentColumns.isEmpty then parent.primaryKeyNames else fk.parentColumns

/-- Whether a row of a child table refers to a parent row through a foreign key. -/
def ForeignKey.refersTo (fk : ForeignKey) (child : Table) (r : Row) (parent : Table)
    (p : Row) : Bool :=
  let key := fk.columns.map (child.cell r)
  let target := (fk.parentKey parent).map (parent.cell p)
  !key.any Cell.isNull && key.length == target.length &&
    (key.zip target).all fun (a, b) => a.compare b == .eq

/-- Whether some row refers through a foreign key to a parent row that does not exist. -/
def Database.foreignKeyBroken (db : Database) : Bool :=
  db.tables.any fun child => child.foreignKeys.any fun fk =>
    child.rows.any fun r =>
      let key := fk.columns.map (child.cell r)
      if key.any Cell.isNull then false
      else match db.table? fk.parent with
        | none => true
        | some p => !p.rows.any fun pr => fk.refersTo child r p pr

/-- The row of `sqlite_sequence` for a table set to a value, added when missing. -/
def Database.setSequence (db : Database) (table : String) (v : Int) : Database :=
  match db.table? sequenceTableName with
  | none => db
  | some s =>
    let isRow (r : Row) : Bool := match r.cells with
      | .text n :: _ => sameName n table
      | _ => false
    let renewed (r : Row) : Row := if isRow r then { r with cells := [.text table, .integer v] } else r
    if s.rows.any isRow then db.putTable { s with rows := s.rows.map renewed }
    else db.putTable (s.addRow ⟨s.maxRowid + 1, [.text table, .integer v]⟩)

/-- The row id for a new row of a table. -/
def newRowid (t : Table) : Write Int := do
  let db := (← get).db
  let top := if t.autoincrement then max t.maxRowid ((db.sequenceOf t.name).getD 0) else t.maxRowid
  if top ≥ maxInteger then failWith .abort 13 "database or disk is full"
  else pure (top + 1)

/-- A row id given for a new or changed row, which must be an integer. -/
def rowidOf (c : Cell) : Write Int :=
  match c.store .integer with
  | .integer n => pure n
  | _ => failWith .abort 20 "datatype mismatch"

/-- Evaluates the assignments of an update over a row, in order, and sets the columns they name;
answers the new values and the new row id. Every assignment sees the row as it was. -/
def assignRow (fuel : Nat) (ctx : WriteCtx) (t : Table) (frame : Frame)
    (assignments : List (List String × Expr)) (cells : List Cell) (rowid : Int) :
    Write (List Cell × Int) := do
  let mut cells := cells
  let mut newId := rowid
  for (cols, e) in assignments do
    let v ← evalIn fuel ctx [frame] e
    for c in cols do
      match t.columnIndex? c with
      | some i =>
        let col := t.columns.getD i default
        if col.rowKey then
          match v with
          | .null => failWith .abort 20 "datatype mismatch"
          | _ => newId ← rowidOf v
          cells := setCell cells i (.integer newId)
        else cells := setCell cells i (v.store (t.columnAffinity col))
      | none =>
        if isRowidName c then
          match v with
          | .null => failWith .abort 20 "datatype mismatch"
          | _ => newId ← rowidOf v
  pure (cells, newId)

/-- Whether a trigger watches an event: an update trigger with columns watches only updates
that set one of them. -/
def Trigger.watches (tr : Trigger) (event : TriggerEvent) : Bool :=
  match tr.event, event with
  | .insert, .insert | .delete, .delete => true
  | .update cols, .update set => cols.isEmpty || cols.any fun c => set.any (sameName c ·)
  | _, _ => false

/-- The triggers a change fires, newest first. -/
def Database.firing (db : Database) (table : String) (time : TriggerTime) (event : TriggerEvent)
    (running : List String) : List Trigger :=
  db.triggers.filter fun tr =>
    sameName tr.table table && tr.time == time && tr.watches event &&
      !running.any (sameName · tr.name)

/-- The values of `RETURNING` columns over a row. -/
def returningItems (b : Binding) (columns : List ResultColumn) : List Expr :=
  columns.flatMap fun
    | .all | .allOf _ => b.columns.map fun c => Expr.column (some b.name) c.name
    | .expr e _ _ => [e]

mutual
/-- Runs the triggers of a change, newest first; each runs its statements when its `WHEN`
condition holds. -/
def fireTriggers : Nat → WriteCtx → List Trigger → List Binding → Write Unit
  | 0, _, _, _ => throw exhausted
  | _ + 1, _, [], _ => pure ()
  | fuel + 1, ctx, tr :: rest, rows => do
    let inner : WriteCtx := { outer := [rows], conflict := ctx.conflict,
                              running := tr.name :: ctx.running, counts := false }
    let go ← match tr.condition with
      | some c => do
        let v ← evalIn fuel inner [] c
        pure (v.truth? == some true)
      | none => pure true
    if go then
      let saved := (← get).lastRowid
      runBody fuel inner tr.body
      modify fun e => { e with lastRowid := saved }
    fireTriggers fuel ctx rest rows

/-- Runs the statements of a trigger in order. -/
def runBody : Nat → WriteCtx → List Change → Write Unit
  | 0, _, _ => throw exhausted
  | _ + 1, _, [] => pure ()
  | fuel + 1, ctx, c :: rest => do
    let _ ← runChange fuel ctx c
    runBody fuel ctx rest

/-- Runs a statement that reads or writes rows; answers the rows it returns. -/
def runChange : Nat → WriteCtx → Change → Write (List (List Cell))
  | 0, _, _ => throw exhausted
  | fuel + 1, ctx, c =>
    match c with
    | .select q => do
      let r ← queryIn fuel ctx [] q
      pure r.rows
    | .insert ins => runInsert fuel ctx ins
    | .update u => runUpdate fuel ctx u
    | .delete d => runDelete fuel ctx d

/-- Runs an `INSERT`. -/
def runInsert : Nat → WriteCtx → Insert → Write (List (List Cell))
  | 0, _, _ => throw exhausted
  | fuel + 1, ctx, ins => do
    let db := (← get).db
    let mode := ctx.conflict.getD (ins.conflict.getD .abort)
    let fired : WriteCtx := { ctx with conflict := ctx.conflict.orElse fun _ => ins.conflict }
    match db.table? ins.table with
    | none =>
      match db.view? ins.table with
      | some v => do
        let rel ← queryIn fuel { ctx with outer := [] } [] v.query
        let names := if v.columns.isEmpty then rel.columns.map (·.name) else v.columns
        let listed := ins.columns.getD names
        let rows ← match ins.source with
          | .values rows => rows.mapM fun r => do
            let vs ← r.mapM (evalIn fuel ctx [])
            pure vs
          | .query q => do
            let r ← queryIn fuel ctx [] q
            pure r.rows
          | .defaults => pure [[]]
        for row in rows do
          let cells := names.map fun n =>
            match listed.findIdx? (sameName · n) with
            | some i => row.getD i .null
            | none => .null
          let newRow : Binding := { name := "new", columns := names.map fun n => { name := n },
                                    values := cells, qualifiedOnly := true }
          let _ ← catchIgnored (fireTriggers fuel fired
            (db.firing v.name .insteadOf .insert ctx.running) [newRow])
        pure []
      | none => throw (.abort (engineError genericCode ("no such table: " ++ ins.table)))
    | some t => do
      let listed := ins.columns.getD (t.columns.map (·.name))
      let rowidAt : Option Nat := listed.findIdx? fun n => isRowidName n && (t.columnIndex? n).isNone
      let place (row : List Cell) : List (Option Cell) × Option Cell :=
        let given := t.columns.map fun c =>
          match listed.findIdx? (sameName · c.name) with
          | some i => some (row.getD i .null)
          | none => if c.rowKey then rowidAt.map (row.getD · .null) else none
        let rowidGiven := if t.rowKey?.isNone then rowidAt.map (row.getD · .null) else none
        (given, rowidGiven)
      match ins.source with
      | .values rows =>
        rows.foldlM (fun acc r => do
          let vs ← r.mapM (evalIn fuel ctx [])
          let (given, rid) := place vs
          let out ← insertRow fuel fired t mode ins given rid
          pure (acc ++ out)) []
      | .query q => do
        let rel ← queryIn fuel ctx [] q
        rel.rows.foldlM (fun acc r => do
          let (given, rid) := place r
          let out ← insertRow fuel fired t mode ins given rid
          pure (acc ++ out)) []
      | .defaults => insertRow fuel fired t mode ins (t.columns.map fun _ => none) none

/-- Inserts one row given values for some columns; answers its `RETURNING` rows. -/
def insertRow : Nat → WriteCtx → Table → Conflict → Insert → List (Option Cell) → Option Cell →
    Write (List (List Cell))
  | 0, _, _, _, _, _, _ => throw exhausted
  | fuel + 1, ctx, t0, mode, ins, given, rowidGiven => do
    let t ← currentTable t0.name
    let plain : WriteCtx := { ctx with outer := [], ctes := [] }
    let raw ← (t.columns.zip given).mapM fun (c, g) => match g with
      | some v => pure v
      | none => match c.default with
        | some e => evalIn fuel plain [] e
        | none => pure .null
    let cells := (t.columns.zip raw).map fun (c, v) => v.store (t.columnAffinity c)
    let keyIdx := t.columns.findIdx? (·.rowKey)
    let keyCell : Option Cell := match keyIdx with
      | some i => some (cells.getD i .null)
      | none => rowidGiven
    let rowid? ← match keyCell with
      | none | some .null => pure none
      | some c => some <$> rowidOf c
    let ignored ← catchIgnored (fireTriggers fuel ctx
      ((← get).db.firing t.name .before .insert ctx.running) [t.triggerRow "new" cells (rowid?.getD (-1))])
    if ignored then return []
    let t ← currentTable t.name
    let rowid ← match rowid? with
      | some n => pure n
      | none => if t.withoutRowid then pure (t.maxRowid + 1) else newRowid t
    let cells := match keyIdx with
      | some i => setCell cells i (.integer rowid)
      | none => cells
    -- NOT NULL, column by column
    let filled ← (t.columns.zip cells).mapM fun (c, v) => do
      let required := c.notNull || (t.withoutRowid && t.primaryKey.any (sameName · c.name))
      match v with
      | .null =>
        if required && !c.rowKey then
          match mode, c.default with
          | .replace, some e => do
            let d ← evalIn fuel plain [] e
            let d := d.store (t.columnAffinity c)
            match d with
            | .null => failWith .abort 1299 ("NOT NULL constraint failed: " ++ t.name ++ "." ++ c.name)
            | _ => pure (some d)
          | .ignore, _ => pure none
          | m, _ => failWith (stopMode m) 1299 ("NOT NULL constraint failed: " ++ t.name ++ "." ++ c.name)
        else pure (some v)
      | _ => pure (some v)
    if filled.any Option.isNone then return []
    let cells := filled.map fun o => o.getD .null
    let row : Row := ⟨rowid, cells⟩
    -- CHECK constraints, in order
    let checkScope : List Frame := [[t.bind none row]]
    let failedCheck ← t.checks.findM? fun k => do
      let v ← evalIn fuel plain checkScope k.expr
      pure (v.truth? == some false)
    if let some k := failedCheck then
      if mode == .ignore then return []
      failWith (stopMode mode) 275 ("CHECK constraint failed: " ++ k.text)
    -- the row id and the unique indexes
    let db := (← get).db
    let idClash : List Row := if t.withoutRowid then [] else t.rows.filter (·.rowid == rowid)
    let keyColls (cols : List String) : List Collation := cols.map fun n =>
      ((t.column? n).bind (·.collation)).getD .binary
    let selected (ix : Index) (r : Row) : Write Bool := match ix.filter with
      | some f => do
        let v ← evalIn fuel plain [[t.bind none r]] f
        pure (v.truth? == some true)
      | none => pure true
    let pkClash : List Row := if t.withoutRowid then
        t.rows.filter fun o => keysCollide (keyColls t.primaryKey) (t.keyOf o) (t.keyOf row)
      else []
    let indexClashes ← db.uniqueIndexes t |>.filterMapM fun ix => do
      if !(← selected ix row) then return none
      let key := ix.columns.map (t.cell row)
      let hits ← t.rows.filterM fun o => do
        if !keysCollide (keyColls ix.columns) (ix.columns.map (t.cell o)) key then return false
        selected ix o
      pure (if hits.isEmpty then none else some (ix, hits))
    let keyName := ((t.rowKey?.map (·.name)).getD "rowid")
    let clashes : List (List String × Nat × List Row) :=
      (if idClash.isEmpty then [] else [([keyName], 1555, idClash)]) ++
      (if pkClash.isEmpty then [] else [(t.primaryKey, 1555, pkClash)]) ++
      indexClashes.map fun (ix, hits) => (ix.columns, if ix.primary then 1555 else 2067, hits)
    let upsertFor (cols : List String) : Option Upsert :=
      ins.upserts.find? fun u => match u.target with
        | none => true
        | some ts => ts.length == cols.length && ts.all fun c => cols.any (sameName c ·)
    match clashes.head? with
    | some (cols, code, hits) =>
      match upsertFor cols with
      | some u =>
        match u.action with
        | .nothing => return []
        | .update assignments filter =>
          let other := (hits.head?).getD row
          let excluded : Binding := { t.bind none row with name := "excluded", qualifiedOnly := true }
          let target := t.bind ins.asName other
          let go ← match filter with
            | some f => do
              let v ← evalIn fuel ctx [[target, excluded]] f
              pure (v.truth? == some true)
            | none => pure true
          if !go then return []
          let upd : Update := { table := t.name, asName := ins.asName, assignments,
                                returning := ins.returning }
          let out ← updateRow fuel ctx t .abort upd [excluded] other.rowid
          return out.toList
      | none =>
        if mode == .ignore then return []
        if mode != .replace then
          failWith (stopMode mode) code (uniqueMessage t cols)
        for (_, _, hs) in clashes do
          for h in hs do
            let _ ← deleteRow fuel ctx t.name h.rowid false
    | none => pure ()
    if let some (c, v) := t.strictRefusal cells then
      failWith .abort 3091 ("cannot store " ++ upperAscii v.typeName ++ " value in " ++
        strictTypeName c.declared ++ " column " ++ t.name ++ "." ++ c.name)
    -- write the row
    let t ← currentTable t.name
    putTable (t.addRow row)
    if !t.withoutRowid then modify fun e => { e with lastRowid := rowid }
    if ctx.counts then modify fun e => { e with counted := e.counted + 1 }
    if t.autoincrement && rowid > (((← get).db.sequenceOf t.name).getD 0) then
      modify fun e => { e with db := e.db.setSequence t.name rowid }
    let _ ← catchIgnored (fireTriggers fuel ctx
      ((← get).db.firing t.name .after .insert ctx.running) [t.triggerRow "new" cells rowid])
    if ins.returning.isEmpty then return []
    let b := t.bind ins.asName row
    let vs ← (returningItems b ins.returning).mapM (evalIn fuel ctx [[b]])
    pure [vs]

/-- Runs an `UPDATE`: the rows its filter selects, in order, each updated from its values as
they were. -/
def runUpdate : Nat → WriteCtx → Update → Write (List (List Cell))
  | 0, _, _ => throw exhausted
  | fuel + 1, ctx, u => do
    let db := (← get).db
    let mode := ctx.conflict.getD (u.conflict.getD .abort)
    let fired : WriteCtx := { ctx with conflict := ctx.conflict.orElse fun _ => u.conflict }
    match db.table? u.table with
    | none =>
      match db.view? u.table with
      | some v => do
        let rel ← queryIn fuel { ctx with outer := [] } [] v.query
        let names := if v.columns.isEmpty then rel.columns.map (·.name) else v.columns
        let shape : Binding := { name := u.asName.getD v.name, columns := names.map fun n => { name := n },
                                 values := [] }
        for row in rel.rows do
          let b := { shape with values := row }
          let keep ← match u.filter with
            | some f => do
              let x ← evalIn fuel ctx [[b]] f
              pure (x.truth? == some true)
            | none => pure true
          if keep then
            let mut cells := row
            for (cols, e) in u.assignments do
              let x ← evalIn fuel ctx [[b]] e
              for c in cols do
                if let some i := names.findIdx? (sameName · c) then cells := setCell cells i x
            let oldRow := { b with name := "old", qualifiedOnly := true }
            let newRow := { b with name := "new", values := cells, qualifiedOnly := true }
            let _ ← catchIgnored (fireTriggers fuel fired
              (db.firing v.name .insteadOf (.update (u.assignments.flatMap (·.1))) ctx.running)
              [newRow, oldRow])
        pure []
      | none => throw (.abort (engineError genericCode ("no such table: " ++ u.table)))
    | some t => do
      let chosen ← t.rows.filterM fun r => match u.filter with
        | some f => do
          let x ← evalIn fuel ctx [[t.bind u.asName r]] f
          pure (x.truth? == some true)
        | none => pure true
      chosen.foldlM (fun acc r => do
        let out ← updateRow fuel fired t mode u [] r.rowid
        pure (acc ++ out.toList)) []

/-- Updates one row, found by its row id; answers its `RETURNING` row, none when the row is
gone or a trigger dropped the change. Extra frames are seen by the assignments, as the
`excluded` row of an upsert. -/
def updateRow : Nat → WriteCtx → Table → Conflict → Update → List Binding → Int →
    Write (Option (List Cell))
  | 0, _, _, _, _, _, _ => throw exhausted
  | fuel + 1, ctx, t0, mode, u, extra, rowid => do
    let t ← currentTable t0.name
    let some r := t.rows.find? (·.rowid == rowid) | return none
    let here := t.bind u.asName r
    let plain : WriteCtx := { ctx with outer := [], ctes := [] }
    let assigned := u.assignments.flatMap (·.1)
    let (assignedCells, newId) ← assignRow fuel ctx t (here :: extra) u.assignments r.cells r.rowid
    let mut cells := assignedCells
    let changedId := newId != r.rowid
    let ignored ← catchIgnored (fireTriggers fuel ctx
      ((← get).db.firing t.name .before (.update assigned) ctx.running)
      [t.triggerRow "new" cells newId, t.triggerRow "old" r.cells r.rowid])
    if ignored then return none
    let t ← currentTable t.name
    if !(t.rows.any (·.rowid == rowid)) then return none
    let touched (name : String) : Bool := assigned.any (sameName · name)
    -- NOT NULL on the columns set
    let mut dropped := false
    for (c, i) in t.columns.zip (List.range t.columns.length) do
      let required := c.notNull || (t.withoutRowid && t.primaryKey.any (sameName · c.name))
      if required && !c.rowKey && touched c.name && (cells.getD i .null).isNull then
        match mode, c.default with
        | .replace, some e =>
          let d ← evalIn fuel plain [] e
          let d := d.store (t.columnAffinity c)
          if d.isNull then
            failWith .abort 1299 ("NOT NULL constraint failed: " ++ t.name ++ "." ++ c.name)
          cells := setCell cells i d
        | .ignore, _ => dropped := true
        | m, _ => failWith (stopMode m) 1299 ("NOT NULL constraint failed: " ++ t.name ++ "." ++ c.name)
    if dropped then return none
    let row : Row := ⟨newId, cells⟩
    -- CHECK constraints that read a column set
    let relevant := t.checks.filter fun k => changedId || k.expr.columns.any touched
    let failedCheck ← relevant.findM? fun k => do
      let v ← evalIn fuel plain [[t.bind none row]] k.expr
      pure (v.truth? == some false)
    if let some k := failedCheck then
      if mode == .ignore then return none
      failWith (stopMode mode) 275 ("CHECK constraint failed: " ++ k.text)
    -- the row id and the unique indexes over a column set
    let db := (← get).db
    let others := t.rows.filter (·.rowid != rowid)
    let keyColls (cols : List String) : List Collation := cols.map fun n =>
      ((t.column? n).bind (·.collation)).getD .binary
    let selected (ix : Index) (x : Row) : Write Bool := match ix.filter with
      | some f => do
        let v ← evalIn fuel plain [[t.bind none x]] f
        pure (v.truth? == some true)
      | none => pure true
    let idClash := if changedId && !t.withoutRowid then others.filter (·.rowid == newId) else []
    let pkClash := if t.withoutRowid && t.primaryKey.any touched then
        others.filter fun o => keysCollide (keyColls t.primaryKey) (t.keyOf o) (t.keyOf row)
      else []
    let watched (ix : Index) : Bool :=
      changedId || ix.columns.any touched || ((ix.filter.map Expr.columns).getD []).any touched
    let indexClashes ← (db.uniqueIndexes t).filter watched |>.filterMapM fun ix => do
      if !(← selected ix row) then return none
      let key := ix.columns.map (t.cell row)
      let hits ← others.filterM fun o => do
        if !keysCollide (keyColls ix.columns) (ix.columns.map (t.cell o)) key then return false
        selected ix o
      pure (if hits.isEmpty then none else some (ix, hits))
    let keyName := ((t.rowKey?.map (·.name)).getD "rowid")
    let clashes : List (List String × Nat × List Row) :=
      (if idClash.isEmpty then [] else [([keyName], 1555, idClash)]) ++
      (if pkClash.isEmpty then [] else [(t.primaryKey, 1555, pkClash)]) ++
      indexClashes.map fun (ix, hits) => (ix.columns, if ix.primary then 1555 else 2067, hits)
    if let some (cols, code, _) := clashes.head? then
      if mode == .ignore then return none
      if mode != .replace then failWith (stopMode mode) code (uniqueMessage t cols)
      for (_, _, hs) in clashes do
        for h in hs do
          let _ ← deleteRow fuel ctx t.name h.rowid false
    if let some (c, v) := t.strictRefusal cells then
      failWith .abort 3091 ("cannot store " ++ upperAscii v.typeName ++ " value in " ++
        strictTypeName c.declared ++ " column " ++ t.name ++ "." ++ c.name)
    let t ← currentTable t.name
    putTable ({ t with rows := t.rows.filter (·.rowid != rowid) }.addRow row)
    if ctx.counts then modify fun e => { e with counted := e.counted + 1 }
    let _ ← catchIgnored (fireTriggers fuel ctx
      ((← get).db.firing t.name .after (.update assigned) ctx.running)
      [t.triggerRow "new" cells newId, t.triggerRow "old" r.cells r.rowid])
    if u.returning.isEmpty then return some []
    let b := t.bind u.asName row
    let vs ← (returningItems b u.returning).mapM (evalIn fuel ctx [[b]])
    pure (some vs)

/-- Runs a `DELETE`: the rows its filter selects, in order. -/
def runDelete : Nat → WriteCtx → Delete → Write (List (List Cell))
  | 0, _, _ => throw exhausted
  | fuel + 1, ctx, d => do
    let db := (← get).db
    match db.table? d.table with
    | none =>
      match db.view? d.table with
      | some v => do
        let rel ← queryIn fuel { ctx with outer := [] } [] v.query
        let names := if v.columns.isEmpty then rel.columns.map (·.name) else v.columns
        let shape : Binding := { name := d.asName.getD v.name, columns := names.map fun n => { name := n },
                                 values := [] }
        for row in rel.rows do
          let b := { shape with values := row }
          let keep ← match d.filter with
            | some f => do
              let x ← evalIn fuel ctx [[b]] f
              pure (x.truth? == some true)
            | none => pure true
          if keep then
            let _ ← catchIgnored (fireTriggers fuel ctx
              (db.firing v.name .insteadOf .delete ctx.running)
              [{ b with name := "old", qualifiedOnly := true }])
        pure []
      | none => throw (.abort (engineError genericCode ("no such table: " ++ d.table)))
    | some t => do
      let chosen ← t.rows.filterM fun r => match d.filter with
        | some f => do
          let x ← evalIn fuel ctx [[t.bind d.asName r]] f
          pure (x.truth? == some true)
        | none => pure true
      chosen.foldlM (fun acc r => do
        let b := t.bind d.asName r
        let out ← if d.returning.isEmpty then pure []
          else do
            let vs ← (returningItems b d.returning).mapM (evalIn fuel ctx [[b]])
            pure [vs]
        let gone ← deleteRow fuel ctx t.name r.rowid true
        if gone then
          if ctx.counts then modify fun e => { e with counted := e.counted + 1 }
          pure (acc ++ out)
        else pure acc) []

/-- Deletes one row, found by its row id, with its triggers when asked, and applies the foreign
keys that refer to it; answers whether it was deleted. -/
def deleteRow : Nat → WriteCtx → String → Int → Bool → Write Bool
  | 0, _, _, _, _ => throw exhausted
  | fuel + 1, ctx, table, rowid, withTriggers => do
    let t ← currentTable table
    let some r := t.rows.find? (·.rowid == rowid) | return false
    let oldRow := t.triggerRow "old" r.cells r.rowid
    if withTriggers then
      let ignored ← catchIgnored (fireTriggers fuel ctx
        ((← get).db.firing t.name .before .delete ctx.running) [oldRow])
      if ignored then return false
    let t ← currentTable table
    if !(t.rows.any (·.rowid == rowid)) then return false
    putTable { t with rows := t.rows.filter (·.rowid != rowid) }
    -- the foreign keys that refer to the row
    let db := (← get).db
    for child in db.tables do
      for fk in child.foreignKeys do
        if sameName fk.parent t.name then
          let refs := child.rows.filter fun cr => fk.refersTo child cr t r
          match fk.onDelete with
          | .cascade =>
            for cr in refs do
              let _ ← deleteRow fuel { ctx with counts := false } child.name cr.rowid true
          | .setNull | .setDefault =>
            let c ← currentTable child.name
            let plain : WriteCtx := { ctx with outer := [], ctes := [] }
            let rows ← c.rows.mapM fun cr => do
              if !refs.any (·.rowid == cr.rowid) then return cr
              let cells ← (c.columns.zip cr.cells).mapM fun (col, v) => do
                if !fk.columns.any (sameName · col.name) then return v
                match fk.onDelete, col.default with
                | .setDefault, some e => do
                  let d ← evalIn fuel plain [] e
                  pure (d.store (c.columnAffinity col))
                | _, _ => pure .null
              pure { cr with cells }
            putTable { c with rows }
          | .restrict =>
            if !refs.isEmpty then failWith .abort 787 "FOREIGN KEY constraint failed"
          | .noAction => pure ()
    if withTriggers then
      let _ ← catchIgnored (fireTriggers fuel ctx
        ((← get).db.firing t.name .after .delete ctx.running) [oldRow])
    pure true
end

end SnapshotAgent.Store
