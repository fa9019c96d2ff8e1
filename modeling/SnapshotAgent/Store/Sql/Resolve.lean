import SnapshotAgent.Store.Sql.Eval
/-!
# Checking names before a statement runs

The engine checks a statement as a whole before it runs any of it: every table and view it reads
must exist, every column name must name exactly one column of the sources in scope, every
function must exist and take as many arguments as it is given, aggregates may appear only where
rows are grouped, and `RAISE` only in the body of a trigger. The first problem found refuses the
statement with the engine's words, and nothing of it runs.

Names are looked up as evaluation looks them up: in the sources of the innermost query first,
then outwards. A name two sources of the same query both have is ambiguous. A name in double
quotes that names no column is the text itself, and so never refused.
-/

namespace SnapshotAgent.Store

/-- A source's columns as the check sees them. -/
structure SourceShape where
  name : String
  columns : List String
  hasRowid : Bool := false
  hidden : List String := []
  qualifiedOnly : Bool := false
  deriving Inhabited

/-- What the check sees: the database, the sources of each enclosing query, the common table
expressions, whether aggregates are allowed here, whether the statement is the body of a
trigger, the result columns' aliases, and the schema name written before a missing table. -/
structure Names where
  db : Database
  frames : List (List SourceShape) := []
  ctes : List NamedQuery := []
  aggregates : Bool := false
  inTrigger : Bool := false
  aliases : List String := []
  schema : String := ""
  deriving Inhabited

/-- A refusal with the engine's plain error code. -/
def refuse {α : Type} (message : String) : Except DbError α :=
  .error (engineError genericCode message)

/-- Whether a source answers a name without a table. -/
def SourceShape.answers (s : SourceShape) (name : String) : Bool :=
  !s.qualifiedOnly && s.columns.any (sameName · name) && !s.hidden.any (sameName · name)

/-- Checks a column name against the sources in scope. -/
def Names.column (n : Names) (table : Option String) (name : String) : Except DbError Unit :=
  match table with
  | some t =>
    match n.frames.findSome? (fun f => f.find? (sameName ·.name t)) with
    | some s =>
      if s.columns.any (sameName · name) || (s.hasRowid && isRowidName name) then .ok ()
      else refuse ("no such column: " ++ t ++ "." ++ name)
    | none => refuse ("no such column: " ++ t ++ "." ++ name)
  | none =>
    let rec go : List (List SourceShape) → Except DbError Unit
      | [] => if n.aliases.any (sameName · name) then .ok () else refuse ("no such column: " ++ name)
      | f :: rest =>
        let hits := f.filter (·.answers name)
        if hits.length > 1 then refuse ("ambiguous column name: " ++ name)
        else if hits.length = 1 then .ok ()
        else
          let ids := f.filter fun s => !s.qualifiedOnly && s.hasRowid
          if isRowidName name && ids.length = 1 then .ok ()
          else if isRowidName name && ids.length > 1 then refuse ("ambiguous column name: " ++ name)
          else go rest
    go n.frames

/-- Checks a call's function and its number of arguments. -/
def Names.function (n : Names) (fn : String) (count : Nat) : Except DbError Unit := do
  if !isKnownFunction fn then refuse ("no such function: " ++ fn)
  else if !acceptsArity fn count then
    refuse ("wrong number of arguments to function " ++ fn ++ "()")
  else if isAggregateCall fn count && (scalarArity fn).all (fun ok => !ok count) && !n.aggregates then
    refuse ("misuse of aggregate function " ++ fn ++ "()")
  else .ok ()

/-- The ordinal word of a position, as the engine writes it in messages. -/
def ordinalWord (k : Nat) : String :=
  let suffix :=
    if k % 100 ≥ 11 && k % 100 ≤ 13 then "th"
    else match k % 10 with
      | 1 => "st"
      | 2 => "nd"
      | 3 => "rd"
      | _ => "th"
  toString k ++ suffix

/-- The names of the columns a list of result columns produces, `*` expanded over the sources. -/
def resultNames (sources : List SourceShape) (columns : List ResultColumn) : List String :=
  columns.flatMap fun
    | .all => sources.flatMap fun s =>
      if s.qualifiedOnly then [] else s.columns.filter fun c => !s.hidden.any (sameName · c)
    | .allOf t => (sources.filter (sameName ·.name t)).flatMap (·.columns)
    | .expr e asName text => [resultName e asName text]

/-- The scope of a query nested in an expression: the sources around it stay in scope, and
neither its aggregates nor the aliases of the query around it carry in. -/
def Names.nested (n : Names) : Names := { n with aggregates := false, aliases := [] }

mutual
/-- Checks the names of an expression. -/
def checkExpr : Nat → Names → Expr → Except DbError Unit
  | 0, _, _ => refuse "parser stack overflow"
  | fuel + 1, n, e =>
    match e with
    | .lit _ | .param _ | .quotedColumn _ => .ok ()
    | .column t name => n.column t name
    | .unary _ a | .isNull a _ | .cast a _ | .collate a _ => checkExpr fuel n a
    | .binary _ a b => do
      checkExpr fuel n a
      checkExpr fuel n b
    | .between a lo hi _ => do
      checkExpr fuel n a
      checkExpr fuel n lo
      checkExpr fuel n hi
    | .inList a items _ => do
      checkExpr fuel n a
      checkExprs fuel n items
    | .inQuery a q _ => do
      checkExpr fuel n a
      let cols ← checkQuery fuel n.nested q
      if cols.length != 1 then
        refuse ("sub-select returns " ++ toString cols.length ++ " columns - expected 1")
    | .exists q => do
      let _ ← checkQuery fuel n.nested q
      pure ()
    | .scalar q => do
      let cols ← checkQuery fuel n.nested q
      if cols.length != 1 then
        refuse ("sub-select returns " ++ toString cols.length ++ " columns - expected 1")
    | .call fn _ args => do
      n.function fn args.length
      let inside := if isAggregateCall fn args.length then { n with aggregates := false } else n
      checkExprs fuel inside args
    | .callStar fn =>
      if lowerAscii fn = "count" then
        if n.aggregates then .ok () else refuse "misuse of aggregate function count()"
      else if isKnownFunction fn then
        refuse ("wrong number of arguments to function " ++ fn ++ "()")
      else refuse ("no such function: " ++ fn)
    | .case operand arms otherwise => do
      if let some o := operand then checkExpr fuel n o
      checkArms fuel n arms
      if let some o := otherwise then checkExpr fuel n o
    | .raise _ _ =>
      if n.inTrigger then .ok () else refuse "RAISE() may only be used within a trigger-program"

/-- Checks the names of a list of expressions, in order. -/
def checkExprs : Nat → Names → List Expr → Except DbError Unit
  | 0, _, _ => refuse "parser stack overflow"
  | _ + 1, _, [] => .ok ()
  | fuel + 1, n, e :: es => do
    checkExpr fuel n e
    checkExprs fuel n es

/-- Checks the arms of a `CASE`. -/
def checkArms : Nat → Names → List (Expr × Expr) → Except DbError Unit
  | 0, _, _ => refuse "parser stack overflow"
  | _ + 1, _, [] => .ok ()
  | fuel + 1, n, (w, t) :: rest => do
    checkExpr fuel n w
    checkExpr fuel n t
    checkArms fuel n rest

/-- Checks a source and answers the shapes of its tables. -/
def checkSource : Nat → Names → Source → Except DbError (List SourceShape)
  | 0, _, _ => refuse "parser stack overflow"
  | fuel + 1, n, src =>
    match src with
    | .table name asName =>
      match n.ctes.find? (fun q => sameName q.name name) with
      | some q => do
        let later := n.ctes.dropWhile fun c => !sameName c.name name
        let inner : Names := { n with frames := [], ctes := later.drop 1, aggregates := false, aliases := [] }
        let cols ← checkQuery fuel inner q.query
        if !q.columns.isEmpty && q.columns.length != cols.length then
          refuse ("table " ++ q.name ++ " has " ++ toString cols.length ++
            " values for " ++ toString q.columns.length ++ " columns")
        else pure [{ name := asName.getD q.name, columns := if q.columns.isEmpty then cols else q.columns }]
      | none =>
        match n.db.table? name with
        | some t => pure [{ name := asName.getD t.name, columns := t.columns.map (·.name),
                            hasRowid := !t.withoutRowid }]
        | none =>
          match n.db.view? name with
          | some v => do
            let cols ← checkQuery fuel { db := n.db, schema := "main." } v.query
            pure [{ name := asName.getD v.name,
                    columns := if v.columns.isEmpty then cols else v.columns }]
          | none => refuse ("no such table: " ++ n.schema ++ name)
    | .query q asName => do
      let cols ← checkQuery fuel { n with aggregates := false, aliases := [] } q
      pure [{ name := asName.getD "", columns := cols }]
    | .join _ natural a b on usingCols => do
      let left ← checkSource fuel n a
      let right ← checkSource fuel n b
      let leftNames := left.flatMap (·.columns)
      let rightNames := right.flatMap (·.columns)
      for c in usingCols do
        if !(leftNames.any (sameName · c) && rightNames.any (sameName · c)) then
          refuse ("cannot join using column " ++ c ++ " - column not present in both tables")
      let shared := if natural then leftNames.filter fun c => rightNames.any (sameName · c)
        else usingCols
      let right := right.map fun s =>
        { s with hidden := s.hidden ++ shared.filter fun c => s.columns.any (sameName · c) }
      let both := left ++ right
      if let some cond := on then
        checkExpr fuel { n with frames := both :: n.frames, aggregates := false, aliases := [] } cond
      pure both

/-- Checks a query and answers the names of its result columns. -/
def checkQuery : Nat → Names → Query → Except DbError (List String)
  | 0, _, _ => refuse "parser stack overflow"
  | fuel + 1, n, q =>
    match q with
    | .select _ columns source filter groupBy having =>
      checkSelect fuel n columns source filter groupBy having []
    | .values rows => do
      let width := (rows.head?.map List.length).getD 0
      if rows.any (·.length != width) then refuse "all VALUES must have the same number of terms"
      else
        checkRows fuel { n with aggregates := false } rows
        pure ((List.range width).map fun i => "column" ++ toString (i + 1))
    | .compound op a b => do
      let left ← checkQuery fuel n a
      let right ← checkQuery fuel n b
      if left.length != right.length then
        let word := match op with
          | .union => "UNION"
          | .unionAll => "UNION ALL"
          | .intersect => "INTERSECT"
          | .except => "EXCEPT"
        refuse ("SELECTs to the left and right of " ++ word ++
          " do not have the same number of result columns")
      else pure left
    | .ordered body order limit offset => do
      let cols ← match body with
        | .select _ columns source filter groupBy having =>
          checkSelect fuel n columns source filter groupBy having order
        | _ => do
          let cols ← checkQuery fuel n body
          for (t, i) in order.zip (List.range order.length) do
            match t.expr with
            | .lit (.integer k) =>
              if k < 1 || k > cols.length then
                refuse (ordinalWord (i + 1) ++ " ORDER BY term out of range - should be between 1 and " ++
                  toString cols.length)
            | .column none c =>
              if !cols.any (sameName · c) then
                refuse (ordinalWord (i + 1) ++ " ORDER BY term does not match any column in the result set")
            | _ =>
              refuse (ordinalWord (i + 1) ++ " ORDER BY term does not match any column in the result set")
          pure cols
      let plain := { n with frames := [], aggregates := false, aliases := [] }
      if let some l := limit then checkExpr fuel plain l
      if let some o := offset then checkExpr fuel plain o
      pure cols
    | .scoped _ ctes body =>
      let named := ctes.map fun (.cte name cols q) => ({ name, columns := cols, query := q } : NamedQuery)
      checkQuery fuel { n with ctes := named.reverse ++ n.ctes } body

/-- Checks the rows of a `VALUES` list. -/
def checkRows : Nat → Names → List (List Expr) → Except DbError Unit
  | 0, _, _ => refuse "parser stack overflow"
  | _ + 1, _, [] => .ok ()
  | fuel + 1, n, r :: rest => do
    checkExprs fuel n r
    checkRows fuel n rest

/-- Checks a `SELECT` with its order: its sources, its result columns, its filter, its grouping
and its order, in that order. -/
def checkSelect : Nat → Names → List ResultColumn → Option Source → Option Expr → List Expr →
    Option Expr → List OrderTerm → Except DbError (List String)
  | 0, _, _, _, _, _, _, _ => refuse "parser stack overflow"
  | fuel + 1, n, columns, source, filter, groupBy, having, order => do
    let sources ← match source with
      | some src => checkSource fuel { n with aggregates := false, aliases := [] } src
      | none => pure []
    if source.isNone && columns.any (fun | .all => true | _ => false) then
      refuse "no tables specified"
    for c in columns do
      if let .allOf t := c then
        if !sources.any (sameName ·.name t) then refuse ("no such table: " ++ t)
    let names := resultNames sources columns
    let aliases := columns.filterMap fun
      | .expr _ (some a) _ => some a
      | _ => none
    let here : Names := { n with frames := sources :: n.frames, aggregates := true, aliases := [] }
    for c in columns do
      if let .expr e _ _ := c then checkExpr fuel here e
    if let some f := filter then
      checkExpr fuel { here with aggregates := false, aliases } f
    for (g, i) in groupBy.zip (List.range groupBy.length) do
      match g with
      | .lit (.integer k) =>
        if k < 1 || k > names.length then
          refuse (ordinalWord (i + 1) ++ " GROUP BY term out of range - should be between 1 and " ++
            toString names.length)
      | _ => checkExpr fuel { here with aggregates := false, aliases } g
    if let some h := having then checkExpr fuel { here with aliases } h
    for (t, i) in order.zip (List.range order.length) do
      match t.expr with
      | .lit (.integer k) =>
        if k < 1 || k > names.length then
          refuse (ordinalWord (i + 1) ++ " ORDER BY term out of range - should be between 1 and " ++
            toString names.length)
      | e => checkExpr fuel { here with aliases } e
    pure names
end

end SnapshotAgent.Store
