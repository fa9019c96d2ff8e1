import SnapshotAgent.Store.Table
import SnapshotAgent.Store.Sql.Functions
/-!
# Evaluating expressions and queries

Expressions are evaluated in a `Scope`: the database, the bound parameters, and a stack of
frames, one per query level, each holding the current row of every source of that level's
`FROM` clause. A column name is looked up level by level from the innermost, so a subquery sees
the rows of the queries around it.

The engine's rules of evaluation:

* three-valued logic: a comparison with `NULL` is `NULL`; `AND` is false as soon as one side is,
  `OR` true as soon as one side is; truth values are the integers 1 and 0;
* before a comparison both sides are converted by one affinity: a numeric one when either side
  is a column (or cast) of numeric affinity, else the text affinity of the one side that has it;
  texts then compare by the collation of the left side's `COLLATE` or column, else the right's;
* arithmetic reads texts by their numeric prefix; an integer result that leaves the 64-bit range
  is computed in doubles instead; division by zero is `NULL`;
* `AND`, `OR`, `CASE`, `COALESCE`, `IFNULL` and `IIF` evaluate only the operands they need.

A query runs as a `SELECT` does: the rows of its sources (tables, views, common table
expressions, subqueries and joins) are filtered, grouped when it aggregates, projected, made
distinct, ordered and cut to its limit. `UNION`, `INTERSECT` and `EXCEPT` give their rows in
sorted order, `UNION ALL` in the order of its two sides.

Evaluation is bounded by `fuel`, which every nested expression or query takes one from; running
out stops evaluation with an error.
-/

namespace SnapshotAgent.Store

/-- A column a source offers to expressions. -/
structure ColumnInfo where
  name : String
  affinity : Affinity := .none
  collation : Option Collation := none
  deriving Inhabited

/-- The rows a query produced, with its columns. -/
structure Relation where
  columns : List ColumnInfo := []
  rows : List (List Cell) := []
  deriving Inhabited

/-- A source of a `FROM` clause bound to one of its rows. A table's row carries its row id; a
row that a join filled with `NULL`s carries none. Columns a `USING` join merged are hidden from
`*`. -/
structure Binding where
  name : String
  columns : List ColumnInfo
  values : List Cell
  hasRowid : Bool := false
  rowid : Option Int := none
  hidden : List String := []
  /-- Whether the binding answers only names qualified with its name, as the rows `NEW` and
  `OLD` of a trigger and `excluded` of an upsert do. -/
  qualifiedOnly : Bool := false
  deriving Inhabited

/-- The current row of every source of one query level. -/
abbrev Frame := List Binding

/-- Why evaluation stopped: a failure, with how much of the work it undoes, or a trigger's
`RAISE(IGNORE)`, which drops the change of the current row. -/
inductive Stop where
  | failed (e : DbError) (mode : Conflict)
  | ignored
  deriving Inhabited

/-- A failure that undoes the statement. -/
def Stop.abort (e : DbError) : Stop := .failed e .abort

/-- A common table expression in scope. -/
structure NamedQuery where
  name : String
  columns : List String
  query : Query
  deriving Inhabited

/-- What evaluation sees. -/
structure Scope where
  db : Database
  params : List Cell := []
  frames : List Frame := []
  ctes : List NamedQuery := []
  /-- The rows of the current group, when a query aggregates. -/
  group : Option (List Frame) := none
  /-- Result columns a filter may name by their alias. -/
  aliases : List (String × Expr) := []
  call : CallContext := {}
  deriving Inhabited

/-- The value and column of a name in a binding; the row id's names give the row id unless a
column has that name. -/
def Binding.find (b : Binding) (name : String) : Option (Cell × ColumnInfo) :=
  match b.columns.findIdx? (fun c => sameName c.name name) with
  | some i => some (b.values.getD i .null, b.columns.getD i default)
  | none =>
    if b.hasRowid && isRowidName name then
      some ((b.rowid.map Cell.integer).getD .null, { name, affinity := .integer })
    else none

/-- The value and column of a name in a frame, in the named source when a table is named. -/
def Frame.find (f : Frame) (table : Option String) (name : String) : Option (Cell × ColumnInfo) :=
  f.findSome? fun b =>
    match table with
    | some t => if sameName b.name t then b.find name else none
    | none => if b.qualifiedOnly then none else b.find name

/-- The value and column of a name, looked up from the innermost frame outwards. -/
def Scope.find (s : Scope) (table : Option String) (name : String) : Option (Cell × ColumnInfo) :=
  s.frames.findSome? (·.find table name)

/-- The scope of a subquery: the current rows become outer rows, and grouping and aliases end. -/
def Scope.enter (s : Scope) (f : Frame) : Scope :=
  { s with frames := f :: s.frames, group := none, aliases := [] }

/-! ## Affinity and collation of expressions -/

/-- The affinity an expression lends to a comparison: a column's own, a cast's type, through
`COLLATE`; a scalar subquery's first column when it is a plain column. -/
def exprAffinity (s : Scope) : Expr → Affinity
  | .column t n => ((s.find t n).map (·.2.affinity)).getD .none
  | .quotedColumn n => ((s.find none n).map (·.2.affinity)).getD .none
  | .cast _ ty => Affinity.ofDeclared ty
  | .collate e _ => exprAffinity s e
  | _ => .none

/-- The collation of an expression and whether it was named by `COLLATE`: through casts and
unary plus to a column's own, or the first `COLLATE` inside an operator. -/
def exprCollation (s : Scope) : Expr → Option (Collation × Bool)
  | .collate _ name => (Collation.ofName? name).map (·, true)
  | .column t n => (s.find t n).bind fun (_, c) => c.collation.map (·, false)
  | .quotedColumn n => (s.find none n).bind fun (_, c) => c.collation.map (·, false)
  | .cast e _ | .unary .plus e => exprCollation s e
  | .binary _ a b =>
    match exprCollation s a with
    | some (c, true) => some (c, true)
    | _ => match exprCollation s b with
      | some (c, true) => some (c, true)
      | _ => none
  | _ => none

/-- The collation of a comparison: an explicit one of the left side, then of the right, then a
column's of the left, then of the right; else byte order. -/
def comparisonCollation (s : Scope) (a b : Expr) : Collation :=
  match exprCollation s a, exprCollation s b with
  | some (c, true), _ => c
  | _, some (c, true) => c
  | some (c, false), _ => c
  | _, some (c, false) => c
  | _, _ => .binary

/-- Whether an affinity is one of the numeric ones. -/
def Affinity.isNumeric (a : Affinity) : Bool := a = .numeric || a = .integer || a = .real

/-- The affinity both sides of a comparison are converted by. -/
def comparisonAffinity (a b : Affinity) : Affinity :=
  if a != .none && b != .none then
    if a.isNumeric || b.isNumeric then .numeric else .none
  else if a != .none then a else b

/-- A truth value as a value. -/
def ofBool (b : Bool) : Cell := .integer (if b then 1 else 0)

/-- A truth value that may be unknown. -/
def ofTruth : Option Bool → Cell
  | some b => ofBool b
  | none => .null

/-- Compares two values after converting them by an affinity, under a collation; `NULL` on
either side gives none. -/
def compareUnder (aff : Affinity) (coll : Collation) (a b : Cell) : Option Ordering :=
  match a, b with
  | .null, _ | _, .null => none
  | _, _ => some ((a.applyAffinity aff).compareWith coll (b.applyAffinity aff))

/-- Whether an ordering satisfies a comparison operator. -/
def BinOp.accepts (op : BinOp) (o : Ordering) : Bool :=
  match op with
  | .eq | .is => o == .eq
  | .ne | .isNot => o != .eq
  | .lt => o == .lt
  | .le => o != .gt
  | .gt => o == .gt
  | .ge => o != .lt
  | _ => false

/-- Arithmetic on two values: integers while the result fits, else doubles; `NULL` on either
side, division by zero and a NaN result give `NULL`. -/
def arithmetic (op : BinOp) (a b : Cell) : Cell :=
  match a.numeric, b.numeric with
  | .null, _ | _, .null => .null
  | x, y =>
    let real (p q : Float) : Cell :=
      let r := match op with
        | .add => p + q
        | .sub => p - q
        | .mul => p * q
        | _ => p / q
      if r.isNaN then .null else .real r
    match x, y with
    | .integer m, .integer n =>
      match op with
      | .add => if fitsInteger (m + n) then .integer (m + n) else real (Float.ofInt m) (Float.ofInt n)
      | .sub => if fitsInteger (m - n) then .integer (m - n) else real (Float.ofInt m) (Float.ofInt n)
      | .mul => if fitsInteger (m * n) then .integer (m * n) else real (Float.ofInt m) (Float.ofInt n)
      | .div =>
        if n = 0 then .null
        else if m = minInteger && n = -1 then real (Float.ofInt m) (Float.ofInt n)
        else .integer (m.tdiv n)
      | .rem => if n = 0 then .null else .integer (m.tmod (if n = -1 then 1 else n))
      | _ => .null
    | _, _ =>
      match op with
      | .rem =>
        let m := x.toInteger
        let n := y.toInteger
        if n = 0 then .null else .real (Float.ofInt (m.tmod (if n = -1 then 1 else n)))
      | .div => if y.toDouble == 0.0 then .null else real x.toDouble y.toDouble
      | _ => real x.toDouble y.toDouble

/-- A 64-bit integer operation's result wrapped into range. -/
def wrapInteger (v : Int) : Int :=
  let m := v % Int.pow 2 64
  if m ≥ Int.pow 2 63 then m - Int.pow 2 64 else m

/-- The bit operators on the integer values of two cells. -/
def bitwise (op : BinOp) (a b : Cell) : Cell :=
  match a, b with
  | .null, _ | _, .null => .null
  | _, _ =>
    let m := a.numeric.toInteger
    let n := b.numeric.toInteger
    let toBits (v : Int) : Nat := (v % Int.pow 2 64).toNat
    let ofBits (v : Nat) : Int := wrapInteger v
    match op with
    | .bitAnd => .integer (ofBits (toBits m &&& toBits n))
    | .bitOr => .integer (ofBits (toBits m ||| toBits n))
    | .shiftLeft | .shiftRight =>
      let left : Bool := if op = .shiftLeft then decide (n ≥ 0) else decide (n < 0)
      let k := n.natAbs
      if left then (if k ≥ 64 then .integer 0 else .integer (ofBits (toBits m * Nat.pow 2 k)))
      else if k ≥ 64 then .integer (if m < 0 then -1 else 0)
      else .integer (m.fdiv (Int.pow 2 k))
    | _ => .null

/-- The text of two values joined; `NULL` on either side gives `NULL`. -/
def concatCells (a b : Cell) : Cell :=
  match a, b with
  | .null, _ | _, .null => .null
  | _, _ => .text (a.textOr ++ b.textOr)

/-- A value converted to a declared type, as `CAST` does: texts read by their numeric prefix,
reals cut toward zero for integers, and a blob for a type of no affinity. -/
def castCell (ty : String) (c : Cell) : Cell :=
  match c with
  | .null => .null
  | _ =>
    match Affinity.ofDeclared ty with
    | .none => .blob c.bytes
    | .text => .text c.textOr
    | .integer => .integer c.toInteger
    | .real => .real c.toDouble
    | .numeric =>
      match c with
      | .integer _ | .real _ => c
      | _ =>
        let s := c.textOr
        let (rc, r) := scanReal s
        let (ri, ix) := scanInteger s
        if ((rc == 0 || rc == 1) && ri ≤ 1) then .integer ix
        else
          let i := realToInteger r
          if realSameAsInt r i then .integer i else .real r

/-- Whether a value is `NULL`. -/
def Cell.isNull : Cell → Bool
  | .null => true
  | _ => false

/-- Whether two rows hold the same values, `NULL`s counting as equal. -/
def sameRow (a b : List Cell) : Bool :=
  a.length == b.length && (a.zip b).all fun (x, y) =>
    match x, y with
    | .null, .null => true
    | .null, _ | _, .null => false
    | _, _ => x.compare y == .eq

/-- Rows without repeats, the first of each kept. -/
def distinctRows (rows : List (List Cell)) : List (List Cell) :=
  rows.foldl (fun acc r => if acc.any (sameRow · r) then acc else acc ++ [r]) []

/-- Compares two rows value by value. -/
def compareRows : List Cell → List Cell → Ordering
  | [], [] => .eq
  | [], _ => .lt
  | _, [] => .gt
  | a :: as, b :: bs => match a.compare b with
    | .eq => compareRows as bs
    | o => o

/-- A key to order rows by: its value, whether descending, where `NULL`s go, and the collation. -/
structure SortKey where
  value : Cell
  descending : Bool
  nullsFirst : Bool
  collation : Collation
  deriving Inhabited

/-- Compares two lists of sort keys. -/
def compareKeys : List SortKey → List SortKey → Ordering
  | a :: as, b :: bs =>
    let o := match a.value, b.value with
      | .null, .null => Ordering.eq
      | .null, _ => if a.nullsFirst then .lt else .gt
      | _, .null => if a.nullsFirst then .gt else .lt
      | x, y =>
        let o := x.compareWith a.collation y
        if a.descending then o.swap else o
    if o == .eq then compareKeys as bs else o
  | _, _ => .eq

/-- Sorts rows by their keys, rows with equal keys keeping their order. -/
def sortByKeys {α : Type} (rows : List (α × List SortKey)) : List α :=
  (rows.mergeSort fun a b => compareKeys a.2 b.2 != .gt).map (·.1)

/-- The result of a comparison of two rows of values for `IN`: equal, unknown, or different. -/
def inResult (found unknown negated : Bool) : Cell :=
  if found then ofBool (!negated) else if unknown then .null else ofBool negated

mutual
/-- The aggregate calls of an expression, outside subqueries: each function's name and
arguments, `count(*)` with none. -/
def Expr.aggregates : Expr → List (String × List Expr)
  | .call fn _ args =>
    if isAggregateCall fn args.length then [(lowerAscii fn, args)] ++ Expr.aggregatesOfList args
    else Expr.aggregatesOfList args
  | .callStar fn => if lowerAscii fn = "count" then [("count", [])] else []
  | .unary _ e | .isNull e _ | .cast e _ | .collate e _ | .inQuery e _ _ => e.aggregates
  | .binary _ a b => a.aggregates ++ b.aggregates
  | .between e lo hi _ => e.aggregates ++ lo.aggregates ++ hi.aggregates
  | .inList e items _ => e.aggregates ++ Expr.aggregatesOfList items
  | .case operand arms otherwise =>
    (match operand with
      | some o => o.aggregates
      | none => []) ++ Expr.aggregatesOfArms arms ++
    (match otherwise with
      | some o => o.aggregates
      | none => [])
  | _ => []

/-- The aggregate calls of a list of expressions, in order. -/
def Expr.aggregatesOfList : List Expr → List (String × List Expr)
  | [] => []
  | e :: es => e.aggregates ++ Expr.aggregatesOfList es

/-- The aggregate calls of the arms of a `CASE`, in order. -/
def Expr.aggregatesOfArms : List (Expr × Expr) → List (String × List Expr)
  | [] => []
  | (w, t) :: rest => w.aggregates ++ t.aggregates ++ Expr.aggregatesOfArms rest
end

/-- Whether an expression calls an aggregate, outside subqueries. -/
def Expr.hasAggregate (e : Expr) : Bool := !e.aggregates.isEmpty

/-- The `min` or `max` of a query whose only aggregate it is: the other columns of a group then
come from the row that holds the extreme, else from the group's last row. The flag says `max`. -/
def soleExtreme (calls : List (String × List Expr)) : Option (Bool × Expr) :=
  match calls with
  | [("max", [arg])] => some (true, arg)
  | [("min", [arg])] => some (false, arg)
  | _ => none

/-- The name a result column takes: its alias, else a column's own name, else its text. -/
def resultName (e : Expr) (asName : Option String) (text : String) : String :=
  match asName with
  | some a => a
  | none => match e with
    | .column _ n => n
    | _ => text

/-- A run out of fuel. -/
def exhausted : Stop := .abort (engineError 1 "parser stack overflow")

/-- Whether a value must be an integer for `LIMIT` and `OFFSET`; answers it. -/
def limitValue (c : Cell) : Except Stop Int :=
  match c with
  | .integer n => .ok n
  | .real x => match wholeInteger? x with
    | some n => .ok n
    | none => .error (.abort (engineError 20 "datatype mismatch"))
  | .text s => match numberOfText? s with
    | some (.integer n) => .ok n
    | some (.real x) => match wholeInteger? x with
      | some n => .ok n
      | none => .error (.abort (engineError 20 "datatype mismatch"))
    | _ => .error (.abort (engineError 20 "datatype mismatch"))
  | _ => .error (.abort (engineError 20 "datatype mismatch"))

/-- The shape of a table's rows as a binding with `NULL`s. -/
def Table.shape (t : Table) (asName : Option String) : Binding :=
  { name := asName.getD t.name,
    columns := t.columns.map fun c => { name := c.name, affinity := c.affinity, collation := c.collation },
    values := t.columns.map fun _ => .null,
    hasRowid := !t.withoutRowid }

/-- A table's row as a binding. -/
def Table.bind (t : Table) (asName : Option String) (r : Row) : Binding :=
  { t.shape asName with values := r.cells, rowid := if t.withoutRowid then none else some r.rowid }

/-- A relation's shape as a binding of the given name. -/
def Relation.shape (r : Relation) (name : String) : Binding :=
  { name, columns := r.columns, values := r.columns.map fun _ => .null }

/-- A binding with its values replaced by `NULL`s, as the unmatched side of an outer join. -/
def Binding.nulled (b : Binding) : Binding :=
  { b with values := b.values.map fun _ => .null, rowid := none }

/-- A relation's columns renamed, as a view or a common table expression names them. -/
def Relation.renamed (r : Relation) (names : List String) : Relation :=
  if names.isEmpty then r
  else { r with columns := (r.columns.zip names).map fun (c, n) => { c with name := n } }

mutual
/-- Evaluates an expression in a scope. -/
def evalExpr : Nat → Scope → Expr → Except Stop Cell
  | 0, _, _ => .error exhausted
  | fuel + 1, s, e =>
    match e with
    | .lit c => .ok c
    | .param n => .ok (s.params.getD (n - 1) .null)
    | .column t n =>
      match s.find t n with
      | some (v, _) => .ok v
      | none =>
        match t, s.aliases.find? (fun (a, _) => sameName a n) with
        | none, some (_, aliased) => evalExpr fuel { s with aliases := [] } aliased
        | _, _ => .ok .null
    | .quotedColumn n =>
      match s.find none n with
      | some (v, _) => .ok v
      | none =>
        match s.aliases.find? (fun (a, _) => sameName a n) with
        | some (_, aliased) => evalExpr fuel { s with aliases := [] } aliased
        | none => .ok (.text n)
    | .unary op a => do
      let v ← evalExpr fuel s a
      match op with
      | .not => .ok (ofTruth (v.truth?.map (!·)))
      | .neg => .ok (arithmetic .sub (.integer 0) v)
      | .plus => .ok v
      | .bitNot => .ok (match v with
        | .null => .null
        | _ => .integer (-(v.numeric.toInteger) - 1))
    | .binary op a b =>
      match op with
      | .and => do
        let x ← evalExpr fuel s a
        if x.truth? == some false then return ofBool false
        let y ← evalExpr fuel s b
        .ok (match x.truth?, y.truth? with
          | _, some false => ofBool false
          | some true, some true => ofBool true
          | _, _ => .null)
      | .or => do
        let x ← evalExpr fuel s a
        if x.truth? == some true then return ofBool true
        let y ← evalExpr fuel s b
        .ok (match x.truth?, y.truth? with
          | _, some true => ofBool true
          | some false, some false => ofBool false
          | _, _ => .null)
      | .add | .sub | .mul | .div | .rem => do
        let x ← evalExpr fuel s a
        let y ← evalExpr fuel s b
        .ok (arithmetic op x y)
      | .concat => do
        let x ← evalExpr fuel s a
        let y ← evalExpr fuel s b
        .ok (concatCells x y)
      | .bitAnd | .bitOr | .shiftLeft | .shiftRight => do
        let x ← evalExpr fuel s a
        let y ← evalExpr fuel s b
        .ok (bitwise op x y)
      | .is | .isNot => do
        let x ← evalExpr fuel s a
        let y ← evalExpr fuel s b
        let aff := comparisonAffinity (exprAffinity s a) (exprAffinity s b)
        let same := match x, y with
          | .null, .null => true
          | .null, _ | _, .null => false
          | _, _ => compareUnder aff (comparisonCollation s a b) x y == some .eq
        .ok (ofBool (if op = .is then same else !same))
      | _ => do
        let x ← evalExpr fuel s a
        let y ← evalExpr fuel s b
        let aff := comparisonAffinity (exprAffinity s a) (exprAffinity s b)
        .ok (ofTruth ((compareUnder aff (comparisonCollation s a b) x y).map op.accepts))
    | .isNull a negated => do
      let v ← evalExpr fuel s a
      .ok (ofBool (v.isNull != negated))
    | .between a lo hi negated => do
      let x ← evalExpr fuel s a
      let l ← evalExpr fuel s lo
      let h ← evalExpr fuel s hi
      let aff (o : Expr) := comparisonAffinity (exprAffinity s a) (exprAffinity s o)
      let ge := (compareUnder (aff lo) (comparisonCollation s a lo) x l).map BinOp.ge.accepts
      let le := (compareUnder (aff hi) (comparisonCollation s a hi) x h).map BinOp.le.accepts
      let both := match ge, le with
        | some false, _ | _, some false => some false
        | some true, some true => some true
        | _, _ => none
      .ok (ofTruth (both.map fun t => t != negated))
    | .inList a items negated => do
      let x ← evalExpr fuel s a
      let ys ← evalList fuel s items
      if items.isEmpty then return ofBool negated
      match x with
      | .null => .ok .null
      | _ =>
        let affA := exprAffinity s a
        let coll := (exprCollation s a).map (·.1) |>.getD .binary
        let results := (items.zip ys).map fun (ie, y) =>
          compareUnder (comparisonAffinity affA (exprAffinity s ie)) coll x y
        .ok (inResult (results.any (· == some .eq)) (results.any (· == none)) negated)
    | .inQuery a q negated => do
      let x ← evalExpr fuel s a
      let r ← runQuery fuel (s.enter []) q
      if r.rows.isEmpty then return ofBool negated
      match x with
      | .null => .ok .null
      | _ =>
        let colAff := ((r.columns.head?).map (·.affinity)).getD .none
        let aff := comparisonAffinity (exprAffinity s a) colAff
        let coll := (exprCollation s a).map (·.1) |>.getD
          (((r.columns.head?).bind (·.collation)).getD .binary)
        let results := r.rows.map fun row => compareUnder aff coll x (row.getD 0 .null)
        .ok (inResult (results.any (· == some .eq)) (results.any (· == none)) negated)
    | .exists q => do
      let r ← runQuery fuel (s.enter []) q
      .ok (ofBool !r.rows.isEmpty)
    | .scalar q => do
      let r ← runQuery fuel (s.enter []) q
      .ok (((r.rows.head?).bind (·.head?)).getD .null)
    | .callStar fn =>
      if lowerAscii fn = "count" then
        .ok (.integer ((s.group.map List.length).getD 1))
      else .ok .null
    | .call fn distinct args =>
      let name := lowerAscii fn
      match s.group with
      | some rows =>
        if isAggregateCall fn args.length then do
          let rest := s.frames.drop 1
          let vals ← rows.mapM fun f =>
            evalList fuel { s with frames := f :: rest, group := none } args
          let vals := if distinct then
              (distinctRows (vals.filter fun r => !(r.head?.any Cell.isNull)))
            else vals
          (aggregateOf fn vals).mapError Stop.abort
        else evalCall fuel s name fn args
      | none =>
        if isAggregateCall fn args.length && (scalarArity fn).all (fun ok => !ok args.length) then do
          let vals ← evalList fuel s args
          (aggregateOf fn [vals]).mapError Stop.abort
        else evalCall fuel s name fn args
    | .case operand arms otherwise => do
      let base ← match operand with
        | some o => (some ·) <$> evalExpr fuel s o
        | none => pure none
      evalArms fuel s operand base arms otherwise
    | .cast a ty => do
      let v ← evalExpr fuel s a
      .ok (castCell ty v)
    | .collate a _ => evalExpr fuel s a
    | .raise action message =>
      match action with
      | .ignore => .error .ignored
      | .abort => .error (.failed (engineError 1811 message) .abort)
      | .fail => .error (.failed (engineError 1811 message) .fail)
      | .rollback => .error (.failed (engineError 1811 message) .rollback)

/-- Calls a non-aggregate function; `COALESCE`, `IFNULL` and `IIF` evaluate only the arguments
they need. -/
def evalCall : Nat → Scope → String → String → List Expr → Except Stop Cell
  | 0, _, _, _, _ => .error exhausted
  | fuel + 1, s, name, fn, args =>
    if name = "coalesce" || name = "ifnull" then firstNonNull fuel s args
    else if name = "iif" then do
      let c ← evalExpr fuel s (args.getD 0 (.lit .null))
      if c.truth? == some true then evalExpr fuel s (args.getD 1 (.lit .null))
      else evalExpr fuel s (args.getD 2 (.lit .null))
    else do
      let vs ← evalList fuel s args
      (callScalar s.call fn vs).mapError Stop.abort

/-- The first argument that is not `NULL`, evaluating no further. -/
def firstNonNull : Nat → Scope → List Expr → Except Stop Cell
  | 0, _, _ => .error exhausted
  | _ + 1, _, [] => .ok .null
  | fuel + 1, s, a :: rest => do
    let v ← evalExpr fuel s a
    if v.isNull then firstNonNull fuel s rest else .ok v

/-- Evaluates the arms of a `CASE`: the first whose condition holds (or whose value equals the
operand) gives the result. -/
def evalArms : Nat → Scope → Option Expr → Option Cell → List (Expr × Expr) → Option Expr →
    Except Stop Cell
  | 0, _, _, _, _, _ => .error exhausted
  | fuel + 1, s, operand, base, arms, otherwise =>
    match arms with
    | [] => match otherwise with
      | some o => evalExpr fuel s o
      | none => .ok .null
    | (w, t) :: rest => do
      let c ← evalExpr fuel s w
      let hit : Bool := match operand, base with
        | some o, some b =>
          let aff := comparisonAffinity (exprAffinity s o) (exprAffinity s w)
          compareUnder aff (comparisonCollation s o w) b c == some .eq
        | _, _ => c.truth? == some true
      if hit then evalExpr fuel s t else evalArms fuel s operand base rest otherwise

/-- Evaluates a list of expressions in order. -/
def evalList : Nat → Scope → List Expr → Except Stop (List Cell)
  | 0, _, _ => .error exhausted
  | _ + 1, _, [] => .ok []
  | fuel + 1, s, e :: es => do
    let v ← evalExpr fuel s e
    let vs ← evalList fuel s es
    .ok (v :: vs)

/-- The shape of a source and its rows, each a frame with one binding per table. -/
def sourceFrames : Nat → Scope → Source → Except Stop (Frame × List Frame)
  | 0, _, _ => .error exhausted
  | fuel + 1, s, src =>
    match src with
    | .table name asName =>
      match s.ctes.find? (fun q => sameName q.name name) with
      | some q => do
        let later := s.ctes.dropWhile fun c => !sameName c.name name
        let inner : Scope := { s with frames := [], ctes := later.drop 1, group := none, aliases := [] }
        let r ← runQuery fuel inner q.query
        let r := r.renamed q.columns
        let shape := r.shape (asName.getD q.name)
        .ok ([shape], r.rows.map fun row => [{ shape with values := row }])
      | none =>
        match s.db.table? name with
        | some t => .ok ([t.shape asName], t.rows.map fun r => [t.bind asName r])
        | none =>
          match s.db.view? name with
          | some v => do
            let inner : Scope := { s with frames := [], ctes := [], group := none, aliases := [] }
            let r ← runQuery fuel inner v.query
            let r := r.renamed v.columns
            let shape := r.shape (asName.getD v.name)
            .ok ([shape], r.rows.map fun row => [{ shape with values := row }])
          | none => .error (.abort (engineError 1 ("no such table: " ++ name)))
    | .query q asName => do
      let r ← runQuery fuel { s with group := none, aliases := [] } q
      let shape := r.shape (asName.getD "")
      .ok ([shape], r.rows.map fun row => [{ shape with values := row }])
    | .join kind natural a b on usingCols => do
      let (shapeA, rowsA) ← sourceFrames fuel s a
      let (shapeB, rowsB) ← sourceFrames fuel s b
      let namesB := shapeB.flatMap fun bd => bd.columns.map (·.name)
      let namesA := shapeA.flatMap fun bd => bd.columns.map (·.name)
      let shared := if natural then namesA.filter fun n => namesB.any (sameName · n) else usingCols
      let hideIn (f : Frame) : Frame := f.map fun bd =>
        { bd with hidden := bd.hidden ++ (shared.filter fun n => bd.columns.any (sameName ·.name n)) }
      let nullA := shapeA.map Binding.nulled
      let nullB := hideIn (shapeB.map Binding.nulled)
      let pairMatches (ra rb : Frame) : Except Stop Bool := do
        let joined := ra ++ rb
        let usingOk := shared.all fun n =>
          match ra.find none n, rb.find none n with
          | some (x, cx), some (y, cy) =>
            compareUnder (comparisonAffinity cx.affinity cy.affinity)
              ((cx.collation.orElse fun _ => cy.collation).getD .binary) x y == some .eq
          | _, _ => false
        if !usingOk then return false
        match on with
        | some cond => do
          let v ← evalExpr fuel { s with frames := joined :: s.frames, group := none, aliases := [] } cond
          pure (v.truth? == some true)
        | none => pure true
      let pairs ← rowsA.mapM fun ra => do
        let hits ← rowsB.filterM fun rb => pairMatches ra rb
        pure (ra, hits)
      let left := pairs.flatMap fun (ra, hits) =>
        if hits.isEmpty then (if kind = .left || kind = .full then [ra ++ nullB] else [])
        else hits.map fun rb => ra ++ hideIn rb
      let right ← if kind = .right || kind = .full then
          rowsB.filterM fun rb => do
            let any ← rowsA.anyM fun ra => pairMatches ra rb
            pure !any
        else pure []
      .ok (shapeA ++ hideIn shapeB, left ++ right.map fun rb => nullA ++ hideIn rb)

/-- Runs a query. -/
def runQuery : Nat → Scope → Query → Except Stop Relation
  | 0, _, _ => .error exhausted
  | fuel + 1, s, q =>
    match q with
    | .select distinct columns source filter groupBy having =>
      runSelect fuel s distinct columns source filter groupBy having [] none none
    | .values rows => do
      let vals ← evalRows fuel s rows
      let width := (rows.head?.map List.length).getD 0
      .ok { columns := (List.range width).map fun i => { name := "column" ++ toString (i + 1) },
            rows := vals }
    | .compound op a b => do
      let ra ← runQuery fuel s a
      let rb ← runQuery fuel s b
      let sorted (rows : List (List Cell)) := rows.mergeSort fun x y => compareRows x y != .gt
      let rows := match op with
        | .unionAll => ra.rows ++ rb.rows
        | .union => sorted (distinctRows (ra.rows ++ rb.rows))
        | .intersect => sorted (distinctRows (ra.rows.filter fun r => rb.rows.any (sameRow · r)))
        | .except => sorted (distinctRows (ra.rows.filter fun r => !rb.rows.any (sameRow · r)))
      .ok { ra with rows }
    | .ordered body order limit offset =>
      match body with
      | .select distinct columns source filter groupBy having =>
        runSelect fuel s distinct columns source filter groupBy having order limit offset
      | _ => do
        let r ← runQuery fuel s body
        let keyed ← r.rows.mapM fun row => do
          let keys ← order.mapM fun (.term e descending nullsFirst) => do
            let v ← match e with
              | .lit (.integer k) => pure (row.getD (k.toNat - 1) .null)
              | .column none n =>
                match r.columns.findIdx? (fun c => sameName c.name n) with
                | some i => pure (row.getD i .null)
                | none => evalExpr fuel s e
              | _ => evalExpr fuel s e
            pure ({ value := v, descending, nullsFirst := nullsFirst.getD !descending,
                    collation := .binary } : SortKey)
          pure (row, keys)
        let rows := sortByKeys keyed
        let rows ← cutRows fuel s rows limit offset
        .ok { r with rows }
    | .scoped _ ctes body =>
      let named := ctes.map fun (.cte name cols q) => ({ name, columns := cols, query := q } : NamedQuery)
      runQuery fuel { s with ctes := named.reverse ++ s.ctes } body

/-- Evaluates the rows of a `VALUES` list. -/
def evalRows : Nat → Scope → List (List Expr) → Except Stop (List (List Cell))
  | 0, _, _ => .error exhausted
  | _ + 1, _, [] => .ok []
  | fuel + 1, s, r :: rest => do
    let v ← evalList fuel s r
    let vs ← evalRows fuel s rest
    .ok (v :: vs)

/-- Applies `LIMIT` and `OFFSET`: a negative limit is none, a negative offset none. -/
def cutRows : Nat → Scope → List (List Cell) → Option Expr → Option Expr →
    Except Stop (List (List Cell))
  | 0, _, _, _, _ => .error exhausted
  | fuel + 1, s, rows, limit, offset => do
    let lim ← match limit with
      | some e => do let v ← evalExpr fuel { s with frames := [] } e; (some ·) <$> limitValue v
      | none => pure none
    let off ← match offset with
      | some e => do let v ← evalExpr fuel { s with frames := [] } e; limitValue v
      | none => pure 0
    let rows := rows.drop off.toNat
    .ok (match lim with
      | some n => if n < 0 then rows else rows.take n.toNat
      | none => rows)

/-- Runs a `SELECT` with its order and limit. -/
def runSelect : Nat → Scope → Bool → List ResultColumn → Option Source → Option Expr →
    List Expr → Option Expr → List OrderTerm → Option Expr → Option Expr → Except Stop Relation
  | 0, _, _, _, _, _, _, _, _, _, _ => .error exhausted
  | fuel + 1, s, distinct, columns, source, filter, groupBy, having, order, limit, offset => do
    let (shape, frames) ← match source with
      | some src => sourceFrames fuel s src
      | none => pure ([], [[]])
    -- the result columns, with `*` expanded
    let items : List (Expr × String × ColumnInfo) := columns.flatMap fun
      | .all => shape.flatMap fun b =>
        (b.columns.filter fun c => !b.hidden.any (sameName · c.name)).map fun c =>
          (Expr.column (some b.name) c.name, c.name, c)
      | .allOf t => (shape.filter fun b => sameName b.name t).flatMap fun b =>
        b.columns.map fun c => (Expr.column (some b.name) c.name, c.name, c)
      | .expr e asName text => [(e, resultName e asName text, { name := resultName e asName text })]
    let exprs := items.map (·.1)
    let aliases := items.filterMap fun (e, n, _) => match e with
      | .column _ _ => none
      | _ => some (n, e)
    let here (f : Frame) : Scope := { s with frames := f :: s.frames, group := none, aliases }
    -- the rows the filter keeps
    let kept ← frames.filterM fun f => match filter with
      | some cond => do
        let v ← evalExpr fuel (here f) cond
        pure (v.truth? == some true)
      | none => pure true
    let aggregating := !groupBy.isEmpty || exprs.any Expr.hasAggregate ||
      (having.map Expr.hasAggregate).getD false || order.any (fun t => t.expr.hasAggregate)
    -- rows of the result, each with its order keys
    let orderExpr (t : OrderTerm) : Expr :=
      match t.expr with
      | .lit (.integer k) => exprs.getD (k.toNat - 1) t.expr
      | .column none n =>
        if (shape.find none n).isSome then t.expr
        else match items.find? (fun (_, name, _) => sameName name n) with
          | some (e, _, _) => e
          | none => t.expr
      | e => e
    let keysIn (sc : Scope) : Except Stop (List SortKey) :=
      order.mapM fun t => do
        let (.term _ descending nullsFirst) := t
        let e := orderExpr t
        let v ← evalExpr fuel sc e
        pure { value := v, descending, nullsFirst := nullsFirst.getD !descending,
               collation := ((exprCollation sc e).map (·.1)).getD .binary }
    let produced ← if aggregating then do
        let keyed ← kept.mapM fun f => do
          let k ← evalList fuel (here f) groupBy
          pure (f, k)
        let groups : List (List Cell × List Frame) := keyed.foldl (fun acc (f, k) =>
          match acc.findIdx? (fun (k', _) => sameRow k' k) with
          | some i => acc.modify i fun (k', fs) => (k', fs ++ [f])
          | none => acc ++ [(k, [f])]) []
        let groups := if groupBy.isEmpty then [([], kept)]
          else groups.mergeSort fun a b => compareRows a.1 b.1 != .gt
        let extremes := soleExtreme (Expr.aggregatesOfList exprs ++
          ((having.map Expr.aggregates).getD []))
        let rows ← groups.filterMapM fun (_, fs) => do
          let rep ← match extremes with
            | some (largest, arg) => do
              let vals ← fs.mapM fun f => do
                let v ← evalExpr fuel (here f) arg
                pure (f, v)
              let best := vals.foldl (fun (acc : Option (Frame × Cell)) (f, v) =>
                if v.isNull then acc
                else match acc with
                  | none => some (f, v)
                  | some (_, b) =>
                    let o := v.compare b
                    if (largest && o == .gt) || (!largest && o == .lt) then some (f, v) else acc) none
              pure ((best.map (·.1)).getD ((fs.getLast?).getD (shape.map Binding.nulled)))
            | _ => pure ((fs.getLast?).getD (shape.map Binding.nulled))
          let sc := { s with frames := rep :: s.frames, group := some fs, aliases }
          let keep ← match having with
            | some h => do
              let v ← evalExpr fuel sc h
              pure (v.truth? == some true)
            | none => pure true
          if !keep then return none
          let vals ← evalList fuel sc exprs
          let keys ← keysIn sc
          pure (some (vals, keys))
        pure rows
      else kept.mapM fun f => do
        let vals ← evalList fuel (here f) exprs
        let keys ← keysIn (here f)
        pure (vals, keys)
    let produced := if distinct then
        produced.foldl (fun acc p => if acc.any (fun q => sameRow q.1 p.1) then acc else acc ++ [p]) []
      else produced
    let rows := if order.isEmpty then produced.map (·.1) else sortByKeys produced
    let rows ← cutRows fuel s rows limit offset
    let infos := items.map fun (e, n, info) => match e with
      | .column t c => match shape.find t c with
        | some (_, ci) => { ci with name := n }
        | none => info
      | .cast _ ty => { info with affinity := Affinity.ofDeclared ty }
      | _ => info
    .ok { columns := infos, rows }
end

/-- A query of one constant row answers it. -/
theorem runQuery_values_one :
    (runQuery 10 { db := {} } (.values [[.lit (.integer 1)]])).toOption.map (·.rows.length) =
      some 1 := by
  rfl

end SnapshotAgent.Store
