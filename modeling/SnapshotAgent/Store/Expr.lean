import SnapshotAgent.Store.Cell
/-!
# Expressions and queries

The syntax the engine runs: expressions over the columns of rows, and queries that produce rows.
An expression is a literal, a bound parameter, a column (perhaps named with its table), an
operator, a function call, a `CASE`, a `CAST`, a `COLLATE`, a test against a list or a query, or
a `RAISE` in a trigger. A query is a `SELECT` over sources (tables, views, subqueries and their
joins), a `VALUES` list, a compound of two queries, a query with an order and a limit, or a query
under common table expressions.

Statements that change rows, which triggers also run, are defined here too: `INSERT`, `UPDATE`,
`DELETE`, and a bare query.
-/

namespace SnapshotAgent.Store

/-- Binary operators. -/
inductive BinOp where
  | eq | ne | lt | le | gt | ge
  | is | isNot
  | and | or
  | add | sub | mul | div | rem
  | concat
  | bitAnd | bitOr | shiftLeft | shiftRight
  deriving Repr, DecidableEq, Inhabited

/-- Unary operators. -/
inductive UnOp where
  | not | neg | plus | bitNot
  deriving Repr, DecidableEq, Inhabited

/-- What `RAISE` does to the statement that fired the trigger. -/
inductive RaiseAction where
  | ignore | rollback | abort | fail
  deriving Repr, DecidableEq, Inhabited

/-- How two sources are joined. -/
inductive JoinKind where
  | inner | left | right | full
  deriving Repr, DecidableEq, Inhabited

/-- How two queries combine. -/
inductive CompoundOp where
  | union | unionAll | intersect | except
  deriving Repr, DecidableEq, Inhabited

mutual
/-- An expression. -/
inductive Expr where
  | lit (c : Cell)
  /-- The `n`-th bound parameter, counted from 1. -/
  | param (n : Nat)
  | column (table : Option String) (name : String)
  /-- A name written in double quotes: the column of that name if there is one, else the text
  itself. -/
  | quotedColumn (name : String)
  | unary (op : UnOp) (e : Expr)
  | binary (op : BinOp) (a b : Expr)
  | isNull (e : Expr) (negated : Bool)
  | between (e lo hi : Expr) (negated : Bool)
  | inList (e : Expr) (items : List Expr) (negated : Bool)
  | inQuery (e : Expr) (q : Query) (negated : Bool)
  | exists (q : Query)
  | scalar (q : Query)
  | call (fn : String) (distinct : Bool) (args : List Expr)
  /-- A call with `*` for its arguments, as in `count(*)`. -/
  | callStar (fn : String)
  | case (operand : Option Expr) (arms : List (Expr × Expr)) (otherwise : Option Expr)
  | cast (e : Expr) (ty : String)
  | collate (e : Expr) (name : String)
  | raise (action : RaiseAction) (message : String)

/-- A result column of a `SELECT`: `*`, `t.*`, or an expression with its alias and source text. -/
inductive ResultColumn where
  | all
  | allOf (table : String)
  | expr (e : Expr) (asName : Option String) (text : String)

/-- A source of rows: a table or view (perhaps renamed), a subquery, or a join of two sources. -/
inductive Source where
  | table (name : String) (asName : Option String)
  | query (q : Query) (asName : Option String)
  | join (kind : JoinKind) (natural : Bool) (a b : Source) (on : Option Expr) (shared : List String)

/-- A term of `ORDER BY`: an expression, whether descending, and where `NULL`s go when named. -/
inductive OrderTerm where
  | term (e : Expr) (descending : Bool) (nullsFirst : Option Bool)

/-- A common table expression: its name, its column names if given, and its query. -/
inductive Cte where
  | cte (name : String) (columns : List String) (q : Query)

/-- A query. -/
inductive Query where
  | select (distinct : Bool) (columns : List ResultColumn) (source : Option Source)
      (filter : Option Expr) (groupBy : List Expr) (having : Option Expr)
  | values (rows : List (List Expr))
  | compound (op : CompoundOp) (a b : Query)
  | ordered (body : Query) (order : List OrderTerm) (limit : Option Expr) (offset : Option Expr)
  | scoped (recursive : Bool) (ctes : List Cte) (body : Query)
end

instance : Inhabited Expr := ⟨.lit .null⟩
instance : Inhabited Query := ⟨.values []⟩

/-- An `ORDER BY` term's expression. -/
def OrderTerm.expr : OrderTerm → Expr
  | .term e _ _ => e

/-- How a statement treats a row that breaks a constraint. -/
inductive Conflict where
  | abort
  | fail
  | ignore
  | replace
  | rollback
  deriving Repr, DecidableEq, Inhabited

/-- Where an `INSERT` takes its rows. -/
inductive InsertSource where
  | values (rows : List (List Expr))
  | query (q : Query)
  | defaults
  deriving Inhabited

/-- What an `ON CONFLICT` clause of an `INSERT` does: nothing, or an update of the row in the
way, with a filter. -/
inductive UpsertAction where
  | nothing
  | update (assignments : List (List String × Expr)) (filter : Option Expr)
  deriving Inhabited

/-- An `ON CONFLICT` clause: the key it watches (any, when none) and its action. -/
structure Upsert where
  target : Option (List String)
  targetFilter : Option Expr := none
  action : UpsertAction
  deriving Inhabited

/-- An `INSERT`. -/
structure Insert where
  /-- The conflict mode the statement names with `OR`, if it names one. -/
  conflict : Option Conflict := none
  table : String
  asName : Option String := none
  columns : Option (List String) := none
  source : InsertSource
  upserts : List Upsert := []
  returning : List ResultColumn := []
  deriving Inhabited

/-- An `UPDATE`; an assignment may set several columns from a row value. -/
structure Update where
  /-- The conflict mode the statement names with `OR`, if it names one. -/
  conflict : Option Conflict := none
  table : String
  asName : Option String := none
  assignments : List (List String × Expr)
  source : Option Source := none
  filter : Option Expr := none
  returning : List ResultColumn := []
  deriving Inhabited

/-- A `DELETE`. -/
structure Delete where
  table : String
  asName : Option String := none
  filter : Option Expr := none
  returning : List ResultColumn := []
  deriving Inhabited

/-- A statement that reads or changes rows: what a trigger's body holds. -/
inductive Change where
  | insert (i : Insert)
  | update (u : Update)
  | delete (d : Delete)
  | select (q : Query)
  deriving Inhabited

/-- A column of the given name, with no table named. -/
def Expr.col (name : String) : Expr := .column none name

mutual
/-- The column names an expression refers to, in order, outside subqueries. -/
def Expr.columns : Expr → List String
  | .lit _ | .param _ | .raise _ _ | .callStar _ | .exists _ | .scalar _ => []
  | .column _ n | .quotedColumn n => [n]
  | .unary _ e | .isNull e _ | .cast e _ | .collate e _ | .inQuery e _ _ => e.columns
  | .binary _ a b => a.columns ++ b.columns
  | .between e lo hi _ => e.columns ++ lo.columns ++ hi.columns
  | .inList e items _ => e.columns ++ Expr.columnsOfList items
  | .call _ _ args => Expr.columnsOfList args
  | .case operand arms otherwise =>
    (match operand with
      | some o => o.columns
      | none => []) ++ Expr.columnsOfArms arms ++
    (match otherwise with
      | some o => o.columns
      | none => [])

/-- The column names a list of expressions refers to, in order. -/
def Expr.columnsOfList : List Expr → List String
  | [] => []
  | e :: es => e.columns ++ Expr.columnsOfList es

/-- The column names the arms of a `CASE` refer to, in order. -/
def Expr.columnsOfArms : List (Expr × Expr) → List String
  | [] => []
  | (w, t) :: rest => w.columns ++ t.columns ++ Expr.columnsOfArms rest
end

mutual
/-- The expression with each column name `n` it refers to replaced by `f n`, outside
subqueries. -/
def Expr.mapColumns (f : String → String) : Expr → Expr
  | .column t n => .column t (f n)
  | .quotedColumn n => .quotedColumn (f n)
  | .unary op e => .unary op (e.mapColumns f)
  | .isNull e negated => .isNull (e.mapColumns f) negated
  | .cast e ty => .cast (e.mapColumns f) ty
  | .collate e c => .collate (e.mapColumns f) c
  | .inQuery e q negated => .inQuery (e.mapColumns f) q negated
  | .binary op a b => .binary op (a.mapColumns f) (b.mapColumns f)
  | .between e lo hi negated => .between (e.mapColumns f) (lo.mapColumns f) (hi.mapColumns f) negated
  | .inList e items negated => .inList (e.mapColumns f) (Expr.mapColumnsOfList f items) negated
  | .call fn d args => .call fn d (Expr.mapColumnsOfList f args)
  | .case operand arms otherwise =>
    .case (match operand with
        | some o => some (o.mapColumns f)
        | none => none) (Expr.mapColumnsOfArms f arms)
      (match otherwise with
        | some o => some (o.mapColumns f)
        | none => none)
  | e => e

/-- Each expression of a list with its column names replaced by `f`. -/
def Expr.mapColumnsOfList (f : String → String) : List Expr → List Expr
  | [] => []
  | e :: es => e.mapColumns f :: Expr.mapColumnsOfList f es

/-- The arms of a `CASE` with their column names replaced by `f`. -/
def Expr.mapColumnsOfArms (f : String → String) : List (Expr × Expr) → List (Expr × Expr)
  | [] => []
  | (w, t) :: rest => (w.mapColumns f, t.mapColumns f) :: Expr.mapColumnsOfArms f rest
end

/-- A comparison of a column with a value refers to that column. -/
theorem Expr.columns_eq_column (n : String) (c : Cell) :
    (Expr.binary .eq (.col n) (.lit c)).columns = [n] := rfl

end SnapshotAgent.Store
