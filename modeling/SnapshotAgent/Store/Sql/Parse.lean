import SnapshotAgent.Store.Sql.Lex
import SnapshotAgent.Store.Table
/-!
# SQL statements

The second stage of running SQL text: reading tokens into statements.

* Queries: `SELECT [DISTINCT] … FROM … WHERE … GROUP BY … HAVING …`, `VALUES`, compounds with
  `UNION [ALL]`, `INTERSECT`, `EXCEPT`, then `ORDER BY` and `LIMIT … OFFSET …`, all under an
  optional `WITH`. Sources are tables, views, subqueries and their joins (`,`, `JOIN`, `LEFT`,
  `RIGHT`, `FULL`, `CROSS`, `NATURAL`, with `ON` or `USING`).
* Changes: `INSERT` (with `VALUES`, a query or `DEFAULT VALUES`, a conflict mode, `ON CONFLICT`
  clauses and `RETURNING`), `REPLACE`, `UPDATE` and `DELETE`.
* Schema: `CREATE TABLE` (column types, `PRIMARY KEY`, `AUTOINCREMENT`, `NOT NULL`, `UNIQUE`,
  `DEFAULT`, `CHECK`, `COLLATE`, `REFERENCES`, `WITHOUT ROWID`, `STRICT`), `CREATE INDEX`,
  `CREATE VIEW`, `CREATE TRIGGER`, `DROP …` and `ALTER TABLE`.
* Transactions: `BEGIN`, `COMMIT`/`END`, `ROLLBACK [TO]`, `SAVEPOINT`, `RELEASE`.

`PRAGMA`, `VACUUM`, `ANALYZE`, `REINDEX` and `EXPLAIN` are read over and change nothing.

Expressions follow the engine's precedence, from `OR` (loosest) through `AND`, `NOT`, the
equality family (`=`, `IS`, `IN`, `LIKE`, `GLOB`, `BETWEEN`, `IS NULL`), comparisons, bit
operators, `+ -`, `* / %`, `||`, `COLLATE`, to the unary operators.

A statement that cannot be read is refused with the engine's words: `near "<token>": syntax
error` at the first token that cannot continue it, `incomplete input` when the text ends first.
-/

namespace SnapshotAgent.Store.Sql

open SnapshotAgent.Store

/-- A unique key a table declares: its columns, and whether it is the primary key. -/
structure UniqueKey where
  columns : List String
  primary : Bool
  deriving Inhabited

/-- A statement. -/
inductive Statement where
  | createTable (t : Table) (keys : List UniqueKey) (ifNotExists : Bool)
  | createIndex (ix : Index) (ifNotExists : Bool)
  | createView (v : View) (ifNotExists : Bool)
  | createTrigger (tr : Trigger) (ifNotExists : Bool)
  /-- A query or a change of rows, under common table expressions. -/
  | change (ctes : List Cte) (c : Change)
  | dropTable (name : String) (ifExists : Bool)
  | dropIndex (name : String) (ifExists : Bool)
  | dropView (name : String) (ifExists : Bool)
  | dropTrigger (name : String) (ifExists : Bool)
  | addColumn (table : String) (column : Column) (checks : List Check) (unique : Bool)
      (foreign : List ForeignKey)
  | renameTable (table newName : String)
  | renameColumn (table old newName : String) (quotedNew : Bool)
  | dropColumn (table column : String)
  | begin
  | commit
  /-- `ROLLBACK`, or `ROLLBACK TO` a savepoint. -/
  | rollback (savepoint : Option String)
  | savepoint (name : String)
  | release (name : String)
  /-- A statement that changes nothing: a pragma and the like. -/
  | other
  deriving Inhabited

/-- What the reader has left: the tokens of the text, the text itself, the message for running
out of tokens, the end of the last token taken, and the parameters numbered so far. -/
structure Cursor where
  toks : List Tok
  source : List Char
  ending : String
  lastStop : Nat := 0
  params : Nat := 0
  named : List (String × Nat) := []

/-- A reader of statements. -/
abbrev Reader := StateT Cursor (Except String)

/-- The syntax error at the current token. -/
def syntaxError {α : Type} : Reader α := do
  let c ← get
  match c.toks with
  | t :: _ => throw ("near \"" ++ t.text ++ "\": syntax error")
  | [] => throw c.ending

/-- The next token, if any. -/
def peek : Reader (Option Tok) := return (← get).toks.head?

/-- The token after the next, if any. -/
def peekSecond : Reader (Option Tok) := return ((← get).toks.drop 1).head?

/-- Takes the next token. -/
def advance : Reader Tok := do
  let c ← get
  match c.toks with
  | t :: rest =>
    set { c with toks := rest, lastStop := t.stop }
    pure t
  | [] => throw c.ending

/-- Whether a token is a given keyword. -/
def Tok.isKeyword (t : Tok) (k : String) : Bool := t.kind = .word && upperAscii t.text == k

/-- Whether a token is a given operator. -/
def Tok.isSymbol (t : Tok) (s : String) : Bool := t.kind = .symbol && t.text == s

/-- Whether the next token is a given keyword. -/
def nextIsKeyword (k : String) : Reader Bool := do
  match ← peek with
  | some t => pure (t.isKeyword k)
  | none => pure false

/-- Whether the next token is a given operator. -/
def nextIsSymbol (s : String) : Reader Bool := do
  match ← peek with
  | some t => pure (t.isSymbol s)
  | none => pure false

/-- Takes a keyword when it comes next. -/
def eatKeyword (k : String) : Reader Bool := do
  if ← nextIsKeyword k then do let _ ← advance; pure true else pure false

/-- Takes an operator when it comes next. -/
def eatSymbol (s : String) : Reader Bool := do
  if ← nextIsSymbol s then do let _ ← advance; pure true else pure false

/-- Requires a keyword. -/
def expectKeyword (k : String) : Reader Unit := do
  if !(← eatKeyword k) then syntaxError

/-- Requires an operator. -/
def expectSymbol (s : String) : Reader Unit := do
  if !(← eatSymbol s) then syntaxError

/-- Words that cannot stand for a name. -/
def reservedWords : List String :=
  ["ADD", "ALL", "ALTER", "AND", "AS", "AUTOINCREMENT", "BETWEEN", "BY", "CASE", "CHECK",
   "COLLATE", "COMMIT", "CONSTRAINT", "CREATE", "DEFAULT", "DEFERRABLE", "DELETE", "DISTINCT",
   "DROP", "ELSE", "ESCAPE", "EXCEPT", "EXISTS", "FOREIGN", "FROM", "GROUP", "HAVING", "IN",
   "INDEX", "INSERT", "INTERSECT", "INTO", "IS", "ISNULL", "JOIN", "LIMIT", "NOT", "NOTNULL",
   "NULL", "ON", "OR", "ORDER", "PRIMARY", "REFERENCES", "SELECT", "SET", "TABLE", "THEN", "TO",
   "UNION", "UNIQUE", "UPDATE", "USING", "VALUES", "WHEN", "WHERE", "RETURNING", "CROSS", "FULL",
   "INNER", "LEFT", "NATURAL", "OUTER", "RIGHT"]

/-- Whether a token can stand for a name. -/
def Tok.isName (t : Tok) : Bool :=
  match t.kind with
  | .word => !reservedWords.contains (upperAscii t.text)
  | .quotedName | .string => true
  | _ => false

/-- Reads a name. -/
def readName : Reader String := do
  match ← peek with
  | some t => if t.isName then do let _ ← advance; pure t.value else syntaxError
  | none => syntaxError

/-- Reads a name that may carry a schema: `main.t` is `t`. -/
def readQualified : Reader String := do
  let n ← readName
  if ← eatSymbol "." then readName else pure n

/-- The source between two offsets, blanks trimmed at both ends. -/
def Cursor.span (c : Cursor) (start stop : Nat) : String :=
  let cs := (c.source.drop start).take (stop - start)
  let isBlank (ch : Char) : Bool := ch = ' ' || ch = '\t' || ch = '\n' || ch = '\r' || ch = '\x0c'
  String.ofList ((cs.dropWhile isBlank).reverse.dropWhile isBlank).reverse

/-- The offset of the next token, or the end of the text. -/
def nextStart : Reader Nat := do
  match ← peek with
  | some t => pure t.start
  | none => pure (← get).source.length

/-! ## Literals -/

/-- The value of a number literal: an integer when it is one that fits, else a real. -/
def numberCell (text : String) : Cell :=
  let cs := text.toList
  match cs with
  | '0' :: x :: hex =>
    if x = 'x' || x = 'X' then
      let v : Nat := hex.foldl (fun (acc : Nat) c =>
        acc * 16 + (if c.isDigit then c.toNat - 48 else (c.toLower.toNat - 87))) 0
      if v < Nat.pow 2 64 then .integer (if v ≥ Nat.pow 2 63 then (v : Int) - Int.pow 2 64 else (v : Int))
      else .integer 0
    else decimal
  | _ => decimal
where
  decimal : Cell :=
    if text.all Char.isDigit then
      let v := text.toNat!
      if v ≤ 9223372036854775807 then .integer v else .real ((Number.readFloat text).getD 0)
    else .real ((Number.readFloat text).getD 0)

/-- The bytes of a blob literal's hexadecimal digits. -/
def blobBytes (digits : String) : List UInt8 :=
  let value (c : Char) : Nat :=
    if c.isDigit then c.toNat - 48 else if 'a' ≤ c && c ≤ 'f' then c.toNat - 87 else c.toNat - 55
  let rec go : List Char → List UInt8
    | a :: b :: rest => (value a * 16 + value b).toUInt8 :: go rest
    | _ => []
  go digits.toList

/-- A literal text value. -/
def textCell (s : String) : Expr := .lit (.text s)

/-- The number of a parameter token: `?NNN` its number, `?` the next one, a named one its
number, given at its first use. -/
def paramIndex (t : Tok) : Reader Nat := do
  let c ← get
  let rest := t.text.drop 1
  if t.text.startsWith "?" then
    if rest.isEmpty then
      set { c with params := c.params + 1 }
      pure (c.params + 1)
    else
      let n := rest.toNat!
      set { c with params := max c.params n }
      pure n
  else
    match c.named.find? (·.1 == t.text) with
    | some (_, n) => pure n
    | none =>
      set { c with params := c.params + 1, named := c.named ++ [(t.text, c.params + 1)] }
      pure (c.params + 1)

/-- Words that end a type name. -/
def typeStops : List String :=
  ["CONSTRAINT", "PRIMARY", "NOT", "NULL", "UNIQUE", "CHECK", "DEFAULT", "COLLATE",
   "REFERENCES", "GENERATED", "AS"]

/-- Words that cannot be a table's alias written without `AS`. -/
def aliasStops : List String :=
  ["WHERE", "GROUP", "HAVING", "ORDER", "LIMIT", "UNION", "EXCEPT", "INTERSECT", "JOIN", "LEFT",
   "RIGHT", "FULL", "INNER", "CROSS", "NATURAL", "OUTER", "ON", "USING", "WINDOW", "INDEXED",
   "NOT", "SET", "RETURNING", "VALUES", "DEFAULT", "FROM", "SELECT"]

/-- Reads an alias: after `AS` any name, else a name that is no keyword of the clause. -/
def readAlias : Reader (Option String) := do
  if ← eatKeyword "AS" then return some (← readName)
  match ← peek with
  | some t =>
    if t.isName && !(t.kind = .word && aliasStops.contains (upperAscii t.text)) then do
      let _ ← advance
      pure (some t.value)
    else pure none
  | none => pure none

/-- Reads the words of a type name. -/
def readTypeWords (fuel : Nat) (acc : List String) : Reader (List String) :=
  match fuel with
  | 0 => pure acc
  | fuel + 1 => do
    match ← peek with
    | some t =>
      if t.kind = .word && !typeStops.contains (upperAscii t.text) then
        let _ ← advance
        readTypeWords fuel (acc ++ [t.text])
      else pure acc
    | none => pure acc

/-- Reads a type name with its optional size, as written. -/
def readType : Reader String := do
  let words ← readTypeWords ((← get).toks.length + 1) []
  if words.isEmpty then return ""
  if ← eatSymbol "(" then
    let skipSigned : Reader Unit := do
      let _ ← eatSymbol "+" <||> eatSymbol "-"
      match ← peek with
      | some t => if t.kind = .number then do let _ ← advance; pure () else syntaxError
      | none => syntaxError
    skipSigned
    if ← eatSymbol "," then skipSigned
    expectSymbol ")"
  pure (" ".intercalate words)

/-! ## Expressions and queries -/

mutual
/-- Reads an expression at a precedence level: 0 `OR`, 1 `AND`, 2 `NOT`, 3 equality, 4
comparison, 5 bit operators, 6 `+ -`, 7 `* / %`, 8 `||`, 9 `COLLATE`, 10 unary. -/
def readLevel : Nat → Nat → Reader Expr
  | 0, _ => throw "parser stack overflow"
  | fuel + 1, level =>
    if level ≥ 9 then readCollated fuel
    else if level = 2 then do
      if ← eatKeyword "NOT" then return .unary .not (← readLevel fuel 2)
      readLevel fuel 3
    else do
      let lhs ← readLevel fuel (level + 1)
      readRest fuel level lhs

/-- Reads the operators of a level that follow a left operand. -/
def readRest : Nat → Nat → Expr → Reader Expr
  | 0, _, lhs => pure lhs
  | fuel + 1, level, lhs => do
    let some t ← peek | return lhs
    let binary (op : BinOp) : Reader Expr := do
      let _ ← advance
      let rhs ← readLevel fuel (level + 1)
      readRest fuel level (.binary op lhs rhs)
    match level with
    | 0 => if t.isKeyword "OR" then binary .or else pure lhs
    | 1 => if t.isKeyword "AND" then binary .and else pure lhs
    | 3 =>
      if t.isSymbol "=" || t.isSymbol "==" then binary .eq
      else if t.isSymbol "!=" || t.isSymbol "<>" then binary .ne
      else if t.isKeyword "ISNULL" then do
        let _ ← advance
        readRest fuel level (.isNull lhs false)
      else if t.isKeyword "NOTNULL" then do
        let _ ← advance
        readRest fuel level (.isNull lhs true)
      else if t.isKeyword "IS" then do
        let _ ← advance
        let negated ← eatKeyword "NOT"
        if ← eatKeyword "DISTINCT" then
          expectKeyword "FROM"
          let rhs ← readLevel fuel (level + 1)
          return ← readRest fuel level (.binary (if negated then .is else .isNot) lhs rhs)
        let rhs ← readLevel fuel (level + 1)
        readRest fuel level (.binary (if negated then .isNot else .is) lhs rhs)
      else if t.isKeyword "NOT" then do
        let _ ← advance
        if ← eatKeyword "NULL" then readRest fuel level (.isNull lhs true)
        else readNegatable fuel level lhs true
      else if t.isKeyword "IN" || t.isKeyword "LIKE" || t.isKeyword "GLOB" ||
          t.isKeyword "BETWEEN" then readNegatable fuel level lhs false
      else pure lhs
    | 4 =>
      if t.isSymbol "<" then binary .lt
      else if t.isSymbol "<=" then binary .le
      else if t.isSymbol ">" then binary .gt
      else if t.isSymbol ">=" then binary .ge
      else pure lhs
    | 5 =>
      if t.isSymbol "&" then binary .bitAnd
      else if t.isSymbol "|" then binary .bitOr
      else if t.isSymbol "<<" then binary .shiftLeft
      else if t.isSymbol ">>" then binary .shiftRight
      else pure lhs
    | 6 => if t.isSymbol "+" then binary .add else if t.isSymbol "-" then binary .sub else pure lhs
    | 7 =>
      if t.isSymbol "*" then binary .mul else if t.isSymbol "/" then binary .div
      else if t.isSymbol "%" then binary .rem else pure lhs
    | 8 => if t.isSymbol "||" then binary .concat else pure lhs
    | _ => pure lhs

/-- Reads `IN`, `LIKE`, `GLOB` or `BETWEEN` after a left operand, perhaps after `NOT`. -/
def readNegatable : Nat → Nat → Expr → Bool → Reader Expr
  | 0, _, lhs, _ => pure lhs
  | fuel + 1, level, lhs, negated => do
    let t ← advance
    if t.isKeyword "IN" then
      if ← eatSymbol "(" then
        if ← eatSymbol ")" then return ← readRest fuel level (.inList lhs [] negated)
        if (← nextIsKeyword "SELECT") || (← nextIsKeyword "VALUES") || (← nextIsKeyword "WITH") then
          let q ← readSelect fuel
          expectSymbol ")"
          return ← readRest fuel level (.inQuery lhs q negated)
        let items ← readList fuel []
        expectSymbol ")"
        readRest fuel level (.inList lhs items negated)
      else
        let name ← readQualified
        let q : Query := .select false [.all] (some (.table name none)) none [] none
        readRest fuel level (.inQuery lhs q negated)
    else if t.isKeyword "LIKE" || t.isKeyword "GLOB" then
      let pattern ← readLevel fuel (level + 1)
      let escape ← if t.isKeyword "LIKE" && (← eatKeyword "ESCAPE") then
          some <$> readLevel fuel (level + 1)
        else pure none
      let args := [pattern, lhs] ++ escape.toList
      let e : Expr := .call (lowerAscii t.text) false args
      readRest fuel level (if negated then .unary .not e else e)
    else if t.isKeyword "BETWEEN" then
      let lo ← readLevel fuel (level + 1)
      expectKeyword "AND"
      let hi ← readLevel fuel (level + 1)
      readRest fuel level (.between lhs lo hi negated)
    else syntaxError

/-- Reads expressions separated by commas. -/
def readList : Nat → List Expr → Reader (List Expr)
  | 0, acc => pure acc
  | fuel + 1, acc => do
    let e ← readLevel fuel 0
    if ← eatSymbol "," then readList fuel (acc ++ [e]) else pure (acc ++ [e])

/-- Reads a unary expression followed by any `COLLATE` clauses. -/
def readCollated : Nat → Reader Expr
  | 0 => throw "parser stack overflow"
  | fuel + 1 => do
    let e ← readUnary fuel
    collations fuel e

/-- Reads `COLLATE` clauses after an expression. -/
def collations : Nat → Expr → Reader Expr
  | 0, e => pure e
  | fuel + 1, e => do
    if ← eatKeyword "COLLATE" then
      let name ← readName
      collations fuel (.collate e name)
    else pure e

/-- Reads a unary operator and its operand, or a primary expression. -/
def readUnary : Nat → Reader Expr
  | 0 => throw "parser stack overflow"
  | fuel + 1 => do
    if ← eatSymbol "-" then return .unary .neg (← readUnary fuel)
    if ← eatSymbol "+" then return .unary .plus (← readUnary fuel)
    if ← eatSymbol "~" then return .unary .bitNot (← readUnary fuel)
    readPrimary fuel

/-- Reads a literal, a name, a call, a cast, a `CASE`, a subquery or a parenthesized
expression. -/
def readPrimary : Nat → Reader Expr
  | 0 => throw "parser stack overflow"
  | fuel + 1 => do
    let some t ← peek | syntaxError
    match t.kind with
    | .number => let _ ← advance; pure (.lit (numberCell t.text))
    | .string => let _ ← advance; pure (textCell t.value)
    | .blob => let _ ← advance; pure (.lit (.blob (blobBytes t.value)))
    | .variable => let _ ← advance; pure (.param (← paramIndex t))
    | .symbol =>
      if t.isSymbol "(" then do
        let _ ← advance
        if (← nextIsKeyword "SELECT") || (← nextIsKeyword "VALUES") || (← nextIsKeyword "WITH") then
          let q ← readSelect fuel
          expectSymbol ")"
          return .scalar q
        let e ← readLevel fuel 0
        if ← nextIsSymbol "," then throw "row value misused"
        expectSymbol ")"
        pure e
      else syntaxError
    | .quotedName =>
      let _ ← advance
      if ← eatSymbol "." then
        let c ← readName
        if ← eatSymbol "." then return .column (some c) (← readName)
        return .column (some t.value) c
      if t.text.startsWith "\"" then pure (.quotedColumn t.value) else pure (.column none t.value)
    | .word =>
      let k := upperAscii t.text
      if k = "NULL" then do let _ ← advance; pure (.lit .null)
      else if k = "CURRENT_TIMESTAMP" || k = "CURRENT_DATE" || k = "CURRENT_TIME" then do
        let _ ← advance
        pure (.call (lowerAscii k) false [])
      else if k = "CAST" then do
        let _ ← advance
        expectSymbol "("
        let e ← readLevel fuel 0
        expectKeyword "AS"
        let ty ← readTypeWords fuel []
        if ← eatSymbol "(" then
          let _ ← readList fuel []
          expectSymbol ")"
        expectSymbol ")"
        pure (.cast e (" ".intercalate ty))
      else if k = "CASE" then do
        let _ ← advance
        let operand ← if ← nextIsKeyword "WHEN" then pure none else some <$> readLevel fuel 0
        let arms ← readArms fuel []
        if arms.isEmpty then syntaxError
        let otherwise ← if ← eatKeyword "ELSE" then some <$> readLevel fuel 0 else pure none
        expectKeyword "END"
        pure (.case operand arms otherwise)
      else if k = "EXISTS" then do
        let _ ← advance
        expectSymbol "("
        let q ← readSelect fuel
        expectSymbol ")"
        pure (.exists q)
      else if k = "RAISE" then do
        let _ ← advance
        expectSymbol "("
        if ← eatKeyword "IGNORE" then
          expectSymbol ")"
          return .raise .ignore ""
        let a ← advance
        let action ← if a.isKeyword "ROLLBACK" then pure RaiseAction.rollback
          else if a.isKeyword "ABORT" then pure .abort
          else if a.isKeyword "FAIL" then pure .fail
          else do
            set { (← get) with toks := a :: (← get).toks }
            syntaxError
        expectSymbol ","
        let some m ← peek | syntaxError
        if m.kind ≠ .string then syntaxError
        let _ ← advance
        expectSymbol ")"
        pure (.raise action m.value)
      else if reservedWords.contains k then syntaxError
      else do
        let _ ← advance
        if ← eatSymbol "(" then
          if ← eatSymbol ")" then return .call t.text false []
          if ← eatSymbol "*" then
            expectSymbol ")"
            return .callStar t.text
          let distinct ← eatKeyword "DISTINCT"
          let _ ← eatKeyword "ALL"
          let args ← readList fuel []
          expectSymbol ")"
          pure (.call t.text distinct args)
        else if ← eatSymbol "." then
          let c ← readName
          if ← eatSymbol "." then return .column (some c) (← readName)
          pure (.column (some t.value) c)
        else if k = "TRUE" then pure (.lit (.integer 1))
        else if k = "FALSE" then pure (.lit (.integer 0))
        else pure (.column none t.value)

/-- Reads the `WHEN … THEN …` arms of a `CASE`. -/
def readArms : Nat → List (Expr × Expr) → Reader (List (Expr × Expr))
  | 0, acc => pure acc
  | fuel + 1, acc => do
    if ← eatKeyword "WHEN" then
      let w ← readLevel fuel 0
      expectKeyword "THEN"
      let t ← readLevel fuel 0
      readArms fuel (acc ++ [(w, t)])
    else pure acc

/-- Reads a query: common table expressions, a compound of cores, an order and a limit. -/
def readSelect : Nat → Reader Query
  | 0 => throw "parser stack overflow"
  | fuel + 1 => do
    if ← eatKeyword "WITH" then
      let recursive ← eatKeyword "RECURSIVE"
      let ctes ← readCtes fuel []
      let body ← readSelect fuel
      return .scoped recursive ctes body
    let first ← readCore fuel
    let body ← readCompound fuel first
    let order ← if ← eatKeyword "ORDER" then do
        expectKeyword "BY"
        readOrderTerms fuel []
      else pure []
    let (limit, offset) ← if ← eatKeyword "LIMIT" then do
        let a ← readLevel fuel 0
        if ← eatKeyword "OFFSET" then pure (some a, some (← readLevel fuel 0))
        else if ← eatSymbol "," then pure (some (← readLevel fuel 0), some a)
        else pure (some a, none)
      else pure (none, none)
    if order.isEmpty && limit.isNone then pure body
    else pure (.ordered body order limit offset)

/-- Reads the compound operators after a core, joining to the left. -/
def readCompound : Nat → Query → Reader Query
  | 0, q => pure q
  | fuel + 1, q => do
    let op ← if ← eatKeyword "UNION" then
        if ← eatKeyword "ALL" then pure (some CompoundOp.unionAll) else pure (some .union)
      else if ← eatKeyword "INTERSECT" then pure (some .intersect)
      else if ← eatKeyword "EXCEPT" then pure (some .except)
      else pure none
    match op with
    | some o =>
      let rhs ← readCore fuel
      readCompound fuel (.compound o q rhs)
    | none => pure q

/-- Reads common table expressions, separated by commas. -/
def readCtes : Nat → List Cte → Reader (List Cte)
  | 0, acc => pure acc
  | fuel + 1, acc => do
    let name ← readName
    let cols ← if ← eatSymbol "(" then readNames fuel [] else pure []
    expectKeyword "AS"
    let _ ← eatKeyword "MATERIALIZED"
    if ← eatKeyword "NOT" then expectKeyword "MATERIALIZED"
    expectSymbol "("
    let q ← readSelect fuel
    expectSymbol ")"
    let acc := acc ++ [.cte name cols q]
    if ← eatSymbol "," then readCtes fuel acc else pure acc

/-- Reads names separated by commas up to a closing parenthesis. -/
def readNames : Nat → List String → Reader (List String)
  | 0, acc => pure acc
  | fuel + 1, acc => do
    let n ← readName
    if ← eatSymbol "," then readNames fuel (acc ++ [n])
    else
      expectSymbol ")"
      pure (acc ++ [n])

/-- Reads a `SELECT` core or a `VALUES` list. -/
def readCore : Nat → Reader Query
  | 0 => throw "parser stack overflow"
  | fuel + 1 => do
    if ← eatKeyword "VALUES" then
      return .values (← readValueRows fuel [])
    expectKeyword "SELECT"
    let distinct ← eatKeyword "DISTINCT"
    if !distinct then let _ ← eatKeyword "ALL"
    let columns ← readResultColumns fuel []
    let source ← if ← eatKeyword "FROM" then some <$> readSource fuel else pure none
    let filter ← if ← eatKeyword "WHERE" then some <$> readLevel fuel 0 else pure none
    let groupBy ← if ← eatKeyword "GROUP" then do
        expectKeyword "BY"
        readList fuel []
      else pure []
    let having ← if ← eatKeyword "HAVING" then some <$> readLevel fuel 0 else pure none
    pure (.select distinct columns source filter groupBy having)

/-- Reads the rows of `VALUES`. -/
def readValueRows : Nat → List (List Expr) → Reader (List (List Expr))
  | 0, acc => pure acc
  | fuel + 1, acc => do
    expectSymbol "("
    let row ← readList fuel []
    expectSymbol ")"
    if ← eatSymbol "," then readValueRows fuel (acc ++ [row]) else pure (acc ++ [row])

/-- Reads result columns separated by commas. -/
def readResultColumns : Nat → List ResultColumn → Reader (List ResultColumn)
  | 0, acc => pure acc
  | fuel + 1, acc => do
    let col ← if ← eatSymbol "*" then pure ResultColumn.all
      else do
        match ← peek, ← peekSecond with
        | some a, some b =>
          if a.isName && b.isSymbol "." && (((← get).toks.drop 2).head?.map (·.isSymbol "*")).getD false then
            let _ ← advance
            let _ ← advance
            let _ ← advance
            pure (.allOf a.value)
          else readResultExpr fuel
        | _, _ => readResultExpr fuel
    let acc := acc ++ [col]
    if ← eatSymbol "," then readResultColumns fuel acc else pure acc

/-- Reads a result column's expression with its alias and its text. -/
def readResultExpr : Nat → Reader ResultColumn
  | 0 => throw "parser stack overflow"
  | fuel + 1 => do
    let start ← nextStart
    let e ← readLevel fuel 0
    let c ← get
    let text := c.span start c.lastStop
    let asName ← if ← eatKeyword "AS" then some <$> readName
      else match ← peek with
        | some t =>
          if t.kind = .quotedName || t.kind = .string ||
              (t.kind = .word && t.isName && !aliasStops.contains (upperAscii t.text)) then do
            let _ ← advance
            pure (some t.value)
          else pure none
        | none => pure none
    pure (.expr e asName text)

/-- Reads the terms of `ORDER BY`. -/
def readOrderTerms : Nat → List OrderTerm → Reader (List OrderTerm)
  | 0, acc => pure acc
  | fuel + 1, acc => do
    let e ← readLevel fuel 0
    let descending ← if ← eatKeyword "DESC" then pure true
      else do let _ ← eatKeyword "ASC"; pure false
    let nulls ← if ← eatKeyword "NULLS" then
        if ← eatKeyword "FIRST" then pure (some true)
        else do expectKeyword "LAST"; pure (some false)
      else pure none
    let acc := acc ++ [.term e descending nulls]
    if ← eatSymbol "," then readOrderTerms fuel acc else pure acc

/-- Reads a source: single sources joined left to right. -/
def readSource : Nat → Reader Source
  | 0 => throw "parser stack overflow"
  | fuel + 1 => do
    let first ← readSingleSource fuel
    readJoins fuel first

/-- Reads the joins after a source. -/
def readJoins : Nat → Source → Reader Source
  | 0, s => pure s
  | fuel + 1, s => do
    if ← eatSymbol "," then
      let rhs ← readSingleSource fuel
      return ← readJoins fuel (.join .inner false s rhs none [])
    let natural ← eatKeyword "NATURAL"
    let kind ← if ← eatKeyword "LEFT" then do let _ ← eatKeyword "OUTER"; pure (some JoinKind.left)
      else if ← eatKeyword "RIGHT" then do let _ ← eatKeyword "OUTER"; pure (some .right)
      else if ← eatKeyword "FULL" then do let _ ← eatKeyword "OUTER"; pure (some .full)
      else if ← eatKeyword "INNER" then pure (some .inner)
      else if ← eatKeyword "CROSS" then pure (some .inner)
      else pure none
    if kind.isNone && !natural && !(← nextIsKeyword "JOIN") then return s
    expectKeyword "JOIN"
    let rhs ← readSingleSource fuel
    let on ← if ← eatKeyword "ON" then some <$> readLevel fuel 0 else pure none
    let cols ← if on.isNone && (← eatKeyword "USING") then do
        expectSymbol "("
        readNames fuel []
      else pure []
    readJoins fuel (.join (kind.getD .inner) natural s rhs on cols)

/-- Reads a table or view, a subquery, or a parenthesized source. -/
def readSingleSource : Nat → Reader Source
  | 0 => throw "parser stack overflow"
  | fuel + 1 => do
    if ← eatSymbol "(" then
      if (← nextIsKeyword "SELECT") || (← nextIsKeyword "VALUES") || (← nextIsKeyword "WITH") then
        let q ← readSelect fuel
        expectSymbol ")"
        let asName ← readAlias
        return .query q asName
      let s ← readSource fuel
      expectSymbol ")"
      return s
    let name ← readQualified
    let asName ← readAlias
    if ← eatKeyword "INDEXED" then
      expectKeyword "BY"
      let _ ← readName
    else if (← nextIsKeyword "NOT") then
      if let some t ← peekSecond then
        if t.isKeyword "INDEXED" then
          let _ ← advance
          let _ ← advance
    pure (.table name asName)
end

/-- Enough fuel to read an expression or query from what is left: every token may open all the
levels. -/
def exprFuel : Reader Nat := return ((← get).toks.length + 2) * 16

/-- Reads an expression. -/
def readExpr : Reader Expr := do
  readLevel (← exprFuel) 0

/-- Reads a query. -/
def readQuery : Reader Query := do
  readSelect (← exprFuel)

/-! ## Tables -/

/-- Skips an `ON CONFLICT` clause of a constraint. -/
def skipConflictClause : Reader Unit := do
  if ← eatKeyword "ON" then
    expectKeyword "CONFLICT"
    let t ← advance
    if !(["ROLLBACK", "ABORT", "FAIL", "IGNORE", "REPLACE"].contains (upperAscii t.text)) then
      set { (← get) with toks := t :: (← get).toks }
      syntaxError

/-- Reads names in parentheses, each perhaps with `COLLATE` and `ASC` or `DESC`. -/
def readIndexedNames (fuel : Nat) : Reader (List String) := do
  expectSymbol "("
  let rec go : Nat → List String → Reader (List String)
    | 0, acc => pure acc
    | f + 1, acc => do
      let n ← readName
      if ← eatKeyword "COLLATE" then let _ ← readName
      let _ ← eatKeyword "ASC" <||> eatKeyword "DESC"
      if ← eatSymbol "," then go f (acc ++ [n]) else pure (acc ++ [n])
  let names ← go fuel []
  expectSymbol ")"
  pure names

/-- Reads a foreign key action after `ON DELETE` or `ON UPDATE`. -/
def readForeignAction : Reader ForeignAction := do
  if ← eatKeyword "SET" then
    if ← eatKeyword "NULL" then pure .setNull
    else do expectKeyword "DEFAULT"; pure .setDefault
  else if ← eatKeyword "NO" then do expectKeyword "ACTION"; pure .noAction
  else if ← eatKeyword "CASCADE" then pure .cascade
  else if ← eatKeyword "RESTRICT" then pure .restrict
  else syntaxError

/-- Reads a `REFERENCES` clause after its keyword: the parent table, its columns and the
actions. -/
def readReferences (fuel : Nat) (columns : List String) : Reader ForeignKey := do
  let parent ← readName
  let parentColumns ← if ← nextIsSymbol "(" then readIndexedNames fuel else pure []
  let rec clauses : Nat → ForeignKey → Reader ForeignKey
    | 0, fk => pure fk
    | f + 1, fk => do
      if ← eatKeyword "ON" then
        let t ← advance
        if t.isKeyword "DELETE" then clauses f { fk with onDelete := ← readForeignAction }
        else if t.isKeyword "UPDATE" then clauses f { fk with onUpdate := ← readForeignAction }
        else syntaxError
      else if ← eatKeyword "MATCH" then
        let _ ← readName
        clauses f fk
      else if ← eatKeyword "DEFERRABLE" then
        if ← eatKeyword "INITIALLY" then
          let _ ← eatKeyword "DEFERRED" <||> eatKeyword "IMMEDIATE"
        clauses f fk
      else if (← nextIsKeyword "NOT") then
        match ← peekSecond with
        | some t =>
          if t.isKeyword "DEFERRABLE" then
            let _ ← advance
            let _ ← advance
            if ← eatKeyword "INITIALLY" then
              let _ ← eatKeyword "DEFERRED" <||> eatKeyword "IMMEDIATE"
            clauses f fk
          else pure fk
        | none => pure fk
      else pure fk
  clauses fuel { columns, parent, parentColumns }

/-- What the constraints of a column say. -/
structure ColumnDecl where
  column : Column
  checks : List Check := []
  unique : Bool := false
  primary : Bool := false
  descending : Bool := false
  autoincrement : Bool := false
  foreign : List ForeignKey := []

/-- Reads a `CHECK (…)` and keeps its source, or the constraint's name when it has one. -/
def readCheck (name : Option String) : Reader Check := do
  let c ← get
  let some open_ ← peek | syntaxError
  expectSymbol "("
  let e ← readExpr
  let some close ← peek | syntaxError
  expectSymbol ")"
  skipConflictClause
  pure { text := name.getD (c.span open_.stop close.start), expr := e }

/-- Reads a `DEFAULT` value. -/
def readDefault : Reader Expr := do
  let some t ← peek | syntaxError
  if t.isSymbol "(" then
    let _ ← advance
    let e ← readExpr
    expectSymbol ")"
    pure e
  else if t.isSymbol "-" || t.isSymbol "+" then
    let _ ← advance
    let some n ← peek | syntaxError
    if n.kind ≠ .number then syntaxError
    let _ ← advance
    pure (if t.isSymbol "-" then .unary .neg (.lit (numberCell n.text)) else .lit (numberCell n.text))
  else
    match t.kind with
    | .number => let _ ← advance; pure (.lit (numberCell t.text))
    | .string => let _ ← advance; pure (textCell t.value)
    | .blob => let _ ← advance; pure (.lit (.blob (blobBytes t.value)))
    | .word =>
      let _ ← advance
      let k := upperAscii t.text
      if k = "NULL" then pure (.lit .null)
      else if k = "TRUE" then pure (.lit (.integer 1))
      else if k = "FALSE" then pure (.lit (.integer 0))
      else if k = "CURRENT_TIMESTAMP" || k = "CURRENT_DATE" || k = "CURRENT_TIME" then
        pure (.call (lowerAscii k) false [])
      else pure (textCell t.text)
    | .quotedName => let _ ← advance; pure (textCell t.value)
    | _ => syntaxError

/-- Reads the constraints of a column. -/
def readColumnConstraints : Nat → ColumnDecl → Reader ColumnDecl
  | 0, d => pure d
  | fuel + 1, d => do
    let name ← if ← eatKeyword "CONSTRAINT" then some <$> readName else pure none
    let some t ← peek | (if name.isSome then syntaxError else pure d)
    let k := if t.kind = .word then upperAscii t.text else ""
    match k with
    | "PRIMARY" =>
      let _ ← advance
      expectKeyword "KEY"
      let descending ← if ← eatKeyword "DESC" then pure true
        else do let _ ← eatKeyword "ASC"; pure false
      skipConflictClause
      let auto ← eatKeyword "AUTOINCREMENT"
      readColumnConstraints fuel { d with primary := true, descending,
                                          autoincrement := d.autoincrement || auto }
    | "NOT" =>
      let _ ← advance
      expectKeyword "NULL"
      skipConflictClause
      readColumnConstraints fuel { d with column := { d.column with notNull := true } }
    | "NULL" =>
      let _ ← advance
      skipConflictClause
      readColumnConstraints fuel d
    | "UNIQUE" =>
      let _ ← advance
      skipConflictClause
      readColumnConstraints fuel { d with unique := true }
    | "CHECK" =>
      let _ ← advance
      let k ← readCheck name
      readColumnConstraints fuel { d with checks := d.checks ++ [{ k with owner := some d.column.name }] }
    | "DEFAULT" =>
      let _ ← advance
      let e ← readDefault
      readColumnConstraints fuel { d with column := { d.column with default := some e } }
    | "COLLATE" =>
      let _ ← advance
      let c ← readName
      let some coll := Collation.ofName? c | throw ("no such collation sequence: " ++ c)
      readColumnConstraints fuel { d with column := { d.column with collation := some coll } }
    | "REFERENCES" =>
      let _ ← advance
      let fk ← readReferences fuel [d.column.name]
      readColumnConstraints fuel { d with foreign := d.foreign ++ [fk] }
    | "GENERATED" | "AS" =>
      if k = "GENERATED" then
        let _ ← advance
        expectKeyword "ALWAYS"
      expectKeyword "AS"
      expectSymbol "("
      let _ ← readExpr
      expectSymbol ")"
      let _ ← eatKeyword "STORED" <||> eatKeyword "VIRTUAL"
      readColumnConstraints fuel d
    | _ => if name.isSome then syntaxError else pure d

/-- Reads a column definition. -/
def readColumnDecl : Reader ColumnDecl := do
  let name ← readName
  let declared ← readType
  readColumnConstraints ((← get).toks.length + 1) { column := { name, declared } }

/-- A table constraint. -/
inductive TableConstraint where
  | key (columns : List String) (primary : Bool) (autoincrement : Bool)
  | check (c : Check)
  | foreign (fk : ForeignKey)

/-- Reads a table constraint. -/
def readTableConstraint : Reader TableConstraint := do
  let fuel := (← get).toks.length + 1
  let name ← if ← eatKeyword "CONSTRAINT" then some <$> readName else pure none
  let t ← advance
  if t.isKeyword "PRIMARY" then
    expectKeyword "KEY"
    let cols ← readIndexedNames fuel
    let auto ← eatKeyword "AUTOINCREMENT"
    skipConflictClause
    pure (.key cols true auto)
  else if t.isKeyword "UNIQUE" then
    let cols ← readIndexedNames fuel
    skipConflictClause
    pure (.key cols false false)
  else if t.isKeyword "CHECK" then pure (.check (← readCheck name))
  else if t.isKeyword "FOREIGN" then
    expectKeyword "KEY"
    let cols ← readIndexedNames fuel
    expectKeyword "REFERENCES"
    pure (.foreign (← readReferences fuel cols))
  else
    set { (← get) with toks := t :: (← get).toks }
    syntaxError

/-- Whether the next token starts a table constraint. -/
def startsTableConstraint : Reader Bool := do
  match ← peek with
  | some t => pure (["CONSTRAINT", "PRIMARY", "UNIQUE", "CHECK", "FOREIGN"].any t.isKeyword)
  | none => pure false

/-- The types a strict table allows. -/
def strictTypes : List String := ["INT", "INTEGER", "REAL", "TEXT", "BLOB", "ANY"]

/-- Reads the body of `CREATE TABLE` after its name. -/
def readTableBody (name : String) (ifNotExists : Bool) : Reader Statement := do
  expectSymbol "("
  let fuel := (← get).toks.length + 1
  let rec columns : Nat → List ColumnDecl → Reader (List ColumnDecl)
    | 0, acc => pure acc
    | f + 1, acc => do
      let d ← readColumnDecl
      if ← eatSymbol "," then
        if ← startsTableConstraint then pure (acc ++ [d]) else columns f (acc ++ [d])
      else pure (acc ++ [d])
  let decls ← columns fuel []
  let rec constraints : Nat → List TableConstraint → Reader (List TableConstraint)
    | 0, acc => pure acc
    | f + 1, acc => do
      if ← startsTableConstraint then
        let c ← readTableConstraint
        let _ ← eatSymbol ","
        constraints f (acc ++ [c])
      else pure acc
  let tcs ← constraints fuel []
  expectSymbol ")"
  let rec options : Nat → Bool × Bool → Reader (Bool × Bool)
    | 0, acc => pure acc
    | f + 1, (withoutRowid, strict) => do
      let some t ← peek | return (withoutRowid, strict)
      if t.isKeyword "WITHOUT" then
        let _ ← advance
        let n ← advance
        if !n.isKeyword "ROWID" then throw ("unknown table option: " ++ n.text)
        if ← eatSymbol "," then options f (true, strict) else pure (true, strict)
      else if t.kind = .word && !t.isSymbol ";" then
        let _ ← advance
        if !t.isKeyword "STRICT" then throw ("unknown table option: " ++ t.text)
        if ← eatSymbol "," then options f (withoutRowid, true) else pure (withoutRowid, true)
      else pure (withoutRowid, strict)
  let (withoutRowid, strict) ← options fuel (false, false)
  -- the primary key, and the row id: a single primary key column declared exactly INTEGER
  let tableKeys := tcs.filterMap fun
    | .key cols true _ => some cols
    | _ => none
  let primaryCols : List String := (decls.filter (·.primary)).map (·.column.name) ++ tableKeys.flatten
  if (decls.filter (·.primary)).length + tableKeys.length > 1 then
    throw ("table \"" ++ name ++ "\" has more than one primary key")
  let rowKey : Option String := if withoutRowid then none else match primaryCols with
    | [c] =>
      match decls.find? (fun d => sameName d.column.name c) with
      | some d => if upperAscii d.column.declared = "INTEGER" && !d.descending then some d.column.name else none
      | none => none
    | _ => none
  let autoincrement := decls.any (·.autoincrement) || tcs.any fun
    | .key _ true auto => auto
    | _ => false
  if autoincrement && withoutRowid then
    throw "AUTOINCREMENT not allowed on WITHOUT ROWID tables"
  if autoincrement && rowKey.isNone then
    throw "AUTOINCREMENT is only allowed on an INTEGER PRIMARY KEY"
  if withoutRowid && primaryCols.isEmpty then
    throw ("PRIMARY KEY missing on table " ++ name)
  if strict then
    for d in decls do
      if d.column.declared.isEmpty then
        throw ("missing datatype for " ++ name ++ "." ++ d.column.name)
      if !strictTypes.contains (upperAscii d.column.declared) then
        throw ("unknown datatype for " ++ name ++ "." ++ d.column.name ++ ": \"" ++
          d.column.declared ++ "\"")
  let columns := decls.map fun d =>
    { d.column with rowKey := rowKey.any (sameName d.column.name ·) }
  let checks := decls.flatMap (·.checks) ++ tcs.filterMap fun
    | .check c => some c
    | _ => none
  let foreignKeys := decls.flatMap (·.foreign) ++ tcs.filterMap fun
    | .foreign fk => some fk
    | _ => none
  let keys : List UniqueKey :=
    (decls.filterMap fun d =>
      if d.primary && rowKey.isNone && !withoutRowid then some ⟨[d.column.name], true⟩
      else if d.unique then some ⟨[d.column.name], false⟩ else none) ++
    tcs.filterMap fun
      | .key cols primary _ =>
        if primary && (rowKey.isSome || withoutRowid) then none else some ⟨cols, primary⟩
      | _ => none
  pure (.createTable { name, columns, checks, foreignKeys, autoincrement, strict, withoutRowid,
                       primaryKey := if rowKey.isSome then [] else primaryCols } keys ifNotExists)

/-! ## Statements -/

/-- Reads `IF NOT EXISTS`. -/
def readIfNotExists : Reader Bool := do
  if ← eatKeyword "IF" then
    expectKeyword "NOT"
    expectKeyword "EXISTS"
    pure true
  else pure false

/-- Reads `IF EXISTS`. -/
def readIfExists : Reader Bool := do
  if ← eatKeyword "IF" then
    expectKeyword "EXISTS"
    pure true
  else pure false

/-- Reads a conflict mode's word. -/
def readConflictWord : Reader Conflict := do
  let t ← advance
  if t.isKeyword "IGNORE" then pure .ignore
  else if t.isKeyword "REPLACE" then pure .replace
  else if t.isKeyword "ABORT" then pure .abort
  else if t.isKeyword "FAIL" then pure .fail
  else if t.isKeyword "ROLLBACK" then pure .rollback
  else
    set { (← get) with toks := t :: (← get).toks }
    syntaxError

/-- Reads `OR <mode>` after `INSERT` or `UPDATE`. -/
def readOrConflict : Reader (Option Conflict) := do
  if ← eatKeyword "OR" then some <$> readConflictWord else pure none

/-- Skips tokens to the end of the statement. -/
def skipStatement : Reader Unit := do
  let c ← get
  set { c with toks := c.toks.dropWhile fun t => !t.isSymbol ";" }

/-- Reads the assignments of `UPDATE` or of an upsert. -/
def readAssignments : Nat → List (List String × Expr) → Reader (List (List String × Expr))
  | 0, acc => pure acc
  | fuel + 1, acc => do
    let names ← if ← eatSymbol "(" then readNames fuel [] else pure [← readName]
    expectSymbol "="
    let e ← readExpr
    let acc := acc ++ [(names, e)]
    if ← eatSymbol "," then readAssignments fuel acc else pure acc

/-- Reads a `RETURNING` clause, if one comes. -/
def readReturning : Reader (List ResultColumn) := do
  if ← eatKeyword "RETURNING" then readResultColumns (← exprFuel) [] else pure []

/-- Reads the `ON CONFLICT` clauses of an `INSERT`. -/
def readUpserts : Nat → List Upsert → Reader (List Upsert)
  | 0, acc => pure acc
  | fuel + 1, acc => do
    if !(← nextIsKeyword "ON") then return acc
    let _ ← advance
    expectKeyword "CONFLICT"
    let target ← if ← nextIsSymbol "(" then some <$> readIndexedNames fuel else pure none
    let targetFilter ← if target.isSome && (← eatKeyword "WHERE") then some <$> readExpr else pure none
    expectKeyword "DO"
    let action ← if ← eatKeyword "NOTHING" then pure UpsertAction.nothing
      else do
        expectKeyword "UPDATE"
        expectKeyword "SET"
        let assignments ← readAssignments fuel []
        let filter ← if ← eatKeyword "WHERE" then some <$> readExpr else pure none
        pure (.update assignments filter)
    readUpserts fuel (acc ++ [{ target, targetFilter, action }])

/-- Reads `INSERT …` after its first word and conflict mode. -/
def readInsert (conflict : Option Conflict) : Reader Insert := do
  expectKeyword "INTO"
  let table ← readQualified
  let asName ← if ← eatKeyword "AS" then some <$> readName else pure none
  let columns ← if ← nextIsSymbol "(" then some <$> readIndexedNames ((← get).toks.length + 1)
    else pure none
  let source ← if ← eatKeyword "DEFAULT" then do
      expectKeyword "VALUES"
      pure InsertSource.defaults
    else if ← eatKeyword "VALUES" then
      .values <$> readValueRows (← exprFuel) []
    else if (← nextIsKeyword "SELECT") || (← nextIsKeyword "WITH") then
      .query <$> readQuery
    else syntaxError
  let upserts ← readUpserts ((← get).toks.length + 1) []
  let returning ← readReturning
  pure { conflict, table, asName, columns, source, upserts, returning }

/-- Reads `UPDATE …` after its first word. -/
def readUpdate : Reader Update := do
  let conflict ← readOrConflict
  let table ← readQualified
  let asName ← if ← eatKeyword "AS" then some <$> readName else pure none
  expectKeyword "SET"
  let assignments ← readAssignments ((← get).toks.length + 1) []
  let source ← if ← eatKeyword "FROM" then some <$> readSource (← exprFuel) else pure none
  let filter ← if ← eatKeyword "WHERE" then some <$> readExpr else pure none
  let returning ← readReturning
  pure { conflict, table, asName, assignments, source, filter, returning }

/-- Reads `DELETE …` after its first word. -/
def readDelete : Reader Delete := do
  expectKeyword "FROM"
  let table ← readQualified
  let asName ← if ← eatKeyword "AS" then some <$> readName else pure none
  let filter ← if ← eatKeyword "WHERE" then some <$> readExpr else pure none
  let returning ← readReturning
  pure { table, asName, filter, returning }

/-- Reads a statement that reads or changes rows, from its first word on. -/
def readChange : Reader Change := do
  let some t ← peek | syntaxError
  if t.isKeyword "INSERT" then
    let _ ← advance
    pure (.insert (← readInsert (← readOrConflict)))
  else if t.isKeyword "REPLACE" then
    let _ ← advance
    pure (.insert (← readInsert (some .replace)))
  else if t.isKeyword "UPDATE" then
    let _ ← advance
    pure (.update (← readUpdate))
  else if t.isKeyword "DELETE" then
    let _ ← advance
    pure (.delete (← readDelete))
  else if t.isKeyword "SELECT" || t.isKeyword "VALUES" || t.isKeyword "WITH" then
    pure (.select (← readQuery))
  else syntaxError

/-- Reads the statements of a trigger's body up to `END`. -/
def readTriggerBody : Nat → List Change → Reader (List Change)
  | 0, acc => pure acc
  | fuel + 1, acc => do
    if ← eatKeyword "END" then return acc
    let c ← readChange
    expectSymbol ";"
    readTriggerBody fuel (acc ++ [c])

/-- Reads `CREATE TRIGGER …` after `TRIGGER`. -/
def readTrigger : Reader Statement := do
  let ine ← readIfNotExists
  let name ← readQualified
  let time ← if ← eatKeyword "BEFORE" then pure TriggerTime.before
    else if ← eatKeyword "AFTER" then pure .after
    else if ← eatKeyword "INSTEAD" then do expectKeyword "OF"; pure .insteadOf
    else pure .before
  let t ← advance
  let event ← if t.isKeyword "INSERT" then pure TriggerEvent.insert
    else if t.isKeyword "DELETE" then pure .delete
    else if t.isKeyword "UPDATE" then
      if ← eatKeyword "OF" then
        let rec names : Nat → List String → Reader (List String)
          | 0, acc => pure acc
          | f + 1, acc => do
            let n ← readName
            if ← eatSymbol "," then names f (acc ++ [n]) else pure (acc ++ [n])
        pure (.update (← names ((← get).toks.length + 1) []))
      else pure (.update [])
    else do
      set { (← get) with toks := t :: (← get).toks }
      syntaxError
  expectKeyword "ON"
  let table ← readQualified
  if ← eatKeyword "FOR" then
    expectKeyword "EACH"
    expectKeyword "ROW"
  let condition ← if ← eatKeyword "WHEN" then some <$> readExpr else pure none
  expectKeyword "BEGIN"
  let body ← readTriggerBody ((← get).toks.length + 1) []
  pure (.createTrigger { name, table, time, event, condition, body } ine)

/-- Reads `CREATE …`. -/
def readCreate : Reader Statement := do
  let _ ← eatKeyword "TEMP" <||> eatKeyword "TEMPORARY"
  if ← eatKeyword "TABLE" then
    let ine ← readIfNotExists
    let name ← readQualified
    readTableBody name ine
  else if ← eatKeyword "VIEW" then
    let ine ← readIfNotExists
    let name ← readQualified
    let columns ← if ← eatSymbol "(" then readNames ((← get).toks.length + 1) [] else pure []
    expectKeyword "AS"
    let q ← readQuery
    pure (.createView { name, columns, query := q } ine)
  else if ← eatKeyword "TRIGGER" then readTrigger
  else
    let unique ← eatKeyword "UNIQUE"
    expectKeyword "INDEX"
    let ine ← readIfNotExists
    let name ← readQualified
    expectKeyword "ON"
    let table ← readName
    let cols ← readIndexedNames ((← get).toks.length + 1)
    let filter ← if ← eatKeyword "WHERE" then some <$> readExpr else pure none
    pure (.createIndex { name, table, columns := cols, unique, filter } ine)

/-- Reads `ALTER TABLE …`. -/
def readAlter : Reader Statement := do
  expectKeyword "TABLE"
  let table ← readQualified
  if ← eatKeyword "ADD" then
    let _ ← eatKeyword "COLUMN"
    let d ← readColumnDecl
    if d.primary then throw "Cannot add a PRIMARY KEY column"
    pure (.addColumn table d.column d.checks d.unique d.foreign)
  else if ← eatKeyword "RENAME" then
    if ← eatKeyword "TO" then return .renameTable table (← readName)
    let _ ← eatKeyword "COLUMN"
    let old ← readName
    expectKeyword "TO"
    let quotedNew := match ← peek with
      | some t => t.kind ≠ .word
      | none => false
    pure (.renameColumn table old (← readName) quotedNew)
  else if ← eatKeyword "DROP" then
    let _ ← eatKeyword "COLUMN"
    pure (.dropColumn table (← readName))
  else syntaxError

/-- Reads one statement. -/
def readStatement : Reader Statement := do
  let some t ← peek | syntaxError
  let k := if t.kind = .word then upperAscii t.text else ""
  match k with
  | "CREATE" => let _ ← advance; readCreate
  | "INSERT" | "REPLACE" | "UPDATE" | "DELETE" | "SELECT" | "VALUES" => pure (.change [] (← readChange))
  | "WITH" =>
    let _ ← advance
    let recursive ← eatKeyword "RECURSIVE"
    let ctes ← readCtes (← exprFuel) []
    match ← readChange with
    | .select q => pure (.change [] (.select (.scoped recursive ctes q)))
    | c => pure (.change ctes c)
  | "DROP" =>
    let _ ← advance
    let kind ← advance
    let ie ← readIfExists
    let name ← readQualified
    if kind.isKeyword "TABLE" then pure (.dropTable name ie)
    else if kind.isKeyword "INDEX" then pure (.dropIndex name ie)
    else if kind.isKeyword "VIEW" then pure (.dropView name ie)
    else if kind.isKeyword "TRIGGER" then pure (.dropTrigger name ie)
    else
      set { (← get) with toks := kind :: (← get).toks }
      syntaxError
  | "ALTER" => let _ ← advance; readAlter
  | "BEGIN" =>
    let _ ← advance
    let _ ← eatKeyword "DEFERRED" <||> eatKeyword "IMMEDIATE" <||> eatKeyword "EXCLUSIVE"
    if ← eatKeyword "TRANSACTION" then
      if let some n ← peek then
        if n.isName then let _ ← advance
    pure .begin
  | "COMMIT" | "END" =>
    let _ ← advance
    if ← eatKeyword "TRANSACTION" then
      if let some n ← peek then
        if n.isName then let _ ← advance
    pure .commit
  | "ROLLBACK" =>
    let _ ← advance
    if ← eatKeyword "TRANSACTION" then
      if let some n ← peek then
        if n.isName then let _ ← advance
    if ← eatKeyword "TO" then
      let _ ← eatKeyword "SAVEPOINT"
      pure (.rollback (some (← readName)))
    else pure (.rollback none)
  | "SAVEPOINT" => let _ ← advance; pure (.savepoint (← readName))
  | "RELEASE" =>
    let _ ← advance
    let _ ← eatKeyword "SAVEPOINT"
    pure (.release (← readName))
  | "PRAGMA" | "VACUUM" | "ANALYZE" | "REINDEX" | "EXPLAIN" | "DETACH" | "ATTACH" =>
    skipStatement
    pure .other
  | _ => syntaxError

/-- A statement read from the text, or why it could not be read. -/
abbrev Parsed := Except String Statement

/-- Reads the statements of SQL text in order; reading stops at the first that cannot be read,
which is given as its error. -/
def readScript (text : String) : List Parsed :=
  let lexed := lex text
  let ending := match lexed.bad with
    | some (t, _) => "unrecognized token: \"" ++ t ++ "\""
    | none => "incomplete input"
  let rec go : Nat → List Tok → List Parsed
    | 0, _ => []
    | fuel + 1, toks =>
      match toks with
      | [] => match lexed.bad with
        | some _ => [.error ending]
        | none => []
      | t :: rest =>
        if t.isSymbol ";" then go fuel rest
        else
          match (readStatement.run { toks, source := text.toList, ending }) with
          | .error m => [.error m]
          | .ok (st, c) =>
            match c.toks with
            | [] => .ok st :: (match lexed.bad with
                | some _ => [.error ending]
                | none => [])
            | n :: more =>
              if n.isSymbol ";" then .ok st :: go fuel more
              else [.error ("near \"" ++ n.text ++ "\": syntax error")]
  go (lexed.tokens.size + 1) lexed.tokens.toList

end SnapshotAgent.Store.Sql
