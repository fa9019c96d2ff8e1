import SnapshotAgent.Shell.Utility.Basic
import SnapshotAgent.Shell.Regex
/-!
# `expr`

`expr` evaluates an expression given as words, loosest first: `|`, `&`, the comparisons
`< <= = == != >= >`, `+ -`, `* / %`, the match `:`, then `match`, `substr`, `index`, `length`,
`+ word` and parentheses. Integers are unbounded; a word is an integer when it is an optional
`-` and digits. Comparisons are numeric when both sides are integers and by bytes otherwise.

`STRING : REGEX` matches a basic regular expression at the start of the string and answers the
first group's text when the expression has a group, else the length of the match.

The value is printed with a newline; the status is 1 when the value is empty or zero, 0
otherwise, and 2 for an expression that does not read or cannot be evaluated. Operands of `|`
and `&` that are not needed are read but not evaluated, so they raise no error.
-/

namespace SnapshotAgent.Shell

/-- A value of `expr`. -/
inductive ExprValue where
  | int (v : Int)
  | str (s : String)
  deriving Repr, DecidableEq, Inhabited

/-- The text of a value. -/
def ExprValue.text : ExprValue → String
  | .int v => toString v
  | .str s => s

/-- Reads an integer: an optional `-` and at least one digit, nothing else. -/
def integerWord? (s : String) : Option Int :=
  let (neg, ds) := match s.toList with
    | '-' :: r => (true, r)
    | r => (false, r)
  if ds.isEmpty || !ds.all Char.isDigit then none
  else
    let v : Nat := ds.foldl (fun a d => a * 10 + (d.toNat - 48)) 0
    some (if neg then -(v : Int) else v)

/-- The integer a value is, if it is one. -/
def ExprValue.toInt? : ExprValue → Option Int
  | .int v => some v
  | .str s => integerWord? s

/-- Whether a value counts as false: zero, or text that is empty or only zeros after an
optional `-`. -/
def ExprValue.isNull : ExprValue → Bool
  | .int v => v = 0
  | .str s =>
    match s.toList with
    | [] => true
    | '-' :: r => !r.isEmpty && r.all (· = '0')
    | r => r.all (· = '0')

/-- Why an expression failed. -/
inductive ExprFailure where
  | unexpectedArgument (w : String)
  | missingArgument (after : String)
  | expectingParenAfter (w : String)
  | expectingParenInstead (w : String)
  | unexpectedParen
  | nonInteger
  | divisionByZero
  | regex (e : RegexError)
  deriving Repr, Inhabited

/-- The message of a failure. -/
def ExprFailure.message : ExprFailure → String
  | .unexpectedArgument w => "syntax error: unexpected argument " ++ quoted w
  | .missingArgument w => "syntax error: missing argument after " ++ quoted w
  | .expectingParenAfter w => "syntax error: expecting ')' after " ++ quoted w
  | .expectingParenInstead w => "syntax error: expecting ')' instead of " ++ quoted w
  | .unexpectedParen => "syntax error: unexpected ')'"
  | .nonInteger => "non-integer argument"
  | .divisionByZero => "division by zero"
  | .regex e => e.message

/-- Matches a string against a regular expression at its start. -/
def colonMatch (s pattern : String) : Except ExprFailure ExprValue :=
  match Regex.read false pattern with
  | .error e => .error (.regex e)
  | .ok (r, groups) =>
    let input := s.toList.toArray
    match longestMatch r input 0 with
    | some (e, caps) =>
      if groups > 0 then
        .ok (.str (((capturedText input caps 1).map String.ofList).getD ""))
      else .ok (.int e)
    | none => .ok (if groups > 0 then .str "" else .int 0)

/-- A step of reading: the value and the position of the next word. -/
abbrev ExprStep := Except ExprFailure (ExprValue × Nat)

/-- Compares two values: as integers when both are, else by bytes. -/
def compareValues (a b : ExprValue) : Ordering :=
  match a.toInt?, b.toInt? with
  | some x, some y => compare x y
  | _, _ => compare (Text.utf8Bytes a.text) (Text.utf8Bytes b.text)

/-- The comparison operators and what they accept. -/
def comparisons : List (String × (Ordering → Bool)) :=
  [("<", (· == .lt)), ("<=", (· != .gt)), ("=", (· == .eq)), ("==", (· == .eq)),
   ("!=", (· != .eq)), (">=", (· != .lt)), (">", (· == .gt))]

/-- Applies an arithmetic operator. -/
def arithmeticValue (op : String) (a b : ExprValue) : Except ExprFailure ExprValue :=
  match a.toInt?, b.toInt? with
  | some x, some y =>
    if op = "+" then .ok (.int (x + y))
    else if op = "-" then .ok (.int (x - y))
    else if op = "*" then .ok (.int (x * y))
    else if y = 0 then .error .divisionByZero
    else if op = "/" then .ok (.int (Int.tdiv x y))
    else .ok (.int (Int.tmod x y))
  | _, _ => .error .nonInteger

/-- The substring from a 1-based position with a length; empty when they do not fit. -/
def substrValue (s : ExprValue) (pos len : ExprValue) : ExprValue :=
  let cs := s.text.toList
  match pos.toInt?, len.toInt? with
  | some p, some l =>
    if p < 1 || l < 1 || cs.length < p.toNat then .str ""
    else .str (String.ofList ((cs.drop (p.toNat - 1)).take l.toNat))
  | _, _ => .str ""

/-- The 1-based position of the first character of a string that is among some characters, or
zero. -/
def indexValue (s chars : ExprValue) : ExprValue :=
  let set := chars.text.toList
  match s.text.toList.findIdx? (set.contains ·) with
  | some i => .int (i + 1)
  | none => .int 0

mutual
/-- Reads `|`. -/
def exprOr : Nat → Bool → Array String → Nat → ExprStep
  | 0, _, _, i => .ok (.int 0, i)
  | fuel + 1, ev, args, i => do
    let (l, i) ← exprAnd fuel ev args i
    exprOrRest fuel ev args l i

/-- Reads the rest of `|`. -/
def exprOrRest : Nat → Bool → Array String → ExprValue → Nat → ExprStep
  | 0, _, _, l, i => .ok (l, i)
  | fuel + 1, ev, args, l, i =>
    if args[i]? = some "|" then do
      let (r, j) ← exprAnd fuel (ev && l.isNull) args (i + 1)
      let v := if l.isNull then (if r.isNull then .int 0 else r) else l
      exprOrRest fuel ev args v j
    else .ok (l, i)

/-- Reads `&`. -/
def exprAnd : Nat → Bool → Array String → Nat → ExprStep
  | 0, _, _, i => .ok (.int 0, i)
  | fuel + 1, ev, args, i => do
    let (l, i) ← exprCompare fuel ev args i
    exprAndRest fuel ev args l i

/-- Reads the rest of `&`. -/
def exprAndRest : Nat → Bool → Array String → ExprValue → Nat → ExprStep
  | 0, _, _, l, i => .ok (l, i)
  | fuel + 1, ev, args, l, i =>
    if args[i]? = some "&" then do
      let (r, j) ← exprCompare fuel (ev && !l.isNull) args (i + 1)
      let v := if l.isNull || r.isNull then .int 0 else l
      exprAndRest fuel ev args v j
    else .ok (l, i)

/-- Reads comparisons. -/
def exprCompare : Nat → Bool → Array String → Nat → ExprStep
  | 0, _, _, i => .ok (.int 0, i)
  | fuel + 1, ev, args, i => do
    let (l, i) ← exprSum fuel ev args i
    exprCompareRest fuel ev args l i

/-- Reads the rest of comparisons. -/
def exprCompareRest : Nat → Bool → Array String → ExprValue → Nat → ExprStep
  | 0, _, _, l, i => .ok (l, i)
  | fuel + 1, ev, args, l, i =>
    match (args[i]?).bind (fun w => List.lookup w comparisons) with
    | some accepts => do
      let (r, j) ← exprSum fuel ev args (i + 1)
      let v : ExprValue := if ev then .int (if accepts (compareValues l r) then 1 else 0) else .int 0
      exprCompareRest fuel ev args v j
    | none => .ok (l, i)

/-- Reads `+` and `-`. -/
def exprSum : Nat → Bool → Array String → Nat → ExprStep
  | 0, _, _, i => .ok (.int 0, i)
  | fuel + 1, ev, args, i => do
    let (l, i) ← exprProduct fuel ev args i
    exprSumRest fuel ev args l i

/-- Reads the rest of `+` and `-`. -/
def exprSumRest : Nat → Bool → Array String → ExprValue → Nat → ExprStep
  | 0, _, _, l, i => .ok (l, i)
  | fuel + 1, ev, args, l, i =>
    match args[i]? with
    | some op =>
      if op = "+" || op = "-" then do
        let (r, j) ← exprProduct fuel ev args (i + 1)
        let v ← if ev then arithmeticValue op l r else pure l
        exprSumRest fuel ev args v j
      else .ok (l, i)
    | none => .ok (l, i)

/-- Reads `*`, `/` and `%`. -/
def exprProduct : Nat → Bool → Array String → Nat → ExprStep
  | 0, _, _, i => .ok (.int 0, i)
  | fuel + 1, ev, args, i => do
    let (l, i) ← exprColon fuel ev args i
    exprProductRest fuel ev args l i

/-- Reads the rest of `*`, `/` and `%`. -/
def exprProductRest : Nat → Bool → Array String → ExprValue → Nat → ExprStep
  | 0, _, _, l, i => .ok (l, i)
  | fuel + 1, ev, args, l, i =>
    match args[i]? with
    | some op =>
      if op = "*" || op = "/" || op = "%" then do
        let (r, j) ← exprColon fuel ev args (i + 1)
        let v ← if ev then arithmeticValue op l r else pure l
        exprProductRest fuel ev args v j
      else .ok (l, i)
    | none => .ok (l, i)

/-- Reads `:`. -/
def exprColon : Nat → Bool → Array String → Nat → ExprStep
  | 0, _, _, i => .ok (.int 0, i)
  | fuel + 1, ev, args, i => do
    let (l, i) ← exprUnary fuel ev args i
    exprColonRest fuel ev args l i

/-- Reads the rest of `:`. -/
def exprColonRest : Nat → Bool → Array String → ExprValue → Nat → ExprStep
  | 0, _, _, l, i => .ok (l, i)
  | fuel + 1, ev, args, l, i =>
    if args[i]? = some ":" then do
      let (r, j) ← exprUnary fuel ev args (i + 1)
      let v ← if ev then colonMatch l.text r.text else pure l
      exprColonRest fuel ev args v j
    else .ok (l, i)

/-- Reads the keyword forms, `+ word`, and primaries. -/
def exprUnary : Nat → Bool → Array String → Nat → ExprStep
  | 0, _, _, i => .ok (.int 0, i)
  | fuel + 1, ev, args, i =>
    match args[i]? with
    | some "+" =>
      match args[i + 1]? with
      | some w => .ok (.str w, i + 2)
      | none => .error (.missingArgument "+")
    | some "length" => do
      let (r, j) ← exprUnary fuel ev args (i + 1)
      pure (.int r.text.length, j)
    | some "match" => do
      let (l, j) ← exprUnary fuel ev args (i + 1)
      let (r, k) ← exprUnary fuel ev args j
      let v ← if ev then colonMatch l.text r.text else pure l
      pure (v, k)
    | some "index" => do
      let (l, j) ← exprUnary fuel ev args (i + 1)
      let (r, k) ← exprUnary fuel ev args j
      pure (indexValue l r, k)
    | some "substr" => do
      let (s, j) ← exprUnary fuel ev args (i + 1)
      let (p, k) ← exprUnary fuel ev args j
      let (l, m) ← exprUnary fuel ev args k
      pure (substrValue s p l, m)
    | _ => exprPrimary fuel ev args i

/-- Reads a parenthesized expression or a word. -/
def exprPrimary : Nat → Bool → Array String → Nat → ExprStep
  | 0, _, _, i => .ok (.int 0, i)
  | fuel + 1, ev, args, i =>
    match args[i]? with
    | none => .error (.missingArgument (args[i - 1]?.getD ""))
    | some "(" => do
      let (v, j) ← exprOr fuel ev args (i + 1)
      match args[j]? with
      | none => .error (.expectingParenAfter (args[j - 1]?.getD ""))
      | some ")" => pure (v, j + 1)
      | some w => .error (.expectingParenInstead w)
    | some ")" => .error .unexpectedParen
    | some w => .ok (.str w, i + 1)
end

/-- Evaluates the words of an expression. -/
def evalExprWords (args : List String) : Except ExprFailure ExprValue := do
  let arr := args.toArray
  let (v, i) ← exprOr (8 * arr.size + 16) true arr 0
  match arr[i]? with
  | some w => throw (.unexpectedArgument w)
  | none => pure v

/-- The `expr` utility. -/
def runExpr (name : String) (args : List String) (fs : Files) : Outcome :=
  let args := match args with
    | "--" :: rest => rest
    | _ => args
  if args.isEmpty then usageFailureCode fs name "missing operand" 2
  else
    match evalExprWords args with
    | .ok v =>
      { execution := { stdout := Text.utf8Bytes (v.text ++ "\n"), ending := .exited (if v.isNull then 1 else 0) },
        files := fs }
    | .error e =>
      { execution := { stderr := messageLine name e.message, ending := .exited 2 }, files := fs }

end SnapshotAgent.Shell
