/-!
# Shell arithmetic

`$((…))` evaluates an integer expression in the language of C: numbers in base 10, 8 (a leading
`0`) or 16 (a leading `0x`), variables, the unary operators `+ - ! ~`, the binary operators from
`*` down to `||` with C's precedence, the conditional `?:` and the assignments `=`, `*=`, … `|=`.
Arithmetic is on 64-bit words, wrapping; division truncates toward zero, and dividing by zero is
an error. `&&`, `||` and `?:` evaluate only the operands they need.

Two dialects are read. The plain shell reads a variable's value as a number and refuses any
other text; `bash` reads it as an expression of its own, and also knows `**`, `++`, `--`, the
comma operator and numbers written `base#digits`.

An expression is read into a tree first and evaluated after; the assignments it makes are
answered in the order they were made.
-/

namespace SnapshotAgent.Shell

/-- The binary operators on integers. -/
inductive ArithOp where
  | mul | div | rem | add | sub | shl | shr | lt | le | gt | ge | eq | ne | band | bxor | bor | pow
  deriving Repr, DecidableEq, Inhabited

/-- An arithmetic expression. -/
inductive ArithExpr where
  | num (v : Int)
  | var (name : String)
  | negate (e : ArithExpr)
  | plus (e : ArithExpr)
  | lnot (e : ArithExpr)
  | bnot (e : ArithExpr)
  /-- A binary operator, with the text from its right operand on, which a division by zero
  shows. -/
  | binary (op : ArithOp) (a b : ArithExpr) (right : String)
  | land (a b : ArithExpr)
  | lor (a b : ArithExpr)
  | cond (c a b : ArithExpr)
  /-- An assignment, plain or with an operator. -/
  | assign (name : String) (op : Option ArithOp) (e : ArithExpr)
  /-- `++` or `--` before or after a variable. -/
  | step (name : String) (delta : Int) (post : Bool)
  | comma (a b : ArithExpr)
  deriving Repr, Inhabited

/-- What went wrong in an arithmetic expression. -/
inductive ArithError where
  | expectingPrimary (rest : String)
  | expectingEnd (rest : String)
  | expectingParen (rest : String)
  | expectingColon (rest : String)
  | divisionByZero (rest : String)
  | negativeExponent (rest : String)
  | badNumber (text : String)
  /-- A variable whose value is not a number. -/
  | illegalNumber (value : String)
  | assignToValue (rest : String)
  | tooDeep (rest : String)
  deriving Repr, Inhabited

/-- The message of an arithmetic error for the expression's text, as each dialect words it. -/
def ArithError.message (bash : Bool) (text : String) : ArithError → String
  | .illegalNumber v => "Illegal number: " ++ v
  | e =>
    if bash then
      let (what, rest) := match e with
        | .expectingPrimary r => ("syntax error: operand expected", r)
        | .expectingEnd r => ("syntax error: invalid arithmetic operator", r)
        | .expectingParen r => ("missing ')'", r)
        | .expectingColon r => ("expected ':' for conditional expression", r)
        | .divisionByZero r => ("division by 0", r)
        | .negativeExponent r => ("exponent less than 0", r)
        | .badNumber r => ("value too great for base", r)
        | .assignToValue r => ("attempted assignment to non-variable", r)
        | .tooDeep r => ("expression recursion level exceeded", r)
        | .illegalNumber r => ("", r)
      let shown := String.ofList (text.toList.dropWhile fun c => c = ' ' || c = '\t')
      shown ++ ": " ++ what ++ " (error token is \"" ++ rest ++ "\")"
    else
      let what := match e with
        | .expectingPrimary _ | .badNumber _ | .tooDeep _ => "expecting primary"
        | .expectingEnd _ | .assignToValue _ => "expecting EOF"
        | .expectingParen _ => "expecting ')'"
        | .expectingColon _ => "expecting ':'"
        | .divisionByZero _ => "division by zero"
        | .negativeExponent _ => "expecting EOF"
        | .illegalNumber _ => ""
      "arithmetic expression: " ++ what ++ ": \"" ++ text ++ "\""

/-- A token of an arithmetic expression. -/
inductive ArithToken where
  | num (v : Int)
  | name (s : String)
  | op (s : String)
  /-- A number that does not read. -/
  | badNum (text : String)
  /-- A character that starts no token. -/
  | bad
  deriving Repr, DecidableEq, Inhabited

/-- A token with the text from it to the end, which error messages show. -/
structure Lexeme where
  tok : ArithToken
  rest : String
  deriving Repr, Inhabited

/-- The operators, longest first. -/
def arithOperators (bash : Bool) : List String :=
  (if bash then ["**=", "**", "++", "--", ","] else []) ++
  ["<<=", ">>=", "<<", ">>", "<=", ">=", "==", "!=", "&&", "||", "+=", "-=", "*=", "/=", "%=",
   "&=", "^=", "|=", "+", "-", "*", "/", "%", "<", ">", "&", "^", "|", "!", "~", "=", "?", ":",
   "(", ")"]

/-- The value of a digit in bases up to 64: `0-9`, `a-z`, `A-Z`, `@`, `_`; letters of either
case count alike in bases up to 36. -/
def digitValue (base : Nat) (c : Char) : Option Nat :=
  let v :=
    if c.isDigit then some (c.toNat - 48)
    else if c.isLower then some (c.toNat - 97 + 10)
    else if c.isUpper then some (if base ≤ 36 then c.toNat - 65 + 10 else c.toNat - 65 + 36)
    else if c = '@' then some 62
    else if c = '_' then some 63
    else none
  match v with
  | some d => if d < base then some d else none
  | none => none

/-- The value of digits in a base, if all are digits of it. -/
def digitsValue (base : Nat) (cs : List Char) : Option Nat :=
  cs.foldl (fun acc c => match acc, digitValue base c with
    | some v, some d => some (v * base + d)
    | _, _ => none) (some 0)

/-- Reads a number the plain shell's way: base 16 after `0x`, base 8 after `0`, else base 10,
as far as digits go. -/
def readPlainNumber (cs : List Char) : Nat × List Char :=
  match cs with
  | '0' :: x :: rest =>
    if (x = 'x' || x = 'X') && (rest.head?.bind (digitValue 16)).isSome then
      let ds := rest.takeWhile fun c => (digitValue 16 c).isSome
      ((digitsValue 16 ds).getD 0, rest.drop ds.length)
    else
      let ds := cs.takeWhile fun c => (digitValue 8 c).isSome
      ((digitsValue 8 ds).getD 0, cs.drop ds.length)
  | _ =>
    let ds := cs.takeWhile Char.isDigit
    ((digitsValue 10 ds).getD 0, cs.drop ds.length)

/-- Reads a number the way of `bash`: the whole run of letters, digits, `#`, `@` and `_`, as
`base#digits`, `0x…`, `0…` or decimal. -/
def readBashNumber (cs : List Char) : ArithToken × List Char :=
  let run := cs.takeWhile fun c => c.isAlphanum || c = '#' || c = '@' || c = '_'
  let rest := cs.drop run.length
  let text := String.ofList run
  let value : Option Nat :=
    match run.splitOn '#' with
    | [b, ds] =>
      match digitsValue 10 b with
      | some base => if 2 ≤ base && base ≤ 64 && !ds.isEmpty then digitsValue base ds else none
      | none => none
    | [ds] =>
      match ds with
      | '0' :: x :: hex => if x = 'x' || x = 'X' then (if hex.isEmpty then some 0 else digitsValue 16 hex) else digitsValue 8 ds
      | _ => digitsValue 10 ds
    | _ => none
  match value with
  | some v => (.num v, rest)
  | none => (.badNum text, rest)

/-- Splits an expression into tokens. -/
def arithTokens (bash : Bool) (fuel : Nat) (cs : List Char) (acc : Array Lexeme) : Array Lexeme :=
  match fuel with
  | 0 => acc
  | fuel + 1 =>
    match cs with
    | [] => acc
    | c :: rest =>
      if c = ' ' || c = '\t' || c = '\n' then arithTokens bash fuel rest acc
      else
        let here := String.ofList cs
        if c.isDigit then
          let (tok, more) := if bash then readBashNumber cs else
            let (v, more) := readPlainNumber cs
            (ArithToken.num v, more)
          arithTokens bash fuel more (acc.push ⟨tok, here⟩)
        else if c.isAlpha || c = '_' then
          let name := cs.takeWhile fun d => d.isAlphanum || d = '_'
          arithTokens bash fuel (cs.drop name.length) (acc.push ⟨.name (String.ofList name), here⟩)
        else
          match (arithOperators bash).find? fun o => o.toList.isPrefixOf cs with
          | some o => arithTokens bash fuel (cs.drop o.length) (acc.push ⟨.op o, here⟩)
          | none => acc.push ⟨.bad, here⟩

/-- The binary operators by precedence, loosest first, for one level each. -/
def binaryLevels (bash : Bool) : List (List (String × ArithOp)) :=
  [[("|", .bor)], [("^", .bxor)], [("&", .band)], [("==", .eq), ("!=", .ne)],
   [("<", .lt), ("<=", .le), (">", .gt), (">=", .ge)], [("<<", .shl), (">>", .shr)],
   [("+", .add), ("-", .sub)], [("*", .mul), ("/", .div), ("%", .rem)]] ++
  (if bash then [[("**", .pow)]] else [])

/-- The compound assignment operators. -/
def assignOps : List (String × Option ArithOp) :=
  [("=", none), ("*=", some .mul), ("/=", some .div), ("%=", some .rem), ("+=", some .add),
   ("-=", some .sub), ("<<=", some .shl), (">>=", some .shr), ("&=", some .band),
   ("^=", some .bxor), ("|=", some .bor), ("**=", some .pow)]

/-- The text from the next token on, for messages; empty at the end. -/
def restOf : List Lexeme → String
  | l :: _ => l.rest
  | [] => ""

/-- Whether the next token is this operator. -/
def nextIs (o : String) : List Lexeme → Bool
  | ⟨.op p, _⟩ :: _ => p == o
  | _ => false

/-- A reader of arithmetic tokens. -/
abbrev ArithParse := List Lexeme → Except ArithError (ArithExpr × List Lexeme)

mutual
/-- Reads a comma list (only `bash` has the operator). -/
def readComma : Nat → Bool → ArithParse
  | 0, _, ts => .error (.tooDeep (restOf ts))
  | fuel + 1, bash, ts => do
    let (a, rest) ← readAssign fuel bash ts
    match rest with
    | ⟨.op ",", _⟩ :: more => do
      let (b, after) ← readComma fuel bash more
      pure (.comma a b, after)
    | _ => pure (a, rest)

/-- Reads an assignment or a conditional expression. -/
def readAssign : Nat → Bool → ArithParse
  | 0, _, ts => .error (.tooDeep (restOf ts))
  | fuel + 1, bash, ts =>
    match ts with
    | ⟨.name n, _⟩ :: ⟨.op o, _⟩ :: more =>
      match assignOps.lookup o with
      | some op => do
        let (e, rest) ← readAssign fuel bash more
        pure (.assign n op e, rest)
      | none => readCond fuel bash ts
    | _ => readCond fuel bash ts

/-- Reads a conditional expression. -/
def readCond : Nat → Bool → ArithParse
  | 0, _, ts => .error (.tooDeep (restOf ts))
  | fuel + 1, bash, ts => do
    let (c, rest) ← readOr fuel bash ts
    match rest with
    | ⟨.op "?", _⟩ :: more => do
      let (a, rest) ← (if bash then readComma fuel bash more else readAssign fuel bash more)
      match rest with
      | ⟨.op ":", _⟩ :: more => do
        let (b, rest) ← readCond fuel bash more
        pure (.cond c a b, rest)
      | _ => .error (.expectingColon (restOf rest))
    | ⟨.op "=", _⟩ :: _ => .error (.assignToValue (restOf rest))
    | _ => pure (c, rest)

/-- Reads `||` lists. -/
def readOr : Nat → Bool → ArithParse
  | 0, _, ts => .error (.tooDeep (restOf ts))
  | fuel + 1, bash, ts => do
    let (a, rest) ← readAnd fuel bash ts
    readOrRest fuel bash a rest

/-- Reads the rest of a `||` list. -/
def readOrRest : Nat → Bool → ArithExpr → ArithParse
  | 0, _, _, ts => .error (.tooDeep (restOf ts))
  | fuel + 1, bash, a, ts =>
    match ts with
    | ⟨.op "||", _⟩ :: more => do
      let (b, rest) ← readAnd fuel bash more
      readOrRest fuel bash (.lor a b) rest
    | _ => pure (a, ts)

/-- Reads `&&` lists. -/
def readAnd : Nat → Bool → ArithParse
  | 0, _, ts => .error (.tooDeep (restOf ts))
  | fuel + 1, bash, ts => do
    let (a, rest) ← readLevel fuel bash (binaryLevels bash) ts
    readAndRest fuel bash a rest

/-- Reads the rest of a `&&` list. -/
def readAndRest : Nat → Bool → ArithExpr → ArithParse
  | 0, _, _, ts => .error (.tooDeep (restOf ts))
  | fuel + 1, bash, a, ts =>
    match ts with
    | ⟨.op "&&", _⟩ :: more => do
      let (b, rest) ← readLevel fuel bash (binaryLevels bash) more
      readAndRest fuel bash (.land a b) rest
    | _ => pure (a, ts)

/-- Reads the binary operators of the given levels, loosest first. -/
def readLevel : Nat → Bool → List (List (String × ArithOp)) → ArithParse
  | 0, _, _, ts => .error (.tooDeep (restOf ts))
  | fuel + 1, bash, [], ts => readUnary fuel bash ts
  | fuel + 1, bash, level :: tighter, ts => do
    let (a, rest) ← readLevel fuel bash tighter ts
    readLevelRest fuel bash level tighter a rest

/-- Reads the rest of one level's operators; `**` groups to the right. -/
def readLevelRest : Nat → Bool → List (String × ArithOp) → List (List (String × ArithOp)) →
    ArithExpr → ArithParse
  | 0, _, _, _, _, ts => .error (.tooDeep (restOf ts))
  | fuel + 1, bash, level, tighter, a, ts =>
    match ts with
    | ⟨.op o, _⟩ :: more =>
      match level.lookup o with
      | some .pow => do
        let (b, rest) ← readLevel fuel bash (level :: tighter) more
        pure (.binary .pow a b (restOf more), rest)
      | some op => do
        let (b, rest) ← readLevel fuel bash tighter more
        readLevelRest fuel bash level tighter (.binary op a b (restOf more)) rest
      | none => pure (a, ts)
    | _ => pure (a, ts)

/-- Reads a unary expression. -/
def readUnary : Nat → Bool → ArithParse
  | 0, _, ts => .error (.tooDeep (restOf ts))
  | fuel + 1, bash, ts =>
    match ts with
    | ⟨.op "-", _⟩ :: more => do
      let (e, rest) ← readUnary fuel bash more
      pure (.negate e, rest)
    | ⟨.op "+", _⟩ :: more => do
      let (e, rest) ← readUnary fuel bash more
      pure (.plus e, rest)
    | ⟨.op "!", _⟩ :: more => do
      let (e, rest) ← readUnary fuel bash more
      pure (.lnot e, rest)
    | ⟨.op "~", _⟩ :: more => do
      let (e, rest) ← readUnary fuel bash more
      pure (.bnot e, rest)
    | ⟨.op "++", _⟩ :: ⟨.name n, _⟩ :: more => pure (.step n 1 false, more)
    | ⟨.op "--", _⟩ :: ⟨.name n, _⟩ :: more => pure (.step n (-1) false, more)
    | _ => readPrimary fuel bash ts

/-- Reads a number, a variable (perhaps with `++` or `--` after it) or a parenthesized
expression. -/
def readPrimary : Nat → Bool → ArithParse
  | 0, _, ts => .error (.tooDeep (restOf ts))
  | fuel + 1, bash, ts =>
    match ts with
    | ⟨.num v, _⟩ :: more => pure (.num v, more)
    | ⟨.badNum _, r⟩ :: _ => .error (.badNumber r)
    | ⟨.name n, _⟩ :: ⟨.op "++", _⟩ :: more => pure (.step n 1 true, more)
    | ⟨.name n, _⟩ :: ⟨.op "--", _⟩ :: more => pure (.step n (-1) true, more)
    | ⟨.name n, _⟩ :: more => pure (.var n, more)
    | ⟨.op "(", _⟩ :: more => do
      let (e, rest) ← (if bash then readComma fuel bash more else readAssign fuel bash more)
      match rest with
      | ⟨.op ")", _⟩ :: after => pure (e, after)
      | _ => .error (.expectingParen (restOf rest))
    | _ => .error (.expectingPrimary (restOf ts))
end

/-- Reads a whole expression; an empty one is zero. -/
def ArithExpr.read (bash : Bool) (text : String) : Except ArithError ArithExpr :=
  let ts := (arithTokens bash (text.length + 1) text.toList #[]).toList
  if ts.isEmpty then .ok (.num 0)
  else
    match (if bash then readComma (32 * ts.length + 64) bash ts else readAssign (32 * ts.length + 64) bash ts) with
    | .ok (e, []) => .ok e
    | .ok (_, rest) => .error (.expectingEnd (restOf rest))
    | .error e => .error e

/-- A value as a 64-bit word: the integer in `[-2^63, 2^63)` equal to it modulo `2^64`. -/
def wrapWord (v : Int) : Int := Int.bmod v (Nat.pow 2 64)

/-- A power on 64-bit words, by squaring. -/
def powWord (base : Int) (n : Nat) : Int :=
  let rec go (fuel : Nat) (b acc : Int) (n : Nat) : Int :=
    match fuel with
    | 0 => acc
    | fuel + 1 =>
      if n = 0 then acc
      else go fuel (wrapWord (b * b)) (if n % 2 = 1 then wrapWord (acc * b) else acc) (n / 2)
  go 65 (wrapWord base) 1 n

/-- A truth value as a number. -/
def ofTruth (b : Bool) : Int := if b then 1 else 0

/-- Applies a binary operator; the text from the right operand on is for messages. -/
def ArithOp.apply (op : ArithOp) (a b : Int) (rest : String) : Except ArithError Int :=
  match op with
  | .mul => .ok (wrapWord (a * b))
  | .div => if b = 0 then .error (.divisionByZero rest) else .ok (wrapWord (Int.tdiv a b))
  | .rem => if b = 0 then .error (.divisionByZero rest) else .ok (wrapWord (Int.tmod a b))
  | .add => .ok (wrapWord (a + b))
  | .sub => .ok (wrapWord (a - b))
  | .shl => .ok (wrapWord (a * Int.pow 2 (b % 64).toNat))
  | .shr => .ok (a / Int.pow 2 (b % 64).toNat)
  | .lt => .ok (ofTruth (a < b))
  | .le => .ok (ofTruth (a ≤ b))
  | .gt => .ok (ofTruth (a > b))
  | .ge => .ok (ofTruth (a ≥ b))
  | .eq => .ok (ofTruth (a = b))
  | .ne => .ok (ofTruth (a ≠ b))
  | .band => .ok (BitVec.ofInt 64 a &&& BitVec.ofInt 64 b).toInt
  | .bxor => .ok (BitVec.ofInt 64 a ^^^ BitVec.ofInt 64 b).toInt
  | .bor => .ok (BitVec.ofInt 64 a ||| BitVec.ofInt 64 b).toInt
  | .pow => if b < 0 then .error (.negativeExponent rest) else .ok (powWord a b.toNat)

/-- Reads a variable's value as the plain shell does: blanks around an optionally signed number
in base 10, 8 or 16; an empty value is zero. -/
def readVariableNumber (value : String) : Except ArithError Int :=
  let isBlank (c : Char) : Bool := c = ' ' || c = '\t' || c = '\n'
  let cs := value.toList.dropWhile isBlank
  if cs.isEmpty then .ok 0
  else
    let (neg, body) := match cs with
      | '-' :: r => (true, r)
      | '+' :: r => (false, r)
      | r => (false, r)
    if !(body.head?.map Char.isDigit).getD false then .error (.illegalNumber value)
    else
      let (v, rest) := readPlainNumber body
      if rest.all isBlank then .ok (wrapWord (if neg then -(v : Int) else v))
      else .error (.illegalNumber value)

/-- What arithmetic sees of the shell's variables, and the assignments made so far, newest
first. -/
structure ArithScope where
  lookup : String → Option String
  assigned : List (String × Int) := []

/-- The value of a variable under assignments made so far. -/
def ArithScope.value? (s : ArithScope) (name : String) : Option String :=
  match s.assigned.lookup name with
  | some v => some (toString v)
  | none => s.lookup name

/-- Evaluation in a scope that assignments change. -/
abbrev ArithM := StateT ArithScope (Except ArithError)

/-- Lifts a result into evaluation. -/
def liftExcept {α : Type} (r : Except ArithError α) : ArithM α :=
  match r with
  | .ok v => pure v
  | .error e => throw e

mutual
/-- Reads a variable's number; `bash` evaluates the value as an expression of its own, with a
bound on how deep such values may nest. -/
def variableValue : Nat → Bool → String → ArithM Int
  | 0, _, name => throw (.tooDeep name)
  | depth + 1, bash, name => do
    let s ← get
    match s.assigned.lookup name with
    | some v => pure v
    | none =>
      let value := (s.lookup name).getD ""
      if !bash then liftExcept (readVariableNumber value)
      else if value.toList.all (fun c => c = ' ' || c = '\t' || c = '\n') then pure 0
      else
        match ArithExpr.read true value with
        | .ok e => evalArith depth bash e
        | .error err => throw err

/-- Evaluates an expression. -/
def evalArith : Nat → Bool → ArithExpr → ArithM Int
  | 0, _, _ => throw (.tooDeep "")
  | depth + 1, bash, e =>
    match e with
    | .num v => pure (wrapWord v)
    | .var n => variableValue depth bash n
    | .negate a => do pure (wrapWord (-(← evalArith depth bash a)))
    | .plus a => evalArith depth bash a
    | .lnot a => do pure (ofTruth ((← evalArith depth bash a) = 0))
    | .bnot a => do pure (wrapWord (-(← evalArith depth bash a) - 1))
    | .binary op a b right => do
      let x ← evalArith depth bash a
      let y ← evalArith depth bash b
      liftExcept (op.apply x y right)
    | .land a b => do
      if (← evalArith depth bash a) = 0 then pure 0
      else pure (ofTruth ((← evalArith depth bash b) ≠ 0))
    | .lor a b => do
      if (← evalArith depth bash a) ≠ 0 then pure 1
      else pure (ofTruth ((← evalArith depth bash b) ≠ 0))
    | .cond c a b => do
      if (← evalArith depth bash c) ≠ 0 then evalArith depth bash a else evalArith depth bash b
    | .assign n op a => do
      let v ← evalArith depth bash a
      let result ← match op with
        | none => pure v
        | some o => do
          let old ← variableValue depth bash n
          liftExcept (o.apply old v (toString v))
      modify fun s => { s with assigned := (n, result) :: s.assigned }
      pure result
    | .step n delta post => do
      let old ← variableValue depth bash n
      let new := wrapWord (old + delta)
      modify fun s => { s with assigned := (n, new) :: s.assigned }
      pure (if post then old else new)
    | .comma a b => do
      let _ ← evalArith depth bash a
      evalArith depth bash b
end

/-- Evaluates the text of an arithmetic expansion: its value and the assignments it made, oldest
first. -/
def arithmetic (bash : Bool) (lookup : String → Option String) (text : String) :
    Except ArithError (Int × List (String × Int)) := do
  let e ← ArithExpr.read bash text
  let (v, s) ← (evalArith (4 * text.length + 64) bash e).run { lookup }
  pure (v, s.assigned.reverse)

end SnapshotAgent.Shell
