import SnapshotAgent.Shell.Process
/-!
# Conditions: `test` and `[`

`test` evaluates a condition given as words: a word alone is true when it is not empty; unary
operators ask about a string (`-n`, `-z`) or a file (`-e`, `-f`, `-d`, …); binary operators
compare strings (`=`, `!=`, `<`, `>`) or integers (`-eq`, `-ne`, `-lt`, `-le`, `-gt`, `-ge`);
`!` negates, `-a` and `-o` join, and parentheses group. `[` is the same with a closing `]`.

Three readers are here, since the shells and the utility read the words differently:

* the plain shell reads the words by recursive descent, with special cases for three and four
  words, and refuses words left over as an unexpected operator;
* `bash` and the utility first look at how many words there are (up to four) and only for more
  read by recursive descent; they word their errors differently.

A condition answers true or false, or an error, which gives the status 2.
-/

namespace SnapshotAgent.Shell

/-- The paths that are symbolic links. -/
def symbolicLinks : List String := ["/bin", "/lib", "/lib64", "/sbin"]

/-- Evaluates a unary file operator on a path. -/
def fileTest (fs : Files) (op : String) (path : String) : Bool :=
  match op with
  | "-e" | "-a" => fs.exists path
  | "-f" => fs.isFile path
  | "-d" => fs.isDirectory path
  | "-r" | "-w" | "-O" | "-G" => fs.exists path
  | "-x" =>
    fs.isDirectory path ||
      (match splitPath (trimSlashes path) with
       | (dir, file) => programDirs.contains dir && (programNamed file).isSome)
  | "-s" =>
    match fs.read path with
    | .ok bs => !bs.isEmpty
    | .error .missing => false
    | .error _ => true
  | "-h" | "-L" => symbolicLinks.contains path
  | "-c" => path = "/dev/null"
  | _ => false

/-- The unary operators on files and strings. -/
def unaryOperators : List String :=
  ["-r", "-w", "-x", "-e", "-f", "-d", "-c", "-b", "-p", "-u", "-g", "-k", "-s", "-t", "-z", "-n",
   "-h", "-O", "-G", "-L", "-S"]

/-- The binary operators of the plain shell. -/
def binaryOperators : List String :=
  ["=", "!=", "<", ">", "-eq", "-ne", "-ge", "-gt", "-le", "-lt", "-nt", "-ot", "-ef"]

/-- Reads an integer operand: blanks, an optional sign and decimal digits, blanks. -/
def readOperand (s : String) : Option Int :=
  let isBlank (c : Char) : Bool := c = ' ' || c = '\t' || c = '\n'
  let cs := s.toList.dropWhile isBlank
  let (neg, body) := match cs with
    | '-' :: r => (true, r)
    | '+' :: r => (false, r)
    | r => (false, r)
  let ds := body.takeWhile Char.isDigit
  if ds.isEmpty || !(body.drop ds.length).all isBlank then none
  else
    let v : Nat := ds.foldl (fun acc d => acc * 10 + (d.toNat - 48)) 0
    if v ≥ Nat.pow 2 63 + (if neg then 1 else 0) then none
    else some (if neg then -(v : Int) else v)

/-- Evaluates a unary operator. -/
def unaryTest (fs : Files) (op arg : String) : Bool :=
  match op with
  | "-n" => !arg.isEmpty
  | "-z" => arg.isEmpty
  | "-t" => false
  | _ => fileTest fs op arg

/-- Evaluates a binary operator; an operand that is not an integer where one is needed is the
error, with the operand. -/
def binaryTest (fs : Files) (op a b : String) : Except String Bool :=
  let ints (f : Int → Int → Bool) : Except String Bool :=
    match readOperand a with
    | none => .error a
    | some x =>
      match readOperand b with
      | none => .error b
      | some y => .ok (f x y)
  match op with
  | "=" | "==" => .ok (a == b)
  | "!=" => .ok (a != b)
  | "<" => .ok (compare (Text.utf8Bytes a) (Text.utf8Bytes b) == .lt)
  | ">" => .ok (compare (Text.utf8Bytes a) (Text.utf8Bytes b) == .gt)
  | "-eq" => ints (· == ·)
  | "-ne" => ints (· != ·)
  | "-lt" => ints (· < ·)
  | "-le" => ints (· ≤ ·)
  | "-gt" => ints (· > ·)
  | "-ge" => ints (· ≥ ·)
  | "-ef" => .ok (fs.exists a && fs.exists b && trimSlashes a == trimSlashes b)
  | _ => .ok false

/-! ## The plain shell's reader -/

/-- A word as the plain shell's reader sees it. -/
inductive TestToken where
  | endOfInput
  | operand
  | unary
  | binary
  | negation
  | conjunction
  | disjunction
  | openParen
  | closeParen
  deriving Repr, DecidableEq, Inhabited

/-- The operator a word is, if it is one. -/
def operatorToken (s : String) : Option TestToken :=
  if unaryOperators.contains s then some .unary
  else if binaryOperators.contains s then some .binary
  else match s with
    | "!" => some .negation
    | "-a" => some .conjunction
    | "-o" => some .disjunction
    | "(" => some .openParen
    | ")" => some .closeParen
    | _ => none

/-- Whether a unary operator at a position stands as an operand: before a last word it does
not, but at the end, or before a word and a binary operator, it does. -/
def unaryIsOperand (args : Array String) (i : Nat) : Bool :=
  match args[i + 1]?, args[i + 2]? with
  | none, _ => true
  | some _, none => false
  | some next, some _ => operatorToken next == some TestToken.binary

/-- How the word at a position reads: a unary operator that stands as an operand is one, and so
is a last `(`. -/
def tokenAt (args : Array String) (i : Nat) : TestToken :=
  match args[i]? with
  | none => .endOfInput
  | some s =>
    match operatorToken s with
    | some .unary => if unaryIsOperand args i then .operand else .unary
    | some .openParen => if args[i + 1]?.isNone then .operand else .openParen
    | some t => t
    | none => .operand

/-- What the plain shell's reader refuses. -/
inductive TestError where
  | argumentExpected (op : String)
  | closingParen
  | unexpectedOperator (word : String)
  | illegalNumber (word : String)
  | missingBracket
  deriving Repr, DecidableEq, Inhabited

/-- The message of a refusal. -/
def TestError.message : TestError → String
  | .argumentExpected op => op ++ ": argument expected"
  | .closingParen => "closing paren expected"
  | .unexpectedOperator w => w ++ ": unexpected operator"
  | .illegalNumber w => "Illegal number: " ++ w
  | .missingBracket => "missing ]"

/-- A step of the reader: the truth and the position of the last word read. -/
abbrev TestStep := Except TestError (Bool × Nat)

mutual
/-- Reads `-o` lists. -/
def readDisjunction : Nat → Files → Array String → TestToken → Nat → TestStep
  | 0, _, _, _, i => .ok (false, i)
  | fuel + 1, fs, args, t, i => do
    let (r, i) ← readConjunction fuel fs args t i
    if tokenAt args (i + 1) == .disjunction then
      let (r2, i) ← readDisjunction fuel fs args (tokenAt args (i + 2)) (i + 2)
      pure (r || r2, i)
    else pure (r, i)

/-- Reads `-a` lists. -/
def readConjunction : Nat → Files → Array String → TestToken → Nat → TestStep
  | 0, _, _, _, i => .ok (false, i)
  | fuel + 1, fs, args, t, i => do
    let (r, i) ← readNegation fuel fs args t i
    if tokenAt args (i + 1) == .conjunction then
      let (r2, i) ← readConjunction fuel fs args (tokenAt args (i + 2)) (i + 2)
      pure (r && r2, i)
    else pure (r, i)

/-- Reads `!` before a primary. -/
def readNegation : Nat → Files → Array String → TestToken → Nat → TestStep
  | 0, _, _, _, i => .ok (false, i)
  | fuel + 1, fs, args, t, i =>
    if t == .negation then do
      let (r, i) ← readNegation fuel fs args (tokenAt args (i + 1)) (i + 1)
      pure (!r, i)
    else readPrimaryTest fuel fs args t i

/-- Reads a primary: a parenthesized condition, a unary or binary test, or a word. -/
def readPrimaryTest : Nat → Files → Array String → TestToken → Nat → TestStep
  | 0, _, _, _, i => .ok (false, i)
  | fuel + 1, fs, args, t, i =>
    match t with
    | .endOfInput => .ok (false, i)
    | .openParen =>
      let next := tokenAt args (i + 1)
      if next == .closeParen then .ok (false, i + 1)
      else do
        let (r, j) ← readDisjunction fuel fs args next (i + 1)
        if tokenAt args (j + 1) == .closeParen then pure (r, j + 1)
        else throw .closingParen
    | .unary =>
      let op := args[i]?.getD ""
      match args[i + 1]? with
      | none => throw (.argumentExpected op)
      | some arg => pure (unaryTest fs op arg, i + 1)
    | _ =>
      let word := args[i]?.getD ""
      if tokenAt args (i + 1) == .binary then
        let op := args[i + 1]?.getD ""
        match args[i + 2]? with
        | none => throw (.argumentExpected op)
        | some b =>
          match binaryTest fs op word b with
          | .ok v => pure (v, i + 2)
          | .error w => throw (.illegalNumber w)
      else pure (!word.isEmpty, i)
end

/-- The plain shell's `test` on its words (for `[`, without the closing `]`). -/
def plainTest (fs : Files) (fuel : Nat) (negated : Bool) (args : List String) :
    Except TestError Bool :=
  match fuel with
  | 0 => .ok negated
  | fuel + 1 =>
    let arr := args.toArray
    let evalFrom (first : TestToken) (arr : Array String) : Except TestError Bool := do
      let (r, i) ← readDisjunction (4 * arr.size + 8) fs arr first 0
      if arr[i]?.isSome && arr[i + 1]?.isSome then throw (.unexpectedOperator (arr[i]?.getD ""))
      pure (r != negated)
    match args with
    | [] => .ok negated
    | [a, op, b] =>
      if binaryOperators.contains op then evalFrom .operand arr
      else fourWords arr [a, op, b] evalFrom fuel
    | [_, _, _, _] => fourWords arr args evalFrom fuel
    | _ => evalFrom (tokenAt arr 0) arr
where
  /-- The cases of three and four words: parentheses around the rest, or `!` before it. -/
  fourWords (arr : Array String) (args : List String)
      (evalFrom : TestToken → Array String → Except TestError Bool) (fuel : Nat) :
      Except TestError Bool :=
    if args.head? = some "(" && args.getLast? = some ")" then
      let inner := (args.drop 1).dropLast.toArray
      evalFrom (tokenAt inner 0) inner
    else if args.head? = some "!" then plainTest fs fuel true (args.drop 1)
    else evalFrom (tokenAt arr 0) arr

/-! ## The reader of `bash` and of the utility -/

/-- What the counting reader refuses. -/
inductive CountedError where
  | unaryExpected (word : String)
  | binaryExpected (word : String)
  | integerExpected (word : String)
  | argumentExpected
  | parenExpected
  | tooMany
  | extraArgument (word : String)
  | missingBracket
  deriving Repr, DecidableEq, Inhabited

/-- The message of a refusal, as `bash` words it. -/
def CountedError.bashMessage : CountedError → String
  | .unaryExpected w => w ++ ": unary operator expected"
  | .binaryExpected w => w ++ ": binary operator expected"
  | .integerExpected w => w ++ ": integer expression expected"
  | .argumentExpected => "argument expected"
  | .parenExpected => "')' expected"
  | .tooMany => "too many arguments"
  | .extraArgument w => "syntax error: '" ++ w ++ "' unexpected"
  | .missingBracket => "missing ']'"

/-- The message of a refusal, as the utility words it. -/
def CountedError.utilityMessage : CountedError → String
  | .unaryExpected w => "'" ++ w ++ "': unary operator expected"
  | .binaryExpected w => "'" ++ w ++ "': binary operator expected"
  | .integerExpected w => "invalid integer '" ++ w ++ "'"
  | .argumentExpected => "argument expected"
  | .parenExpected => "')' expected"
  | .tooMany => "too many arguments"
  | .extraArgument w => "extra argument '" ++ w ++ "'"
  | .missingBracket => "missing ']'"

/-- The binary operators of the counting reader. -/
def countedBinary (s : String) : Bool :=
  binaryOperators.contains s || s == "=="

/-- The unary operators of the counting reader. -/
def countedUnary (s : String) : Bool :=
  unaryOperators.contains s || s == "-a" || s == "-v" || s == "-o" || s == "-N"

/-- A binary test of the counting reader. -/
def countedBinaryTest (fs : Files) (op a b : String) : Except CountedError Bool :=
  match binaryTest fs op a b with
  | .ok v => .ok v
  | .error w => .error (.integerExpected w)

/-- A unary test of the counting reader. -/
def countedUnaryTest (fs : Files) (op a : String) : Bool :=
  if op == "-v" || op == "-o" || op == "-N" then false else unaryTest fs op a

/-- Two words. -/
def twoWords (fs : Files) (a b : String) : Except CountedError Bool :=
  if a == "!" then .ok b.isEmpty
  else if countedUnary a then .ok (countedUnaryTest fs a b)
  else .error (.unaryExpected a)

/-- Three words. -/
def threeWords (fs : Files) (a b c : String) : Except CountedError Bool :=
  if countedBinary b then countedBinaryTest fs b a c
  else if b == "-a" then .ok (!a.isEmpty && !c.isEmpty)
  else if b == "-o" then .ok (!a.isEmpty || !c.isEmpty)
  else if a == "!" then (twoWords fs b c).map (!·)
  else if a == "(" && c == ")" then .ok (!b.isEmpty)
  else .error (.binaryExpected b)

/-- A step of the recursive reader: the truth and the words left. -/
abbrev CountedStep := Except CountedError (Bool × List String)

mutual
/-- Reads `-o` lists. -/
def countedOr : Nat → Files → List String → CountedStep
  | 0, _, ws => .ok (false, ws)
  | fuel + 1, fs, ws => do
    let (r, rest) ← countedAnd fuel fs ws
    match rest with
    | "-o" :: more => do
      let (r2, rest) ← countedOr fuel fs more
      pure (r || r2, rest)
    | _ => pure (r, rest)

/-- Reads `-a` lists. -/
def countedAnd : Nat → Files → List String → CountedStep
  | 0, _, ws => .ok (false, ws)
  | fuel + 1, fs, ws => do
    let (r, rest) ← countedTerm fuel fs ws
    match rest with
    | "-a" :: more => do
      let (r2, rest) ← countedAnd fuel fs more
      pure (r && r2, rest)
    | _ => pure (r, rest)

/-- Reads a term. -/
def countedTerm : Nat → Files → List String → CountedStep
  | 0, _, ws => .ok (false, ws)
  | fuel + 1, fs, ws =>
    match ws with
    | [] => throw .argumentExpected
    | "!" :: more => do
      let (r, rest) ← countedTerm fuel fs more
      pure (!r, rest)
    | "(" :: more => do
      let (r, rest) ← countedOr fuel fs more
      match rest with
      | ")" :: after => pure (r, after)
      | _ => throw .parenExpected
    | a :: op :: b :: more =>
      if countedBinary op then do
        let v ← countedBinaryTest fs op a b
        pure (v, more)
      else if countedUnary a then pure (countedUnaryTest fs a op, b :: more)
      else pure (!a.isEmpty, op :: b :: more)
    | [a, b] =>
      if countedUnary a then pure (countedUnaryTest fs a b, [])
      else pure (!a.isEmpty, [b])
    | [a] =>
      if countedUnary a then throw .argumentExpected
      else pure (!a.isEmpty, [])
end

/-- The counting reader's `test` on its words (for `[`, without the closing `]`). -/
def countedTest (fs : Files) (args : List String) : Except CountedError Bool :=
  match args with
  | [] => .ok false
  | [a] => .ok (!a.isEmpty)
  | [a, b] => twoWords fs a b
  | [a, b, c] => threeWords fs a b c
  | [a, b, c, d] =>
    if a == "!" then (threeWords fs b c d).map (!·)
    else if a == "(" && d == ")" then twoWords fs b c
    else general args
  | _ => general args
where
  /-- More than four words: recursive descent, with no word left over. -/
  general (args : List String) : Except CountedError Bool := do
    let (r, rest) ← countedOr (2 * args.length + 4) fs args
    match rest with
    | [] => pure r
    | w :: _ => if w.startsWith "-" then throw (.extraArgument w) else throw .tooMany

/-- One word is true exactly when it is not empty. -/
theorem countedTest_one (fs : Files) (a : String) : countedTest fs [a] = .ok (!a.isEmpty) := rfl

end SnapshotAgent.Shell
