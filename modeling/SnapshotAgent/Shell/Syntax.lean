/-!
# Shell syntax

The POSIX shell language as the system shell reads it: simple commands with assignments, words
and redirections (here-documents included); pipelines; `&&` and `||` lists; sequences joined by
`;`, `&` and newlines; subshells `( … )` and groups `{ …; }`; `if`, `while`, `until`, `for` and
`case`; and function definitions `name() command`.

A word is made of pieces: literal text, quoted or not, parameter expansions (`$name`, `${name}`
and its operators `:-`, `:=`, `:?`, `:+`, `#`, `##`, `%`, `%%`, `${#name}`), command
substitutions (`$(…)` and backquotes) and arithmetic expansions (`$((…))`). Quoted pieces are
never split into fields.

Reading happens in two stages: the text is split into tokens (a here-document's body is taken
from the lines after its operator's line), then tokens are read into commands. A script is read
one complete command at a time, and each runs before the next is read, so a syntax error stops
the shell only after the commands before it have run. Errors are worded as the system shell
words them, with the line where they were found.
-/

namespace SnapshotAgent.Shell

/-- What a parameter expansion does with the parameter's value. -/
inductive ParamOp where
  /-- `$name`, `${name}`. -/
  | plain
  /-- `${#name}`: the value's length. -/
  | length
  /-- `${name:-word}` (with the colon, an empty value counts as unset). -/
  | useDefault (colon : Bool)
  /-- `${name:=word}`. -/
  | assignDefault (colon : Bool)
  /-- `${name:?word}`. -/
  | requireSet (colon : Bool)
  /-- `${name:+word}`. -/
  | useAlternative (colon : Bool)
  /-- `${name%word}`, `${name%%word}`. -/
  | trimSuffix (longest : Bool)
  /-- `${name#word}`, `${name##word}`. -/
  | trimPrefix (longest : Bool)
  /-- A substitution the shell cannot read, refused when it is expanded; its text as written. -/
  | bad (text : String)
  deriving Repr, DecidableEq, Inhabited

/-- A piece of a word. -/
inductive Part where
  | lit (s : String) (quoted : Bool)
  | param (name : String) (op : ParamOp) (arg : List Part) (quoted : Bool)
  /-- A command substitution: the script's text. -/
  | command (script : String) (quoted : Bool)
  /-- An arithmetic expansion: the expression's text, expanded before it is evaluated. -/
  | arith (text : String) (quoted : Bool)
  deriving Repr, Inhabited

/-- A word before expansion. -/
abbrev Word := List Part

/-- The text of a word made only of unquoted literal text. -/
def Word.plain? (w : Word) : Option String :=
  w.foldl (fun acc p => match acc, p with
    | some s, .lit t false => some (s ++ t)
    | _, _ => none) (some "")

/-- What a redirection does with its descriptor. -/
inductive RedirOp where
  | input
  | output
  | append
  | clobber
  | readWrite
  | dupInput
  | dupOutput
  deriving Repr, DecidableEq, Inhabited

/-- A redirection: of a descriptor to a file or another descriptor, or a here-document. -/
inductive Redir where
  | file (fd : Nat) (op : RedirOp) (target : Word)
  | here (fd : Nat) (body : Word)
  deriving Repr, Inhabited

/-- A test of bash's conditional command `[[ … ]]`. Its words are expanded without splitting;
the right side of `==` and `!=` is a pattern and that of `=~` a regular expression. -/
inductive CondExpr where
  /-- A word alone: whether it is not empty. -/
  | word (w : Word)
  | unary (op : String) (operand : Word)
  | binary (op : String) (lhs rhs : Word)
  | not (e : CondExpr)
  | and (a b : CondExpr)
  | or (a b : CondExpr)
  deriving Repr, Inhabited

/-- A command. -/
inductive Command where
  | simple (assigns : List (String × Word)) (words : List Word) (redirs : List Redir) (line : Nat)
  | pipeline (negated : Bool) (commands : List Command)
  /-- An and-or list: each later command runs after `&&` (true) or `||` (false). -/
  | andOr (first : Command) (rest : List (Bool × Command))
  | sequence (commands : List Command)
  | subshell (body : Command) (redirs : List Redir)
  | group (body : Command) (redirs : List Redir)
  /-- `if`: conditions with their branches, and the `else` branch. -/
  | ifThen (arms : List (Command × Command)) (otherwise : Option Command) (redirs : List Redir)
  /-- `while` (or `until`, negated) with its condition and body. -/
  | loop (negated : Bool) (condition body : Command) (redirs : List Redir)
  /-- `for`: the variable, the words (the positional parameters when none), the body. -/
  | forIn (var : String) (items : Option (List Word)) (body : Command) (redirs : List Redir)
  /-- `case`: the subject and the arms, each with its patterns. -/
  | caseOf (subject : Word) (arms : List (List Word × Command)) (redirs : List Redir)
  | function (name : String) (body : Command)
  /-- bash's `(( expression ))`, whose status tells whether the value is not zero. -/
  | arithmetic (text : String) (line : Nat)
  /-- bash's `[[ test ]]`. -/
  | conditional (test : CondExpr) (line : Nat)
  /-- bash's `for (( start; test; step ))`. -/
  | forArith (start test step : String) (body : Command) (redirs : List Redir)
  deriving Repr, Inhabited

/-! ## Tokens -/

/-- A token with the line it starts on. -/
inductive Token where
  /-- A word, and whether it is plain unquoted text (which may be a reserved word). -/
  | word (w : Word) (line : Nat)
  /-- An operator: `;`, `;;`, `&`, `&&`, `|`, `||`, `(` or `)`. -/
  | op (s : String) (line : Nat)
  /-- A redirection operator with its descriptor. -/
  | redir (fd : Option Nat) (op : RedirOp) (line : Nat)
  /-- A here-document operator, its body already read. -/
  | here (fd : Option Nat) (body : Word) (line : Nat)
  | newline (line : Nat)
  /-- A lexical error, and the quote it leaves open; nothing after it is read. -/
  | broken (message : String) (unclosed : Option Char) (line : Nat)
  /-- bash's `(( … ))`: the text between the parentheses. -/
  | arith (text : String) (line : Nat)
  deriving Repr, Inhabited

/-- The single quote. -/
def singleQuote : Char := Char.ofNat 39

/-- The backquote. -/
def backquote : Char := Char.ofNat 96

/-- Characters that end an unquoted word. -/
def isBreak (c : Char) : Bool :=
  c = ' ' || c = '\t' || c = '\n' || c = ';' || c = '&' || c = '|' || c = '(' || c = ')' ||
    c = '<' || c = '>'

/-- Characters that may start a name. -/
def isNameStart (c : Char) : Bool := c.isAlpha || c = '_'

/-- Characters that may continue a name. -/
def isNameChar (c : Char) : Bool := c.isAlphanum || c = '_'

/-- Whether a text is a name. -/
def isName (s : String) : Bool :=
  match s.toList with
  | c :: cs => isNameStart c && cs.all isNameChar
  | [] => false

/-- Adds text to a word, joining it to the last piece when the quoting agrees. -/
def pushText (w : Array Part) (s : String) (quoted : Bool) : Array Part :=
  match w.back? with
  | some (.lit t q) => if q == quoted then w.pop.push (.lit (t ++ s) q) else w.push (.lit s quoted)
  | _ => w.push (.lit s quoted)

/-- Adds the pieces read in double quotes to a word. Empty quotes still make a word, with an
empty quoted piece; quotes around expansions that give nothing (as `"$@"` without parameters)
add only those expansions. -/
def appendQuoted (w : Array Part) (ps : Array Part) : Array Part :=
  if ps.isEmpty then pushText w "" true
  else ps.foldl (fun acc p => match p with
    | .lit s q => pushText acc s q
    | _ => acc.push p) w

/-- Counts the newlines in characters. -/
def newlinesIn (cs : List Char) : Nat := (cs.filter (· = '\n')).length

/-- Finds the end of a quoted or bracketed run: the characters up to the closing character, and
the rest after it; none when the text ends first. Backslashes escape in every kind of run.

* In double quotes (`close` is `"`), the run ends at the first `"` outside the substitutions
  `$(…)`, `${…}` and backquotes, which are skipped whole; single quotes are plain.
* In backquotes, the run ends at the next backquote.
* In brackets, `open_` raises the depth and `close` at depth zero ends the run; quoted text
  inside is skipped whole. -/
def scanTo (fuel : Nat) (open_ close : Char) (depth : Nat) (cs : List Char) (acc : List Char) :
    Option (List Char × List Char) :=
  match fuel with
  | 0 => none
  | fuel + 1 =>
    match cs with
    | [] => none
    | '\\' :: d :: rest => scanTo fuel open_ close depth rest (d :: '\\' :: acc)
    | c :: rest =>
      if close = '"' then
        if c = '"' then some (acc.reverse, rest)
        else if c = '$' && rest.head? = some '(' then
          match scanTo fuel '(' ')' 0 (rest.drop 1) [] with
          | some (body, more) => scanTo fuel open_ close depth more (')' :: body.reverse ++ '(' :: c :: acc)
          | none => none
        else if c = '$' && rest.head? = some (Char.ofNat 123) then
          match scanTo fuel (Char.ofNat 123) (Char.ofNat 125) 0 (rest.drop 1) [] with
          | some (body, more) =>
            scanTo fuel open_ close depth more (Char.ofNat 125 :: body.reverse ++ Char.ofNat 123 :: c :: acc)
          | none => none
        else if c = backquote then
          match scanTo fuel '\x00' backquote 0 rest [] with
          | some (body, more) => scanTo fuel open_ close depth more (backquote :: body.reverse ++ c :: acc)
          | none => none
        else scanTo fuel open_ close depth rest (c :: acc)
      else if close = backquote then
        if c = backquote then some (acc.reverse, rest)
        else scanTo fuel open_ close depth rest (c :: acc)
      else if c = close && depth = 0 then some (acc.reverse, rest)
      else if c = close then scanTo fuel open_ close (depth - 1) rest (c :: acc)
      else if c = open_ then scanTo fuel open_ close (depth + 1) rest (c :: acc)
      else if c = singleQuote then
        let body := rest.takeWhile (· ≠ singleQuote)
        match rest.drop body.length with
        | q :: more => scanTo fuel open_ close depth more (q :: body.reverse ++ c :: acc)
        | [] => none
      else if c = '"' || c = backquote then
        match scanTo fuel '\x00' c 0 rest [] with
        | some (body, more) => scanTo fuel open_ close depth more (c :: body.reverse ++ c :: acc)
        | none => none
      else scanTo fuel open_ close depth rest (c :: acc)

/-- Finds the end of `$((…))`: the expression's characters and the rest after `))`. -/
def scanArith (fuel : Nat) (depth : Nat) (cs : List Char) (acc : List Char) :
    Option (List Char × List Char) :=
  match fuel with
  | 0 => none
  | fuel + 1 =>
    match cs with
    | ')' :: ')' :: rest =>
      if depth = 0 then some (acc.reverse, rest) else scanArith fuel (depth - 1) (')' :: rest) (')' :: acc)
    | ')' :: rest => if depth = 0 then none else scanArith fuel (depth - 1) rest (')' :: acc)
    | '(' :: rest => scanArith fuel (depth + 1) rest ('(' :: acc)
    | c :: rest => scanArith fuel depth rest (c :: acc)
    | [] => none

/-- Special parameters, named by one character. -/
def isSpecialParam (c : Char) : Bool := "@*#?-$!0123456789".toList.contains c

/-- What went wrong while reading a word. -/
inductive WordError where
  /-- A quote (or a substitution) that does not close, by its closing character. -/
  | unterminated (quote : Char)
  | missingParens
  | badSubstitution
  deriving Repr, DecidableEq, Inhabited

/-- The message of a word error. -/
def WordError.message : WordError → String
  | .unterminated _ => "Syntax error: Unterminated quoted string"
  | .missingParens => "Syntax error: Missing '))'"
  | .badSubstitution => "Syntax error: Bad substitution"

/-- The quote that a word error leaves open, if any. -/
def WordError.quote? : WordError → Option Char
  | .unterminated q => some q
  | _ => none

/-- The text of a backquoted command with its backslashes before `$`, backquote and backslash
removed. -/
def unescapeBackquoted (cs : List Char) : String :=
  let rec go : List Char → List Char
    | '\\' :: c :: rest =>
      if c = '$' || c = backquote || c = '\\' then c :: go rest else '\\' :: c :: go rest
    | c :: rest => c :: go rest
    | [] => []
  String.ofList (go cs)

mutual
/-- Reads a `$` expansion after the dollar sign: its piece and the rest; none when the dollar
sign stands for itself. The flag says whether the expansion stands in double quotes. -/
def readDollar : Nat → Bool → Bool → List Char → Except WordError (Option (Part × List Char))
  | 0, _, _, _ => .error (.unterminated ')')
  | fuel + 1, bash, quoted, cs =>
    match cs with
    | '(' :: '(' :: rest =>
      match scanArith (rest.length + 2) 0 rest [] with
      | some (body, more) => .ok (some (.arith (String.ofList body) quoted, more))
      | none => .error .missingParens
    | '(' :: rest =>
      match scanTo (rest.length + 2) '(' ')' 0 rest [] with
      | some (body, more) => .ok (some (.command (String.ofList body) quoted, more))
      | none => .error (.unterminated ')')
    | '{' :: rest => readBraced fuel bash quoted rest
    | c :: rest =>
      if isSpecialParam c then .ok (some (.param (String.singleton c) .plain [] quoted, rest))
      else if isNameStart c then
        let name := c :: rest.takeWhile isNameChar
        .ok (some (.param (String.ofList name) .plain [] quoted, rest.drop (name.length - 1)))
      else .ok none
    | [] => .ok none

/-- Reads `${…}` after the brace. -/
def readBraced : Nat → Bool → Bool → List Char → Except WordError (Option (Part × List Char))
  | 0, _, _, _ => .error (.unterminated (Char.ofNat 125))
  | fuel + 1, bash, quoted, cs =>
    let whole := scanTo (cs.length + 2) '{' '}' 0 cs []
    match whole with
    | none => .error (.unterminated (Char.ofNat 125))
    | some (inside, after) =>
      let badHere : Except WordError (Option (Part × List Char)) :=
        if bash then .ok (some (.param "" (.bad ("$\x7b" ++ String.ofList inside ++ "\x7d")) [] quoted, after))
        else .error .badSubstitution
      -- the length form
      let (lengthForm, body) := match inside with
        | '#' :: c :: more => if isNameStart c || isSpecialParam c then (true, c :: more) else (false, inside)
        | _ => (false, inside)
      let name := match body with
        | c :: more =>
          if isNameStart c then c :: more.takeWhile isNameChar
          else if c.isDigit then c :: more.takeWhile Char.isDigit
          else if isSpecialParam c then [c]
          else []
        | [] => []
      if name.isEmpty then
        if inside = ['#'] then .ok (some (.param "#" .plain [] quoted, after)) else badHere
      else
        let rest := body.drop name.length
        let nameText := String.ofList name
        if lengthForm then
          if rest.isEmpty then .ok (some (.param nameText .length [] quoted, after)) else badHere
        else
          let opAndWord : Option (ParamOp × List Char) := match rest with
            | [] => some (.plain, [])
            | ':' :: '-' :: w => some (.useDefault true, w)
            | ':' :: '=' :: w => some (.assignDefault true, w)
            | ':' :: '?' :: w => some (.requireSet true, w)
            | ':' :: '+' :: w => some (.useAlternative true, w)
            | '-' :: w => some (.useDefault false, w)
            | '=' :: w => some (.assignDefault false, w)
            | '?' :: w => some (.requireSet false, w)
            | '+' :: w => some (.useAlternative false, w)
            | '%' :: '%' :: w => some (.trimSuffix true, w)
            | '%' :: w => some (.trimSuffix false, w)
            | '#' :: '#' :: w => some (.trimPrefix true, w)
            | '#' :: w => some (.trimPrefix false, w)
            | _ => none
          match opAndWord with
          | none => badHere
          | some (op, w) =>
            match readPieces fuel bash quoted w #[] with
            | .ok parts => .ok (some (.param nameText op parts.toList quoted, after))
            | .error e => .error e

/-- Reads the pieces of a word inside an expansion or double quotes: literal text, backslash
escapes, quotes (outside double quotes) and expansions, to the end of the characters. -/
def readPieces : Nat → Bool → Bool → List Char → Array Part → Except WordError (Array Part)
  | 0, _, _, _, _ => .error (.unterminated '"')
  | fuel + 1, bash, quoted, cs, w =>
    match cs with
    | [] => .ok w
    | '\\' :: c :: rest =>
      if !quoted || c = '$' || c = '"' || c = '\\' || c = backquote then
        readPieces fuel bash quoted rest (pushText w (String.singleton c) true)
      else if c = '\n' then readPieces fuel bash quoted rest w
      else readPieces fuel bash quoted rest (pushText w (String.ofList ['\\', c]) true)
    | '$' :: rest =>
      match readDollar fuel bash quoted rest with
      | .ok (some (p, more)) => readPieces fuel bash quoted more (w.push p)
      | .ok none => readPieces fuel bash quoted rest (pushText w "$" quoted)
      | .error e => .error e
    | c :: rest =>
      if c = backquote then
        match scanTo (rest.length + 2) '\x00' backquote 0 rest [] with
        | some (body, more) => readPieces fuel bash quoted more (w.push (.command (unescapeBackquoted body) quoted))
        | none => .error (.unterminated backquote)
      else if c = singleQuote && !quoted then
        let body := rest.takeWhile (· ≠ singleQuote)
        match rest.drop body.length with
        | _ :: more => readPieces fuel bash quoted more (pushText w (String.ofList body) true)
        | [] => .error (.unterminated singleQuote)
      else if c = '"' && !quoted then
        match scanTo (rest.length + 2) '\x00' '"' 0 rest [] with
        | some (body, more) =>
          match readPieces fuel bash true body #[] with
          | .ok ps => readPieces fuel bash quoted more (appendQuoted w ps)
          | .error e => .error e
        | none => .error (.unterminated '"')
      else readPieces fuel bash quoted rest (pushText w (String.singleton c) quoted)
end

/-- Reads an unquoted word from the front of the text: its pieces, the rest, and the line after
it. -/
def readWord (fuel : Nat) (bash regex : Bool) (cs : List Char) (line : Nat) (w : Array Part) :
    Except (WordError × Nat) (Array Part × List Char × Nat) :=
  match fuel with
  | 0 => .ok (w, cs, line)
  | fuel + 1 =>
    match cs with
    | [] => .ok (w, [], line)
    | c :: rest =>
      if regex && c = '|' then readWord fuel bash regex rest line (pushText w "|" false)
      else if regex && c = '(' then
        match scanTo (rest.length + 2) '(' ')' 0 rest [] with
        | some (body, more) =>
          readWord fuel bash regex more (line + newlinesIn body)
            (pushText w ("(" ++ String.ofList body ++ ")") false)
        | none => .error (.unterminated ')', line + newlinesIn rest)
      else if isBreak c then .ok (w, cs, line)
      else if c = singleQuote then
        let body := rest.takeWhile (· ≠ singleQuote)
        match rest.drop body.length with
        | _ :: more => readWord fuel bash regex more (line + newlinesIn body) (pushText w (String.ofList body) true)
        | [] => .error (.unterminated singleQuote, line + newlinesIn body)
      else if c = '"' then
        match scanTo (rest.length + 2) '\x00' '"' 0 rest [] with
        | some (body, more) =>
          match readPieces (body.length + 2) bash true body #[] with
          | .ok ps => readWord fuel bash regex more (line + newlinesIn body) (appendQuoted w ps)
          | .error e => .error (e, line)
        | none => .error (.unterminated '"', line + newlinesIn rest)
      else if c = '\\' then
        match rest with
        | '\n' :: more => readWord fuel bash regex more (line + 1) w
        | d :: more => readWord fuel bash regex more line (pushText w (String.singleton d) true)
        | [] => .ok (pushText w "\\" false, [], line)
      else if c = '$' then
        match readDollar (cs.length + 2) bash false rest with
        | .ok (some (p, more)) =>
          let used := rest.length - more.length
          readWord fuel bash regex more (line + newlinesIn (rest.take used)) (w.push p)
        | .ok none => readWord fuel bash regex rest line (pushText w "$" false)
        | .error e => .error (e, line)
      else if c = backquote then
        match scanTo (rest.length + 2) '\x00' backquote 0 rest [] with
        | some (body, more) =>
          readWord fuel bash regex more (line + newlinesIn body) (w.push (.command (unescapeBackquoted body) false))
        | none => .error (.unterminated backquote, line + newlinesIn rest)
      else readWord fuel bash regex rest (if c = '\n' then line + 1 else line) (pushText w (String.singleton c) false)

/-- Reads a redirection operator at the front, with the descriptor given before it. -/
def readRedirOp (cs : List Char) : Option (Option RedirOp × Bool × List Char) :=
  match cs with
  | '<' :: '<' :: '-' :: rest => some (none, true, rest)
  | '<' :: '<' :: rest => some (none, false, rest)
  | '>' :: '>' :: rest => some (some .append, false, rest)
  | '>' :: '&' :: rest => some (some .dupOutput, false, rest)
  | '>' :: '|' :: rest => some (some .clobber, false, rest)
  | '>' :: rest => some (some .output, false, rest)
  | '<' :: '&' :: rest => some (some .dupInput, false, rest)
  | '<' :: '>' :: rest => some (some .readWrite, false, rest)
  | '<' :: rest => some (some .input, false, rest)
  | _ => none

/-- A here-document's delimiter as written: its text with quotes removed, and whether any part
of it was quoted (then the body is not expanded). -/
def heredocDelimiter (cs : List Char) : String × Bool × List Char :=
  let word := cs.takeWhile fun c => !isBreak c
  let rest := cs.drop word.length
  let quoted := word.any fun c => c = singleQuote || c = '"' || c = '\\'
  let text := word.filter fun c => c ≠ singleQuote && c ≠ '"' && c ≠ '\\'
  (String.ofList text, quoted, rest)

/-- Takes a here-document's body out of the text after the current line: the body's lines up to
the delimiter's line, the text with the body and delimiter removed, and how many lines were
taken. -/
def takeHeredoc (delimiter : String) (strip : Bool) (cs : List Char) :
    List Char × List Char × Nat :=
  let lineRest := cs.takeWhile (· ≠ '\n')
  let after := (cs.drop lineRest.length).drop 1
  let lines := (String.ofList after).splitOn "\n"
  let clean (l : String) : String := if strip then String.ofList (l.toList.dropWhile (· = '\t')) else l
  let idx := lines.findIdx? fun l => clean l == delimiter
  let (bodyLines, restLines, taken) := match idx with
    | some i => (lines.take i, lines.drop (i + 1), i + 1)
    | none =>
      let ls := if lines.getLast? = some "" then lines.dropLast else lines
      (ls, [], ls.length)
  let body := String.join (bodyLines.map fun l => clean l ++ "\n")
  let rest := lineRest ++ (if cs.drop lineRest.length = [] then [] else ['\n']) ++
    ("\n".intercalate restLines).toList
  (body.toList, rest, taken)

/-- The lexer's state: the text left, the line, and the lines of here-documents to count at the
next newline. -/
structure LexState where
  cs : List Char
  line : Nat
  pending : Nat := 0
  /-- Whether the next word is the regular expression after bash's `=~`. -/
  regex : Bool := false

/-- Splits a script into tokens. -/
def tokenize (fuel : Nat) (bash : Bool) (st : LexState) (acc : Array Token) : Array Token :=
  match fuel with
  | 0 => acc
  | fuel + 1 =>
    let line := st.line
    match st.cs with
    | [] => acc
    | ' ' :: rest | '\t' :: rest => tokenize fuel bash { st with cs := rest } acc
    | '\n' :: rest =>
      tokenize fuel bash { cs := rest, line := line + 1 + st.pending } (acc.push (.newline line))
    | '\\' :: '\n' :: rest => tokenize fuel bash { st with cs := rest, line := line + 1 } acc
    | '#' :: rest => tokenize fuel bash { st with cs := rest.dropWhile (· ≠ '\n') } acc
    | ';' :: ';' :: rest => tokenize fuel bash { st with cs := rest } (acc.push (.op ";;" line))
    | '&' :: '&' :: rest => tokenize fuel bash { st with cs := rest } (acc.push (.op "&&" line))
    | '|' :: '|' :: rest => tokenize fuel bash { st with cs := rest } (acc.push (.op "||" line))
    | '(' :: '(' :: rest =>
      match (if bash then scanArith (rest.length + 1) 0 rest [] else none) with
      | some (body, more) =>
        tokenize fuel bash { st with cs := more, line := line + newlinesIn body }
          (acc.push (.arith (String.ofList body) line))
      | none => tokenize fuel bash { st with cs := '(' :: rest } (acc.push (.op "(" line))
    | c :: rest =>
      if st.regex && (c = '(' || c = '|') then
        match readWord (st.cs.length + 1) bash true st.cs line #[] with
        | .ok (w, more, line') =>
          tokenize fuel bash { st with cs := more, line := line', regex := false } (acc.push (.word w.toList line))
        | .error (e, at_) => acc.push (.broken e.message e.quote? at_)
      else if c = ';' || c = '&' || c = '|' || c = '(' || c = ')' then
        tokenize fuel bash { st with cs := rest } (acc.push (.op (String.singleton c) line))
      else
        let digits := st.cs.takeWhile Char.isDigit
        let afterDigits := st.cs.drop digits.length
        let fd := if digits.isEmpty then none else some (String.ofList digits).toNat!
        let redir := if digits.isEmpty || afterDigits.head? = some '<' || afterDigits.head? = some '>'
          then readRedirOp afterDigits else none
        match redir with
        | some (some op, _, more) =>
          tokenize fuel bash { st with cs := more } (acc.push (.redir fd op line))
        | some (none, strip, more) =>
          let more := more.dropWhile fun c => c = ' ' || c = '\t'
          let (delim, quotedDelim, more) := heredocDelimiter more
          let (body, rest, taken) := takeHeredoc delim strip more
          let word : Except WordError (Array Part) :=
            if quotedDelim then .ok #[.lit (String.ofList body) true]
            else readPieces (body.length + 2) bash true (heredocEscapes body) #[]
          match word with
          | .ok w =>
            tokenize fuel bash { st with cs := rest, pending := st.pending + taken }
              (acc.push (.here fd w.toList line))
          | .error e => acc.push (.broken e.message e.quote? line)
        | none =>
          match readWord (st.cs.length + 1) bash st.regex st.cs line #[] with
          | .ok (w, more, line') =>
            let word := w.toList
            let token : Token :=
              if bash && Word.plain? word = some "[[" then .op "[[" line else .word word line
            tokenize fuel bash { st with cs := more, line := line', regex := bash && Word.plain? word = some "=~" }
              (acc.push token)
          | .error (e, at_) => acc.push (.broken e.message e.quote? at_)
where
  /-- A here-document's body keeps its double quotes as text. -/
  heredocEscapes (body : List Char) : List Char :=
    body.flatMap fun c => if c = '"' then ['\\', '"'] else [c]

/-- The tokens of a script. -/
def tokens (bash : Bool) (script : String) : List Token :=
  (tokenize (script.length + 1) bash { cs := script.toList, line := 1 } #[]).toList

/-! ## Parsing -/

/-- The words that are reserved in command position. -/
def reservedWords : List String :=
  ["if", "then", "else", "elif", "fi", "do", "done", "case", "esac", "while", "until", "for",
   "\x7b", "\x7d", "!", "in"]

/-- Whether a token is a word with exactly this unquoted text. -/
def Token.isPlain (t : Token) (s : String) : Bool :=
  match t with
  | .word w _ => w.plain? == some s
  | _ => false

/-- Whether a token is a reserved word. -/
def Token.reserved? (t : Token) : Option String :=
  match t with
  | .word w _ => (w.plain?).bind fun s => if reservedWords.contains s then some s else none
  | _ => none

/-- How the shell names a token in a syntax error. -/
def Token.name : Token → String
  | .word w _ =>
    match w.plain? with
    | some s => if reservedWords.contains s then "\"" ++ s ++ "\"" else "word"
    | none => "word"
  | .op s _ => "\"" ++ s ++ "\""
  | .redir _ _ _ | .here _ _ _ => "redirection"
  | .newline _ => "newline"
  | .broken m _ _ => m
  | .arith _ _ => "\"(\""

/-- The text of a token as `bash` shows it in a syntax error. -/
def Token.text : Token → String
  | .word w _ => (w.plain?).getD "word"
  | .op s _ => s
  | .redir fd o _ =>
    let digits := (fd.map toString).getD ""
    digits ++ (match o with
      | .input => "<"
      | .output => ">"
      | .append => ">>"
      | .clobber => ">|"
      | .readWrite => "<>"
      | .dupInput => "<&"
      | .dupOutput => ">&")
  | .here _ _ _ => "<<"
  | .newline _ => "newline"
  | .broken m _ _ => m
  | .arith _ _ => "(("

/-- The line a token is on. -/
def Token.line : Token → Nat
  | .word _ l | .op _ l | .redir _ _ l | .here _ _ l | .newline l | .broken _ _ l | .arith _ l => l

/-- A syntax error: its line, its message as the plain shell words it, and for `bash` the token
found (none at the end of the script) or the quote left open. -/
structure SyntaxError where
  line : Nat
  message : String
  found : Option String := none
  unclosed : Option Char := none
  /-- A line bash writes first, as for an error in `[[ … ]]`, which then names the token the
  error is near rather than the unexpected one. -/
  note : Option String := none
  deriving Repr, Inhabited

/-- A syntax error at the next token, or at the end of the script, perhaps naming what was
expected. -/
def errorAt (last : Nat) (expecting : Option String) (ts : List Token) : SyntaxError :=
  let tail := match expecting with
    | some e => " (expecting " ++ e ++ ")"
    | none => ""
  match ts with
  | .broken m q l :: _ => { line := l, message := m, unclosed := q }
  | t :: _ => { line := t.line, message := "Syntax error: " ++ t.name ++ " unexpected" ++ tail, found := some t.text }
  | [] => { line := last, message := "Syntax error: end of file unexpected" ++ tail }

/-- A reader of tokens. -/
abbrev Parser := StateT (List Token) (Except SyntaxError)

/-- Skips newlines. -/
def skipNewlines : List Token → List Token
  | .newline _ :: rest => skipNewlines rest
  | ts => ts

/-- Splits an assignment word `name=value`. -/
def assignment? (w : Word) : Option (String × Word) :=
  match w with
  | .lit t false :: more =>
    match t.splitOn "=" with
    | name :: _ :: _ =>
      if isName name then
        let value := (t.drop (name.length + 1)).toString
        some (name, (if value.isEmpty then [] else [.lit value false]) ++ more)
      else none
    | _ => none
  | _ => none

/-- Takes a redirection at the front of the tokens, if one is there. -/
def takeRedir (last : Nat) (ts : List Token) : Except SyntaxError (Option (Redir × List Token)) :=
  match ts with
  | .redir fd op _ :: rest =>
    match rest with
    | .word w _ :: more =>
      let dflt := if op = .input || op = .dupInput || op = .readWrite then 0 else 1
      .ok (some (.file (fd.getD dflt) op w, more))
    | _ => .error (errorAt last none rest)
  | .here fd body _ :: rest => .ok (some (.here (fd.getD 0) body, rest))
  | _ => .ok none

/-- Reads the redirections after a compound command. -/
def readRedirs (fuel : Nat) (last : Nat) (ts : List Token) (acc : List Redir) :
    Except SyntaxError (List Redir × List Token) :=
  match fuel with
  | 0 => .ok (acc, ts)
  | fuel + 1 =>
    match takeRedir last ts with
    | .ok (some (r, more)) => readRedirs fuel last more (acc ++ [r])
    | .ok none => .ok (acc, ts)
    | .error e => .error e

/-- Reads a simple command's assignments, words and redirections. -/
def readSimple (fuel : Nat) (last : Nat) (ts : List Token) (assigns : List (String × Word))
    (words : List Word) (redirs : List Redir) :
    Except SyntaxError (List (String × Word) × List Word × List Redir × List Token) :=
  match fuel with
  | 0 => .ok (assigns, words, redirs, ts)
  | fuel + 1 =>
    match ts with
    | .word w _ :: rest =>
      match (if words.isEmpty then assignment? w else none) with
      | some a => readSimple fuel last rest (assigns ++ [a]) words redirs
      | none => readSimple fuel last rest assigns (words ++ [w]) redirs
    | .op "[[" _ :: rest =>
      if words.isEmpty then .ok (assigns, words, redirs, ts)
      else readSimple fuel last rest assigns (words ++ [[.lit "[[" false]]) redirs
    | _ =>
      match takeRedir last ts with
      | .ok (some (r, more)) => readSimple fuel last more assigns words (redirs ++ [r])
      | .ok none => .ok (assigns, words, redirs, ts)
      | .error e => .error e

/-- Requires a reserved word next. -/
def expectWord (last : Nat) (w : String) (ts : List Token) : Except SyntaxError (List Token) :=
  match ts with
  | t :: rest => if t.isPlain w then .ok rest else .error (errorAt last (some ("\"" ++ w ++ "\"")) ts)
  | [] => .error (errorAt last (some ("\"" ++ w ++ "\"")) ts)

/-- Takes the words at the front of the tokens. -/
def takeWords : List Token → List Word → List Word × List Token
  | .word w _ :: rest, acc => takeWords rest (acc ++ [w])
  | ts, acc => (acc, ts)

/-- Reads the patterns of a `case` arm up to `)`. -/
def readPatterns (last : Nat) (ts : List Token) (acc : List Word) :
    Except SyntaxError (List Word × List Token) :=
  match ts with
  | .word w _ :: rest =>
    match rest with
    | .op "|" _ :: more => readPatterns last more (acc ++ [w])
    | .op ")" _ :: more => .ok (acc ++ [w], more)
    | _ => .error (errorAt last (some "\")\"") rest)
  | _ => .error (errorAt last none ts)

/-- Whether the tokens start a command. -/
def startsCommand (ts : List Token) : Bool :=
  match ts with
  | .word _ _ :: _ =>
    match ts.head?.bind Token.reserved? with
    | some r => ["if", "while", "until", "for", "case", "\x7b", "!"].contains r
    | none => true
  | .op "(" _ :: _ | .op "[[" _ :: _ | .arith _ _ :: _ | .redir _ _ _ :: _ | .here _ _ _ :: _ => true
  | _ => false

/-! ## bash's conditional command -/

/-- The unary operators of `[[ … ]]`. -/
def condUnaryOperators : List String :=
  ["-a", "-b", "-c", "-d", "-e", "-f", "-g", "-h", "-k", "-n", "-o", "-p", "-r", "-s", "-t", "-u",
   "-v", "-w", "-x", "-z", "-G", "-L", "-N", "-O", "-R", "-S"]

/-- The binary operators of `[[ … ]]` that are words; `<` and `>` are read as redirections. -/
def condBinaryOperators : List String :=
  ["=", "==", "!=", "=~", "-nt", "-ot", "-ef", "-eq", "-ne", "-lt", "-le", "-gt", "-ge"]

/-- A word of a conditional expression with its plain text; the closing `]]` is none. -/
def condWord? : Token → Option (Word × Option String)
  | .word w _ => if Word.plain? w = some "]]" then none else some (w, Word.plain? w)
  | _ => none

/-- An error in a conditional expression: bash writes the note, then names the token it is
near; a lexical error stays what it is. -/
def condError (t : Token) (note : String) : SyntaxError :=
  match t with
  | .broken m q l => { line := l, message := m, unclosed := q }
  | _ => { line := t.line, message := note, found := some t.text, note := some note }

/-- The script ended inside `[[ … ]]`. -/
def condEnd (last : Nat) : SyntaxError :=
  { line := last, message := "Syntax error: end of file unexpected",
    note := some "unexpected EOF while looking for `]]'" }

/-- Reads what follows the first word of a term: a binary operator and the right word, or the
end of the term. -/
def condBinary (last : Nat) (lhs : Word) (ts : List Token) : Except SyntaxError (CondExpr × List Token) :=
    let rhs (op : String) (more : List Token) : Except SyntaxError (CondExpr × List Token) :=
      match more with
      | t3 :: after =>
        match condWord? t3 with
        | some (w, _) => .ok (.binary op lhs w, after)
        | none => .error (condError t3 ("unexpected argument `" ++ t3.text ++ "' to conditional binary operator"))
      | [] => .error (condEnd last)
    match ts with
    | [] => .error (condEnd last)
    | t2 :: more =>
      match t2 with
      | .redir none .input _ => rhs "<" more
      | .redir none .output _ => rhs ">" more
      | .op "&&" _ | .op "||" _ | .op ")" _ => .ok (.word lhs, ts)
      | _ =>
        if t2.isPlain "]]" then .ok (.word lhs, ts)
        else match condWord? t2 with
          | some (_, some op) =>
            if condBinaryOperators.contains op then rhs op more
            else .error (condError t2 ("unexpected token `" ++ t2.text ++ "', conditional binary operator expected"))
          | _ => .error (condError t2 ("unexpected token `" ++ t2.text ++ "', conditional binary operator expected"))
mutual
/-- Reads `a || b || …` of a conditional expression. -/
def condOr : Nat → Nat → List Token → Except SyntaxError (CondExpr × List Token)
  | 0, last, _ => .error (condEnd last)
  | fuel + 1, last, ts => do
    let (a, rest) ← condAnd fuel last ts
    match skipNewlines rest with
    | .op "||" _ :: more =>
      let (b, rest) ← condOr fuel last more
      pure (.or a b, rest)
    | rest => pure (a, rest)

/-- Reads `a && b && …` of a conditional expression. -/
def condAnd : Nat → Nat → List Token → Except SyntaxError (CondExpr × List Token)
  | 0, last, _ => .error (condEnd last)
  | fuel + 1, last, ts => do
    let (a, rest) ← condTerm fuel last ts
    match skipNewlines rest with
    | .op "&&" _ :: more =>
      let (b, rest) ← condAnd fuel last more
      pure (.and a b, rest)
    | rest => pure (a, rest)

/-- Reads a term of a conditional expression: a parenthesized expression, `!` and a term, a
unary operator and its operand, two words around a binary operator, or a word alone. -/
def condTerm : Nat → Nat → List Token → Except SyntaxError (CondExpr × List Token)
  | 0, last, _ => .error (condEnd last)
  | fuel + 1, last, ts =>
    match skipNewlines ts with
    | [] => .error (condEnd last)
    | .op "(" _ :: rest => do
      let (e, more) ← condOr fuel last rest
      match skipNewlines more with
      | .op ")" _ :: after => pure (e, after)
      | t :: _ => .error (condError t ("unexpected token `" ++ t.text ++ "', expected `)'"))
      | [] => .error (condEnd last)
    | t :: rest =>
      match condWord? t with
      | none =>
        if t.isPlain "]]" then .error (condError t "")
        else .error (condError t ("unexpected token `" ++ t.text ++ "' in conditional command"))
      | some (w, text) =>
        if text = some "!" then do
          let (e, more) ← condTerm fuel last rest
          pure (.not e, more)
        else match text with
          | some op =>
            if condUnaryOperators.contains op then
              match rest with
              | t2 :: more =>
                match condWord? t2 with
                | some (operand, _) => .ok (.unary op operand, more)
                | none => .error (condError t2 ("unexpected argument `" ++ t2.text ++ "' to conditional unary operator"))
              | [] => .error (condEnd last)
            else condBinary last w rest
          | none => condBinary last w rest

end

/-- Reads `[[ … ]]` after its opening word, up to the closing `]]`. -/
def readCondition (last line : Nat) (ts : List Token) : Except SyntaxError (Command × List Token) := do
  let (e, rest) ← condOr (4 * ts.length + 4) last ts
  match skipNewlines rest with
  | t :: more =>
    if t.isPlain "]]" then pure (.conditional e line, more)
    else .error (condError t ("syntax error in conditional expression: unexpected token `" ++ t.text ++ "'"))
  | [] => .error (condEnd last)

/-- Splits the text of `for (( … ))` at its top-level semicolons. -/
def splitArithFor (text : String) : List String :=
  let rec go : List Char → Nat → List Char → List String
    | [], _, cur => [String.ofList cur.reverse]
    | c :: rest, depth, cur =>
      if c = ';' && depth = 0 then String.ofList cur.reverse :: go rest depth []
      else if c = '(' then go rest (depth + 1) (c :: cur)
      else if c = ')' then go rest (depth - 1) (c :: cur)
      else go rest depth (c :: cur)
  go text.toList 0 []

mutual
/-- Reads a list: and-or lists joined by `;`, `&` or newlines, until a token that cannot start a
command. With `top`, a newline ends the list. -/
def readList : Nat → Nat → Bool → List Token → Except SyntaxError (Command × List Token)
  | 0, last, _, ts => .error (errorAt last none ts)
  | fuel + 1, last, top, ts => do
    let ts := if top then ts else skipNewlines ts
    let (first, rest) ← readAndOr fuel last ts
    readListRest fuel last top rest [first]

/-- Reads the rest of a list after an and-or list. -/
def readListRest : Nat → Nat → Bool → List Token → List Command →
    Except SyntaxError (Command × List Token)
  | 0, _, _, ts, acc => .ok (.sequence acc, ts)
  | fuel + 1, last, top, ts, acc =>
    let done : Except SyntaxError (Command × List Token) :=
      .ok (if acc.length = 1 then acc.headD default else .sequence acc, ts)
    match ts with
    | .op ";" _ :: rest | .op "&" _ :: rest | .newline _ :: rest =>
      if top && (match ts with | .newline _ :: _ => true | _ => false) then done
      else
        let more := if top then rest else skipNewlines rest
        if startsCommand more then do
          let (c, after) ← readAndOr fuel last more
          readListRest fuel last top after (acc ++ [c])
        else .ok (if acc.length = 1 then acc.headD default else .sequence acc, more)
    | _ => done

/-- Reads an and-or list. -/
def readAndOr : Nat → Nat → List Token → Except SyntaxError (Command × List Token)
  | 0, last, ts => .error (errorAt last none ts)
  | fuel + 1, last, ts => do
    let (p, rest) ← readPipeline fuel last ts
    readAndOrRest fuel last rest p []

/-- Reads the pipelines of an and-or list after its first. -/
def readAndOrRest : Nat → Nat → List Token → Command → List (Bool × Command) →
    Except SyntaxError (Command × List Token)
  | 0, _, ts, first, acc => .ok (if acc.isEmpty then first else .andOr first acc, ts)
  | fuel + 1, last, ts, first, acc =>
    match ts with
    | .op "&&" _ :: rest => do
      let (p, more) ← readPipeline fuel last (skipNewlines rest)
      readAndOrRest fuel last more first (acc ++ [(true, p)])
    | .op "||" _ :: rest => do
      let (p, more) ← readPipeline fuel last (skipNewlines rest)
      readAndOrRest fuel last more first (acc ++ [(false, p)])
    | _ => .ok (if acc.isEmpty then first else .andOr first acc, ts)

/-- Reads a pipeline, perhaps negated by `!`. -/
def readPipeline : Nat → Nat → List Token → Except SyntaxError (Command × List Token)
  | 0, last, ts => .error (errorAt last none ts)
  | fuel + 1, last, ts => do
    let (negated, ts) := match ts with
      | t :: rest => if t.isPlain "!" then (true, rest) else (false, ts)
      | [] => (false, ts)
    let (c, rest) ← readCommand fuel last ts
    let (cs, rest) ← readPipeRest fuel last rest [c]
    if !negated && cs.length = 1 then pure (c, rest)
    else pure (.pipeline negated cs, rest)

/-- Reads the commands of a pipeline after its first. -/
def readPipeRest : Nat → Nat → List Token → List Command →
    Except SyntaxError (List Command × List Token)
  | 0, _, ts, acc => .ok (acc, ts)
  | fuel + 1, last, ts, acc =>
    match ts with
    | .op "|" _ :: rest => do
      let (c, more) ← readCommand fuel last (skipNewlines rest)
      readPipeRest fuel last more (acc ++ [c])
    | _ => .ok (acc, ts)

/-- Reads a command: a compound command with its redirections, a function definition, or a
simple command. -/
def readCommand : Nat → Nat → List Token → Except SyntaxError (Command × List Token)
  | 0, last, ts => .error (errorAt last none ts)
  | fuel + 1, last, ts =>
    match ts with
    | .op "(" _ :: rest => do
      let (body, more) ← readList fuel last false rest
      match more with
      | .op ")" _ :: after => do
        let (rs, after) ← readRedirs (after.length + 1) last after []
        pure (.subshell body rs, after)
      | _ => .error (errorAt last (some "\")\"") more)
    | .arith text l :: rest => do
      let (rs, after) ← readRedirs (rest.length + 1) last rest []
      pure (if rs.isEmpty then .arithmetic text l else .group (.arithmetic text l) rs, after)
    | .op "[[" l :: rest => do
      let (c, after) ← readCondition last l rest
      let (rs, after) ← readRedirs (after.length + 1) last after []
      pure (if rs.isEmpty then c else .group c rs, after)
    | t :: rest =>
      match t.reserved? with
      | some "\x7b" => do
        let (body, more) ← readList fuel last false rest
        match more with
        | t2 :: after =>
          if t2.isPlain "\x7d" then do
            let (rs, after) ← readRedirs (after.length + 1) last after []
            pure (.group body rs, after)
          else .error (errorAt last (some "\"\x7d\"") more)
        | [] => .error (errorAt last (some "\"\x7d\"") more)
      | some "if" => readIf fuel last rest
      | some "while" => readLoop fuel last false rest
      | some "until" => readLoop fuel last true rest
      | some "for" => readFor fuel last rest
      | some "case" => readCase fuel last rest
      | some _ => .error (errorAt last none ts)
      | none =>
        -- a function definition
        match t, rest with
        | .word w _, .op "(" _ :: .op ")" _ :: more =>
          match w.plain? with
          | some name =>
            if isName name then do
              let (body, after) ← readCommand fuel last (skipNewlines more)
              pure (.function name body, after)
            else .error (errorAt last none (rest.drop 1))
          | none => .error (errorAt last none (rest.drop 1))
        | _, _ => do
          let line := t.line
          let (assigns, words, redirs, more) ← readSimple (ts.length + 1) last ts [] [] []
          if assigns.isEmpty && words.isEmpty && redirs.isEmpty then .error (errorAt last none ts)
          else pure (.simple assigns words redirs line, more)
    | [] => .error (errorAt last none ts)

/-- Reads `if` after its word. -/
def readIf : Nat → Nat → List Token → Except SyntaxError (Command × List Token)
  | 0, last, ts => .error (errorAt last none ts)
  | fuel + 1, last, ts => do
    let (cond, more) ← readList fuel last false ts
    let more ← expectWord last "then" more
    let (body, more) ← readList fuel last false more
    readIfRest fuel last more [(cond, body)]

/-- Reads the `elif`, `else` and `fi` of an `if`. -/
def readIfRest : Nat → Nat → List Token → List (Command × Command) →
    Except SyntaxError (Command × List Token)
  | 0, last, ts, _ => .error (errorAt last none ts)
  | fuel + 1, last, ts, arms =>
    match ts with
    | t :: rest =>
      if t.isPlain "elif" then do
        let (cond, more) ← readList fuel last false rest
        let more ← expectWord last "then" more
        let (body, more) ← readList fuel last false more
        readIfRest fuel last more (arms ++ [(cond, body)])
      else if t.isPlain "else" then do
        let (body, more) ← readList fuel last false rest
        let more ← expectWord last "fi" more
        let (rs, more) ← readRedirs (more.length + 1) last more []
        pure (.ifThen arms (some body) rs, more)
      else if t.isPlain "fi" then do
        let (rs, more) ← readRedirs (rest.length + 1) last rest []
        pure (.ifThen arms none rs, more)
      else .error (errorAt last (some "\"fi\"") ts)
    | [] => .error (errorAt last (some "\"fi\"") ts)

/-- Reads `while` or `until` after its word. -/
def readLoop : Nat → Nat → Bool → List Token → Except SyntaxError (Command × List Token)
  | 0, last, _, ts => .error (errorAt last none ts)
  | fuel + 1, last, negated, ts => do
    let (cond, more) ← readList fuel last false ts
    let more ← expectWord last "do" more
    let (body, more) ← readList fuel last false more
    let more ← expectWord last "done" more
    let (rs, more) ← readRedirs (more.length + 1) last more []
    pure (.loop negated cond body rs, more)

/-- Reads `for` after its word. -/
def readFor : Nat → Nat → List Token → Except SyntaxError (Command × List Token)
  | 0, last, ts => .error (errorAt last none ts)
  | fuel + 1, last, ts =>
    match ts with
    | .arith text l :: rest =>
      match splitArithFor text with
      | [start, test, step] => do
        let more := match rest with
          | .op ";" _ :: m => skipNewlines m
          | m => skipNewlines m
        let (body, more) ← match more with
          | t :: after =>
            if t.isPlain "\x7b" then readCommand fuel last more
            else do
              let after ← expectWord last "do" (t :: after)
              let (body, after) ← readList fuel last false after
              let after ← expectWord last "done" after
              pure (body, after)
          | [] => .error (errorAt last (some "\"do\"") more)
        let (rs, more) ← readRedirs (more.length + 1) last more []
        pure (.forArith start test step body rs, more)
      | _ => .error { line := l, message := "Syntax error: Bad for loop variable",
                      note := some "syntax error: arithmetic expression required", found := some "((" }
    | .word w l :: rest =>
      match w.plain? with
      | some var =>
        if !isName var then .error { line := l, message := "Syntax error: Bad for loop variable", found := some var }
        else do
          let rest' := skipNewlines rest
          let (items, more) ← match rest' with
            | t :: after =>
              if t.isPlain "in" then do
                let (ws, more) := takeWords after []
                match more with
                | .op ";" _ :: m | .newline _ :: m => pure (some ws, skipNewlines m)
                | _ => .error (errorAt last (some "\"do\"") more)
              else
                match rest with
                | .op ";" _ :: m => pure (none, skipNewlines m)
                | _ => pure (none, rest')
            | [] => pure (none, rest')
          let more ← expectWord last "do" more
          let (body, more) ← readList fuel last false more
          let more ← expectWord last "done" more
          let (rs, more) ← readRedirs (more.length + 1) last more []
          pure (.forIn var items body rs, more)
      | none => .error { line := l, message := "Syntax error: Bad for loop variable", found := some "word" }
    | _ => .error (errorAt last none ts)

/-- Reads `case` after its word. -/
def readCase : Nat → Nat → List Token → Except SyntaxError (Command × List Token)
  | 0, last, ts => .error (errorAt last none ts)
  | fuel + 1, last, ts =>
    match ts with
    | .word subject _ :: rest => do
      let more := skipNewlines rest
      let more ← expectWord last "in" more
      let (arms, more) ← readArms fuel last (skipNewlines more) []
      let (rs, more) ← readRedirs (more.length + 1) last more []
      pure (.caseOf subject arms rs, more)
    | _ => .error (errorAt last none ts)

/-- Reads the arms of a `case` up to `esac`. -/
def readArms : Nat → Nat → List Token → List (List Word × Command) →
    Except SyntaxError (List (List Word × Command) × List Token)
  | 0, last, ts, _ => .error (errorAt last none ts)
  | fuel + 1, last, ts, acc =>
    match ts with
    | t :: rest =>
      if t.isPlain "esac" then .ok (acc, rest)
      else do
        let ts := match ts with
          | .op "(" _ :: r => r
          | _ => ts
        let (pats, more) ← readPatterns last ts []
        let more := skipNewlines more
        let (body, more) ← match more with
          | t2 :: _ =>
            if t2.isPlain "esac" then pure (Command.sequence [], more)
            else match t2 with
              | .op ";;" _ => pure (Command.sequence [], more)
              | _ => readList fuel last false more
          | [] => pure (Command.sequence [], more)
        match more with
        | .op ";;" _ :: after => readArms fuel last (skipNewlines after) (acc ++ [(pats, body)])
        | t3 :: after =>
          if t3.isPlain "esac" then .ok (acc ++ [(pats, body)], after)
          else .error (errorAt last (some "\"esac\"") more)
        | [] => .error (errorAt last (some "\"esac\"") more)
    | [] => .error (errorAt last (some "\"esac\"") ts)
end

/-- A step of a script: a complete command, or the syntax error that stops the shell. -/
inductive Step where
  | run (c : Command)
  | fail (error : SyntaxError)
  deriving Repr, Inhabited

/-- Reads a script into its steps: complete commands, each ending at a newline, until a syntax
error. -/
def readSteps (fuel : Nat) (last : Nat) (ts : List Token) : List Step :=
  match fuel with
  | 0 => []
  | fuel + 1 =>
    match ts with
    | [] => []
    | .newline _ :: rest => readSteps fuel last rest
    | _ =>
      match readList (16 * ts.length + 16) last true ts with
      | .ok (c, rest) =>
        match rest with
        | [] => [.run c]
        | .newline _ :: more => .run c :: readSteps fuel last more
        | _ => [.fail (errorAt last none rest)]
      | .error e => [.fail e]

/-- The steps of a script. -/
def parseScript (bash : Bool) (script : String) : List Step :=
  let ts := tokens bash script
  let last := 1 + newlinesIn script.toList
  readSteps (ts.length + 1) last ts

end SnapshotAgent.Shell
