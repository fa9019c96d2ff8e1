/-!
# SQL tokens

The first stage of running SQL text: splitting it into tokens as the engine does. Blanks and
comments (`-- …` to the end of the line, `/* … */`) separate tokens. A token is a word (a keyword
or a bare name), a quoted name (`"…"`, `[…]` or in backquotes), a string (`'…'`, with `''` for a
quote), a blob, a number, or an operator. Each token keeps its text as written and where it stands, so
that an error can quote it and a `CHECK` constraint can keep its source.

A blob is written `X'…'` with an even number of hexadecimal digits. A character that starts no
token, a string or quoted name left open, a blob with anything else between its quotes, and a
number run into a word are refused as an unrecognized token; tokens before it still count, so
the statements before the bad one run.
-/

namespace SnapshotAgent.Store.Sql

/-- The kinds of token. -/
inductive TokKind where
  | word
  | quotedName
  | string
  | number
  | blob
  | symbol
  | variable
  deriving Repr, DecidableEq, Inhabited

/-- A token: its kind, its text as written, its value (a quoted token without its quotes), and
the offsets of its first character and of the one after it. -/
structure Tok where
  kind : TokKind
  text : String
  value : String
  start : Nat
  stop : Nat
  deriving Repr, Inhabited

/-- The result of splitting: the tokens, and the text of an unrecognized token that ended the
splitting, with its offset. -/
structure Lexed where
  tokens : Array Tok := #[]
  bad : Option (String × Nat) := none
  deriving Inhabited

/-- The single quote. -/
def quoteChar : Char := Char.ofNat 39

/-- The backquote. -/
def backquoteChar : Char := Char.ofNat 96

/-- Hexadecimal digits. -/
def isHexDigitChar (c : Char) : Bool := c.isDigit || ('a' ≤ c && c ≤ 'f') || ('A' ≤ c && c ≤ 'F')

/-- Characters that may start a bare word. -/
def isWordStart (c : Char) : Bool := c.isAlpha || c = '_' || c.toNat ≥ 128

/-- Characters that may continue a bare word. -/
def isWordChar (c : Char) : Bool := isWordStart c || c.isDigit || c = '$'

/-- Blanks between tokens. -/
def isSqlBlank (c : Char) : Bool := c = ' ' || c = '\t' || c = '\n' || c = '\r' || c = '\x0c'

/-- Reads a quoted token's body up to the closing character, a doubled closing character
standing for itself; none when it is never closed. -/
def readQuoted (close : Char) (doubles : Bool) : List Char → List Char → Option (List Char × List Char)
  | acc, c :: d :: rest =>
    if c = close then
      if doubles && d = close then readQuoted close doubles (c :: acc) rest
      else some (acc.reverse, d :: rest)
    else readQuoted close doubles (c :: acc) (d :: rest)
  | acc, [c] => if c = close then some (acc.reverse, []) else none
  | _, [] => none

/-- The operators, longest first. -/
def symbols : List String :=
  ["||", "<=", ">=", "<>", "==", "!=", "<<", ">>", "(", ")", ";", ",", "+", "-", "*", "/", "%",
   "=", "<", ">", "&", "|", "~", "."]

/-- Reads a number's characters: digits, a fraction, an exponent; or a hexadecimal integer. -/
def readNumber (cs : List Char) : List Char × List Char :=
  match cs with
  | '0' :: x :: rest =>
    if x = 'x' || x = 'X' then
      let hex := rest.takeWhile isHexDigitChar
      ('0' :: x :: hex, rest.drop hex.length)
    else decimal cs
  | _ => decimal cs
where
  decimal (cs : List Char) : List Char × List Char :=
    let whole := cs.takeWhile Char.isDigit
    let rest := cs.drop whole.length
    let (frac, rest) := match rest with
      | '.' :: more =>
        let f := more.takeWhile Char.isDigit
        ('.' :: f, more.drop f.length)
      | _ => ([], rest)
    let (expo, rest) := match rest with
      | e :: more =>
        if e = 'e' || e = 'E' then
          let (sign, more2) := match more with
            | '+' :: m => (['+'], m)
            | '-' :: m => (['-'], m)
            | m => ([], m)
          let ds := more2.takeWhile Char.isDigit
          if ds.isEmpty then ([], rest) else (e :: sign ++ ds, more2.drop ds.length)
        else ([], rest)
      | [] => ([], rest)
    (whole ++ frac ++ expo, rest)

/-- Splits SQL text into tokens. -/
def lexFrom (fuel : Nat) (cs : List Char) (pos : Nat) (out : Lexed) : Lexed :=
  match fuel with
  | 0 => out
  | fuel + 1 =>
    let push (k : TokKind) (text value : List Char) (rest : List Char) : Lexed × List Char × Nat :=
      let len := text.length
      ({ out with tokens := out.tokens.push ⟨k, String.ofList text, String.ofList value, pos, pos + len⟩ },
        rest, pos + len)
    let refuse (text : List Char) : Lexed := { out with bad := some (String.ofList text, pos) }
    match cs with
    | [] => out
    | c :: rest =>
      if isSqlBlank c then lexFrom fuel rest (pos + 1) out
      else if c = '-' && rest.head? = some '-' then
        let line := cs.takeWhile (· ≠ '\n')
        lexFrom fuel (cs.drop line.length) (pos + line.length) out
      else if c = '/' && rest.head? = some '*' then
        let body := rest.drop 1
        let rec skip : List Char → Nat → List Char × Nat
          | '*' :: '/' :: more, n => (more, n + 2)
          | _ :: more, n => skip more (n + 1)
          | [], n => ([], n)
        let (more, n) := skip body 0
        lexFrom fuel more (pos + 2 + n) out
      else if c = quoteChar then
        match readQuoted quoteChar true [] rest with
        | some (body, more) =>
          let text := cs.take (cs.length - more.length)
          let (o, r, p) := push .string text body more
          lexFrom fuel r p o
        | none => refuse cs
      else if c = '"' || c = '[' || c = backquoteChar then
        let close := if c = '[' then ']' else c
        match readQuoted close (c ≠ '[') [] rest with
        | some (body, more) =>
          let text := cs.take (cs.length - more.length)
          let (o, r, p) := push .quotedName text body more
          lexFrom fuel r p o
        | none => refuse cs
      else if (c = 'x' || c = 'X') && rest.head? = some quoteChar then
        let digits := (rest.drop 1).takeWhile isHexDigitChar
        let after := (rest.drop 1).drop digits.length
        if after.head? = some quoteChar && digits.length % 2 = 0 then
          let text := c :: quoteChar :: digits ++ [quoteChar]
          let (o, r, p) := push .blob text digits (after.drop 1)
          lexFrom fuel r p o
        else
          let body := after.takeWhile (· ≠ quoteChar)
          let closing := if (after.drop body.length).isEmpty then [] else [quoteChar]
          refuse (c :: quoteChar :: digits ++ body ++ closing)
      else if c.isDigit || (c = '.' && (rest.head?.map Char.isDigit).getD false) then
        let (num, more) := readNumber cs
        match more with
        | d :: _ =>
          if isWordChar d then refuse (num ++ more.takeWhile isWordChar)
          else let (o, r, p) := push .number num num more; lexFrom fuel r p o
        | [] => let (o, r, p) := push .number num num more; lexFrom fuel r p o
      else if isWordStart c then
        let w := cs.takeWhile isWordChar
        let (o, r, p) := push .word w w (cs.drop w.length)
        lexFrom fuel r p o
      else if c = '?' || c = ':' || c = '@' || c = '$' then
        let w := c :: rest.takeWhile isWordChar
        let (o, r, p) := push .variable w w (cs.drop w.length)
        lexFrom fuel r p o
      else
        match symbols.find? fun s => s.toList.isPrefixOf cs with
        | some s =>
          let (o, r, p) := push .symbol s.toList s.toList (cs.drop s.length)
          lexFrom fuel r p o
        | none => refuse [c]

/-- The tokens of SQL text. -/
def lex (text : String) : Lexed := lexFrom (text.length + 1) text.toList 0 {}

end SnapshotAgent.Store.Sql
