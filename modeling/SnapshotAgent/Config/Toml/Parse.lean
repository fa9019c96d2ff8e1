import SnapshotAgent.Config.Toml.Lex
import SnapshotAgent.Config.Toml.Scalar
/-!
# The shape of a TOML document

The tokens of a document are grouped into statements: table headers `[a.b]` and `[[a.b]]`, and
key-value pairs whose values are bare words, strings, arrays and inline tables. Keys and values
keep their text here; decoding them is the next step. This step checks only the shape, token by
token, and the first fault it meets is the one reported:

* after a key-value pair or header come blanks, an optional comment and the end of the line,
  else `unexpected key or value, expected newline, #`;
* a key needs `=` (`key with no value`), a header its closing bracket (`unclosed table`);
* arrays and inline tables need commas between their items and a closing bracket; an inline
  table may span lines, hold comments and end with a comma;
* a comment holds tabs and visible characters only, and a carriage return must be followed by
  a line feed.

A key part left out, as in `= 1` or `a. = 1`, is kept as an empty bare key, and a value left out
as an empty bare word; both are refused when decoded. A bare value runs on over dots and over
blanks followed by more of it, so `1979-05-27 07:32` and `1 2` are single words.
-/

namespace SnapshotAgent.Config.Toml

/-- A key part or value as written: how it is quoted and its text. -/
abbrev RawText := Quoting × List Char

/-- A value as written. -/
inductive RawValue where
  | scalar (text : RawText)
  | array (items : List RawValue)
  | inline (entries : List (List RawText × RawValue))
  deriving Inhabited

/-- A statement of a document. -/
inductive Statement where
  /-- A `[…]` header, or a `[[…]]` one when `ofArray`. -/
  | header (keys : List RawText) (ofArray : Bool)
  | keyValue (keys : List RawText) (value : RawValue)
  deriving Inhabited

/-- A key part that was left out. -/
def missingKey : RawText := (.bare, [])

/-- How a token is quoted, when it can be a key or a value. -/
def TokenKind.quoting? : TokenKind → Option Quoting
  | .atom => some .bare
  | .literalString => some .literal
  | .basicString => some .basic
  | .mlLiteralString => some .mlLiteral
  | .mlBasicString => some .mlBasic
  | _ => none

/-- Characters a comment may hold after its `#`. -/
def isCommentChar (c : Char) : Bool :=
  c = '\t' || (0x20 ≤ c.toNat && c.toNat ≤ 0x7E) || 0x80 ≤ c.toNat

/-- Checks a comment token. -/
def checkComment (t : Token) : Except ReadError Unit :=
  if (t.text.drop 1).all isCommentChar then .ok ()
  else .error (.expecting "invalid comment character" [.description "printable characters"])

/-- Checks a line-break token: a lone carriage return is refused. -/
def checkNewline (t : Token) : Except ReadError Unit :=
  if t.text = ['\r'] then
    .error (.expecting "carriage return must be followed by newline" [.literal "\n"])
  else .ok ()

/-- Checks a comment and the line break after it. -/
def afterComment (t : Token) (ts : List Token) : Except ReadError (List Token) := do
  checkComment t
  match ts with
  | u :: r => if u.kind = .newline then do checkNewline u; pure r else pure (u :: r)
  | [] => pure []

/-- Skips blanks. -/
def skipBlanks : List Token → List Token
  | t :: r => if t.kind = .whitespace then skipBlanks r else t :: r
  | [] => []

/-- Reads the rest of a line after a statement: blanks, an optional comment, the line break. -/
def endOfLine : List Token → Except ReadError (List Token)
  | [] => .ok []
  | t :: r =>
    match t.kind with
    | .whitespace => endOfLine r
    | .comment => afterComment t r
    | .newline => do checkNewline t; pure r
    | _ => .error .unexpectedContent

/-- Skips a faulty line up to its line break, still checking comments and line breaks. -/
def skipLine : List Token → Except ReadError (List Token)
  | [] => .ok []
  | t :: r =>
    match t.kind with
    | .newline => do checkNewline t; pure r
    | .comment => afterComment t r
    | _ => skipLine r

/-- Reads key parts after a dot: each dot is followed (after blanks) by a key part, or by nothing,
which leaves the part out. Answers the parts, whether the key was complete, and the rest. -/
def dottedParts : Nat → List RawText → List Token → List RawText × Bool × List Token
  | 0, acc, ts => (acc.reverse, true, ts)
  | fuel + 1, acc, ts =>
    match skipBlanks ts with
    | t :: r =>
      if t.kind = .dot then afterDot fuel acc r
      else (acc.reverse, true, t :: r)
    | [] => (acc.reverse, true, [])
where
  /-- Looks for the key part after a dot. -/
  afterDot : Nat → List RawText → List Token → List RawText × Bool × List Token
    | 0, acc, ts => (acc.reverse, true, ts)
    | fuel + 1, acc, ts =>
      match ts with
      | [] => ((missingKey :: acc).reverse, false, [])
      | t :: r =>
        match t.kind.quoting? with
        | some q => dottedParts fuel ((q, t.text) :: acc) r
        | none =>
          if t.kind = .whitespace then afterDot fuel acc r
          else if t.kind = .dot then afterDot fuel (missingKey :: acc) r
          else ((missingKey :: acc).reverse, false, t :: r)

/-- Reads the key of a header after its brackets: leading dots leave parts out, then a key part
and its dotted parts. -/
def headerKey : Nat → List RawText → List Token → List RawText × Bool × List Token
  | 0, acc, ts => (acc.reverse, false, ts)
  | fuel + 1, acc, ts =>
    match ts with
    | [] => ((missingKey :: acc).reverse, false, [])
    | t :: r =>
      match t.kind.quoting? with
      | some q =>
        let (more, ok, rest) := dottedParts (r.length + 1) [] r
        (acc.reverse ++ (q, t.text) :: more, ok, rest)
      | none =>
        if t.kind = .whitespace then headerKey fuel acc r
        else if t.kind = .dot then headerKey fuel (missingKey :: acc) r
        else ((missingKey :: acc).reverse, false, t :: r)

/-- Joins a bare value with the dots, words, and blanks followed by more words, that come after
it. -/
def joinBare : List Char → List Token → List Char × List Token
  | acc, t :: r =>
    if t.kind = .atom || t.kind = .dot then joinBare (acc ++ t.text) r
    else if t.kind = .whitespace then
      match r with
      | u :: r' =>
        if u.kind = .atom || u.kind = .dot then joinBare (acc ++ t.text ++ u.text) r'
        else (acc, t :: r)
      | [] => (acc, t :: r)
    else (acc, t :: r)
  | acc, [] => (acc, [])

/-- A scalar value starting with token `t`. -/
def scalarOf (t : Token) (r : List Token) : RawValue × List Token :=
  match t.kind.quoting? with
  | some .bare => let (text, rest) := joinBare t.text r; (.scalar (.bare, text), rest)
  | some q => (.scalar (q, t.text), r)
  | none => let (text, rest) := joinBare t.text r; (.scalar (.bare, text), rest)

/-- What an inline table waits for. -/
inductive InlineState where
  | needsKey
  | needsEquals
  | needsValue
  | needsComma
  deriving Repr, DecidableEq

/-- What an inline table expects in a state. -/
def InlineState.expected : InlineState → List Expected
  | .needsKey => [.description "key"]
  | .needsEquals => [.literal "="]
  | .needsValue => [.description "value"]
  | .needsComma => [.literal ","]

mutual
/-- Reads a value after its key's `=`. A line break, comment, comma or the end leaves the value
out. -/
def readValue : Nat → List Token → Except ReadError (RawValue × List Token)
  | 0, ts => .ok (.scalar (.bare, []), ts)
  | fuel + 1, ts =>
    match ts with
    | [] => .ok (.scalar (.bare, []), [])
    | t :: r =>
      match t.kind with
      | .comment | .comma | .newline => .ok (.scalar (.bare, []), ts)
      | .equals => .error (.expecting "extra `=`" [])
      | .leftBrace => readInline fuel .needsKey [] [] r
      | .rightBrace => .error (.expecting "missing inline table opening" [.literal "\x7b"])
      | .leftBracket => readArray fuel false [] r
      | .rightBracket => .error (.expecting "missing array opening" [.literal "["])
      | .whitespace => readValue fuel r
      | _ => .ok (scalarOf t r)

/-- Reads the items of an array after its opening bracket; `needsComma` after an item. -/
def readArray : Nat → Bool → List RawValue → List Token → Except ReadError (RawValue × List Token)
  | 0, _, _, _ => .error (.expecting "unclosed array" [.literal "]"])
  | fuel + 1, needsComma, items, ts =>
    let missingComma : ReadError :=
      .expecting "missing comma between array elements" [.literal ","]
    match ts with
    | [] => .error (.expecting "unclosed array" [.literal "]"])
    | t :: r =>
      match t.kind with
      | .comment => do readArray fuel needsComma items (← afterComment t r)
      | .whitespace => readArray fuel needsComma items r
      | .newline => do checkNewline t; readArray fuel needsComma items r
      | .comma =>
        if needsComma then readArray fuel false items r
        else .error (.expecting "extra comma in array" [.description "value"])
      | .equals =>
        .error (.expecting "unexpected `=` in array" [.description "value", .literal "]"])
      | .leftBrace =>
        if needsComma then .error missingComma
        else do
          let (v, r) ← readInline fuel .needsKey [] [] r
          readArray fuel true (v :: items) r
      | .rightBrace => .error (.expecting "missing inline table opening" [.literal "\x7b"])
      | .leftBracket =>
        if needsComma then .error missingComma
        else do
          let (v, r) ← readArray fuel false [] r
          readArray fuel true (v :: items) r
      | .rightBracket => .ok (.array items.reverse, r)
      | _ =>
        if needsComma then .error missingComma
        else
          let (v, r) := scalarOf t r
          readArray fuel true (v :: items) r

/-- Reads the members of an inline table after its opening brace. -/
def readInline : Nat → InlineState → List RawText → List (List RawText × RawValue) →
    List Token → Except ReadError (RawValue × List Token)
  | 0, _, _, _, _ => .error (.expecting "unclosed inline table" [.literal "\x7d"])
  | fuel + 1, state, keys, entries, ts =>
    let missingKeyError : ReadError :=
      .expecting "missing key for inline table element" state.expected
    let missingEquals : ReadError :=
      .expecting "missing assignment between key-value pairs" state.expected
    match ts with
    | [] => .error (.expecting "unclosed inline table" [.literal "\x7d"])
    | t :: r =>
      match t.kind with
      | .comment => do readInline fuel state keys entries (← afterComment t r)
      | .whitespace => readInline fuel state keys entries r
      | .newline => do checkNewline t; readInline fuel state keys entries r
      | .comma =>
        if state = .needsComma then readInline fuel .needsKey [] entries r
        else .error (.expecting "extra comma in inline table" state.expected)
      | .equals =>
        match state with
        | .needsKey => readInline fuel .needsValue [missingKey] entries r
        | .needsEquals => readInline fuel .needsValue keys entries r
        | _ => .error (.expecting "extra assignment between key-value pairs" state.expected)
      | .leftBrace =>
        match state with
        | .needsValue => do
          let (v, r) ← readInline fuel .needsKey [] [] r
          readInline fuel .needsComma [] ((keys, v) :: entries) r
        | .needsEquals => .error missingEquals
        | _ => .error missingKeyError
      | .leftBracket =>
        match state with
        | .needsValue => do
          let (v, r) ← readArray fuel false [] r
          readInline fuel .needsComma [] ((keys, v) :: entries) r
        | .needsEquals => .error missingEquals
        | _ => .error missingKeyError
      | .rightBrace =>
        match state with
        | .needsKey | .needsComma => .ok (.inline entries.reverse, r)
        | .needsEquals => .error (.expecting "key with no value" [.literal "="])
        | .needsValue => .error (.expecting "missing value" [.description "value"])
      | .rightBracket => .error (.expecting "missing array opening" [.literal "["])
      | _ =>
        match state with
        | .needsKey =>
          let (keys, _, r) :=
            if t.kind = .dot then dottedParts (ts.length + 1) [missingKey] ts
            else dottedParts (r.length + 1) [((t.kind.quoting?).getD .bare, t.text)] r
          readInline fuel .needsEquals keys entries r
        | .needsEquals => .error missingEquals
        | .needsValue =>
          let (v, r) := scalarOf t r
          readInline fuel .needsComma [] ((keys, v) :: entries) r
        | .needsComma =>
          .error (.expecting "missing comma between key-value pairs" [.literal ","])
end

/-- Reads a key-value pair from its first key part on. -/
def readKeyValue (first : RawText) (ts : List Token) : Except ReadError (Statement × List Token) := do
  let (more, _, ts) := dottedParts (ts.length + 1) [] ts
  match skipBlanks ts with
  | t :: r =>
    if t.kind = .equals then
      let (v, r) ← readValue (r.length + 1) (skipBlanks r)
      let r ← endOfLine r
      pure (.keyValue (first :: more) v, r)
    else throw (.expecting "key with no value" [.literal "="])
  | [] => throw (.expecting "key with no value" [.literal "="])

/-- The failure of a header without its closing brackets. -/
def unclosedHeader (ofArray : Bool) : ReadError :=
  if ofArray then .expecting "unclosed array table" [.literal "]]"]
  else .expecting "unclosed table" [.literal "]"]

/-- Reads the closing brackets of a header and the rest of its line. A header whose key was cut
short and that is not closed is passed over to the end of its line. -/
def closeHeader (keys : List RawText) (ofArray complete : Bool) (ts : List Token) :
    Except ReadError (Statement × List Token) :=
  match ts with
  | t :: r =>
    if t.kind = TokenKind.rightBracket then
      if ofArray then
        match r with
        | u :: r' =>
          if u.kind = TokenKind.rightBracket then
            (endOfLine r').map fun rest => (Statement.header keys true, rest)
          else .error (.expecting "unclosed array table" [.literal "]"])
        | [] => .error (.expecting "unclosed array table" [.literal "]"])
      else (endOfLine r).map fun rest => (Statement.header keys false, rest)
    else if complete then .error (unclosedHeader ofArray)
    else (skipLine (t :: r)).map fun rest => (Statement.header keys ofArray, rest)
  | [] =>
    if complete then .error (unclosedHeader ofArray)
    else .ok (Statement.header keys ofArray, [])

/-- Reads a header after its first bracket. -/
def readHeader (ts : List Token) : Except ReadError (Statement × List Token) :=
  let (ofArray, ts) : Bool × List Token := match ts with
    | t :: r => if t.kind = TokenKind.leftBracket then (true, r) else (false, t :: r)
    | [] => (false, [])
  let (keys, complete, ts) := headerKey (ts.length + 1) [] (skipBlanks ts)
  closeHeader keys ofArray complete (skipBlanks ts)

/-- Reads the statements of a document. -/
def readStatements : Nat → List Statement → List Token → Except ReadError (List Statement)
  | 0, acc, _ => .ok acc.reverse
  | _, acc, [] => .ok acc.reverse
  | fuel + 1, acc, t :: r =>
    match t.kind with
    | .leftBracket => do
      let (s, r) ← readHeader r
      readStatements fuel (s :: acc) r
    | .rightBracket => .error (.expecting "missing table open" [.literal "["])
    | .equals => do
      let (v, r) ← readValue (r.length + 1) (skipBlanks r)
      let r ← endOfLine r
      readStatements fuel (.keyValue [missingKey] v :: acc) r
    | .dot => do
      let (s, r) ← readKeyValue missingKey (t :: r)
      readStatements fuel (s :: acc) r
    | .comma | .leftBrace | .rightBrace =>
      .error (.expecting "invalid key-value pair" [.description "key"])
    | .whitespace => readStatements fuel acc r
    | .newline => do checkNewline t; readStatements fuel acc r
    | .comment => do readStatements fuel acc (← afterComment t r)
    | _ => do
      let (s, r) ← readKeyValue (((t.kind.quoting?).getD .bare), t.text) r
      readStatements fuel (s :: acc) r

/-- Reads the statements of a tokenized document. -/
def statementsOf (ts : List Token) : Except ReadError (List Statement) :=
  readStatements (ts.length + 1) [] ts

end SnapshotAgent.Config.Toml
