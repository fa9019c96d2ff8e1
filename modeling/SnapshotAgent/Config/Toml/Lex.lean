/-!
# Cutting TOML text into tokens

Reading starts by cutting the text into tokens, without judging them yet:

* the punctuation `.`, `=`, `,`, `[`, `]`, `{`, `}`, one character each;
* a run of spaces and tabs;
* a line break, `\n`, `\r\n`, or a lone `\r` (refused later);
* a comment, from `#` up to the next `\r` or `\n`;
* the four kinds of string, each from its opening quotes to its closing ones, or up to the end
  of the line (one-line strings) or of the text (multi-line ones) when they are not closed. A
  backslash in a basic string keeps a following quote or backslash inside it; a multi-line
  string's closing quotes may be followed by up to two more quotes, which belong to it;
* and a bare word: everything up to the next character that starts one of the tokens above.

Numbers, booleans, date-times and bare keys are all bare words at this stage; `1.5` is the word
`1`, a dot and the word `5`. A byte-order mark at the start of the text is skipped.
-/

namespace SnapshotAgent.Config.Toml

/-- The kinds of token. -/
inductive TokenKind where
  | dot
  | equals
  | comma
  | leftBracket
  | rightBracket
  | leftBrace
  | rightBrace
  | whitespace
  | newline
  | comment
  | literalString
  | basicString
  | mlLiteralString
  | mlBasicString
  | atom
  deriving Repr, DecidableEq, Inhabited

/-- A token: its kind and the characters it covers. -/
structure Token where
  kind : TokenKind
  text : List Char
  deriving Repr, DecidableEq, Inhabited

/-- Characters that start a token of their own, and so end a bare word. -/
def startsToken (c : Char) : Bool :=
  c = '.' || c = '=' || c = ',' || c = '[' || c = ']' || c = '\x7b' || c = '\x7d' ||
    c = ' ' || c = '\t' || c = '#' || c = '\r' || c = '\n' || c = '\'' || c = '"'

/-- The rest of a one-line literal string after its opening quote: up to and including the
closing quote, or up to the line break. -/
def literalBody : List Char → List Char × List Char
  | [] => ([], [])
  | '\'' :: r => (['\''], r)
  | '\n' :: r => ([], '\n' :: r)
  | c :: r => let (b, rest) := literalBody r; (c :: b, rest)

/-- The rest of a one-line basic string after its opening quote: up to and including the closing
quote, or up to the line break; a backslash keeps a following quote or backslash. -/
def basicBody : List Char → List Char × List Char
  | [] => ([], [])
  | '"' :: r => (['"'], r)
  | '\n' :: r => ([], '\n' :: r)
  | '\\' :: '"' :: r => let (b, rest) := basicBody r; ('\\' :: '"' :: b, rest)
  | '\\' :: '\\' :: r => let (b, rest) := basicBody r; ('\\' :: '\\' :: b, rest)
  | c :: r => let (b, rest) := basicBody r; (c :: b, rest)

/-- Up to two more copies of the quote `q` after a closing delimiter. -/
def extraQuotes (q : Char) : List Char → List Char × List Char
  | a :: b :: r => if a = q then (if b = q then ([a, b], r) else ([a], b :: r)) else ([], a :: b :: r)
  | [a] => if a = q then ([a], []) else ([], [a])
  | [] => ([], [])

/-- The rest of a multi-line literal string after its opening quotes: up to and including the
closing quotes and up to two more quotes, or the whole text. -/
def mlLiteralBody : List Char → List Char × List Char
  | [] => ([], [])
  | '\'' :: '\'' :: '\'' :: r =>
    let (more, rest) := extraQuotes '\'' r
    (['\'', '\'', '\''] ++ more, rest)
  | c :: r => let (b, rest) := mlLiteralBody r; (c :: b, rest)

/-- The rest of a multi-line basic string after its opening quotes; a backslash keeps the
character after it. -/
def mlBasicBody : List Char → List Char × List Char
  | [] => ([], [])
  | '"' :: '"' :: '"' :: r =>
    let (more, rest) := extraQuotes '"' r
    (['"', '"', '"'] ++ more, rest)
  | '\\' :: c :: r => let (b, rest) := mlBasicBody r; ('\\' :: c :: b, rest)
  | c :: r => let (b, rest) := mlBasicBody r; (c :: b, rest)

/-- The first token of a non-empty text and the rest. -/
def nextToken (c : Char) (r : List Char) : Token × List Char :=
  match c, r with
  | '.', r => (⟨.dot, ['.']⟩, r)
  | '=', r => (⟨.equals, ['=']⟩, r)
  | ',', r => (⟨.comma, [',']⟩, r)
  | '[', r => (⟨.leftBracket, ['[']⟩, r)
  | ']', r => (⟨.rightBracket, [']']⟩, r)
  | '\x7b', r => (⟨.leftBrace, ['\x7b']⟩, r)
  | '\x7d', r => (⟨.rightBrace, ['\x7d']⟩, r)
  | '\n', r => (⟨.newline, ['\n']⟩, r)
  | '\r', '\n' :: r => (⟨.newline, ['\r', '\n']⟩, r)
  | '\r', r => (⟨.newline, ['\r']⟩, r)
  | '#', r =>
    let body := r.takeWhile fun ch => ch ≠ '\r' && ch ≠ '\n'
    (⟨.comment, '#' :: body⟩, r.drop body.length)
  | '\'', '\'' :: '\'' :: r =>
    let (b, rest) := mlLiteralBody r
    (⟨.mlLiteralString, ['\'', '\'', '\''] ++ b⟩, rest)
  | '\'', r =>
    let (b, rest) := literalBody r
    (⟨.literalString, '\'' :: b⟩, rest)
  | '"', '"' :: '"' :: r =>
    let (b, rest) := mlBasicBody r
    (⟨.mlBasicString, ['"', '"', '"'] ++ b⟩, rest)
  | '"', r =>
    let (b, rest) := basicBody r
    (⟨.basicString, '"' :: b⟩, rest)
  | c, r =>
    if c = ' ' || c = '\t' then
      let more := r.takeWhile fun ch => ch = ' ' || ch = '\t'
      (⟨.whitespace, c :: more⟩, r.drop more.length)
    else
      let more := r.takeWhile fun ch => !startsToken ch
      (⟨.atom, c :: more⟩, r.drop more.length)

/-- Cuts text into tokens; `fuel` bounds their number, and every token takes at least one
character, so one more than the length of the text is enough. -/
def tokensOf : Nat → List Char → List Token
  | 0, _ => []
  | _, [] => []
  | fuel + 1, c :: r =>
    let (t, rest) := nextToken c r
    t :: tokensOf fuel rest

/-- Cuts a whole document into tokens, skipping a leading byte-order mark. -/
def tokenize (text : String) : List Token :=
  let cs := match text.toList with
    | '﻿' :: r => r
    | r => r
  tokensOf (cs.length + 1) cs

end SnapshotAgent.Config.Toml
