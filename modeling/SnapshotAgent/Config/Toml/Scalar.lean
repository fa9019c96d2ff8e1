import SnapshotAgent.Config.Toml.Value
import SnapshotAgent.Config.Toml.Datetime
import SnapshotAgent.Number.FloatText
/-!
# Decoding TOML keys and values

Once a line has been cut into keys and values, each is decoded from its text: the quotes and
escapes of strings, and the shape of bare words. Each decoder checks its text from left to right
and stops at the first fault, so a fault early in a text is the one reported.

## Strings

* A literal string `'…'` holds tabs and visible characters other than `'`; it must be closed.
* A basic string `"…"` holds tabs and visible characters other than `"` and `\`, and escapes
  `\b \e \f \n \r \t \" \\ \uXXXX \UXXXXXXXX`; a `\u` or `\U` escape needs all its digits and
  must name a character.
* The multi-line forms also hold line breaks (a carriage return only before a line feed) and
  quotes of their own kind; a line break right after the opening quotes is dropped, and in the
  basic form a backslash at the end of a line swallows the break and the blanks after it.

## Bare words

A bare word is read by its first character:

* `+` or `-`: a signed number, `inf` or `nan`; a second sign is redundant;
* `0`: zero alone, a `0x`, `0o` or `0b` integer (lower-case prefix, no sign, digits of its
  base), or what follows for other digits;
* other digits: a date-time when the digits are followed by `-` or `:`, a float when a `.`, `e`
  or `E` follows somewhere, else a decimal integer without a leading zero;
* `.`: a float without mantissa, which is refused;
* `t`, `f`, `i`, `n` in either case: exactly `true`, `false`, `inf` or `nan`;
* anything else is a string that should have been quoted.

A float is a mantissa of digits, an optional fraction and an optional exponent, each needing at
least one digit; underscores may only stand between two digits.
-/

namespace SnapshotAgent.Config.Toml

/-- How a key or value is written. -/
inductive Quoting where
  | bare
  | literal
  | basic
  | mlLiteral
  | mlBasic
  deriving Repr, DecidableEq, Inhabited

/-! ## Strings -/

/-- Characters a literal string may hold: tab, visible ASCII other than `'`, and non-ASCII. -/
def isLiteralChar (c : Char) : Bool :=
  c = '\t' || (0x20 ≤ c.toNat && c.toNat ≤ 0x7E && c ≠ '\'') || 0x80 ≤ c.toNat

/-- Characters a basic string may hold unescaped: blanks, visible ASCII other than `"` and `\`,
and non-ASCII. -/
def isBasicChar (c : Char) : Bool :=
  c = '\t' || (0x20 ≤ c.toNat && c.toNat ≤ 0x7E && c ≠ '"' && c ≠ '\\') || 0x80 ≤ c.toNat

/-- Removes a leading text, or fails with `e`. -/
def stripPrefix (p : List Char) (s : List Char) (e : ReadError) : Except ReadError (List Char) :=
  if p.isPrefixOf s then .ok (s.drop p.length) else .error e

/-- Removes a trailing text, or fails with `e`. -/
def stripSuffix (p : List Char) (s : List Char) (e : ReadError) : Except ReadError (List Char) :=
  if p.isSuffixOf s then .ok (s.take (s.length - p.length)) else .error e

/-- Drops a line break right after the opening quotes of a multi-line string. -/
def dropStartBreak : List Char → List Char
  | '\n' :: r => r
  | '\r' :: '\n' :: r => r
  | r => r

/-- The escapes a backslash may start, as a failure lists them. -/
def escapeLetters : List Expected :=
  [.literal "b", .literal "e", .literal "f", .literal "n", .literal "r", .literal "\\",
   .literal "\"", .literal "u", .literal "U"]

/-- The value of a hexadecimal digit. -/
def hexDigit? (c : Char) : Option Nat :=
  if c.isDigit then some (c.toNat - 48)
  else if 'a' ≤ c && c ≤ 'f' then some (c.toNat - 87)
  else if 'A' ≤ c && c ≤ 'F' then some (c.toNat - 55)
  else none

/-- Reads the `n` hexadecimal digits of a `\u` or `\U` escape as a character. -/
def readHexEscape (n : Nat) (cs : List Char) : Except ReadError (Char × List Char) :=
  let ds := (cs.takeWhile fun c => (hexDigit? c).isSome).take n
  if ds.length ≠ n then
    .error (.expecting "too few unicode value digits" [.description "unicode hexadecimal value"])
  else
    let v := ds.foldl (fun acc d => acc * 16 + (hexDigit? d).getD 0) 0
    if v < 0xD800 || (0xDFFF < v && v ≤ 0x10FFFF) then .ok (Char.ofNat v, cs.drop n)
    else .error (.expecting "invalid value" [.description "unicode hexadecimal value"])

/-- Reads the escape after a backslash. -/
def readEscape (cs : List Char) : Except ReadError (Char × List Char) :=
  let missing : ReadError := .expecting "missing escaped value" escapeLetters
  match cs with
  | [] => .error missing
  | c :: r =>
    if c = '"' then .ok ('"', r)
    else if c = '\\' then .ok ('\\', r)
    else if c = 'b' then .ok ('\x08', r)
    else if c = 'e' then .ok ('\x1b', r)
    else if c = 'f' then .ok ('\x0c', r)
    else if c = 'n' then .ok ('\n', r)
    else if c = 'r' then .ok ('\r', r)
    else if c = 't' then .ok ('\t', r)
    else if c = 'u' then readHexEscape 4 r
    else if c = 'U' then readHexEscape 8 r
    else .error missing

/-- Decodes a literal string. -/
def decodeLiteral (raw : List Char) : Except ReadError String := do
  let bad : ReadError := .expecting "invalid literal string" [.literal "'"]
  let s ← stripPrefix ['\''] raw bad
  let s ← stripSuffix ['\''] s bad
  if s.all isLiteralChar then pure (String.ofList s)
  else throw (.expecting "invalid literal string"
    [.description "non-single-quote visible characters"])

/-- Checks the body of a multi-line literal string. -/
def checkMlLiteralBody : List Char → Except ReadError Unit
  | [] => .ok ()
  | '\r' :: '\n' :: r => checkMlLiteralBody r
  | '\r' :: _ =>
    .error (.expecting "carriage return must be followed by newline" [.literal "\n"])
  | c :: r =>
    if c = '\'' || c = '\n' || isLiteralChar c then checkMlLiteralBody r
    else .error (.expecting "invalid multi-line literal string"
      [.description "non-single-quote characters"])

/-- Decodes a multi-line literal string. -/
def decodeMlLiteral (raw : List Char) : Except ReadError String := do
  let bad : ReadError := .expecting "invalid multi-line literal string" [.literal "'''"]
  let s ← stripPrefix ['\'', '\'', '\''] raw bad
  let s ← stripSuffix ['\'', '\'', '\''] (dropStartBreak s) bad
  checkMlLiteralBody s
  pure (String.ofList s)

/-- Decodes the body of a basic string; `acc` holds the decoded characters in reverse. -/
def basicBodyChars : Nat → List Char → List Char → Except ReadError (List Char)
  | 0, acc, _ => .ok acc.reverse
  | _, acc, [] => .ok acc.reverse
  | fuel + 1, acc, '\\' :: r => do
    let (c, r) ← readEscape r
    basicBodyChars fuel (c :: acc) r
  | fuel + 1, acc, c :: r =>
    if isBasicChar c then basicBodyChars fuel (c :: acc) r
    else .error (.expecting "invalid basic string"
      [.description "non-double-quote visible characters", .literal "\\"])

/-- Decodes a basic string. -/
def decodeBasic (raw : List Char) : Except ReadError String := do
  let bad : ReadError := .expecting "invalid basic string" [.literal "\""]
  let s ← stripPrefix ['"'] raw bad
  let s ← stripSuffix ['"'] s bad
  let cs ← basicBodyChars (s.length + 1) [] s
  pure (String.ofList cs)

/-- After a backslash that ends a line: skips blanks, the line break, and every blank and line
break after it. -/
def skipEscapedBreak (cs : List Char) : Except ReadError (List Char) :=
  let cs := cs.dropWhile fun c => c = ' ' || c = '\t'
  let lineBreak : Except ReadError (List Char) := match cs with
    | '\n' :: r => .ok r
    | '\r' :: '\n' :: r => .ok r
    | '\r' :: _ =>
      .error (.expecting "carriage return must be followed by newline" [.literal "\n"])
    | _ => .error (.expecting "invalid multi-line basic string" [.literal "\n"])
  lineBreak.bind fun r =>
    let rest := r.dropWhile fun c => c = ' ' || c = '\t' || c = '\n' || c = '\r'
    let skipped := r.take (r.length - rest.length)
    if skipped.zip (skipped.drop 1 ++ ['\x00']) |>.any (fun (a, b) => a = '\r' && b ≠ '\n') then
      .error (.expecting "carriage return must be followed by newline" [.literal "\n"])
    else .ok rest

/-- Decodes the body of a multi-line basic string. -/
def mlBasicBodyChars : Nat → List Char → List Char → Except ReadError (List Char)
  | 0, acc, _ => .ok acc.reverse
  | _, acc, [] => .ok acc.reverse
  | fuel + 1, acc, '\\' :: r =>
    match r with
    | c :: _ =>
      if c = ' ' || c = '\t' || c = '\n' || c = '\r' then do
        mlBasicBodyChars fuel acc (← skipEscapedBreak r)
      else do
        let (e, r) ← readEscape r
        mlBasicBodyChars fuel (e :: acc) r
    | [] => .error (.expecting "missing escaped value" escapeLetters)
  | fuel + 1, acc, '\r' :: r =>
    match r with
    | '\n' :: r' => mlBasicBodyChars fuel ('\n' :: '\r' :: acc) r'
    | _ => .error (.expecting "carriage return must be followed by newline" [.literal "\n"])
  | fuel + 1, acc, c :: r =>
    if c = '\n' || c = '"' || isBasicChar c then mlBasicBodyChars fuel (c :: acc) r
    else .error (.expecting "invalid multi-line basic string"
      [.description "non-double-quote visible characters", .literal "\\"])

/-- Decodes a multi-line basic string. -/
def decodeMlBasic (raw : List Char) : Except ReadError String := do
  let bad : ReadError := .expecting "invalid multi-line basic string" [.literal "\"\"\""]
  let s ← stripPrefix ['"', '"', '"'] raw bad
  let s ← stripSuffix ['"', '"', '"'] (dropStartBreak s) bad
  let cs ← mlBasicBodyChars (s.length + 1) [] s
  pure (String.ofList cs)

/-! ## Keys -/

/-- Characters of a bare key. -/
def isBareKeyChar (c : Char) : Bool :=
  ('A' ≤ c && c ≤ 'Z') || ('a' ≤ c && c ≤ 'z') || ('0' ≤ c && c ≤ '9') || c = '-' || c = '_'

/-- What a bare key may hold, as a failure lists it. -/
def bareKeyChars : List Expected :=
  [.description "letters", .description "numbers", .literal "-", .literal "_"]

/-- Decodes one part of a key. -/
def decodeKey (q : Quoting) (raw : List Char) : Except ReadError String :=
  match q with
  | .bare =>
    if raw.isEmpty then .error (.expecting "unquoted keys cannot be empty" bareKeyChars)
    else if raw.all isBareKeyChar then .ok (String.ofList raw)
    else .error (.expecting "invalid unquoted key" bareKeyChars)
  | .literal => decodeLiteral raw
  | .basic => decodeBasic raw
  | .mlLiteral =>
    .error (.expecting "keys cannot be multi-line literal strings"
      [.description "basic string", .description "literal string"])
  | .mlBasic =>
    .error (.expecting "keys cannot be multi-line basic strings"
      [.description "basic string", .description "literal string"])

/-! ## Bare words -/

/-- The refusal of a bare word that is no number, boolean or date-time. -/
def unquoted : ReadError := .expecting "string values must be quoted" [.description "literal string"]

/-- A failure about underscores. -/
def misplacedUnderscore : ReadError := .expecting "`_` may only go between digits" []

/-- The bases of integers, by their prefix letter. -/
def radixDescription : Nat → String
  | 16 => "invalid hexadecimal number"
  | 8 => "invalid octal number"
  | 2 => "invalid binary number"
  | _ => "invalid integer number"

/-- Whether a character is a digit of a base. -/
def isRadixDigit (radix : Nat) (c : Char) : Bool :=
  match hexDigit? c with
  | some v => (c.isDigit || radix = 16) && v < radix
  | none => false

/-- Reads a run of digits and underscores; answers how many digits it held and the rest. -/
def digitRun (cs : List Char) : Nat × List Char :=
  let run := cs.takeWhile fun c => c.isDigit || c = '_'
  (run.countP Char.isDigit, cs.drop run.length)

/-- Checks one digit part of a float; `zeroAllowed` permits leading zeros. -/
def checkDigitPart (description : String) (zeroAllowed : Bool) (cs : List Char) :
    Except ReadError (List Char) :=
  let (count, rest) := digitRun cs
  if count = 0 then .error (.expecting description [.description "digits"])
  else if count > 1 && cs.head? = some '0' && !zeroAllowed then
    .error (.expecting "unexpected leading zero" [])
  else .ok rest

/-- Checks the shape of a float: mantissa, optional fraction, optional exponent, nothing more. -/
def checkFloat (cs : List Char) : Except ReadError Unit := do
  let cs ← checkDigitPart "invalid mantissa" false cs
  let cs ← match cs with
    | '.' :: r => checkDigitPart "invalid fraction" true r
    | r => pure r
  let cs ← match cs with
    | e :: r =>
      if e = 'e' || e = 'E' then
        let r := match r with
          | '+' :: r' | '-' :: r' => r'
          | r' => r'
        checkDigitPart "invalid exponent" true r
      else pure (e :: r)
    | [] => pure []
  if cs.isEmpty then pure () else throw (.expecting "invalid float" [])

/-- Splits a text at its underscores; `part` holds the current part in reverse. -/
def splitUnderscores (part : List Char) : List Char → List (List Char)
  | [] => [part.reverse]
  | '_' :: r => part.reverse :: splitUnderscores [] r
  | c :: r => splitUnderscores (c :: part) r

/-- Checks where underscores stand in the digits `stream`, which end the word and start it when
`atStart`, and answers the digits without them. An underscore must have a digit (of base 16
when `hex`) on both sides. -/
def checkUnderscores (stream : List Char) (atStart : Bool) (hex : Bool) :
    Except ReadError (List Char) :=
  let isDigitHere (c : Char) : Bool := if hex then (hexDigit? c).isSome else c.isDigit
  if !stream.contains '_' then .ok stream
  else if stream.head? = some '_' then .error misplacedUnderscore
  else if stream.length > 1 && stream.getLast? = some '_' then .error misplacedUnderscore
  else
    let parts := splitUnderscores [] stream
    let n := parts.length
    let bad := (List.range n).zip parts |>.any fun (i, p) =>
      let notFirst := i > 0 || !atStart
      let notLast := i + 1 < n
      (notFirst && !isDigitHere (p.headD '0')) ||
        (p.length > 1 && notLast && !isDigitHere (p.getLastD '0')) ||
        (p.isEmpty && notFirst && notLast)
    if bad then .error misplacedUnderscore else .ok parts.flatten

/-- The value of validated digits in a base. -/
def radixValue (radix : Nat) (ds : List Char) : Option Int :=
  if ds.isEmpty then none
  else some (ds.foldl (fun acc d => acc * radix + (hexDigit? d).getD 0) 0 : Nat)

/-- The value of a validated decimal integer with an optional sign. -/
def decimalValue (cs : List Char) : Option Int :=
  match cs with
  | '+' :: r => radixValue 10 r
  | '-' :: r => (radixValue 10 r).map (- ·)
  | r => radixValue 10 r

/-- A float from validated text: an infinity that the text does not spell overflowed. -/
def floatValue (cs : List Char) : Value :=
  match Number.readFloat (String.ofList cs) with
  | some x => if x.isInf then .float none else .float (some x)
  | none => .float none

/-- A decimal integer, after checking its underscores. -/
def decimalInteger (raw : List Char) : Except ReadError Value := do
  let ds ← checkUnderscores raw true false
  pure (.integer (decimalValue ds))

/-- A float, after checking its shape from `body` on and the underscores of the whole word. -/
def decimalFloat (body raw : List Char) : Except ReadError Value := do
  checkFloat body
  let ds ← checkUnderscores raw true false
  pure (floatValue ds)

/-- A bare word that starts with a digit or an underscore (after any sign). -/
def numberOrDatetime (value raw : List Char) : Except ReadError Value :=
  let ds := value.takeWhile Char.isDigit
  let rest := value.drop ds.length
  if rest.isEmpty then
    if value.head? = some '0' then .error (.expecting "unexpected leading zero" [])
    else decimalInteger raw
  else if rest.head? = some '-' || rest.head? = some ':' then do
    checkDatetime raw
    pure (.datetime (String.ofList raw))
  else if rest.contains ' ' then .error unquoted
  else if rest.any fun c => c = '.' || c = 'e' || c = 'E' then decimalFloat value raw
  else if rest.head? = some '_' then
    if value.head? = some '0' then .error (.expecting "unexpected leading zero" [])
    else decimalInteger raw
  else .error unquoted

/-- A bare word that starts with `0` (after any sign). -/
def zeroPrefixed (value raw : List Char) (signed : Bool) : Except ReadError Value :=
  match value with
  | [_] => decimalInteger raw
  | _ :: p :: stream =>
    let radixOf : Option (Nat × String) :=
      if p = 'x' || p = 'X' then some (16, "0x")
      else if p = 'o' || p = 'O' then some (8, "0o")
      else if p = 'b' || p = 'B' then some (2, "0b")
      else none
    match radixOf with
    | some (radix, prefixText) => do
      if signed then throw (.expecting "integers with a radix cannot be signed" [])
      if p.isUpper then throw (.expecting "radix must be lowercase" [.literal prefixText])
      if stream.head? = some '+' || stream.head? = some '-' then
        throw (.expecting "unexpected sign" [])
      if stream.any fun c => c ≠ '_' && !isRadixDigit radix c then
        throw (.plain (radixDescription radix))
      let ds ← checkUnderscores stream false (radix = 16)
      pure (.integer (radixValue radix ds))
    | none =>
      if p = 'd' || p = 'D' then
        if signed then .error (.expecting "integers with a radix cannot be signed" [])
        else .error (.expecting "redundant integer number prefix" [])
      else numberOrDatetime value raw
  | [] => .error unquoted

/-- A bare word that must be exactly `symbol`. -/
def exactWord (raw : List Char) (symbol : String) (description : String) (v : Value) :
    Except ReadError Value :=
  if raw = symbol.toList then .ok v
  else if raw.contains ' ' then .error unquoted
  else .error (.expecting description [.literal symbol])

/-- Positive infinity. -/
def infinity : Float := 1.0 / 0.0

/-- Decodes a bare word after a sign. -/
def afterSign (raw value : List Char) (negative : Bool) : Except ReadError Value :=
  match value with
  | [] => .error unquoted
  | c :: _ =>
    if c = '+' || c = '-' then .error (.expecting "redundant numeric sign" [])
    else if c = '_' || ('1' ≤ c && c ≤ '9') then numberOrDatetime value raw
    else if c = '0' then zeroPrefixed value raw true
    else if c = '.' then decimalFloat raw raw
    else if c = 'i' || c = 'I' then
      if value = "inf".toList then .ok (.float (some (if negative then -infinity else infinity)))
      else .error (.expecting "invalid float" [.literal "inf"])
    else if c = 'n' || c = 'N' then
      if value = "nan".toList then .ok (.float (some (0.0 / 0.0)))
      else .error (.expecting "invalid float" [.literal "nan"])
    else .error unquoted

/-- Decodes a bare word: a number, a boolean or a date-time. -/
def decodeBare (raw : List Char) : Except ReadError Value :=
  match raw with
  | [] => .error unquoted
  | c :: rest =>
    if c = '+' then afterSign raw rest false
    else if c = '-' then afterSign raw rest true
    else if c = '_' || ('1' ≤ c && c ≤ '9') then numberOrDatetime raw raw
    else if c = '0' then zeroPrefixed raw raw false
    else if c = '.' then decimalFloat raw raw
    else if c = 't' || c = 'T' then exactWord raw "true" "invalid boolean" (.boolean true)
    else if c = 'f' || c = 'F' then exactWord raw "false" "invalid boolean" (.boolean false)
    else if c = 'i' || c = 'I' then exactWord raw "inf" "invalid float" (.float (some infinity))
    else if c = 'n' || c = 'N' then exactWord raw "nan" "invalid float" (.float (some (0.0 / 0.0)))
    else .error unquoted

/-- Decodes a value written as a string or a bare word. -/
def decodeScalar (q : Quoting) (raw : List Char) : Except ReadError Value :=
  match q with
  | .bare => decodeBare raw
  | .literal => .string <$> decodeLiteral raw
  | .basic => .string <$> decodeBasic raw
  | .mlLiteral => .string <$> decodeMlLiteral raw
  | .mlBasic => .string <$> decodeMlBasic raw

/-- An empty value is a string that should have been quoted. -/
theorem decodeBare_empty : decodeBare [] = .error unquoted := rfl

end SnapshotAgent.Config.Toml
