import SnapshotAgent.Json.Basic
import SnapshotAgent.Number.Integer
import SnapshotAgent.Number.Shortest
import SnapshotAgent.Text.Quoted
/-!
# Reading JSON

`Json.parse` reads a JSON text strictly: blanks are space, tab, line feed and carriage return; a
number has no leading zeros, no lone point and no lone exponent mark; strings may not hold
control characters and must pair their surrogate escapes; the 128th nested array or object is
refused; and nothing but blanks may follow the value. Objects keep their keys sorted, a repeated key keeping
its last value.

A failure names its cause and where it was found, as `expected value at line 1 column 1`: lines
count from one, and the column counts the bytes of the line up to and including the character
that was being looked at (zero at the end of the text when it ends a line).

An integer is kept exact when it fits 64 bits (unsigned, or signed when negative). Any other
number is read as a 64-bit significand and a power of ten and becomes a double by one scaling
with a tabulated power of ten, which is exact for short significands and small powers and may
be one unit off in the last place otherwise; a power that overflows is out of range.
-/

namespace SnapshotAgent

namespace Json

/-- Why a text is not JSON, and where. -/
structure ParseError where
  message : String
  line : Nat
  column : Nat
  deriving Repr, DecidableEq

/-- The text of a parse failure. -/
def ParseError.text (e : ParseError) : String :=
  e.message ++ " at line " ++ toString e.line ++ " column " ++ toString e.column

/-- The unread characters and the position reached. -/
structure Cursor where
  rest : List Char
  line : Nat
  column : Nat

/-- Moves past one character. -/
def Cursor.advance (c : Cursor) : Cursor :=
  match c.rest with
  | [] => c
  | ch :: r =>
    if ch = '\n' then ⟨r, c.line + 1, 0⟩ else ⟨r, c.line, c.column + ch.utf8Size⟩

/-- A failure at the position reached. -/
def Cursor.fail (c : Cursor) (msg : String) : ParseError := ⟨msg, c.line, c.column⟩

/-- A failure at the next character, as if it had been read. -/
def Cursor.failAhead (c : Cursor) (msg : String) : ParseError :=
  match c.rest with
  | [] => ⟨msg, c.line, c.column⟩
  | '\n' :: _ => ⟨msg, c.line + 1, 0⟩
  | _ :: _ => ⟨msg, c.line, c.column + 1⟩

/-- Skips JSON blanks, reading the characters of `rest` one by one. -/
def skipBlanksAux (rest : List Char) (line column : Nat) : Cursor :=
  match rest with
  | ch :: r =>
    if ch = ' ' || ch = '\t' || ch = '\r' then skipBlanksAux r line (column + 1)
    else if ch = '\n' then skipBlanksAux r (line + 1) 0
    else ⟨rest, line, column⟩
  | [] => ⟨[], line, column⟩

/-- Skips JSON blanks. -/
def Cursor.skipBlanks (c : Cursor) : Cursor := skipBlanksAux c.rest c.line c.column

/-- The next character, if any. -/
def Cursor.peek (c : Cursor) : Option Char := c.rest.head?

/-- Result of one reading step. -/
abbrev Step (α : Type) := Except ParseError (α × Cursor)

/-- Reads the rest of a keyword such as `null` after its first letter. -/
def readWord (c : Cursor) : List Char → Step Unit
  | [] => .ok ((), c)
  | w :: ws =>
    match c.rest with
    | [] => .error (c.fail "EOF while parsing a value")
    | ch :: _ => if ch = w then readWord c.advance ws else .error (c.advance.fail "expected ident")

/-- Reads ASCII digits; answers them with the cursor after them. -/
def readDigitsAt (c : Cursor) : List Char × Cursor :=
  let ds := c.rest.takeWhile Char.isDigit
  (ds, ⟨c.rest.drop ds.length, c.line, c.column + ds.length⟩)

/-- The greatest significand the reader keeps: the largest 64-bit unsigned value. -/
def significandLimit : Nat := 18446744073709551615

/-- Whether appending the digit `d` to `acc` would pass `limit`. -/
def appendOverflows (acc d limit : Nat) : Bool :=
  acc ≥ limit / 10 && (acc > limit / 10 || d > limit % 10)

/-- Folds the digits before the point into the significand; once a digit no longer fits, it and
every later one raise the power of ten instead. Answers the significand, whether it filled up,
and the power of ten. -/
def foldWhole : Nat × Bool × Int → List Char → Nat × Bool × Int
  | st, [] => st
  | (acc, full, e), ch :: r =>
    let d := ch.toNat - 48
    if full || appendOverflows acc d significandLimit then foldWhole (acc, true, e + 1) r
    else foldWhole (acc * 10 + d, false, e) r

/-- Folds the digits after the point into the significand, each lowering the power of ten; the
first digit that does not fit and every later one are dropped. -/
def foldFraction : Nat × Int → List Char → Nat × Int
  | st, [] => st
  | (acc, e), ch :: r =>
    let d := ch.toNat - 48
    if appendOverflows acc d significandLimit then (acc, e)
    else foldFraction (acc * 10 + d, e - 1) r

/-- Folds exponent digits into a 32-bit signed value; when a digit would pass the limit, answers
instead how many digits were read up to and including that one. -/
def foldExponent (acc count : Nat) : List Char → Except Nat Nat
  | [] => .ok acc
  | ch :: r =>
    let d := ch.toNat - 48
    if appendOverflows acc d 2147483647 then .error (count + 1)
    else foldExponent (acc * 10 + d) (count + 1) r

/-- Clamps to the 32-bit signed range, as saturating arithmetic does. -/
def clampExponent (e : Int) : Int :=
  if e < -2147483648 then -2147483648 else if e > 2147483647 then 2147483647 else e

/-- The double nearest to `10 ^ k`. -/
def powerOfTen (k : Nat) : Float := Number.DecimalNumber.toFloat ⟨false, 1, k⟩

/-- Scales a double by `10 ^ e` as the reader does: one multiplication or division by a tabulated
power `10 ^ 0` to `10 ^ 308`, first dividing by `10 ^ 308` while the power is further out. A
product that overflows, or a power too large to tabulate, is out of range; a zero stays zero. -/
def scaleByTen (f : Float) (e : Int) : Option Float :=
  if e.natAbs ≤ 308 then
    if 0 ≤ e then
      let p := f * powerOfTen e.natAbs
      if p.isInf then none else some p
    else some (f / powerOfTen e.natAbs)
  else if f == 0.0 then some f
  else if h : 0 ≤ e then none
  else scaleByTen (f / powerOfTen 308) (e + 308)
termination_by (-e).toNat
decreasing_by omega

/-- The double a significand and a power of ten read as, with its sign. -/
def fromParts (negative : Bool) (significand : Nat) (e : Int) : Option Float :=
  let f := if significand = 0 then 0.0 else Number.nearest false significand 1
  (scaleByTen f e).map fun x => if negative then -x else x

/-- The double of a significand and a power of ten, refused as out of range at the cursor. -/
def scaledNumber (negative : Bool) (significand : Nat) (e : Int) (c : Cursor) :
    Except ParseError (Json × Cursor) :=
  match fromParts negative significand e with
  | some x => .ok (.float x, c)
  | none => .error (c.fail "number out of range")

/-- Reads the exponent after its mark and finishes the number. An exponent past the 32-bit range
makes a positive power out of range (at the digit that passed it), unless the significand is
zero, and makes a negative power a zero. -/
def readExponentPart (negative : Bool) (significand : Nat) (e : Int) (c : Cursor) :
    Except ParseError (Json × Cursor) :=
  let (neg, c) := match c.rest with
    | '+' :: _ => (false, c.advance)
    | '-' :: _ => (true, c.advance)
    | _ => (false, c)
  match c.rest with
  | [] => .error (c.fail "EOF while parsing a value")
  | d :: _ =>
    if d.isDigit then
      let (ds, c') := readDigitsAt c
      match foldExponent 0 0 ds with
      | .ok v => scaledNumber negative significand (clampExponent (if neg then e - v else e + v)) c'
      | .error read =>
        if significand ≠ 0 && !neg then
          .error ((Cursor.mk (c.rest.drop read) c.line (c.column + read)).fail "number out of range")
        else .ok (.float (if negative then -0.0 else 0.0), c')
    else .error (c.advance.fail "invalid number")

/-- An integer written without point or exponent whose digits fit the significand: a
non-negative one as it is, a negative one as a signed 64-bit integer when it fits, and otherwise
(or for minus zero) as a double. -/
def wholeNumber (negative : Bool) (significand : Nat) : Json :=
  if !negative then .int significand
  else if significand = 0 then .float (-0.0)
  else if significand ≤ 9223372036854775808 then .int (-(significand : Int))
  else .float (-(Number.nearest false significand 1))

/-- Reads a number; the cursor stands after an optional minus sign. Digits are gathered into a
64-bit significand and a power of ten, and the double is that significand scaled once by a
tabulated power (`scaleByTen`), so it can differ from the nearest double in the last place. An
integer without point or exponent stays exact when the significand holds it; a negative zero is
the double `-0.0`. -/
def readNumber (negative : Bool) (c : Cursor) : Except ParseError (Json × Cursor) := do
  let (intDigits, c) ← match c.rest with
    | [] => .error (c.fail "EOF while parsing a value")
    | '0' :: r =>
      let c' : Cursor := ⟨r, c.line, c.column + 1⟩
      match r with
      | d :: _ => if d.isDigit then .error (c'.failAhead "invalid number") else .ok (['0'], c')
      | [] => .ok (['0'], c')
    | d :: _ =>
      if d.isDigit then .ok (readDigitsAt c) else .error (c.advance.fail "invalid number")
  let (significand, full, e) := foldWhole (0, false, 0) intDigits
  let (fracDigits, c) ← match c.rest with
    | '.' :: _ =>
      let c := c.advance
      let (ds, c') := readDigitsAt c
      if ds.isEmpty then
        match c.rest with
        | [] => .error (c.fail "EOF while parsing a value")
        | _ => .error (c.failAhead "invalid number")
      else .ok (some ds, c')
    | _ => .ok (none, c)
  let (significand, e) := match fracDigits with
    | some ds => foldFraction (significand, e) ds
    | none => (significand, e)
  match c.rest with
  | ch :: _ =>
    if ch = 'e' || ch = 'E' then readExponentPart negative significand e c.advance
    else if fracDigits.isSome || full then scaledNumber negative significand e c
    else .ok (wholeNumber negative significand, c)
  | [] =>
    if fracDigits.isSome || full then scaledNumber negative significand e c
    else .ok (wholeNumber negative significand, c)

/-- The value of one hex digit. -/
def hexValue (ch : Char) : Option Nat :=
  if '0' ≤ ch && ch ≤ '9' then some (ch.toNat - 48)
  else if 'a' ≤ ch && ch ≤ 'f' then some (ch.toNat - 87)
  else if 'A' ≤ ch && ch ≤ 'F' then some (ch.toNat - 55)
  else none

/-- Reads four hex digits of a `\u` escape. -/
def readHex4 (c : Cursor) : Step Nat :=
  let rec go : Nat → Cursor → Nat → Step Nat
    | 0, c, acc => .ok (acc, c)
    | n + 1, c, acc =>
      match c.rest with
      | [] => .error (c.fail "EOF while parsing a string")
      | ch :: _ =>
        match hexValue ch with
        | some v => go n c.advance (acc * 16 + v)
        | none => .error (c.advance.fail "invalid escape")
  go 4 c 0

/-- Reads the characters of a string after its opening quote, up to the closing quote; `fuel`
bounds the characters read. -/
def readStringBody : Nat → Cursor → List Char → Step String
  | 0, c, _ => .error (c.fail "EOF while parsing a string")
  | fuel + 1, c, acc =>
  match c.rest with
  | [] => .error (c.fail "EOF while parsing a string")
  | ch :: _ =>
    if ch = '"' then .ok (String.ofList acc.reverse, c.advance)
    else if ch.toNat < 32 then
      .error (c.advance.fail "control character (\\u0000-\\u001F) found while parsing a string")
    else if ch = '\\' then
      let c1 := c.advance
      match c1.rest with
      | [] => .error (c1.fail "EOF while parsing a string")
      | e :: _ =>
        let c2 := c1.advance
        let simple : Option Char :=
          if e = '"' then some '"' else if e = '\\' then some '\\' else if e = '/' then some '/'
          else if e = 'b' then some (Char.ofNat 8) else if e = 'f' then some (Char.ofNat 12)
          else if e = 'n' then some '\n' else if e = 'r' then some '\r'
          else if e = 't' then some '\t' else none
        match simple with
        | some out => readStringBody fuel c2 (out :: acc)
        | none =>
          if e ≠ 'u' then .error (c2.fail "invalid escape")
          else
            match readHex4 c2 with
            | .error err => .error err
            | .ok (n, c3) =>
              if 0xDC00 ≤ n && n ≤ 0xDFFF then
                .error (c3.fail "lone leading surrogate in hex escape")
              else if 0xD800 ≤ n && n ≤ 0xDBFF then
                match c3.rest with
                | '\\' :: 'u' :: _ =>
                  match readHex4 c3.advance.advance with
                  | .error err => .error err
                  | .ok (n2, c4) =>
                    if n2 < 0xDC00 || n2 > 0xDFFF then
                      .error (c4.fail "lone leading surrogate in hex escape")
                    else
                      let cp := 0x10000 + (n - 0xD800) * 0x400 + (n2 - 0xDC00)
                      readStringBody fuel c4 (Char.ofNat cp :: acc)
                | '\\' :: _ => .error (c3.advance.advance.fail "unexpected end of hex escape")
                | [] => .error (c3.fail "EOF while parsing a string")
                | _ :: _ => .error (c3.advance.fail "unexpected end of hex escape")
              else readStringBody fuel c3 (Char.ofNat n :: acc)
    else readStringBody fuel c.advance (ch :: acc)

mutual
/-- Reads one value after blanks; `fuel` bounds the nesting and the members read, `depth` counts
the open arrays and objects. -/
def readValue : Nat → Nat → Cursor → Step Json
  | 0, _, c => .error (c.fail "recursion limit exceeded")
  | fuel + 1, depth, c0 =>
    let c := c0.skipBlanks
    match c.rest with
    | [] => .error (c.fail "EOF while parsing a value")
    | ch :: _ =>
      if ch = 'n' then (readWord c.advance "ull".toList).map fun (_, c) => (.null, c)
      else if ch = 't' then (readWord c.advance "rue".toList).map fun (_, c) => (.bool true, c)
      else if ch = 'f' then (readWord c.advance "alse".toList).map fun (_, c) => (.bool false, c)
      else if ch = '-' then readNumber true c.advance
      else if ch.isDigit then readNumber false c
      else if ch = '"' then (readStringBody (c.rest.length + 1) c.advance []).map
        fun (s, c) => (.str s, c)
      else if ch = '[' then
        if depth ≥ 127 then .error (c.advance.fail "recursion limit exceeded")
        else
          let c1 := c.advance.skipBlanks
          match c1.rest with
          | ']' :: _ => .ok (.arr [], c1.advance)
          | [] => .error (c1.fail "EOF while parsing a list")
          | _ => readItems fuel (depth + 1) c1 []
      else if ch = '{' then
        if depth ≥ 127 then .error (c.advance.fail "recursion limit exceeded")
        else
          let c1 := c.advance.skipBlanks
          match c1.rest with
          | '}' :: _ => .ok (.obj [], c1.advance)
          | [] => .error (c1.fail "EOF while parsing an object")
          | '"' :: _ => readMembers fuel (depth + 1) c1 []
          | _ => .error (c1.failAhead "key must be a string")
      else .error (c.failAhead "expected value")

/-- Reads array items from the first one on, up to the closing bracket. -/
def readItems : Nat → Nat → Cursor → List Json → Step Json
  | 0, _, c, _ => .error (c.fail "recursion limit exceeded")
  | fuel + 1, depth, c, acc =>
    match readValue fuel depth c with
    | .error e => .error e
    | .ok (v, c) =>
      let c := c.skipBlanks
      match c.rest with
      | ']' :: _ => .ok (.arr (v :: acc).reverse, c.advance)
      | ',' :: _ =>
        let c1 := c.advance.skipBlanks
        match c1.rest with
        | ']' :: _ => .error (c1.failAhead "trailing comma")
        | _ => readItems fuel depth c1 (v :: acc)
      | [] => .error (c.fail "EOF while parsing a list")
      | _ => .error (c.failAhead "expected `,` or `]`")

/-- Reads object members from a key's opening quote on, up to the closing brace. -/
def readMembers : Nat → Nat → Cursor → List (String × Json) → Step Json
  | 0, _, c, _ => .error (c.fail "recursion limit exceeded")
  | fuel + 1, depth, c, acc =>
    match readStringBody (c.rest.length + 1) c.advance [] with
    | .error e => .error e
    | .ok (key, c) =>
      let c := c.skipBlanks
      match c.rest with
      | [] => .error (c.fail "EOF while parsing an object")
      | ':' :: _ =>
        match readValue fuel depth c.advance with
        | .error e => .error e
        | .ok (v, c) =>
          let c := c.skipBlanks
          let acc := (key, v) :: acc
          match c.rest with
          | '}' :: _ => .ok (sortedObject acc.reverse, c.advance)
          | ',' :: _ =>
            let c1 := c.advance.skipBlanks
            match c1.rest with
            | '"' :: _ => readMembers fuel depth c1 acc
            | '}' :: _ => .error (c1.failAhead "trailing comma")
            | [] => .error (c1.fail "EOF while parsing an object")
            | _ => .error (c1.failAhead "key must be a string")
          | [] => .error (c.fail "EOF while parsing an object")
          | _ => .error (c.failAhead "expected `,` or `\x7d`")
      | _ => .error (c.failAhead "expected `:`")
end

/-- Reads a whole JSON text: one value, then only blanks. -/
def parse (s : String) : Except ParseError Json :=
  let cs := s.toList
  match readValue (2 * cs.length + 2) 0 ⟨cs, 1, 0⟩ with
  | .error e => .error e
  | .ok (v, c) =>
    let c := c.skipBlanks
    match c.rest with
    | [] => .ok v
    | _ => .error (c.failAhead "trailing characters")

/-- How a refusal names a value that is not the expected one; a number is written as JSON
writes it. -/
def unexpected : Json → String
  | .null => "null"
  | .bool b => "boolean `" ++ (if b then "true" else "false") ++ "`"
  | .int n => "integer `" ++ toString n ++ "`"
  | .float x => "floating point `" ++ ((Number.scientificLate x).getD (Number.pointed x)) ++ "`"
  | .str s => "string " ++ Text.quoted s
  | .arr _ => "sequence"
  | .obj _ => "map"

/-- Reads a whole JSON text that must be an object, answering its members. A scalar of another
kind is read and then refused where its reading stopped (`invalid type: integer `5`, expected a
map`); an array is refused before it is read. -/
def parseObject (s : String) : Except ParseError (List (String × Json)) :=
  let c := skipBlanksAux s.toList 1 0
  let refuse (v : Json) (at_ : Cursor) : Except ParseError (List (String × Json)) :=
    .error (at_.fail ("invalid type: " ++ unexpected v ++ ", expected a map"))
  match c.rest with
  | '{' :: _ =>
    match parse s with
    | .ok (.obj fields) => .ok fields
    | .ok v => refuse v c
    | .error e => .error e
  | '[' :: _ => refuse (.arr []) c
  | [] => .error (c.fail "EOF while parsing a value")
  | _ =>
    match readValue 1 0 c with
    | .ok (v, after) => refuse v after
    | .error e => .error e

end Json

end SnapshotAgent
