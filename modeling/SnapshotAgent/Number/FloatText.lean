import SnapshotAgent.Number.Binary64
/-!
# Reading decimal floating-point text

The grammar of a floating-point number in the tool's output and in configuration:

```text
number   ::= sign? ( "inf" | "infinity" | "nan" | decimal )     -- the words in any case
decimal  ::= ( digit+ | digit+ "." digit* | digit* "." digit+ ) exponent?
exponent ::= ( "e" | "E" ) sign? digit+
sign     ::= "+" | "-"
```

No blank, underscore or other character is allowed anywhere. The value is the double nearest to
the exact decimal (`nearest`), so reading is correctly rounded; a decimal too large for a double
reads as an infinity and one too small as a zero, keeping its sign.
-/

namespace SnapshotAgent.Number

/-- A decimal number as read: sign, digits as one natural number, and the power of ten they are
scaled by. -/
structure DecimalNumber where
  negative : Bool
  digits : Nat
  exponent : Int
  deriving Repr, DecidableEq

/-- The result of reading a floating-point text. -/
inductive FloatLiteral where
  | decimal (d : DecimalNumber)
  | infinite (negative : Bool)
  | nan
  deriving Repr, DecidableEq

/-- Reads a run of ASCII digits onto `acc`; answers the value, the count and the rest. -/
def readDigits (acc count : Nat) : List Char → Nat × Nat × List Char
  | c :: cs =>
    if c.isDigit then readDigits (acc * 10 + (c.toNat - 48)) (count + 1) cs else (acc, count, c :: cs)
  | [] => (acc, count, [])

/-- The lower case of an ASCII letter; other characters are kept. -/
def asciiLower (c : Char) : Char :=
  if 'A' ≤ c && c ≤ 'Z' then Char.ofNat (c.toNat + 32) else c

/-- Reads the optional exponent part, which must end the text. -/
def readExponent : List Char → Option Int
  | [] => some 0
  | c :: cs =>
    if c = 'e' || c = 'E' then
      let (neg, rest) := match cs with
        | '+' :: r => (false, r)
        | '-' :: r => (true, r)
        | r => (false, r)
      let (v, n, tail) := readDigits 0 0 rest
      if n = 0 || !tail.isEmpty then none
      else some (if neg then -(v : Int) else v)
    else none

/-- Reads an unsigned decimal: digits, an optional point with digits, and an optional exponent. -/
def readUnsignedDecimal (negative : Bool) (cs : List Char) : Option DecimalNumber :=
  let (whole, n1, rest) := readDigits 0 0 cs
  match rest with
  | '.' :: afterPoint =>
    let (frac, n2, rest2) := readDigits whole 0 afterPoint
    if n1 + n2 = 0 then none
    else (readExponent rest2).map fun e => ⟨negative, frac, e - n2⟩
  | _ =>
    if n1 = 0 then none
    else (readExponent rest).map fun e => ⟨negative, whole, e⟩

/-- Reads a floating-point literal by the grammar above. -/
def FloatLiteral.read (s : String) : Option FloatLiteral :=
  let (negative, body) := match s.toList with
    | '+' :: r => (false, r)
    | '-' :: r => (true, r)
    | r => (false, r)
  let word := String.ofList (body.map asciiLower)
  if word = "inf" || word = "infinity" then some (.infinite negative)
  else if word = "nan" then some .nan
  else (readUnsignedDecimal negative body).map .decimal

/-- The number of decimal digits of a natural number (one for zero). -/
def decimalLength (n : Nat) : Nat :=
  if n < 10 then 1 else decimalLength (n / 10) + 1

/-- The double nearest to a decimal number. Decimals whose magnitude is beyond every double are
settled before any exact arithmetic, so huge exponents cost nothing. -/
def DecimalNumber.toFloat (d : DecimalNumber) : Float :=
  if d.digits = 0 then zero d.negative
  else
    let magnitude := (decimalLength d.digits : Int) + d.exponent
    if 310 < magnitude then infinity d.negative
    else if magnitude < -330 then zero d.negative
    else if 0 ≤ d.exponent then nearest d.negative (d.digits * Nat.pow 10 d.exponent.toNat) 1
    else nearest d.negative d.digits (Nat.pow 10 (-d.exponent).toNat)

/-- The double a literal stands for. -/
def FloatLiteral.toFloat : FloatLiteral → Float
  | .decimal d => d.toFloat
  | .infinite negative => infinity negative
  | .nan => assemble false 2047 (Nat.pow 2 51)

/-- Reads floating-point text into a double. -/
def readFloat (s : String) : Option Float :=
  (FloatLiteral.read s).map FloatLiteral.toFloat

/-- Reading digits consumes exactly the leading digits. -/
theorem readDigits_rest (acc count : Nat) (cs : List Char) :
    (readDigits acc count cs).2.2 = cs.dropWhile Char.isDigit := by
  induction cs generalizing acc count with
  | nil => rfl
  | cons c cs ih =>
    simp only [readDigits, List.dropWhile_cons]
    split <;> simp_all

end SnapshotAgent.Number
