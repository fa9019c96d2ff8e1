import SnapshotAgent.Number.Shortest
import SnapshotAgent.Number.FloatText
import SnapshotAgent.Text.Search
import SnapshotAgent.Text.Utf8
/-!
# Database values

A stored value is `NULL`, an integer, a real number, a text or a blob. A column's declared type
gives it an affinity, the kind of value it prefers, by the engine's rules read off the type name
(case ignored, first rule that applies): `INT` makes it integer; `CHAR`, `CLOB` or `TEXT` text;
`BLOB` or no type none; `REAL`, `FLOA` or `DOUB` real; anything else numeric.

On storage a value is converted towards the affinity:

* text columns store numbers as their text;
* numeric and integer columns store a text that reads whole as a number as that number, and a
  real with no fractional part (strictly inside the 64-bit range) as an integer;
* real columns store integers as reals, and a real zero is stored without its sign;
* blobs, and every value of a column without affinity, are stored as given.

Texts meet numbers in two ways. Affinity reads a text only when all of it (blanks around aside)
is a number (`numberOfText?`). Arithmetic and casts read the longest numeric prefix instead
(`numericOfText`), so `'12abc'` counts as 12 and `'abc'` as 0.

Values compare with `NULL` first, then numbers by exact value, then texts by a collation, then
blobs byte by byte.
-/

namespace SnapshotAgent.Store

/-- A value stored in the database. -/
inductive Cell where
  | null
  | integer (n : Int)
  | real (x : Float)
  | text (s : String)
  | blob (bytes : List UInt8)
  deriving Inhabited

/-- The kind of value a column prefers. -/
inductive Affinity where
  | text
  | numeric
  | integer
  | real
  | none
  deriving Repr, DecidableEq, Inhabited

/-- How texts are compared: byte by byte, ignoring ASCII case, or ignoring trailing spaces. -/
inductive Collation where
  | binary
  | nocase
  | rtrim
  deriving Repr, DecidableEq, Inhabited

/-- Upper-case ASCII letters of a text. -/
def upperAscii (s : String) : String :=
  String.ofList (s.toList.map fun c => if 'a' ≤ c && c ≤ 'z' then Char.ofNat (c.toNat - 32) else c)

/-- Lower-case ASCII letters of a text. -/
def lowerAscii (s : String) : String :=
  String.ofList (s.toList.map fun c => if 'A' ≤ c && c ≤ 'Z' then Char.ofNat (c.toNat + 32) else c)

/-- The affinity of a declared column type. -/
def Affinity.ofDeclared (declared : String) : Affinity :=
  let t := upperAscii declared
  if Text.String.occursIn "INT" t then .integer
  else if Text.String.occursIn "CHAR" t || Text.String.occursIn "CLOB" t ||
      Text.String.occursIn "TEXT" t then .text
  else if Text.String.occursIn "BLOB" t || t.isEmpty then .none
  else if Text.String.occursIn "REAL" t || Text.String.occursIn "FLOA" t ||
      Text.String.occursIn "DOUB" t then .real
  else .numeric

/-- The collation a name stands for, if the engine knows it. -/
def Collation.ofName? (name : String) : Option Collation :=
  match upperAscii name with
  | "BINARY" => some .binary
  | "NOCASE" => some .nocase
  | "RTRIM" => some .rtrim
  | _ => Option.none

/-- The least and greatest 64-bit integers. -/
def minInteger : Int := -9223372036854775808
def maxInteger : Int := 9223372036854775807

/-- Whether an integer fits 64 bits. -/
def fitsInteger (v : Int) : Bool := minInteger ≤ v && v ≤ maxInteger

/-- A double as an exact signed ratio of naturals; none for NaN and the infinities. -/
def exactOf? (x : Float) : Option (Bool × Nat × Nat) :=
  match Number.Binary64.ofFloat x with
  | .finite neg m q => let r := Number.scaleByTwo m 1 q; some (neg, r.1, r.2)
  | _ => Option.none

/-- A double cut toward zero to an integer, held within the 64-bit range. -/
def realToInteger (x : Float) : Int :=
  if x < -9223372036854774784.0 then minInteger
  else if x > 9223372036854774784.0 then maxInteger
  else match exactOf? x with
    | some (neg, n, d) => let v : Int := (n / d : Nat); if neg then -v else v
    | Option.none => 0

/-- Whether a double holds exactly an integer below `2^51` in size. -/
def realSameAsInt (x : Float) (i : Int) : Bool :=
  x == 0.0 || ((x.toBits == (Float.ofInt i).toBits) && -2251799813685248 ≤ i && i < 2251799813685248)

/-- A whole double strictly inside the 64-bit range, as that integer. -/
def wholeInteger? (x : Float) : Option Int :=
  let i := realToInteger x
  if minInteger < i && i < maxInteger && x == Float.ofInt i then some i else Option.none

/-- The engine's blanks: space, tab, line feed, vertical tab, form feed and carriage return. -/
def isEngineSpace (c : Char) : Bool :=
  c = ' ' || (9 ≤ c.toNat && c.toNat ≤ 13)

/-- A text without the engine's blanks at either end. -/
def trimEngineSpace (s : String) : String :=
  String.ofList (((s.toList.dropWhile isEngineSpace).reverse.dropWhile isEngineSpace).reverse)

/-- The value of a run of ASCII digits. -/
def digitRunValue (ds : List Char) : Nat :=
  ds.foldl (fun acc d => acc * 10 + (d.toNat - 48)) 0

/-- The double nearest to `±digits · 10^exponent`. -/
def decimalToReal (negative : Bool) (digits : Nat) (exponent : Int) : Float :=
  if digits = 0 then Number.zero negative
  else if 0 ≤ exponent then Number.nearest negative (digits * Nat.pow 10 exponent.toNat) 1
  else Number.nearest negative digits (Nat.pow 10 (-exponent).toNat)

/-- Reads the longest real-number prefix of a text, after blanks: a sign, digits with an
optional point, and an exponent. Answers a code and the prefix's value. The code is 1 when the
whole text (blanks around aside) is an integer, 2 or 3 when it is a number with a point or an
exponent; -1 when only a prefix with a point or an exponent is a number, and 0 otherwise. -/
def scanReal (s : String) : Int × Float :=
  let cs := s.toList.dropWhile isEngineSpace
  if cs.isEmpty then (0, 0.0)
  else
    let (neg, cs) := match cs with
      | '-' :: r => (true, r)
      | '+' :: r => (false, r)
      | r => (false, r)
    let whole := cs.takeWhile Char.isDigit
    let cs := cs.drop whole.length
    let (point, frac, cs) := match cs with
      | '.' :: r => let f := r.takeWhile Char.isDigit; (true, f, r.drop f.length)
      | r => (false, [], r)
    let (hasE, eValid, expo, cs) : Bool × Bool × Int × List Char := match cs with
      | c :: r =>
        if c = 'e' || c = 'E' then
          let (esign, r) : Int × List Char := match r with
            | '-' :: r' => (-1, r')
            | '+' :: r' => (1, r')
            | r' => (1, r')
          let ds := r.takeWhile Char.isDigit
          (true, !ds.isEmpty, esign * (min (digitRunValue ds) 10000 : Nat), r.drop ds.length)
        else (false, true, 0, c :: r)
      | [] => (false, true, 0, [])
    let nDigit := whole.length + frac.length
    let eType : Int := 1 + (if point then 1 else 0) + (if hasE then 1 else 0)
    let value := decimalToReal neg (digitRunValue (whole ++ frac)) (expo - frac.length)
    let rest := cs.dropWhile isEngineSpace
    let code : Int :=
      if rest.isEmpty && nDigit > 0 && eValid then eType
      else if eType ≥ 2 && (eType == 3 || eValid) && nDigit > 0 then -1
      else 0
    (code, value)

/-- Reads the longest integer prefix of a text, after blanks and a sign, held within the 64-bit
range. Answers a code and the value: -1 when there is no digit, 0 when the whole text (blanks
after it aside) is an integer that fits, 1 when other text follows, 2 when the integer is too
large, and 3 for exactly `2^63`. -/
def scanInteger (s : String) : Int × Int :=
  let cs := s.toList.dropWhile isEngineSpace
  let (neg, cs) := match cs with
    | '-' :: r => (true, r)
    | '+' :: r => (false, r)
    | r => (false, r)
  let ds := cs.takeWhile Char.isDigit
  let rest := cs.drop ds.length
  let u := digitRunValue ds
  let code : Int := if ds.isEmpty then -1 else if rest.all isEngineSpace then 0 else 1
  let limit := Nat.pow 2 63
  if u < limit then (code, if neg then -(u : Int) else u)
  else if u > limit then (2, if neg then minInteger else maxInteger)
  else if neg then (code, minInteger) else (3, maxInteger)

/-- A text as a number for arithmetic: its longest numeric prefix, an integer when that prefix
is one that fits, else a real; no number at all counts as 0. -/
def numericOfText (s : String) : Cell :=
  let (rc, r) := scanReal s
  let (ri, ix) := scanInteger s
  if rc ≤ 0 then (if rc == 0 && ri ≤ 1 then .integer ix else .real r)
  else if rc == 1 && ri == 0 then .integer ix else .real r

/-- A text as a number, when all of it (the engine's blanks around aside) reads as one: an
integer that fits 64 bits, else a real. -/
def numberOfText? (s : String) : Option Cell :=
  let (rc, r) := scanReal s
  if rc ≤ 0 then Option.none
  else if rc == 1 then
    let i := realToInteger r
    if realSameAsInt r i then some (.integer i)
    else
      let (ri, ix) := scanInteger s
      if ri == 0 then some (.integer ix) else some (.real r)
  else some (.real r)

/-- The first `n` significant digits of the positive double `m · 2^q`, with the decimal exponent
of the first: the next digit decides the rounding, upwards from 5. -/
def roundedDigits (n m : Nat) (q : Int) : Nat × Int :=
  let r := Number.scaleByTwo m 1 q
  let k := Number.floorLog10 r.1 r.2
  let g := Number.powTen ((n : Int) - k)
  let t := r.1 * g.1 / (r.2 * g.2)
  let d := t / 10 + (if t % 10 ≥ 5 then 1 else 0)
  if d = Nat.pow 10 n then (Nat.pow 10 (n - 1), k + 1) else (d, k)

/-- Digits without their trailing zeros, or a single zero when none is left. -/
def fractionDigits (ds : List Char) : String :=
  match (ds.reverse.dropWhile (· = '0')).reverse with
  | [] => "0"
  | r => String.ofList r

/-- A real number as the engine writes it as text: 15 significant digits, trailing zeros
dropped but one digit kept after the point; an exponent of at least two digits (`1.0e+15`,
`1.0e-05`) when the first digit stands at `10^15` or above or below `10^-4`. -/
def realText (x : Float) : String :=
  match Number.Binary64.ofFloat x with
  | .nan => "NaN"
  | .infinite neg => if neg then "-Inf" else "Inf"
  | .finite _ 0 _ => "0.0"
  | .finite neg m q =>
    let (d, e) := roundedDigits 15 m q
    let ds := (toString d).toList
    let sign := if neg then "-" else ""
    if e < -4 || e > 14 then
      let mag := e.natAbs
      sign ++ String.ofList (ds.take 1) ++ "." ++ fractionDigits (ds.drop 1) ++ "e" ++
        (if e < 0 then "-" else "+") ++ (if mag < 10 then "0" else "") ++ toString mag
    else if 0 ≤ e then
      sign ++ String.ofList (ds.take (e.toNat + 1)) ++ "." ++ fractionDigits (ds.drop (e.toNat + 1))
    else sign ++ "0." ++ fractionDigits (List.replicate ((-e).toNat - 1) '0' ++ ds)

/-- The text of a value, as a text column stores it; a blob's bytes are read as UTF-8. -/
def Cell.asText : Cell → Option String
  | .integer n => some (toString n)
  | .real x => some (realText x)
  | .text s => some s
  | .blob bs => some (Text.decodeLossy bs)
  | .null => Option.none

/-- The text of a value, the empty text for `NULL`. -/
def Cell.textOr (c : Cell) : String := c.asText.getD ""

/-- The bytes of a value: a blob's own, else those of its text. -/
def Cell.bytes : Cell → List UInt8
  | .blob bs => bs
  | c => Text.utf8Bytes c.textOr

/-- A value as a number for arithmetic: texts and blobs by their numeric prefix. -/
def Cell.numeric : Cell → Cell
  | .text s => numericOfText s
  | .blob bs => numericOfText (Text.decodeLossy bs)
  | c => c

/-- A value as an integer: reals cut toward zero and held in range, texts by their integer
prefix, `NULL` as 0. -/
def Cell.toInteger : Cell → Int
  | .integer n => n
  | .real x => realToInteger x
  | .text s => (scanInteger s).2
  | .blob bs => (scanInteger (Text.decodeLossy bs)).2
  | .null => 0

/-- A value as a double: texts by their numeric prefix, `NULL` as 0. -/
def Cell.toDouble : Cell → Float
  | .integer n => Float.ofInt n
  | .real x => x
  | .text s => (scanReal s).2
  | .blob bs => (scanReal (Text.decodeLossy bs)).2
  | .null => 0.0

/-- A real number as stored: zero loses its sign. -/
def storedReal (x : Float) : Cell :=
  if x == 0.0 then .real 0.0 else .real x

/-- A value converted towards an affinity on storage. -/
def Cell.store (a : Affinity) (c : Cell) : Cell :=
  match a, c with
  | .text, .integer n => .text (toString n)
  | .text, .real x => .text (realText x)
  | .numeric, .text s | .integer, .text s =>
    match numberOfText? s with
    | some (.real x) => match wholeInteger? x with
      | some v => .integer v
      | Option.none => .real x
    | some n => n
    | Option.none => .text s
  | .numeric, .real x | .integer, .real x =>
    match wholeInteger? x with
    | some v => .integer v
    | Option.none => .real x
  | .real, .text s =>
    match numberOfText? s with
    | some (.integer n) => storedReal (Float.ofInt n)
    | some (.real x) => storedReal x
    | _ => .text s
  | .real, .integer n => storedReal (Float.ofInt n)
  | .real, .real x => storedReal x
  | _, c => c

/-- A value converted by an affinity for a comparison: numeric affinities read a text that is
wholly a number, the text affinity writes numbers as text. -/
def Cell.applyAffinity (a : Affinity) (c : Cell) : Cell :=
  match a, c with
  | .text, .integer n => .text (toString n)
  | .text, .real x => .text (realText x)
  | .numeric, .text s | .integer, .text s | .real, .text s => (numberOfText? s).getD c
  | _, c => c

/-- The rank of a value's kind in comparisons. -/
def Cell.rank : Cell → Nat
  | .null => 0
  | .integer _ | .real _ => 1
  | .text _ => 2
  | .blob _ => 3

/-- A number as a double. -/
def Cell.toReal? : Cell → Option Float
  | .integer n => some (Float.ofInt n)
  | .real x => some x
  | _ => Option.none

/-- Compares an integer with a double exactly; NaN sorts below every integer. -/
def compareIntReal (i : Int) (x : Float) : Ordering :=
  match Number.Binary64.ofFloat x with
  | .nan => .gt
  | .infinite neg => if neg then .gt else .lt
  | .finite neg m q =>
    let (n, d) := Number.scaleByTwo m 1 q
    -- compare `i · d` with `±n`
    let lhs : Int := i * (d : Int)
    let rhs : Int := if neg then -(n : Int) else n
    Ord.compare lhs rhs

/-- Compares two doubles; NaN sorts below every number. -/
def compareReals (x y : Float) : Ordering :=
  if x < y then .lt else if y < x then .gt
  else if x == y then .eq
  else if x.isNaN then (if y.isNaN then .eq else .lt) else .gt

/-- A text as a collation sees it. -/
def Collation.key (c : Collation) (s : String) : String :=
  match c with
  | .binary => s
  | .nocase => lowerAscii s
  | .rtrim => String.ofList (s.toList.reverse.dropWhile (· = ' ')).reverse

/-- Compares byte lists: the first differing byte decides, then the length. -/
def compareBytes : List UInt8 → List UInt8 → Ordering
  | [], [] => .eq
  | [], _ :: _ => .lt
  | _ :: _, [] => .gt
  | a :: as, b :: bs => if a < b then .lt else if b < a then .gt else compareBytes as bs

/-- Compares two values under a collation: `NULL` first, then numbers by exact value, then texts
by the collation, then blobs byte by byte. -/
def Cell.compareWith (coll : Collation) (a b : Cell) : Ordering :=
  match a, b with
  | .integer m, .integer n => Ord.compare m n
  | .integer m, .real y => compareIntReal m y
  | .real x, .integer n => (compareIntReal n x).swap
  | .real x, .real y => compareReals x y
  | .text s, .text t => Ord.compare (coll.key s) (coll.key t)
  | .blob x, .blob y => compareBytes x y
  | .null, .null => .eq
  | _, _ => Ord.compare a.rank b.rank

/-- Compares two values byte by byte for texts. -/
def Cell.compare (a b : Cell) : Ordering := a.compareWith .binary b

/-- Whether a value counts as true: a non-zero number; a text or blob by its numeric prefix. -/
def Cell.truth? : Cell → Option Bool
  | .null => Option.none
  | .integer n => some (n != 0)
  | c => some (c.toDouble != 0.0)

/-- The name of a value's kind, as `typeof` gives it. -/
def Cell.typeName : Cell → String
  | .null => "null"
  | .integer _ => "integer"
  | .real _ => "real"
  | .text _ => "text"
  | .blob _ => "blob"

/-- Text columns keep texts as they are. -/
theorem Cell.store_text (s : String) : Cell.store .text (.text s) = .text s := rfl

end SnapshotAgent.Store
