import SnapshotAgent.Text.Utf8
import SnapshotAgent.Text.Blank
import SnapshotAgent.Number.Shortest
import SnapshotAgent.Number.FloatText
/-!
# Escapes, echo and printf

Output is made of bytes: `printf '\377'` writes the byte `FF`, which no text holds. So escapes
are read from the bytes of a word and the printers produce bytes.

* In a printf format a backslash starts `\\`, `\a`, `\b`, `\f`, `\n`, `\r`, `\t`, `\v` or an octal
  number of one to three digits; any other backslash stands for itself.
* In an argument of `%b` and of the shell's `echo` the same escapes hold, a `\0` may stand before
  the octal digits, and `\c` ends all output.
* The `echo` program (not the shell's) reads escapes only after `-e`, and then also `\e` and `\xHH`.
* `printf` repeats its format while arguments remain and some were used in the last pass.
  Three printfs are here (`PrintfDialect`): the shell's own, bash's and the printf program. They
  share the conversions and differ in the rest: bash and the program also read `\xHH`, `\uHHHH`
  and `\e`, take length modifiers such as `%ld` and the conversion `%a`, and quote an argument
  for the shell with `%q`; each words its complaints its own way.
* A number argument is read as the C library reads it in a word of 64 bits, a character after a
  quote standing for its code. One that does not read completely is a complaint, the command's
  status is 1, and the value read so far is used.
-/

namespace SnapshotAgent.Shell

/-- The byte of an ASCII character. -/
def byte (c : Char) : UInt8 := c.toNat.toUInt8

/-- Whether a byte is an octal digit. -/
def isOctal (b : UInt8) : Bool := byte '0' ≤ b && b ≤ byte '7'

/-- Reads up to `n` octal digits into a value. -/
def readOctal : Nat → Nat → List UInt8 → Nat × List UInt8
  | 0, v, bs => (v, bs)
  | n + 1, v, b :: bs => if isOctal b then readOctal n (v * 8 + (b - byte '0').toNat) bs else (v, b :: bs)
  | _, v, [] => (v, [])

/-- The byte a backslash escape stands for and the bytes after it; a backslash that starts no
escape stands for itself and leaves what follows. -/
def escapeAt (bs : List UInt8) : UInt8 × List UInt8 :=
  match bs with
  | [] => (byte '\\', [])
  | b :: rest =>
    if isOctal b then
      let (v, more) := readOctal 3 0 bs
      (v.toUInt8, more)
    else if b = byte '\\' then (byte '\\', rest)
    else if b = byte 'a' then (7, rest)
    else if b = byte 'b' then (8, rest)
    else if b = byte 'f' then (12, rest)
    else if b = byte 'n' then (10, rest)
    else if b = byte 'r' then (13, rest)
    else if b = byte 't' then (9, rest)
    else if b = byte 'v' then (11, rest)
    else (byte '\\', bs)

/-- An argument of `%b`: its bytes, and whether `\c` ended all output. -/
def escapeArgument (fuel : Nat) (bs : List UInt8) (acc : Array UInt8) : Array UInt8 × Bool :=
  match fuel with
  | 0 => (acc, false)
  | fuel + 1 =>
    match bs with
    | [] => (acc, false)
    | b :: rest =>
      if b ≠ byte '\\' then escapeArgument fuel rest (acc.push b)
      else match rest with
        | c :: more =>
          if c = byte 'c' then (acc, true)
          else
            let from_ := if c = byte '0' && (more.head?.map isOctal).getD false then more else rest
            let (v, after) := escapeAt from_
            escapeArgument fuel after (acc.push v)
        | [] => (acc.push b, false)

/-- Escapes of an argument, read from its text. -/
def escapeText (s : String) : Array UInt8 × Bool :=
  let bs := Text.utf8Bytes s
  escapeArgument (bs.length + 1) bs #[]

/-- The shell's `echo`: `-n` first drops the newline; escapes are read in every argument. -/
def shellEcho (args : List String) : List UInt8 :=
  let (newline, args) := match args with
    | "-n" :: rest => (false, rest)
    | _ => (true, args)
  let rec go : List String → Array UInt8 → Array UInt8
    | [], acc => if newline then acc.push 10 else acc
    | a :: rest, acc =>
      let (bytes, stop) := escapeText a
      if stop then acc ++ bytes
      else go rest (if rest.isEmpty then acc ++ bytes else (acc ++ bytes).push (byte ' '))
  (go args #[]).toList

/-- Whether an argument of the echo program is a cluster of its options. -/
def isEchoOption (a : String) : Bool :=
  match a.toList with
  | '-' :: rest => !rest.isEmpty && rest.all fun c => c = 'n' || c = 'e' || c = 'E'
  | _ => false

/-- The value of a hexadecimal digit. -/
def hexValue? (b : UInt8) : Option Nat :=
  if byte '0' ≤ b && b ≤ byte '9' then some (b - byte '0').toNat
  else if byte 'a' ≤ b && b ≤ byte 'f' then some ((b - byte 'a').toNat + 10)
  else if byte 'A' ≤ b && b ≤ byte 'F' then some ((b - byte 'A').toNat + 10)
  else none

/-- Escapes as the echo program reads them after `-e`. -/
def programEscapes (fuel : Nat) (bs : List UInt8) (acc : Array UInt8) : Array UInt8 × Bool :=
  match fuel with
  | 0 => (acc, false)
  | fuel + 1 =>
    match bs with
    | [] => (acc, false)
    | b :: rest =>
      if b ≠ byte '\\' then programEscapes fuel rest (acc.push b)
      else match rest with
        | [] => (acc.push b, false)
        | c :: more =>
          if c = byte 'c' then (acc, true)
          else if c = byte 'e' then programEscapes fuel more (acc.push 27)
          else if c = byte 'x' then
            match more with
            | h :: more2 =>
              match hexValue? h with
              | some v =>
                match more2 with
                | l :: more3 =>
                  match hexValue? l with
                  | some w => programEscapes fuel more3 (acc.push (v * 16 + w).toUInt8)
                  | none => programEscapes fuel more2 (acc.push v.toUInt8)
                | [] => programEscapes fuel more2 (acc.push v.toUInt8)
              | none => programEscapes fuel more ((acc.push b).push c)
            | [] => programEscapes fuel more ((acc.push b).push c)
          else if c = byte '0' then
            let (v, after) := readOctal 3 0 more
            programEscapes fuel after (acc.push v.toUInt8)
          else if isOctal c then programEscapes fuel more ((acc.push b).push c)
          else
            let (v, after) := escapeAt rest
            programEscapes fuel after (acc.push v)

/-- The echo program: options `-n`, `-e` and `-E` first, then the words joined by blanks. -/
def programEcho (args : List String) : List UInt8 :=
  let opts := args.takeWhile isEchoOption
  let words := args.dropWhile isEchoOption
  let flags := opts.foldl (fun (n, e) o =>
    o.toList.foldl (fun (n, e) c =>
      if c = 'n' then (false, e) else if c = 'e' then (n, true) else if c = 'E' then (n, false)
      else (n, e)) (n, e)) (true, false)
  let (newline, escapes) := flags
  let text := " ".intercalate words
  if escapes then
    let bs := Text.utf8Bytes text
    let (out, stop) := programEscapes (bs.length + 1) bs #[]
    if stop then out.toList else (if newline then out.push 10 else out).toList
  else Text.utf8Bytes text ++ (if newline then [10] else [])

/-! ## printf -/

/-- A conversion's flags, width and precision. -/
structure Spec where
  left : Bool := false
  plus : Bool := false
  space : Bool := false
  zero : Bool := false
  alt : Bool := false
  width : Nat := 0
  precision : Option Nat := none
  deriving Repr, Inhabited

/-- Pads bytes to the width. -/
def Spec.pad (s : Spec) (bs : List UInt8) : List UInt8 :=
  let fill := List.replicate (s.width - bs.length) (byte ' ')
  if s.left then bs ++ fill else fill ++ bs

/-- The bytes of a string conversion: cut to the precision, then padded. -/
def Spec.string (s : Spec) (bs : List UInt8) : List UInt8 :=
  s.pad (match s.precision with
    | some p => bs.take p
    | none => bs)

/-- Digits of a number in a base. -/
def digitsIn (base : Nat) (upper : Bool) (n : Nat) : List UInt8 :=
  let digits := if upper then "0123456789ABCDEF" else "0123456789abcdef"
  (Nat.toDigits base n).map fun c =>
    let i := if c.isDigit then c.toNat - 48 else c.toNat - 87
    byte (digits.toList.getD i '0')

/-- Formats a number's digits with sign or prefix, precision and width. -/
def Spec.number (s : Spec) (prefix_ : List UInt8) (digits : List UInt8) : List UInt8 :=
  let digits := match s.precision with
    | some 0 => if digits = [byte '0'] then [] else digits
    | some p => List.replicate (p - digits.length) (byte '0') ++ digits
    | none => digits
  let body := prefix_.length + digits.length
  if s.zero && !s.left && s.precision.isNone then
    prefix_ ++ List.replicate (s.width - body) (byte '0') ++ digits
  else s.pad (prefix_ ++ digits)

/-- A signed conversion. -/
def Spec.signed (s : Spec) (v : Int) : List UInt8 :=
  let sign := if v < 0 then [byte '-'] else if s.plus then [byte '+'] else if s.space then [byte ' '] else []
  s.number sign (digitsIn 10 false v.natAbs)

/-- An unsigned conversion in a base; a negative value wraps as a 64-bit word. -/
def Spec.unsigned (s : Spec) (conv : Char) (v : Int) : List UInt8 :=
  let n := if v < 0 then (v + Int.pow 2 64).toNat else v.toNat
  match conv with
  | 'o' =>
    let ds := digitsIn 8 false n
    s.number [] (if s.alt && ds.head? ≠ some (byte '0') then byte '0' :: ds else ds)
  | 'x' => s.number (if s.alt && n ≠ 0 then [byte '0', byte 'x'] else []) (digitsIn 16 false n)
  | 'X' => s.number (if s.alt && n ≠ 0 then [byte '0', byte 'X'] else []) (digitsIn 16 true n)
  | _ => s.number [] (digitsIn 10 false n)

/-- Which printf runs. The shell's own (`sh`), the one built into bash and the printf program
agree on conversions; they differ in the escapes they read and in how they complain. -/
inductive PrintfDialect where
  | shell
  | bash
  | program
  deriving Repr, DecidableEq, Inhabited

/-- Why a number argument did not read as a whole. -/
inductive NumberFault where
  /-- No number at all. -/
  | noDigits
  /-- A number, then other text. -/
  | trailing
  /-- A value beyond the range, clamped to its end. -/
  | outOfRange
  deriving Repr, DecidableEq, Inhabited

/-- An argument as the printf program shows it in a complaint: between apostrophes. -/
def quotedArgument (a : String) : String := "'" ++ a ++ "'"

/-- The complaint about a number argument, and whether it makes the status 1. Bash names the
base it tried, and only warns when a value is out of range. -/
def PrintfDialect.numberComplaint (d : PrintfDialect) (a : String) (f : NumberFault) :
    String × Bool :=
  match d, f with
  | .shell, .noDigits => (a ++ ": expected numeric value", true)
  | .shell, .trailing => (a ++ ": not completely converted", true)
  | .shell, .outOfRange => (a ++ ": Numerical result out of range", true)
  | .bash, .outOfRange => ("warning: " ++ a ++ ": Numerical result out of range", false)
  | .bash, _ =>
    let kind := match a.toList with
      | '0' :: c :: _ =>
        if c.isDigit then "invalid octal number" else if c = 'x' then "invalid hex number"
        else "invalid number"
      | _ => "invalid number"
    (a ++ ": " ++ kind, true)
  | .program, .noDigits => (quotedArgument a ++ ": expected a numeric value", true)
  | .program, .trailing => (quotedArgument a ++ ": value not completely converted", true)
  | .program, .outOfRange => (quotedArgument a ++ ": Numerical result out of range", true)

/-- The blanks the C library skips before a number. -/
def isCSpace (c : Char) : Bool :=
  c = ' ' || c = '\t' || c = '\n' || c = '\r' || c.toNat = 11 || c.toNat = 12

/-- Reads an integer argument as the C library does in a word of 64 bits (`strtoimax`, or
`strtoumax` when `unsigned`, whose negative values wrap): blanks, a sign, then digits in base 16
after `0x`, in base 8 after a leading `0`, else in base 10. A value beyond the range is clamped
to its end; the empty argument is zero. -/
def readInteger (unsigned : Bool) (a : String) : Int × Option NumberFault :=
  let cs := a.toList.dropWhile isCSpace
  let (neg, cs) := match cs with
    | '-' :: r => (true, r)
    | '+' :: r => (false, r)
    | r => (false, r)
  let (base, cs) := match cs with
    | '0' :: 'x' :: r | '0' :: 'X' :: r =>
      if (r.head?.map fun (c : Char) => c.toNat < 128 && (hexValue? (byte c)).isSome).getD false then (16, r)
      else (10, cs)
    | '0' :: _ => (8, cs)
    | _ => (10, cs)
  let digit (c : Char) : Option Nat :=
    if c.toNat < 128 then (hexValue? (byte c)).filter (· < base) else none
  let ds := cs.takeWhile fun c => (digit c).isSome
  let rest := cs.dropWhile fun c => (digit c).isSome
  let v : Nat := ds.foldl (fun acc c => acc * base + (digit c).getD 0) 0
  let word := Nat.pow 2 64
  let half := Nat.pow 2 63
  let (value, overflowed) : Int × Bool :=
    if unsigned then
      if v ≥ word then ((word - 1 : Nat), true)
      else (((if neg then (word - v) % word else v : Nat) : Int), false)
    else if neg then
      if v > half then (-(half : Int), true) else (-(v : Int), false)
    else if v ≥ half then ((half - 1 : Nat), true) else (v, false)
  if ds.isEmpty then (0, if a.isEmpty then none else some .noDigits)
  else if !rest.isEmpty then (value, some .trailing)
  else if overflowed then (value, some .outOfRange)
  else (value, none)

/-- Reads a floating argument as `strtod` does: blanks, then the longest beginning that is a
number; the empty argument is zero. -/
def readDouble (a : String) : Float × Option NumberFault :=
  let cs := a.toList.dropWhile isCSpace
  let found := (List.range cs.length).reverse.findSome? fun k =>
    (Number.readFloat (String.ofList (cs.take (k + 1)))).map fun x => (x, k + 1)
  match found with
  | some (x, k) => (x, if k = cs.length then none else some .trailing)
  | none => (0, if a.isEmpty then none else some .noDigits)

/-- A character constant, an argument that starts with a quote: the byte after the quote (zero
when there is none) and the bytes after that. -/
def characterConstant (a : String) : Option (Nat × List UInt8) :=
  match Text.utf8Bytes a with
  | q :: rest =>
    if q = byte '"' || q = 39 then some ((rest.head?.getD 0).toNat, rest.drop 1) else none
  | [] => none

/-- What a printf run wrote and the complaints it made. -/
structure Printed where
  out : Array UInt8 := #[]
  warnings : List String := []
  /-- Whether a complaint makes the status 1. -/
  faulty : Bool := false
  /-- Whether `\c` ended all output. -/
  stopped : Bool := false
  /-- Whether the command stopped at a refused format or escape. -/
  failed : Bool := false
  deriving Inhabited

/-- Appends bytes to the output. -/
def Printed.emit (p : Printed) (bs : List UInt8) : Printed := { p with out := p.out ++ bs.toArray }

/-- Adds a complaint; `faulty` when it makes the status 1. -/
def Printed.warn (p : Printed) (w : String) (faulty : Bool) : Printed :=
  { p with warnings := p.warnings ++ [w], faulty := p.faulty || faulty }

/-- Adds a complaint that ends the command. -/
def Printed.fail (p : Printed) (w : String) : Printed :=
  { p.warn w true with failed := true }

/-- The status printf ends with. -/
def Printed.status (p : Printed) : Nat := if p.faulty then 1 else 0

/-- Adds the complaint about a number argument, if any. -/
def Printed.noteNumber (p : Printed) (d : PrintfDialect) (a : String) :
    Option NumberFault → Printed
  | none => p
  | some f =>
    let (w, faulty) := d.numberComplaint a f
    p.warn w faulty

/-- The printf program warns about text after a character constant. -/
def Printed.noteConstant (p : Printed) (d : PrintfDialect) (after : List UInt8) : Printed :=
  if d = .program && !after.isEmpty then
    p.warn ("warning: " ++ Text.decodeLossy after ++
      ": character(s) following character constant have been ignored") false
  else p

/-- Reads an integer argument, complaining as the dialect does. -/
def Printed.integer (p : Printed) (d : PrintfDialect) (unsigned : Bool) (a : String) :
    Int × Printed :=
  match characterConstant a with
  | some (v, after) => (v, p.noteConstant d after)
  | none =>
    let (v, f) := readInteger unsigned a
    (v, p.noteNumber d a f)

/-- Reads a floating argument, complaining as the dialect does. -/
def Printed.double (p : Printed) (d : PrintfDialect) (a : String) : Float × Printed :=
  match characterConstant a with
  | some (v, after) => (v.toFloat, p.noteConstant d after)
  | none =>
    let (x, f) := readDouble a
    (x, p.noteNumber d a f)

/-- Reads a conversion's flags, width and precision; the arguments a star takes are taken. -/
def readSpec (d : PrintfDialect) (bs : List UInt8) (args : List String) (p : Printed) :
    Spec × List UInt8 × List String × Printed :=
  let flagChars := "#-+ 0".toList.map byte
  let flags := bs.takeWhile (flagChars.contains ·)
  let bs := bs.dropWhile (flagChars.contains ·)
  let s : Spec := flags.foldl (fun s f =>
    if f = byte '-' then { s with left := true } else if f = byte '+' then { s with plus := true }
    else if f = byte ' ' then { s with space := true } else if f = byte '0' then { s with zero := true }
    else { s with alt := true }) {}
  let isDigitByte (b : UInt8) : Bool := byte '0' ≤ b && b ≤ byte '9'
  let number (ds : List UInt8) : Nat := ds.foldl (fun acc d => acc * 10 + (d - byte '0').toNat) 0
  let (s, bs, args, p) := match bs with
    | b :: rest =>
      if b = byte '*' then
        let (v, p) := p.integer d false (args.headD "")
        let s := if v < 0 then { s with left := true, width := v.natAbs } else { s with width := v.toNat }
        (s, rest, args.drop 1, p)
      else ({ s with width := number (bs.takeWhile isDigitByte) }, bs.dropWhile isDigitByte, args, p)
    | [] => (s, bs, args, p)
  let (s, bs, args, p) := match bs with
    | b :: rest =>
      if b = byte '.' then
        match rest with
        | c :: more =>
          if c = byte '*' then
            let (v, p) := p.integer d false (args.headD "")
            ({ s with precision := if v < 0 then none else some v.toNat }, more, args.drop 1, p)
          else ({ s with precision := some (number (rest.takeWhile isDigitByte)) },
            rest.dropWhile isDigitByte, args, p)
        | [] => ({ s with precision := some 0 }, [], args, p)
      else (s, bs, args, p)
    | [] => (s, bs, args, p)
  let lengthChars := "hjlLtz".toList.map byte
  let bs := if d = .shell then bs else bs.dropWhile (lengthChars.contains ·)
  (s, bs, args, p)

/-- The digits of a nonzero exact ratio rounded to `places + 1` significant digits, a tie going
to the even digit, and the decimal exponent of the first: `num / den ≈ d · 10^(e - places)`. -/
def significantDigits (places : Nat) (num den : Nat) : Nat × Int :=
  let e := Number.floorLog10 num den
  let (pn, pd) := Number.powTen ((places : Int) - e)
  let d := Number.divRoundEven (num * pn) (den * pd)
  if d ≥ Nat.pow 10 (places + 1) then (d / 10, e + 1) else (d, e)

/-- The exponent of scientific text: a sign and at least two digits. -/
def exponentText (e : Int) : String :=
  let digits := toString e.natAbs
  (if e < 0 then "-" else "+") ++ (if digits.length < 2 then "0" ++ digits else digits)

/-- Scientific text with `places` digits after the point: `1.234568e+04`. The point stays
without digits after it when `point` asks. -/
def scientificText (places : Nat) (point : Bool) (neg : Bool) (num den : Nat) : String :=
  let (d, e) := if num = 0 then (0, 0) else significantDigits places num den
  let ds := toString d
  let ds := Number.zeros (places + 1 - ds.length) ++ ds
  let lead := String.ofList (ds.toList.take 1)
  let rest := String.ofList (ds.toList.drop 1)
  Number.signText neg ++ lead ++ (if places > 0 || point then "." else "") ++ rest ++ "e" ++ exponentText e

/-- Removes the zeros at the end of the digits after a point, and the point if none are left. -/
def dropTrailingZeros (s : String) : String :=
  if !s.contains '.' then s
  else
    let cs := (s.toList.reverse.dropWhile (· = '0'))
    String.ofList (match cs with
      | '.' :: r => r.reverse
      | r => r.reverse)

/-- General text with `precision` significant digits: scientific when the exponent is below -4
or not below the precision, else fixed; zeros at the end dropped unless `alt` asks. -/
def generalText (precision : Nat) (alt : Bool) (x : Float) : String :=
  let p := if precision = 0 then 1 else precision
  match Number.Binary64.ofFloat x with
  | .nan => "nan"
  | .infinite neg => Number.signText neg ++ "inf"
  | .finite neg m q =>
    let (_, num, den) := Number.exactRatio neg m q
    let e := if num = 0 then 0 else (significantDigits (p - 1) num den).2
    if e < -4 || e ≥ (p : Int) then
      let text := scientificText (p - 1) alt neg num den
      if alt then text
      else
        let parts := text.splitOn "e"
        dropTrailingZeros (parts.headD "") ++ "e" ++ (parts.getD 1 "")
    else
      let places := ((p : Int) - 1 - e).toNat
      let text := Number.fixedPlaces places x
      let text := if alt && places = 0 then text ++ "." else text
      if alt then text else dropTrailingZeros text

/-- The text of a floating conversion `f`, `e` or `g` (or their capitals) of a double. -/
def floatText (conv : Char) (precision : Nat) (alt : Bool) (x : Float) : String :=
  let lower := conv.toLower
  let text :=
    if lower = 'e' then
      match Number.Binary64.ofFloat x with
      | .nan => "nan"
      | .infinite neg => Number.signText neg ++ "inf"
      | .finite neg m q =>
        let (_, num, den) := Number.exactRatio neg m q
        scientificText precision alt neg num den
    else if lower = 'g' then generalText precision alt x
    else
      match Number.Binary64.ofFloat x with
      | .nan => "nan"
      | .infinite neg => Number.signText neg ++ "inf"
      | .finite _ _ _ =>
        let t := Number.fixedPlaces precision x
        if alt && precision = 0 then t ++ "." else t
  if conv.isUpper then text.toUpper else text

/-- Lower-case hexadecimal digits of a number, at least `count` of them. -/
def hexDigits (count n : Nat) : String :=
  let ds := Nat.toDigits 16 n
  String.ofList (List.replicate (count - ds.length) '0' ++ ds)

/-- Hexadecimal text of a double as `%a` writes it: `0x1.8p+1`. The thirteen hexadecimal digits
of the fraction lose their zeros at the end, or are rounded to the precision (a tie to even). -/
def hexFloatText (precision : Option Nat) (alt : Bool) (x : Float) : String :=
  match Number.Binary64.ofFloat x with
  | .nan => "nan"
  | .infinite neg => Number.signText neg ++ "inf"
  | .finite neg m q =>
    let unit := Nat.pow 2 52
    let (total, e) : Nat × Int :=
      if m = 0 then (0, 0) else if m < unit then (m, -1022) else (m, q + 52)
    let (lead, digits) := match precision with
      | none =>
        let ds := (hexDigits 13 (total % unit)).toList.reverse.dropWhile (· = '0')
        (total / unit, String.ofList ds.reverse)
      | some p =>
        if p ≥ 13 then (total / unit, hexDigits 13 (total % unit) ++ Number.zeros (p - 13))
        else
          let step := Nat.pow 16 (13 - p)
          let (quot, rem) := (total / step, total % step)
          let quot := if 2 * rem > step || (2 * rem = step && quot % 2 = 1) then quot + 1 else quot
          (quot / Nat.pow 16 p, if p = 0 then "" else hexDigits p (quot % Nat.pow 16 p))
    Number.signText neg ++ "0x" ++ toString lead ++ (if digits.isEmpty && !alt then "" else ".") ++
      digits ++ "p" ++ (if e < 0 then "-" else "+") ++ toString e.natAbs

/-- A floating conversion of a double: its text with sign, zeros after the sign (after `0x`
for `%a`) or blanks to the width. -/
def Spec.float (s : Spec) (conv : Char) (x : Float) : List UInt8 :=
  let text :=
    if conv.toLower = 'a' then
      let t := hexFloatText s.precision s.alt x
      if conv.isUpper then t.toUpper else t
    else floatText conv (s.precision.getD 6) s.alt x
  let (sign, body) := match text.toList with
    | '-' :: r => ("-", String.ofList r)
    | r => ((if s.plus then "+" else if s.space then " " else ""), String.ofList r)
  let (sign, body) :=
    if body.startsWith "0x" || body.startsWith "0X" then
      (sign ++ String.ofList (body.toList.take 2), String.ofList (body.toList.drop 2))
    else (sign, body)
  let lower := body.toLower
  let finite := !(lower.endsWith "inf" || lower.endsWith "nan")
  let width := sign.length + body.length
  if s.zero && !s.left && finite then
    Text.utf8Bytes (sign ++ Number.zeros (s.width - width) ++ body)
  else s.pad (Text.utf8Bytes (sign ++ body))

/-- The byte of a one-letter escape that every printf reads: `\\`, `\a`, `\b`, `\f`, `\n`, `\r`,
`\t` and `\v`. -/
def controlEscape? (b : UInt8) : Option UInt8 :=
  if b = byte 'a' then some 7 else if b = byte 'b' then some 8 else if b = byte 'f' then some 12
  else if b = byte 'n' then some 10 else if b = byte 'r' then some 13
  else if b = byte 't' then some 9 else if b = byte 'v' then some 11
  else if b = byte '\\' then some b else none

/-- Reads up to `n` hexadecimal digits onto `v`; answers the value, how many digits were read and
the rest. -/
def readHex : Nat → Nat → Nat → List UInt8 → Nat × Nat × List UInt8
  | 0, v, k, bs => (v, k, bs)
  | _ + 1, v, k, [] => (v, k, [])
  | n + 1, v, k, b :: bs =>
    match hexValue? b with
    | some h => readHex n (v * 16 + h) (k + 1) bs
    | none => (v, k, b :: bs)

/-- The UTF-8 bytes of a code point. -/
def codePointBytes (v : Nat) : List UInt8 :=
  if v < 128 then [v.toUInt8] else Text.utf8Bytes (String.singleton (Char.ofNat v))

/-- What one backslash escape of printf gave: its bytes and what follows it. -/
structure Escaped where
  bytes : List UInt8
  rest : List UInt8
  /-- `\c`: all output ends here. -/
  stop : Bool := false
  /-- A complaint about the escape. -/
  warning : Option String := none
  /-- Whether the complaint ends the command. -/
  fatal : Bool := false

/-- A backslash that starts no escape stands for itself; what follows is read on. -/
def Escaped.plain (bs : List UInt8) : Escaped := { bytes := [byte '\\'], rest := bs }

/-- An escape as the shell's printf reads it, after the backslash: in an argument of `%b`
(`argument`) `\c` ends all output and a `\0` may stand before the octal digits. -/
def shellEscape (argument : Bool) (bs : List UInt8) : Escaped :=
  match bs with
  | [] => .plain []
  | c :: more =>
    if argument && c = byte 'c' then { bytes := [], rest := more, stop := true }
    else
      let start := if argument && c = byte '0' && (more.head?.map isOctal).getD false then more else bs
      let (v, after) := escapeAt start
      { bytes := [v], rest := after }

/-- An escape as bash reads it, after the backslash, also `\e`, `\xHH` and `\uHHHH`. In an
argument of `%b` (`argument`) `\0` takes up to three more octal digits and `\c` ends all output;
in a format a quote or a question mark loses its backslash. -/
def bashEscape (argument : Bool) (bs : List UInt8) : Escaped :=
  match bs with
  | [] => .plain []
  | c :: more =>
    match controlEscape? c with
    | some v => { bytes := [v], rest := more }
    | none =>
      if c = byte 'e' || c = byte 'E' then { bytes := [27], rest := more }
      else if isOctal c then
        let first := (c - byte '0').toNat
        let (v, after) := readOctal (if argument && first = 0 then 3 else 2) first more
        { bytes := [(v % 256).toUInt8], rest := after }
      else if c = byte 'x' then
        let (v, k, after) := readHex 2 0 0 more
        if k = 0 then { Escaped.plain bs with warning := some "missing hex digit for \\x" }
        else { bytes := [v.toUInt8], rest := after }
      else if c = byte 'u' || c = byte 'U' then
        let (v, k, after) := readHex (if c = byte 'u' then 4 else 8) 0 0 more
        if k = 0 then
          { Escaped.plain bs with warning := some ("missing unicode digit for \\" ++ Text.decodeLossy [c]) }
        else { bytes := codePointBytes v, rest := after }
      else if argument && c = byte 'c' then { bytes := [], rest := more, stop := true }
      else if !argument && (c = 39 || c = byte '"' || c = byte '?') then { bytes := [c], rest := more }
      else .plain bs

/-- An escape as the printf program reads it, after the backslash, also `\e`, `\"`, `\xHH` and
`\uHHHH`: `\c` ends all output, and in an argument of `%b` (`argument`) a `\0` may stand before
three octal digits. A hexadecimal escape without its digits, or a universal one that names no
character, ends the command; any other backslash is written with the byte after it. -/
def programEscape (argument : Bool) (bs : List UInt8) : Escaped :=
  match bs with
  | [] => .plain []
  | c :: more =>
    match controlEscape? c with
    | some v => { bytes := [v], rest := more }
    | none =>
      let missing : Escaped :=
        { bytes := [], rest := more, warning := some "missing hexadecimal number in escape", fatal := true }
      if c = byte 'e' then { bytes := [27], rest := more }
      else if c = byte '"' then { bytes := [c], rest := more }
      else if c = byte 'c' then { bytes := [], rest := more, stop := true }
      else if c = byte 'x' then
        let (v, k, after) := readHex 2 0 0 more
        if k = 0 then missing else { bytes := [v.toUInt8], rest := after }
      else if isOctal c then
        let (v, after) := readOctal 3 0 (if argument && c = byte '0' then more else bs)
        { bytes := [(v % 256).toUInt8], rest := after }
      else if c = byte 'u' || c = byte 'U' then
        let n := if c = byte 'u' then 4 else 8
        let (v, k, after) := readHex n 0 0 more
        if k < n then missing
        else if (v ≤ 0x9f && v ≠ 0x24 && v ≠ 0x40 && v ≠ 0x60) || (0xd800 ≤ v && v ≤ 0xdfff) then
          { bytes := [], rest := after, fatal := true,
            warning := some ("invalid universal character name \\" ++ Text.decodeLossy [c] ++ hexDigits n v) }
        else { bytes := codePointBytes v, rest := after }
      else { bytes := [byte '\\', c], rest := more }

/-- An escape in the dialect, after the backslash, in a format or in an argument of `%b`. -/
def PrintfDialect.escape (d : PrintfDialect) (argument : Bool) (bs : List UInt8) : Escaped :=
  match d with
  | .shell => shellEscape argument bs
  | .bash => bashEscape argument bs
  | .program => programEscape argument bs

/-- Takes note of an escape's complaint and of whether it ends output or the command; the
printf program ends with status 0 at `\c`. -/
def Printed.noteEscape (p : Printed) (d : PrintfDialect) (e : Escaped) : Printed :=
  let p := match e.warning with
    | some w => if e.fatal then p.fail w else p.warn w false
    | none => p
  if e.stop then { p with stopped := true, faulty := p.faulty && d ≠ .program } else p

/-- The bytes of an argument of `%b`, its escapes read, up to a `\c` or an escape that ends the
command. -/
def expandArgument (d : PrintfDialect) (fuel : Nat) (bs : List UInt8) (acc : Array UInt8)
    (p : Printed) : Array UInt8 × Printed :=
  match fuel with
  | 0 => (acc, p)
  | fuel + 1 =>
    match bs with
    | [] => (acc, p)
    | b :: rest =>
      if b ≠ byte '\\' then expandArgument d fuel rest (acc.push b) p
      else
        let e := d.escape true rest
        let p := p.noteEscape d e
        let acc := acc ++ e.bytes.toArray
        if p.stopped || p.failed then (acc, p) else expandArgument d fuel e.rest acc p

/-- The letter of a control byte's escape, as in `\n`. -/
def controlLetter? (b : UInt8) : Option Char :=
  if b = 7 then some 'a' else if b = 8 then some 'b' else if b = 9 then some 't'
  else if b = 10 then some 'n' else if b = 11 then some 'v' else if b = 12 then some 'f'
  else if b = 13 then some 'r' else none

/-- The letter written for a control byte in quoted output (`\n` for a line feed) reads back
as that byte: checked for every byte. -/
theorem controlEscape_controlLetter (b : UInt8) :
    (controlLetter? b).bind (fun c => controlEscape? (byte c)) = (controlLetter? b).map fun _ => b := by
  have h : ∀ n, n < 256 → (controlLetter? n.toUInt8).bind (fun c => controlEscape? (byte c)) =
      (controlLetter? n.toUInt8).map fun _ => n.toUInt8 := by decide +kernel
  simpa using h b.toNat b.toNat_lt

/-- A byte as three octal digits after a backslash. -/
def octalEscape (b : UInt8) : List UInt8 :=
  let n := b.toNat
  [byte '\\', (48 + n / 64).toUInt8, (48 + n / 8 % 8).toUInt8, (48 + n % 8).toUInt8]

/-- Whether a byte is printable in the C locale. -/
def isPrintableByte (b : UInt8) : Bool := 32 ≤ b && b < 127

/-- Bytes that bash writes after a backslash in `%q`. -/
def bashSpecial (b : UInt8) : Bool :=
  " \t\n!\"$&'()*,;<>?[\\]^`\x7b|\x7d".toList.any fun c => byte c = b

/-- An argument of `%q` as bash writes it, to be read back by the shell: `''` for the empty
argument; an argument with a byte that is not printable in `$'…'` with escapes; else each
special byte after a backslash, and `#` at the start and `~` where it would expand too. -/
def bashQuote (bs : List UInt8) : List UInt8 :=
  if bs.isEmpty then [39, 39]
  else if bs.any fun b => !isPrintableByte b then
    let inner := bs.flatMap fun b =>
      if b = 27 then [byte '\\', byte 'E']
      else match controlLetter? b with
        | some c => [byte '\\', byte c]
        | none =>
          if b = byte '\\' || b = 39 then [byte '\\', b]
          else if isPrintableByte b then [b] else octalEscape b
    [byte '$', 39] ++ inner ++ [39]
  else go none bs
where
  /-- Backslashes before the special bytes; `prev` is the byte before. -/
  go (prev : Option UInt8) : List UInt8 → List UInt8
    | [] => []
    | b :: rest =>
      let special := bashSpecial b || (b = byte '#' && prev.isNone) ||
        (b = byte '~' && (prev.isNone || prev = some (byte ':') || prev = some (byte '=')))
      (if special then [byte '\\', b] else [b]) ++ go (some b) rest

/-- Whether the printf program's `%q` leaves a byte of an argument as it is. -/
def isShellSafe (b : UInt8) : Bool :=
  (byte 'a' ≤ b && b ≤ byte 'z') || (byte 'A' ≤ b && b ≤ byte 'Z') || (byte '0' ≤ b && b ≤ byte '9') ||
    "%+,-./:@]_\x7b\x7d".toList.any fun c => byte c = b

/-- An argument of `%q` as the printf program writes it: as it is when every byte is safe (`#`
and `~` not first); between double quotes when apostrophes are all that is not; else between
apostrophes, an apostrophe as `'\''` and a control byte as `'$'\n''`. -/
def programQuote (bs : List UInt8) : List UInt8 :=
  let safeAt (i : Nat) (b : UInt8) : Bool := isShellSafe b || (i > 0 && (b = byte '#' || b = byte '~'))
  let indexed := bs.zipIdx
  if bs.isEmpty then [39, 39]
  else if indexed.all fun (b, i) => safeAt i b then bs
  else if indexed.all fun (b, i) => safeAt i b || b = 39 then [byte '"'] ++ bs ++ [byte '"']
  else
    let inner := bs.flatMap fun b =>
      if b = 39 then [39, byte '\\', 39, 39]
      else if isPrintableByte b then [b]
      else
        let esc := match controlLetter? b with
          | some c => [byte '\\', byte c]
          | none => octalEscape b
        [39, byte '$', 39] ++ esc ++ [39, 39]
    [39] ++ inner ++ [39]

/-- The complaint about a conversion that is not one: `directive` is its text from the percent
sign on, `conv` its last character. -/
def PrintfDialect.badConversion (d : PrintfDialect) (directive conv : String) : String :=
  match d with
  | .shell => directive ++ ": invalid directive"
  | .bash => "`" ++ conv ++ "': invalid format character"
  | .program => directive ++ ": invalid conversion specification"

/-- The complaint about a format that ends inside a conversion. -/
def PrintfDialect.missingConversion (d : PrintfDialect) (directive : String) : String :=
  match d with
  | .shell => "missing format character"
  | .bash => "`" ++ directive ++ "': missing format character"
  | .program => directive ++ ": invalid conversion specification"

/-- Whether a conversion takes a floating argument. -/
def PrintfDialect.floating (d : PrintfDialect) (c : Char) : Bool :=
  (if d = .shell then "eEfFgG" else "aAeEfFgG").toList.contains c

/-- One pass over the format: what was written, the arguments left, and whether a conversion
took an argument. -/
def formatPass (d : PrintfDialect) (fuel : Nat) (bs : List UInt8) (args : List String) (used : Bool)
    (p : Printed) : Printed × List String × Bool :=
  match fuel with
  | 0 => (p, args, used)
  | fuel + 1 =>
    match bs with
    | [] => (p, args, used)
    | b :: rest =>
      if b = byte '\\' then
        let e := d.escape false rest
        let p := (p.noteEscape d e).emit e.bytes
        if p.stopped || p.failed then (p, args, used) else formatPass d fuel e.rest args used p
      else if b ≠ byte '%' then formatPass d fuel rest args used (p.emit [b])
      else match rest with
        | [] => (p.fail (d.missingConversion "%"), args, used)
        | c :: more =>
          if c = byte '%' then formatPass d fuel more args used (p.emit [c])
          else if d = .program && (c = byte 'b' || c = byte 'q') then
            match args with
            | [] => formatPass d fuel more [] used p
            | a :: left =>
              let given := Text.utf8Bytes a
              if c = byte 'q' then formatPass d fuel more left true (p.emit (programQuote given))
              else
                let (bytes, p) := expandArgument d (given.length + 1) given #[] p
                let p := p.emit bytes.toList
                if p.stopped || p.failed then (p, left, true) else formatPass d fuel more left true p
          else
            let argsBefore := args.length
            let (s, spec, args, p) := readSpec d rest args p
            let used := used || args.length < argsBefore
            match spec with
            | [] => (p.fail (d.missingConversion (Text.decodeLossy bs)), args, used)
            | conv :: after =>
              let arg := args.head?
              let a := arg.getD ""
              let left := args.drop 1
              let used := used || arg.isSome
              let ch := Char.ofNat conv.toNat
              if ch = 's' then formatPass d fuel after left used (p.emit (s.string (Text.utf8Bytes a)))
              else if ch = 'b' && d ≠ .program then
                let given := Text.utf8Bytes a
                let (bytes, p) := expandArgument d (given.length + 1) given #[] p
                let p := p.emit (s.string bytes.toList)
                if p.stopped || p.failed then (p, left, used) else formatPass d fuel after left used p
              else if ch = 'q' && d = .bash then
                formatPass d fuel after left used (p.emit (s.string (bashQuote (Text.utf8Bytes a))))
              else if ch = 'c' then
                formatPass d fuel after left used (p.emit (s.pad [(Text.utf8Bytes a).head?.getD 0]))
              else if ch = 'd' || ch = 'i' then
                let (v, p) := p.integer d false a
                formatPass d fuel after left used (p.emit (s.signed v))
              else if ch = 'o' || ch = 'u' || ch = 'x' || ch = 'X' then
                let (v, p) := p.integer d true a
                formatPass d fuel after left used (p.emit (s.unsigned ch v))
              else if d.floating ch then
                let (x, p) := p.double d a
                formatPass d fuel after left used (p.emit (s.float ch x))
              else
                let directive := Text.decodeLossy (b :: (rest.take (rest.length - after.length)))
                (p.fail (d.badConversion directive (Text.decodeLossy [conv])), args, used)

/-- Runs printf over its format and arguments. The format is repeated while arguments remain and
the last pass took some; the printf program warns about arguments that no conversion takes. -/
def printf (d : PrintfDialect) (format : String) (args : List String) : Printed :=
  let bs := Text.utf8Bytes format
  let rec passes : Nat → List String → Printed → Printed
    | 0, _, p => p
    | n + 1, args, p =>
      let (p, rest, used) := formatPass d (bs.length + 1) bs args false p
      if p.stopped || p.failed || rest.isEmpty then p
      else if !used then
        if d = .program then
          p.warn ("warning: ignoring excess arguments, starting with " ++ quotedArgument (rest.headD "")) false
        else p
      else passes n rest p
  passes (args.length + 1) args {}

end SnapshotAgent.Shell
