import SnapshotAgent.Store.Cell
/-!
# Formatted text

The engine's `printf` (also `format`): a format text with conversions `%[flags][width][.precision]
type` that take their values from a list of arguments in turn, a missing argument counting as
`NULL`.

* flags: `-` left-justifies, `+` and a blank set the sign of positive numbers, `#` asks for an
  alternate form, `!` for a second one, `0` pads numbers with zeros, `,` groups thousands;
* width and precision are numbers, or `*` to take them from the next argument;
* types: `d i` signed integers, `u` unsigned ones, `x X o` hexadecimal and octal, `r` ordinals,
  `f e E g G` reals, `s z` texts, `c` a character, `q Q w` quoted texts, `%` a percent sign, and
  `n` nothing. Any other type ends the output.

Reals are written from at most 16 significant digits (26 with `!`) taken from the value's first
digits and rounded half up, so `%.20f` of 0.1 ends in zeros.

Widths and precisions of texts count bytes, or characters with `!`.
-/

namespace SnapshotAgent.Store

/-- The decimal digits a real is written from: the digits, and where the decimal point stands
among them (`dp` digits before it). -/
structure RealDigits where
  digits : List Nat
  dp : Int
  deriving Inhabited

/-- Rounds a digit string half up to `n` digits; answers the digits and whether a carry added a
digit in front. -/
def roundDigitsHalfUp (ds : List Nat) (n : Nat) : List Nat × Bool :=
  let kept := ds.take n
  if (ds.drop n).head?.any (· ≥ 5) then
    let (out, carry) := kept.foldr (fun d (acc : List Nat × Bool) =>
      if acc.2 then (if d = 9 then (0 :: acc.1, true) else ((d + 1) :: acc.1, false))
      else (d :: acc.1, false)) ([], true)
    if carry then (1 :: out, true) else (out, false)
  else (kept, false)

/-- The digits of a positive finite double: its value scaled into `[9.2e17, 9.2e18]` and cut to
an integer, of 18 or 19 digits. -/
def leadingDigits (n d : Nat) : List Nat × Int :=
  let k := Number.floorLog10 n d
  let scaled (s : Int) : Nat :=
    let g := Number.powTen s
    n * g.1 / (d * g.2)
  let s := 18 - k
  let v := scaled s
  let (v, s) := if v > 9223372036854774784 then (scaled (s - 1), s - 1) else (v, s)
  ((toString v).toList.map (fun c => c.toNat - 48), -s)

/-- The digits a real is written from, rounded: to `round` significant digits when it is
positive, else to `-round` places after the point; never more than `most` digits. Trailing zeros
are dropped. Zero is the single digit 0. -/
def realDigits (x : Float) (round : Int) (most : Nat) : RealDigits :=
  match exactOf? x with
  | none => ⟨[0], 1⟩
  | some (_, 0, _) => ⟨[0], 1⟩
  | some (_, n, d) =>
    let (ds, e) := leadingDigits n d
    let dp : Int := ds.length + e
    -- rounding to places after the point
    let (ds, dp, round) :=
      if round ≤ 0 then
        let r := dp - round
        if r = 0 && ds.head?.any (· ≥ 5) then (0 :: ds, dp + 1, (1 : Int)) else (ds, dp, r)
      else (ds, dp, round)
    let (ds, dp) :=
      if round > 0 && (round < ds.length || ds.length > most) then
        let r := min round.toNat most
        let (out, grew) := roundDigitsHalfUp ds r
        (out, if grew then dp + 1 else dp)
      else (ds, dp)
    let trimmed := (ds.reverse.dropWhile (· = 0)).reverse
    ⟨if trimmed.isEmpty then [0] else trimmed, dp⟩

/-- The flags and sizes of one conversion. -/
structure Spec where
  leftJustify : Bool := false
  signChar : Option Char := none
  alternate : Bool := false
  alternate2 : Bool := false
  zeroPad : Bool := false
  thousands : Bool := false
  width : Nat := 0
  precision : Option Nat := none
  deriving Inhabited

/-- The arguments not yet taken. -/
abbrev FormatArgs := List Cell

/-- Takes the next argument, `NULL` when none is left. -/
def nextArg (args : FormatArgs) : Cell × FormatArgs :=
  match args with
  | a :: rest => (a, rest)
  | [] => (.null, [])

/-- Writes digits `ds`, padded with zeros past their end, as the characters of a number. -/
def digitAt (ds : List Nat) (i : Nat) : Char :=
  Char.ofNat (48 + ds.getD i 0)

/-- Groups the digits of a whole number by thousands with commas. -/
def groupThousands (s : List Char) : List Char :=
  let rec go : List Char → List Char
    | [] => []
    | c :: rest =>
      if rest.length > 0 && rest.length % 3 = 0 then c :: ',' :: go rest else c :: go rest
  go s

/-- Writes a real by the rules of `%f`, `%e` and `%g`; `kind` is `f`, `e` or `g`, `upper` asks
for a capital exponent mark. -/
def formatReal (spec : Spec) (x : Float) (kind : Char) (upper : Bool) : List Char :=
  let precision0 := spec.precision.getD 6
  let neg := x < 0.0
  let signMark := if neg then some '-' else spec.signChar
  if x.isNaN then (if spec.zeroPad then "null" else "NaN").toList
  else if x.isInf && !spec.zeroPad then
    if neg then "-Inf".toList
    else match spec.signChar with
      | some c => c :: "Inf".toList
      | none => "Inf".toList
  else
    let precision0 := if kind = 'g' && precision0 = 0 then 1 else precision0
    let round : Int := if kind = 'f' then -(precision0 : Int)
      else if kind = 'g' then precision0 else precision0 + 1
    let rd := if x.isInf then (⟨[9], 1000⟩ : RealDigits)
      else realDigits x.abs round (if spec.alternate2 then 26 else 16)
    let exp := rd.dp - 1
    let precision := if kind = 'g' && precision0 > 0 then precision0 - 1 else precision0
    let (useExp, precision, rtz) :=
      if kind = 'g' then
        if exp < -4 || exp > precision then (true, precision, !spec.alternate)
        else (false, (precision - exp).toNat, !spec.alternate)
      else (kind = 'e', precision, spec.alternate2)
    let e2 : Int := if useExp then 0 else rd.dp - 1
    let showPoint := precision > 0 || spec.alternate || spec.alternate2
    -- digits before the point
    let (front, used) : List Char × Nat :=
      if e2 < 0 then (['0'], 0)
      else
        let count := e2.toNat + 1
        let ds := (List.range count).map fun i => digitAt rd.digits i
        (if spec.thousands then groupThousands ds else ds, count)
    -- zeros after the point before the first digit, then the digits
    let leadZeros := if e2 < -1 then min ((-(e2 + 1)).toNat) precision else 0
    let after := List.replicate leadZeros '0' ++
      (List.range (precision - leadZeros)).map fun i => digitAt rd.digits (used + i)
    let body := front ++ (if showPoint then ['.'] else []) ++ after
    let body :=
      if rtz && showPoint then
        let t := body.reverse.dropWhile (· = '0')
        match t with
        | '.' :: rest => if spec.alternate2 then ('0' :: '.' :: rest).reverse else rest.reverse
        | _ => t.reverse
      else body
    let expPart :=
      if useExp then
        let e := rd.dp - 1
        let mag := e.natAbs
        (if upper then 'E' else 'e') :: (if e < 0 then '-' else '+') ::
          ((if mag ≥ 100 then [Char.ofNat (48 + mag / 100)] else []) ++
            [Char.ofNat (48 + mag / 10 % 10), Char.ofNat (48 + mag % 10)])
      else []
    let out := (match signMark with
      | some c => [c]
      | none => []) ++ body ++ expPart
    if spec.zeroPad && !spec.leftJustify && out.length < spec.width then
      let pad := List.replicate (spec.width - out.length) '0'
      match signMark with
      | some c => c :: pad ++ out.drop 1
      | none => pad ++ out
    else out

/-- Writes an integer in a base, with the sign, zero padding, grouping and signMark the spec asks
for; `ordinal` adds the English ordinal suffix. -/
def formatInteger (spec : Spec) (signed : Bool) (v : Int) (base : Nat) (upper : Bool)
    (ordinal : Bool) : List Char :=
  let (magnitude, signMark) : Nat × Option Char :=
    if signed then (if v < 0 then (v.natAbs, some '-') else (v.toNat, spec.signChar))
    else ((if v < 0 then (v + Int.pow 2 64).toNat else v.toNat), none)
  let alternate := spec.alternate && magnitude ≠ 0
  let thousands := spec.thousands && base = 10 && !ordinal
  let precision := spec.precision.getD 0
  let precision :=
    if spec.zeroPad && precision + (if signMark.isSome then 1 else 0) < spec.width then
      spec.width - (if signMark.isSome then 1 else 0)
    else precision
  let digits := (Nat.toDigits base magnitude).map fun c => if upper then c.toUpper else c
  let digits := List.replicate (precision - digits.length) '0' ++ digits
  let digits := if thousands then groupThousands digits else digits
  let suffix :=
    if ordinal then
      let x := magnitude % 10
      let x := if x ≥ 4 || magnitude / 10 % 10 = 1 then 0 else x
      match x with
      | 1 => ['s', 't']
      | 2 => ['n', 'd']
      | 3 => ['r', 'd']
      | _ => ['t', 'h']
    else []
  let lead := if alternate then
      (if base = 16 then (if upper then ['0', 'X'] else ['0', 'x']) else if base = 8 then ['0'] else [])
    else []
  lead ++ (match signMark with
    | some c => [c]
    | none => []) ++ digits ++ suffix

/-- The bytes of a text argument, none for `NULL`. -/
def textArg (c : Cell) : Option (List UInt8) :=
  match c with
  | .null => none
  | _ => some c.bytes

/-- The length in bytes of the first `n` characters of UTF-8 bytes. -/
def bytesOfChars (bs : List UInt8) (n : Nat) : Nat :=
  let rec go : Nat → List UInt8 → Nat → Nat
    | _, [], acc => acc
    | 0, _, acc => acc
    | k + 1, _ :: rest, acc =>
      let tail := (rest.takeWhile fun x => x &&& 0xC0 == 0x80).length
      go k (rest.drop tail) (acc + 1 + tail)
  go n bs 0

/-- Pads converted bytes to the width with blanks; with `!`, continuation bytes of UTF-8 do not
count towards the width. -/
def padBytes (spec : Spec) (bs : List UInt8) (countChars : Bool) : List UInt8 :=
  let extra := if countChars then (bs.filter fun b => b &&& 0xC0 == 0x80).length else 0
  let width := spec.width + extra
  if width > bs.length then
    let pad := List.replicate (width - bs.length) (32 : UInt8)
    if spec.leftJustify then bs ++ pad else pad ++ bs
  else bs

/-- Reads flags, width and precision; `*` takes a size from the arguments. Answers the spec, the
conversion character if any, the rest of the format and the arguments left. -/
def readSpec (cs : List Char) (args : FormatArgs) (fuel : Nat) (spec : Spec) :
    Spec × Option Char × List Char × FormatArgs :=
  match fuel, cs with
  | 0, _ => (spec, none, cs, args)
  | _, [] => (spec, none, [], args)
  | fuel + 1, c :: rest =>
    match c with
    | '-' => readSpec rest args fuel { spec with leftJustify := true }
    | '+' => readSpec rest args fuel { spec with signChar := some '+' }
    | ' ' => readSpec rest args fuel { spec with signChar := some ' ' }
    | '#' => readSpec rest args fuel { spec with alternate := true }
    | '!' => readSpec rest args fuel { spec with alternate2 := true }
    | '0' => readSpec rest args fuel { spec with zeroPad := true }
    | ',' => readSpec rest args fuel { spec with thousands := true }
    | 'l' =>
      let rest := match rest with
        | 'l' :: r => r
        | r => r
      match rest with
      | d :: r => (spec, some d, r, args)
      | [] => (spec, none, [], args)
    | '*' =>
      let (a, args) := nextArg args
      let w := a.toInteger
      let spec := if w < 0 then { spec with leftJustify := true, width := w.natAbs % 2147483648 }
        else { spec with width := w.toNat % 2147483648 }
      match rest with
      | '.' :: _ => readSpec rest args fuel spec
      | d :: r => (spec, some d, r, args)
      | [] => (spec, none, [], args)
    | '.' =>
      match rest with
      | '*' :: r =>
        let (a, args) := nextArg args
        let p := a.toInteger
        let spec := { spec with precision := if p < 0 then
          (if p ≥ -2147483647 then some p.natAbs else none) else some p.toNat }
        match r with
        | 'l' :: _ => readSpec r args fuel spec
        | d :: r' => (spec, some d, r', args)
        | [] => (spec, none, [], args)
      | _ =>
        let ds := rest.takeWhile Char.isDigit
        let r := rest.drop ds.length
        let spec := { spec with precision := some (digitRunValue ds % 2147483648) }
        match r with
        | 'l' :: _ => readSpec r args fuel spec
        | d :: r' => (spec, some d, r', args)
        | [] => (spec, none, [], args)
    | _ =>
      if c.isDigit then
        let ds := cs.takeWhile Char.isDigit
        let r := cs.drop ds.length
        let spec := { spec with width := digitRunValue ds % 2147483648 }
        match r with
        | '.' :: _ | 'l' :: _ => readSpec r args fuel spec
        | d :: r' => (spec, some d, r', args)
        | [] => (spec, none, [], args)
      else (spec, some c, rest, args)

/-- Converts one argument; none ends the output. -/
def convert (spec : Spec) (conv : Char) (args : FormatArgs) : Option (List UInt8 × FormatArgs) :=
  let chars (cs : List Char) : List UInt8 := Text.utf8Bytes (String.ofList cs)
  match conv with
  | 'd' | 'i' =>
    let (a, args) := nextArg args
    some (padBytes spec (chars (formatInteger spec true a.toInteger 10 false false)) false, args)
  | 'u' =>
    let (a, args) := nextArg args
    some (padBytes spec (chars (formatInteger spec false a.toInteger 10 false false)) false, args)
  | 'x' | 'p' =>
    let (a, args) := nextArg args
    some (padBytes spec (chars (formatInteger { spec with thousands := false } false a.toInteger 16 false false)) false, args)
  | 'X' =>
    let (a, args) := nextArg args
    some (padBytes spec (chars (formatInteger { spec with thousands := false } false a.toInteger 16 true false)) false, args)
  | 'o' =>
    let (a, args) := nextArg args
    some (padBytes spec (chars (formatInteger { spec with thousands := false } false a.toInteger 8 false false)) false, args)
  | 'r' =>
    let (a, args) := nextArg args
    some (padBytes spec (chars (formatInteger { spec with thousands := false } true a.toInteger 10 false true)) false, args)
  | 'f' | 'e' | 'E' | 'g' | 'G' =>
    let (a, args) := nextArg args
    let kind := if conv = 'f' then 'f' else if conv = 'e' || conv = 'E' then 'e' else 'g'
    some (padBytes spec (chars (formatReal spec a.toDouble kind (conv = 'E' || conv = 'G'))) false, args)
  | 's' | 'z' =>
    let (a, args) := nextArg args
    let bs := (textArg a).getD []
    let bs := match spec.precision with
      | some p => if spec.alternate2 then bs.take (bytesOfChars bs p) else bs.take p
      | none => bs
    some (padBytes spec bs spec.alternate2, args)
  | 'c' =>
    let (a, args) := nextArg args
    let one : List UInt8 := match textArg a with
      | some (b :: rest) =>
        if (b &&& 0xC0) == 0xC0 then b :: (rest.takeWhile fun x => x &&& 0xC0 == 0x80).take 3 else [b]
      | _ => [0]
    let times := match spec.precision with
      | some p => if p > 1 then p else 1
      | none => 1
    let bs := (List.replicate times one).flatten
    some (padBytes spec bs true, args)
  | 'q' | 'Q' | 'w' =>
    let (a, args) := nextArg args
    let q : UInt8 := if conv = 'w' then 34 else 39
    let (isNull, text) := match textArg a with
      | some bs => (false, bs)
      | none => (true, Text.utf8Bytes (if conv = 'Q' then "NULL" else "(NULL)"))
    let text := match spec.precision with
      | some p => if spec.alternate2 then text.take (bytesOfChars text p) else text.take p
      | none => text
    let escaped := text.flatMap fun b => if b = q then [b, b] else [b]
    let quoted := if !isNull && conv = 'Q' then q :: escaped ++ [q] else escaped
    some (padBytes spec quoted spec.alternate2, args)
  | '%' => some (padBytes spec [37] false, args)
  | 'n' => some ([], args)
  | _ => none

/-- Formats arguments by a format text, as bytes. -/
def formatBytes (fuel : Nat) (cs : List Char) (args : FormatArgs) (out : List UInt8) : List UInt8 :=
  match fuel with
  | 0 => out
  | fuel + 1 =>
    match cs with
    | [] => out
    | '%' :: [] => out ++ [37]
    | '%' :: rest =>
      match readSpec rest args (rest.length + 1) {} with
      | (_, none, _, _) => out
      | (spec, some conv, rest, args) =>
        match convert spec conv args with
        | some (bs, args) => formatBytes fuel rest args (out ++ bs)
        | none => out
    | c :: rest =>
      let lit := c :: rest.takeWhile (· ≠ '%')
      formatBytes fuel (rest.drop (lit.length - 1)) args (out ++ Text.utf8Bytes (String.ofList lit))

/-- Formats arguments by a format text. -/
def formatText (format : String) (args : List Cell) : String :=
  Text.decodeLossy (formatBytes (format.length + 1) format.toList args [])

/-- Zero-padded integers, fixed places and texts. -/
theorem formatBytes_example :
    formatBytes 20 "%05d|%.3f|%s".toList [.integer 42, .real 3.14159, .text "x"] [] =
      Text.utf8Bytes "00042|3.142|x" := by
  decide +kernel

end SnapshotAgent.Store
