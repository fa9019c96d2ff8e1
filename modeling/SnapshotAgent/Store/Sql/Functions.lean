import SnapshotAgent.Store.Sql.Format
import SnapshotAgent.Store.Error
/-!
# Built-in functions

The engine's functions on values: their names and the argument counts they take, the scalar
functions (`abs`, `substr`, `replace`, `printf`, `quote`, `round`, …) and the aggregates
(`count`, `sum`, `total`, `avg`, `min`, `max`, `group_concat`).

Texts are handled as the engine handles them: `upper` and `lower` change ASCII letters only,
`length` and `substr` count characters of texts and bytes of blobs, `hex` writes the bytes of a
value's text. `abs` of the least integer and a `sum` of integers that overflows fail with
`integer overflow`.

Sums of reals are compensated (Kahan–Babuška–Neumaier), as the engine sums them.
-/

namespace SnapshotAgent.Store

/-- What a function call can see besides its arguments. -/
structure CallContext where
  changes : Nat := 0
  totalChanges : Nat := 0
  lastInsertRowid : Int := 0
  deriving Inhabited

/-- The argument counts of the scalar functions. -/
def scalarArity (name : String) : Option (Nat → Bool) :=
  match lowerAscii name with
  | "abs" | "hex" | "length" | "likely" | "lower" | "octet_length" | "quote" | "randomblob"
  | "sign" | "soundex" | "typeof" | "unicode" | "unlikely" | "upper" | "zeroblob" =>
    some (· == 1)
  | "changes" | "last_insert_rowid" | "random" | "sqlite_version" | "total_changes"
  | "sqlite_source_id" => some (· == 0)
  | "char" | "printf" | "format" | "date" | "time" | "datetime" | "julianday" | "unixepoch" =>
    some fun _ => true
  | "coalesce" | "concat_ws" => some (· ≥ 2)
  | "concat" | "strftime" => some (· ≥ 1)
  | "max" | "min" => some (· ≥ 2)
  | "glob" | "ifnull" | "instr" | "likelihood" | "nullif" | "timediff" => some (· == 2)
  | "iif" | "replace" => some (· == 3)
  | "like" => some fun n => n == 2 || n == 3
  | "ltrim" | "rtrim" | "trim" | "round" | "unhex" => some fun n => n == 1 || n == 2
  | "substr" | "substring" => some fun n => n == 2 || n == 3
  | _ => none

/-- The argument counts of the aggregate functions. -/
def aggregateArity (name : String) : Option (Nat → Bool) :=
  match lowerAscii name with
  | "avg" | "sum" | "total" | "max" | "min" => some (· == 1)
  | "count" => some (· ≤ 1)
  | "group_concat" => some fun n => n == 1 || n == 2
  | "string_agg" => some (· == 2)
  | _ => none

/-- Whether a call with `n` arguments is an aggregate. -/
def isAggregateCall (name : String) (n : Nat) : Bool :=
  match aggregateArity name with
  | some ok => ok n
  | none => false

/-- Whether the engine knows a function of this name at all. -/
def isKnownFunction (name : String) : Bool :=
  (scalarArity name).isSome || (aggregateArity name).isSome

/-- Whether the engine takes a call of this name with `n` arguments. -/
def acceptsArity (name : String) (n : Nat) : Bool :=
  ((scalarArity name).map (· n)).getD false || ((aggregateArity name).map (· n)).getD false

/-! ## Patterns -/

/-- A piece of a `LIKE` or `GLOB` pattern. -/
inductive PatternPiece where
  /-- Any run of characters. -/
  | many
  /-- Any one character. -/
  | one
  | lit (c : Char)
  /-- One character of a set of ranges, or not of it when negated. -/
  | set (ranges : List (Char × Char)) (negated : Bool)
  deriving Repr, DecidableEq, Inhabited

/-- The pieces of a `LIKE` pattern; a character after the escape stands for itself. -/
def likePieces (escape : Option Char) : List Char → List PatternPiece
  | [] => []
  | c :: rest =>
    if some c = escape then
      match rest with
      | d :: more => .lit d :: likePieces escape more
      | [] => []
    else if c = '%' then .many :: likePieces escape rest
    else if c = '_' then .one :: likePieces escape rest
    else .lit c :: likePieces escape rest

/-- Reads the inside of a `GLOB` set after `[`: ranges up to `]`, a `]` first standing for
itself. Answers the ranges and the rest, none when the set is never closed. -/
def globSet (fuel : Nat) (cs : List Char) (first : Bool) (acc : List (Char × Char)) :
    Option (List (Char × Char) × List Char) :=
  match fuel, cs with
  | 0, _ => none
  | _, [] => none
  | fuel + 1, c :: rest =>
    if c = ']' && !first then some (acc.reverse, rest)
    else
      match rest with
      | '-' :: d :: more =>
        if d ≠ ']' then globSet fuel more false ((c, d) :: acc)
        else globSet fuel rest false ((c, c) :: acc)
      | _ => globSet fuel rest false ((c, c) :: acc)

/-- The pieces of a `GLOB` pattern. An unclosed set matches nothing. -/
def globPieces (fuel : Nat) : List Char → List PatternPiece
  | [] => []
  | c :: rest =>
    match fuel with
    | 0 => []
    | fuel + 1 =>
      if c = '*' then .many :: globPieces fuel rest
      else if c = '?' then .one :: globPieces fuel rest
      else if c = '[' then
        let (negated, body) := match rest with
          | '^' :: r => (true, r)
          | r => (false, r)
        match globSet (body.length + 1) body true [] with
        | some (ranges, more) => .set ranges negated :: globPieces fuel more
        | none => [.set [] false]
      else .lit c :: globPieces fuel rest

/-- Whether a character matches a literal; `fold` ignores ASCII case. -/
def litMatches (fold : Bool) (p c : Char) : Bool :=
  if fold then (if p.toNat < 128 && c.toNat < 128 then p.toLower == c.toLower else p == c)
  else p == c

/-- Whether a text matches pattern pieces. -/
def piecesMatch (fold : Bool) : List PatternPiece → List Char → Bool
  | [], s => s.isEmpty
  | .many :: ps, s => (List.range (s.length + 1)).any fun i => piecesMatch fold ps (s.drop i)
  | .one :: ps, s => match s with
    | _ :: rest => piecesMatch fold ps rest
    | [] => false
  | .lit p :: ps, s => match s with
    | c :: rest => litMatches fold p c && piecesMatch fold ps rest
    | [] => false
  | .set ranges negated :: ps, s => match s with
    | c :: rest => (ranges.any (fun (lo, hi) => lo ≤ c && c ≤ hi) != negated) && piecesMatch fold ps rest
    | [] => false

/-- Whether a text matches a `LIKE` pattern: `%` matches any run, `_` any one character, and
ASCII letters match either case. -/
def likeMatch (pattern subject : String) (escape : Option Char) : Bool :=
  piecesMatch true (likePieces escape pattern.toList) subject.toList

/-- Whether a text matches a `GLOB` pattern: `*`, `?` and sets `[…]`, case counting. -/
def globMatch (pattern subject : String) : Bool :=
  piecesMatch false (globPieces (pattern.length + 1) pattern.toList) subject.toList

/-! ## Scalar functions -/

/-- The refusal of a 64-bit overflow. -/
def overflowError : DbError := .engine 1 "integer overflow"

/-- Upper-case hexadecimal digits of bytes. -/
def hexOfBytes (bs : List UInt8) : String :=
  let digit (n : Nat) : Char := if n < 10 then Char.ofNat (48 + n) else Char.ofNat (55 + n)
  String.ofList (bs.flatMap fun b => [digit (b.toNat / 16), digit (b.toNat % 16)])

/-- The value of a hexadecimal digit. -/
def hexDigitValue? (c : Char) : Option Nat :=
  if c.isDigit then some (c.toNat - 48)
  else if 'a' ≤ c && c ≤ 'f' then some (c.toNat - 87)
  else if 'A' ≤ c && c ≤ 'F' then some (c.toNat - 55)
  else none

/-- Reads pairs of hexadecimal digits, skipping characters of `skip` between pairs. -/
def unhexChars (skip : List Char) : List Char → Option (List UInt8)
  | [] => some []
  | c :: rest =>
    if skip.contains c then unhexChars skip rest
    else match rest with
      | d :: more => do
        let hi ← hexDigitValue? c
        let lo ← hexDigitValue? d
        let tail ← unhexChars skip more
        pure ((hi * 16 + lo).toUInt8 :: tail)
      | [] => none

/-- A text as an SQL literal: quotes around it, inner quotes doubled. -/
def quoteText (s : String) : String :=
  "'" ++ String.ofList (s.toList.flatMap fun c => if c = '\'' then ['\'', '\''] else [c]) ++ "'"

/-- A value as an SQL literal, as `quote` writes it: a real with 15 digits when they read back
to it, else with 20 after the point in exponent form. -/
def quoteCell : Cell → String
  | .null => "NULL"
  | .integer n => toString n
  | .real x =>
    let short := formatText "%!0.15g" [.real x]
    if (scanReal short).2 == x then short else formatText "%!0.20e" [.real x]
  | .text s => quoteText s
  | .blob bs => "X'" ++ hexOfBytes bs ++ "'"

/-- The part of a text or blob `substr` takes: from position `p1` (1 for the first, negative
from the end), `p2` long (negative: that many before `p1`). -/
def substrCells (v : Cell) (p1 : Int) (p2? : Option Int) : Cell :=
  let isBlob := match v with
    | .blob _ => true
    | _ => false
  let items : List (List UInt8) := match v with
    | .blob bs => bs.map fun b => [b]
    | c => c.textOr.toList.map fun ch => Text.encodeChar ch
  let len : Int := items.length
  let (p2, negP2) : Int × Bool := match p2? with
    | some p => if p < 0 then (-p, true) else (p, false)
    | none => (1000000000, false)
  let (p1, p2) : Int × Int :=
    if p1 < 0 then
      let p1 := p1 + len
      if p1 < 0 then (0, max 0 (p2 + p1)) else (p1, p2)
    else if p1 > 0 then (p1 - 1, p2)
    else if p2 > 0 then (p1, p2 - 1) else (p1, p2)
  let (p1, p2) : Int × Int :=
    if negP2 then
      let p1' := p1 - p2
      if p1' < 0 then (0, p2 + p1') else (p1', p2)
    else (p1, p2)
  let taken := (items.drop p1.toNat).take p2.toNat
  if isBlob then .blob taken.flatten else .text (Text.decodeLossy taken.flatten)

/-- The characters `trim` removes from a text's ends. -/
def trimSide (chars : List Char) (left right : Bool) (s : String) : String :=
  let cs := s.toList
  let cs := if left then cs.dropWhile (chars.contains ·) else cs
  let cs := if right then (cs.reverse.dropWhile (chars.contains ·)).reverse else cs
  String.ofList cs

/-- Replaces every occurrence of `pat` in `s` by `rep`, left to right. -/
def replaceAll (fuel : Nat) (s pat rep : List Char) : List Char :=
  match fuel, s with
  | 0, _ => s
  | _, [] => []
  | fuel + 1, c :: rest =>
    if pat.isPrefixOf (c :: rest) then rep ++ replaceAll fuel ((c :: rest).drop pat.length) pat rep
    else c :: replaceAll fuel rest pat rep

/-- The position (from 1) of the first occurrence of `needle` in `hay`, 0 when none. -/
def positionOf {α : Type} [BEq α] (hay needle : List α) : Nat :=
  let rec go : Nat → List α → Nat → Nat
    | 0, _, _ => 0
    | fuel + 1, h, i =>
      if needle.isPrefixOf h then i
      else match h with
        | [] => 0
        | _ :: rest => go fuel rest (i + 1)
  go (hay.length + 1) hay 1

/-- The soundex code of a text: its first ASCII letter and three digits. -/
def soundexCode (s : String) : String :=
  let code (c : Char) : Nat :=
    match c.toUpper with
    | 'B' | 'F' | 'P' | 'V' => 1
    | 'C' | 'G' | 'J' | 'K' | 'Q' | 'S' | 'X' | 'Z' => 2
    | 'D' | 'T' => 3
    | 'L' => 4
    | 'M' | 'N' => 5
    | 'R' => 6
    | _ => 0
  let isAlpha (c : Char) : Bool := c.toNat < 128 && c.isAlpha
  match s.toList.dropWhile (fun c => !isAlpha c) with
  | [] => "?000"
  | first :: rest =>
    let (digits, _) := rest.foldl (fun (acc : List Char × Nat) c =>
      let (ds, prev) := acc
      if ds.length ≥ 3 then acc
      else
        let k := code c
        if k > 0 then (if k != prev then (ds ++ [Char.ofNat (48 + k)], k) else acc)
        else (ds, 0)) ([], code first)
    String.ofList (first.toUpper :: digits ++ List.replicate (3 - digits.length) '0')

/-- `round` of a double to `n` places: whole numbers beyond `2^52` stay, no places rounds half
away from zero, and places are rounded by writing the number with that many. -/
def roundReal (x : Float) (n : Nat) : Float :=
  if x < -4503599627370496.0 || x > 4503599627370496.0 then x
  else if n = 0 then
    Float.ofInt (realToInteger (x + (if x < 0.0 then -0.5 else 0.5)))
  else (scanReal (formatText ("%!." ++ toString n ++ "f") [.real x])).2

/-- A value's numeric kind as `sign` sees it: a number, or a text that is wholly one. -/
def numericKind? : Cell → Option Cell
  | .integer n => some (.integer n)
  | .real x => some (.real x)
  | .text s => numberOfText? s
  | .blob bs => numberOfText? (Text.decodeLossy bs)
  | .null => none

/-- Whether any of the values is `NULL`. -/
def anyNull (vs : List Cell) : Bool :=
  vs.any fun c => match c with
    | .null => true
    | _ => false

/-- The largest or smallest of values (`NULL` if any is). -/
def extremeOf (largest : Bool) (vs : List Cell) : Cell :=
  if anyNull vs then .null
  else match vs with
    | [] => .null
    | v :: rest => rest.foldl (fun best c =>
        let o := c.compare best
        if (largest && o == .gt) || (!largest && o == .lt) then c else best) v

/-- Calls a scalar function on values. -/
def callScalar (ctx : CallContext) (name : String) (args : List Cell) : Except DbError Cell :=
  let arg (i : Nat) : Cell := args.getD i .null
  let isNull (c : Cell) : Bool := match c with
    | .null => true
    | _ => false
  match lowerAscii name with
  | "abs" =>
    match arg 0 with
    | .null => .ok .null
    | .integer n => if n = minInteger then .error overflowError else .ok (.integer n.natAbs)
    | c => .ok (.real c.toDouble.abs)
  | "changes" => .ok (.integer ctx.changes)
  | "total_changes" => .ok (.integer ctx.totalChanges)
  | "last_insert_rowid" => .ok (.integer ctx.lastInsertRowid)
  | "char" =>
    .ok (.text (String.ofList (args.map fun c =>
      let n := (c.toInteger % 2097152).toNat
      if n > 0x10FFFF || (0xD800 ≤ n && n ≤ 0xDFFF) then '�' else Char.ofNat n)))
  | "coalesce" | "ifnull" => .ok ((args.find? fun c => !isNull c).getD .null)
  | "concat" => .ok (.text (String.join (args.filterMap Cell.asText)))
  | "concat_ws" =>
    match arg 0 with
    | .null => .ok .null
    | sep => .ok (.text (sep.textOr.intercalate ((args.drop 1).filterMap Cell.asText)))
  | "glob" =>
    if isNull (arg 0) || isNull (arg 1) then .ok .null
    else .ok (.integer (if globMatch (arg 0).textOr (arg 1).textOr then 1 else 0))
  | "like" =>
    if anyNull args then .ok .null
    else
      let escape := match args with
        | [_, _, e] => some e.textOr
        | _ => none
      match escape with
      | some e =>
        if e.length != 1 then .error (.engine 1 "ESCAPE expression must be a single character")
        else .ok (.integer (if likeMatch (arg 0).textOr (arg 1).textOr e.toList.head? then 1 else 0))
      | none => .ok (.integer (if likeMatch (arg 0).textOr (arg 1).textOr none then 1 else 0))
  | "hex" => .ok (.text (hexOfBytes (arg 0).bytes))
  | "iif" => .ok (if (arg 0).truth? == some true then arg 1 else arg 2)
  | "instr" =>
    match arg 0, arg 1 with
    | .null, _ | _, .null => .ok .null
    | .blob a, .blob b => .ok (.integer (positionOf a b))
    | a, b => .ok (.integer (positionOf a.textOr.toList b.textOr.toList))
  | "length" =>
    match arg 0 with
    | .null => .ok .null
    | .blob bs => .ok (.integer bs.length)
    | c => .ok (.integer (c.textOr.toList.takeWhile (· ≠ '\x00')).length)
  | "octet_length" =>
    match arg 0 with
    | .null => .ok .null
    | c => .ok (.integer c.bytes.length)
  | "likely" | "unlikely" | "likelihood" => .ok (arg 0)
  | "lower" =>
    match arg 0 with
    | .null => .ok .null
    | c => .ok (.text (lowerAscii c.textOr))
  | "upper" =>
    match arg 0 with
    | .null => .ok .null
    | c => .ok (.text (upperAscii c.textOr))
  | "ltrim" | "rtrim" | "trim" =>
    if anyNull args then .ok .null
    else
      let chars := match args with
        | [_, s] => s.textOr.toList
        | _ => [' ']
      let n := lowerAscii name
      .ok (.text (trimSide chars (n != "rtrim") (n != "ltrim") (arg 0).textOr))
  | "max" => .ok (extremeOf true args)
  | "min" => .ok (extremeOf false args)
  | "nullif" =>
    match arg 0, arg 1 with
    | .null, _ => .ok .null
    | a, .null => .ok a
    | a, b => .ok (if a.compare b == .eq then .null else a)
  | "printf" | "format" =>
    match args with
    | [] => .ok .null
    | .null :: _ => .ok .null
    | f :: rest => .ok (.text (formatText f.textOr rest))
  | "quote" => .ok (.text (quoteCell (arg 0)))
  | "random" => .ok (.integer 0)
  | "randomblob" => .ok (.blob (List.replicate (max 1 (arg 0).toInteger).toNat 0))
  | "zeroblob" => .ok (.blob (List.replicate (max 0 (arg 0).toInteger).toNat 0))
  | "replace" =>
    if anyNull args then .ok .null
    else
      let s := (arg 0).textOr
      let pat := (arg 1).textOr
      if pat.isEmpty then .ok (.text s)
      else .ok (.text (String.ofList (replaceAll (s.length + 1) s.toList pat.toList (arg 2).textOr.toList)))
  | "round" =>
    match args with
    | [.null] | [.null, _] | [_, .null] => .ok .null
    | [x] => .ok (.real (roundReal x.toDouble 0))
    | [x, n] => .ok (.real (roundReal x.toDouble (min 30 (max 0 n.toInteger)).toNat))
    | _ => .ok .null
  | "sign" =>
    match numericKind? (arg 0) with
    | some (.integer n) => .ok (.integer (if n > 0 then 1 else if n < 0 then -1 else 0))
    | some (.real x) => .ok (.integer (if x > 0.0 then 1 else if x < 0.0 then -1 else 0))
    | _ => .ok .null
  | "soundex" => .ok (.text (soundexCode (arg 0).textOr))
  | "sqlite_version" => .ok (.text "3.46.0")
  | "sqlite_source_id" => .ok (.text "2024-05-23 13:25:27 96c92aba00c8375bc32fafcdf12429c58bd8aabfcadab6683e35bbb9cdebf19e")
  | "substr" | "substring" =>
    match args with
    | [v, p1] => if isNull v || isNull p1 then .ok .null else .ok (substrCells v p1.toInteger none)
    | [v, p1, p2] =>
      if isNull v || isNull p1 || isNull p2 then .ok .null
      else .ok (substrCells v p1.toInteger (some p2.toInteger))
    | _ => .ok .null
  | "typeof" => .ok (.text (arg 0).typeName)
  | "unhex" =>
    if anyNull args then .ok .null
    else
      let skip := match args with
        | [_, s] => s.textOr.toList
        | _ => []
      .ok (match unhexChars skip (arg 0).textOr.toList with
        | some bs => .blob bs
        | none => .null)
  | "unicode" =>
    match arg 0 with
    | .null => .ok .null
    | c => .ok (match c.textOr.toList with
      | ch :: _ => .integer ch.toNat
      | [] => .null)
  | _ => .ok .null

/-! ## Aggregates -/

/-- A running compensated sum: the sum and its error term. -/
structure CompensatedSum where
  sum : Float := 0.0
  err : Float := 0.0
  deriving Inhabited

/-- Adds a double to a compensated sum. -/
def CompensatedSum.add (p : CompensatedSum) (r : Float) : CompensatedSum :=
  let s := p.sum
  let t := s + r
  let err := if s.abs > r.abs then p.err + ((s - t) + r) else p.err + ((r - t) + s)
  { sum := t, err }

/-- Adds an integer to a compensated sum, large ones in two parts. -/
def CompensatedSum.addInt (p : CompensatedSum) (i : Int) : CompensatedSum :=
  if i ≤ -4503599627370496 || i ≥ 4503599627370496 then
    let small := i.tmod 16384
    (p.add (Float.ofInt (i - small))).add (Float.ofInt small)
  else p.add (Float.ofInt i)

/-- A compensated sum starting from an integer. -/
def CompensatedSum.ofInt (i : Int) : CompensatedSum :=
  if i ≤ -4503599627370496 || i ≥ 4503599627370496 then
    let small := i.tmod 16384
    { sum := Float.ofInt (i - small), err := Float.ofInt small }
  else { sum := Float.ofInt i }

/-- The state of `sum`, `total` and `avg`: the count of values, an exact integer sum while all
values are integers, and a compensated sum once one is not or the integers overflowed. -/
structure SumState where
  count : Nat := 0
  intSum : Int := 0
  approx : Option CompensatedSum := none
  overflowed : Bool := false
  deriving Inhabited

/-- Adds a value to a sum; `NULL` is passed over, a text counts as a number only when it wholly
is one, else by its numeric prefix as a real. -/
def SumState.step (p : SumState) (c : Cell) : SumState :=
  let kind : Option Cell := match c with
    | .null => none
    | .integer n => some (.integer n)
    | .real x => some (.real x)
    | other => some ((numberOfText? other.textOr).getD (.real other.toDouble))
  match kind with
  | none => p
  | some v =>
    let p := { p with count := p.count + 1 }
    match p.approx, v with
    | none, .integer n =>
      let s := p.intSum + n
      if fitsInteger s then { p with intSum := s }
      else { p with overflowed := true, approx := some ((CompensatedSum.ofInt p.intSum).addInt n) }
    | none, other => { p with approx := some ((CompensatedSum.ofInt p.intSum).add other.toDouble) }
    | some acc, .integer n => { p with approx := some (acc.addInt n) }
    | some acc, other => { p with overflowed := false, approx := some (acc.add other.toDouble) }

/-- The double a compensated sum stands for. -/
def CompensatedSum.value (acc : CompensatedSum) : Float :=
  if acc.err.isNaN || acc.err.isInf then acc.sum else acc.sum + acc.err

/-- Folds an aggregate over the argument values of its rows. -/
def aggregateOf (name : String) (rows : List (List Cell)) : Except DbError Cell :=
  let firsts := rows.map fun r => r.getD 0 .null
  let nonNull := firsts.filter fun c => match c with
    | .null => false
    | _ => true
  match lowerAscii name with
  | "count" =>
    if rows.all (·.isEmpty) then .ok (.integer rows.length) else .ok (.integer nonNull.length)
  | "sum" =>
    let p := firsts.foldl SumState.step {}
    if p.count = 0 then .ok .null
    else match p.approx with
      | some acc => if p.overflowed then .error overflowError else .ok (.real acc.value)
      | none => .ok (.integer p.intSum)
  | "total" =>
    let p := firsts.foldl SumState.step {}
    .ok (.real (match p.approx with
      | some acc => acc.value
      | none => Float.ofInt p.intSum))
  | "avg" =>
    let p := firsts.foldl SumState.step {}
    if p.count = 0 then .ok .null
    else
      let total := match p.approx with
        | some acc => acc.value
        | none => Float.ofInt p.intSum
      .ok (.real (total / Float.ofNat p.count))
  | "max" => .ok (match nonNull with
    | [] => .null
    | v :: rest => rest.foldl (fun best c => if c.compare best == .gt then c else best) v)
  | "min" => .ok (match nonNull with
    | [] => .null
    | v :: rest => rest.foldl (fun best c => if c.compare best == .lt then c else best) v)
  | "group_concat" | "string_agg" =>
    let parts := rows.filterMap fun r => match r with
      | .null :: _ => none
      | v :: rest => some (v.textOr, match rest with
        | sep :: _ => sep.textOr
        | [] => if lowerAscii name = "string_agg" then "" else ",")
      | [] => none
    match parts with
    | [] => .ok .null
    | (first, _) :: rest => .ok (.text (rest.foldl (fun acc (v, sep) => acc ++ sep ++ v) first))
  | _ => .ok .null

/-- `abs` of the least integer overflows. -/
theorem callScalar_abs_min :
    callScalar {} "abs" [.integer minInteger] = .error overflowError := by
  rfl

end SnapshotAgent.Store
