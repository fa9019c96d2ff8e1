import SnapshotAgent.Number.FloatText
/-!
# Shortest decimal text of a double

`shortestDigits` finds, for a finite positive double `m · 2^q`, the decimal `d · 10^p` with the
fewest digits that reads back as the same double, and of those the one nearest to it. The reals
that read back form an interval around the double, with ends half-way to its two neighbours; the
ends belong to it when `m` is even, since a tie is read to the even neighbour. For one digit,
then two, and so on, the two neighbours of the double on the grid of that many digits are tried:
if a grid point lies in the interval, one of these two does, so the first grid with a hit gives
the fewest digits.

Three layouts are written from the digits:

* `positional` writes every digit with no exponent: `0.0000001`, `100000000000000000000`, `-0`;
* `scientificLate` keeps positional layout for magnitudes from `1e-5` to `1e16`, always with a
  point (`25.0`, `0.18`), and otherwise writes `1e-7` or `1.5e+300`;
* `fixedPlaces n` writes the exact value rounded to `n` places, a tie going to the even digit.
-/

namespace SnapshotAgent.Number

/-- A positive exact ratio compared by cross-multiplying. -/
def ratioLe (a b c d : Nat) : Bool := a * d ≤ c * b

/-- The exponent `E` with `10^E ≤ num / den < 10^(E+1)`, for positive `num` and `den`. -/
def floorLog10 (num den : Nat) : Int :=
  if den ≤ num then (decimalLength (num / den) : Int) - 1
  else
    Int.neg (decimalLength ((den + num - 1) / num - 1))

/-- `10 ^ p` for an integer `p`, as a ratio of naturals. -/
def powTen (p : Int) : Nat × Nat :=
  if 0 ≤ p then (Nat.pow 10 p.toNat, 1) else (1, Nat.pow 10 (-p).toNat)

/-- Tries the grid `10^p` for a double `v = vn / vd` with reading interval `[lo, hi]` (all over
the common denominator `vd`); answers the chosen grid multiple, if one lies in the interval. -/
def tryGrid (vn lo hi vd : Nat) (inclusive : Bool) (p : Int) : Option Nat :=
  let g := powTen p
  -- grid multiple `k` stands for `k · g.1 / g.2`; compare `k · g.1 · vd` with `x · g.2`
  let below := (vn * g.2) / (g.1 * vd)
  let above := below + 1
  let inside (k : Nat) : Bool :=
    let kv := k * g.1 * vd
    if inclusive then lo * g.2 ≤ kv && kv ≤ hi * g.2 else lo * g.2 < kv && kv < hi * g.2
  let exact := below * g.1 * vd = vn * g.2
  match inside below, inside above with
  | true, true =>
    if exact then some below
    else
      -- compare the distances `v - below` and `above - v`
      let twice := 2 * vn * g.2
      let sum := (below + above) * g.1 * vd
      if twice < sum then some below
      else if sum < twice then some above
      else if below % 2 = 0 then some below else some above
  | true, false => some below
  | false, true => some above
  | false, false => none

/-- Removes trailing zeros from `d · 10^p`. -/
def stripZeros (d : Nat) (p : Int) (fuel : Nat) : Nat × Int :=
  match fuel with
  | 0 => (d, p)
  | fuel + 1 => if d ≠ 0 && d % 10 = 0 then stripZeros (d / 10) (p + 1) fuel else (d, p)

/-- Searches grids of `n`, `n+1`, … digits, at most `fuel` of them. -/
def searchGrids (vn lo hi vd : Nat) (inclusive : Bool) (top : Int) : Nat → Nat → Option (Nat × Int)
  | _, 0 => none
  | n, fuel + 1 =>
    let p := top - n + 1
    match tryGrid vn lo hi vd inclusive p with
    | some k => some (k, p)
    | none => searchGrids vn lo hi vd inclusive top (n + 1) fuel

/-- The shortest decimal `d · 10^p` that reads back as the positive double `m · 2^q`, without
trailing zeros in `d`. The lower neighbour is nearer when `m` is the least significand of its
binade. -/
def shortestDigits (m : Nat) (q : Int) : Nat × Int :=
  -- all quantities over the common unit `2^(q-2)`
  let lowerCloser := m = Nat.pow 2 52 && q > -1074
  let vn4 := 4 * m
  let lo4 := if lowerCloser then 4 * m - 1 else 4 * m - 2
  let hi4 := 4 * m + 2
  let unit := scaleByTwo 1 1 (q - 2)
  let vn := vn4 * unit.1
  let lo := lo4 * unit.1
  let hi := hi4 * unit.1
  let vd := unit.2
  let top := floorLog10 vn vd
  match searchGrids vn lo hi vd (m % 2 = 0) top 1 17 with
  | some (k, p) => stripZeros k p 400
  | none => stripZeros (vn * (powTen (top - 16)).2 / (vd * (powTen (top - 16)).1)) (top - 16) 400

/-- The decimal digits of a natural number, as text. -/
def digitText (n : Nat) : String := toString n

/-- A text of `n` zeros. -/
def zeros (n : Nat) : String := String.ofList (List.replicate n '0')

/-- How a double's text begins: a minus sign exactly when the sign bit is set. -/
def signText (negative : Bool) : String := if negative then "-" else ""

/-- Every digit, no exponent: the layout of plain number display. -/
def positional (x : Float) : String :=
  match Binary64.ofFloat x with
  | .nan => "NaN"
  | .infinite neg => signText neg ++ "inf"
  | .finite neg 0 _ => signText neg ++ "0"
  | .finite neg m q =>
    let (d, p) := shortestDigits m q
    let s := digitText d
    if 0 ≤ p then signText neg ++ s ++ zeros p.toNat
    else
      let len := s.length
      let back := (-p).toNat
      if back < len then
        signText neg ++ String.ofList (s.toList.take (len - back)) ++ "." ++
          String.ofList (s.toList.drop (len - back))
      else signText neg ++ "0." ++ zeros (back - len) ++ s

/-- Positional layout for magnitudes in `[1e-5, 1e16)` with a point always written, and an
exponent outside that span. Non-finite values have no such text. -/
def scientificLate (x : Float) : Option String :=
  match Binary64.ofFloat x with
  | .nan => none
  | .infinite _ => none
  | .finite neg 0 _ => some (signText neg ++ "0.0")
  | .finite neg m q =>
    let (d, p) := shortestDigits m q
    let s := digitText d
    let len := s.length
    let kk : Int := len + p
    let body :=
      if 0 ≤ p && kk ≤ 16 then s ++ zeros p.toNat ++ ".0"
      else if 0 < kk && kk ≤ 16 then
        String.ofList (s.toList.take kk.toNat) ++ "." ++ String.ofList (s.toList.drop kk.toNat)
      else if -5 < kk && kk ≤ 0 then "0." ++ zeros (-kk).toNat ++ s
      else
        let e := kk - 1
        let mant := if len = 1 then s
          else String.ofList (s.toList.take 1) ++ "." ++ String.ofList (s.toList.drop 1)
        mant ++ "e" ++ (if e < 0 then "-" ++ toString (-e) else "+" ++ toString e)
    some (signText neg ++ body)

/-- The exact value of a finite double as a ratio, with its sign. -/
def exactRatio (neg : Bool) (m : Nat) (q : Int) : Bool × Nat × Nat :=
  let r := scaleByTwo m 1 q
  (neg, r.1, r.2)

/-- The exact value rounded to `places` decimal places, a tie going to the even digit; a negative
value keeps its sign even when it rounds to zero. -/
def fixedPlaces (places : Nat) (x : Float) : String :=
  match Binary64.ofFloat x with
  | .nan => "NaN"
  | .infinite neg => signText neg ++ "inf"
  | .finite neg m q =>
    let (_, num, den) := exactRatio neg m q
    let scaled := divRoundEven (num * Nat.pow 10 places) den
    let whole := scaled / Nat.pow 10 places
    let frac := scaled % Nat.pow 10 places
    let fracText := digitText frac
    let body := if places = 0 then digitText whole
      else digitText whole ++ "." ++ zeros (places - fracText.length) ++ fracText
    signText neg ++ body

/-- A double written with a decimal point: `1.0`, `1.5`, `inf`, `NaN`. -/
def pointed (x : Float) : String :=
  let s := positional x
  if x.isNaN || x.isInf || s.contains '.' then s else s ++ ".0"

end SnapshotAgent.Number
