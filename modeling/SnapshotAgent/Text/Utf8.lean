/-!
# Lossy UTF-8 decoding

A program's output is a sequence of bytes; it is read as UTF-8 with every ill-formed part
replaced by U+FFFD. The replaced parts are the maximal prefixes of a well-formed sequence: a
lead byte with the continuation bytes that still fit, or a byte that cannot start a character.
So `FF FE` gives two replacement characters and `E2 82` at the end gives one.
-/

namespace SnapshotAgent.Text

/-- Whether a byte continues a character: `80` to `BF`. -/
def isTail (b : UInt8) : Bool := 0x80 ≤ b && b ≤ 0xBF

/-- The range the second byte of a character must lie in, by its lead byte, with the number of
continuation bytes; none when the byte cannot start a character of two bytes or more. -/
def leadRange (b : UInt8) : Option (UInt8 × UInt8 × Nat) :=
  if 0xC2 ≤ b && b ≤ 0xDF then some (0x80, 0xBF, 1)
  else if b == 0xE0 then some (0xA0, 0xBF, 2)
  else if 0xE1 ≤ b && b ≤ 0xEC then some (0x80, 0xBF, 2)
  else if b == 0xED then some (0x80, 0x9F, 2)
  else if 0xEE ≤ b && b ≤ 0xEF then some (0x80, 0xBF, 2)
  else if b == 0xF0 then some (0x90, 0xBF, 3)
  else if 0xF1 ≤ b && b ≤ 0xF3 then some (0x80, 0xBF, 3)
  else if b == 0xF4 then some (0x80, 0x8F, 3)
  else none

/-- The replacement character. -/
def replacement : Char := '�'

/-- The code point of a lead byte and its continuation bytes. -/
def codePoint (lead : UInt8) (tails : List UInt8) : Nat :=
  let mask : Nat := match tails.length with
    | 1 => 0x1F
    | 2 => 0x0F
    | _ => 0x07
  tails.foldl (fun acc t => acc * 64 + (t.toNat % 64)) (lead.toNat % (mask + 1))

/-- How many of `rest` continue the character whose lead byte has the given range, at most
`need`; the first must lie in `lo`..`hi`, the later ones are any continuation bytes. -/
def fittingTails (lo hi : UInt8) (need : Nat) (rest : List UInt8) : Nat :=
  match rest with
  | [] => 0
  | b :: more =>
    if need = 0 || !(lo ≤ b && b ≤ hi) then 0
    else 1 + ((more.take (need - 1)).takeWhile isTail).length

/-- Decodes one character at the front: the character, or the replacement character, and how
many bytes it took (at least one). -/
def decodeFront (b : UInt8) (rest : List UInt8) : Char × Nat :=
  if b < 0x80 then (Char.ofNat b.toNat, 1)
  else match leadRange b with
    | none => (replacement, 1)
    | some (lo, hi, need) =>
      let n := fittingTails lo hi need rest
      if n = need then (Char.ofNat (codePoint b (rest.take need)), 1 + need)
      else (replacement, 1 + n)

/-- Decodes bytes as UTF-8, replacing every ill-formed part. -/
def decodeLossy (bytes : List UInt8) : String :=
  String.ofList (go bytes)
where
  go : List UInt8 → List Char
    | [] => []
    | b :: rest =>
      let (c, n) := decodeFront b rest
      c :: go (rest.drop (n - 1))
  termination_by bs => bs.length
  decreasing_by simp only [List.length_drop, List.length_cons]; omega

/-- The UTF-8 bytes of one character: one byte below `0x80`, else a lead byte carrying the
high bits and continuation bytes of six bits each. -/
def encodeChar (c : Char) : List UInt8 :=
  let n := c.toNat
  if n < 0x80 then [n.toUInt8]
  else if n < 0x800 then [(0xC0 + n / 64).toUInt8, (0x80 + n % 64).toUInt8]
  else if n < 0x10000 then
    [(0xE0 + n / 4096).toUInt8, (0x80 + n / 64 % 64).toUInt8, (0x80 + n % 64).toUInt8]
  else
    [(0xF0 + n / 262144).toUInt8, (0x80 + n / 4096 % 64).toUInt8, (0x80 + n / 64 % 64).toUInt8,
     (0x80 + n % 64).toUInt8]

/-- The bytes of a text in UTF-8. -/
def utf8Bytes (s : String) : List UInt8 := s.toList.flatMap encodeChar

/-- ASCII bytes decode to themselves. -/
theorem decodeFront_ascii (b : UInt8) (rest : List UInt8) (h : b < 0x80) :
    decodeFront b rest = (Char.ofNat b.toNat, 1) := by
  simp [decodeFront, h]

end SnapshotAgent.Text
