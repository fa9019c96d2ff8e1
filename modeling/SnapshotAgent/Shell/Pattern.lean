/-!
# Shell patterns

The patterns of `case` and of the trimming expansions `${name%word}` and `${name#word}`: `*`
matches any text, `?` any one character, and a bracket expression `[…]` one character of a set,
given by characters, ranges `a-z` and classes `[:alpha:]`, or not of it after `!` or `^`. A
backslash takes the next character as it is, and so does quoting: a quoted `*` is a star.

A pattern is read from the pieces of a word, each with whether it was quoted; matching is by
recursion on the text and the pattern, and ends since each step shortens one of them.
-/

namespace SnapshotAgent.Shell

/-- A member of a bracket expression. -/
inductive SetMember where
  | single (c : Char)
  | range (lo hi : Char)
  | named (cls : String)
  deriving Repr, DecidableEq, Inhabited

/-- An item of a pattern. -/
inductive PatItem where
  | char (c : Char)
  | any
  | star
  | set (negated : Bool) (members : List SetMember)
  deriving Repr, DecidableEq, Inhabited

/-- Whether a character is in a named class. -/
def inClass (cls : String) (c : Char) : Bool :=
  match cls with
  | "alpha" => c.isAlpha
  | "digit" => c.isDigit
  | "alnum" => c.isAlphanum
  | "upper" => c.isUpper
  | "lower" => c.isLower
  | "space" => c = ' ' || c = '\t' || c = '\n' || c = '\r' || c = '\x0b' || c = '\x0c'
  | "blank" => c = ' ' || c = '\t'
  | "punct" => c.toNat > 32 && c.toNat < 127 && !c.isAlphanum
  | "xdigit" => c.isDigit || ('a' ≤ c && c ≤ 'f') || ('A' ≤ c && c ≤ 'F')
  | "print" => c.toNat ≥ 32 && c.toNat < 127
  | "graph" => c.toNat > 32 && c.toNat < 127
  | "cntrl" => c.toNat < 32 || c.toNat = 127
  | _ => false

/-- Whether a character is a member. -/
def SetMember.holds (m : SetMember) (c : Char) : Bool :=
  match m with
  | .single d => c = d
  | .range lo hi => lo ≤ c && c ≤ hi
  | .named cls => inClass cls c

/-- Reads the members of a bracket expression up to its `]`: the members and the characters
after it, or none when it does not close. The first character is a member even if it is `]`. -/
def readMembers (fuel : Nat) (first : Bool) (cs : List Char) (acc : List SetMember) :
    Option (List SetMember × List Char) :=
  match fuel with
  | 0 => none
  | fuel + 1 =>
    match cs with
    | [] => none
    | ']' :: rest => if first then readMembers fuel false rest (acc ++ [.single ']']) else some (acc, rest)
    | '[' :: ':' :: rest =>
      let name := rest.takeWhile (· ≠ ':')
      match rest.drop name.length with
      | ':' :: ']' :: more => readMembers fuel false more (acc ++ [.named (String.ofList name)])
      | _ => readMembers fuel false (':' :: rest) (acc ++ [.single '['])
    | '\\' :: c :: rest => readMembers fuel false rest (acc ++ [.single c])
    | c :: '-' :: d :: rest =>
      if d = ']' then readMembers fuel false ('-' :: d :: rest) (acc ++ [.single c])
      else readMembers fuel false rest (acc ++ [.range c d])
    | c :: rest => readMembers fuel false rest (acc ++ [.single c])

/-- Reads the items of unquoted pattern text. -/
def patternItems (fuel : Nat) (cs : List Char) (acc : List PatItem) : List PatItem :=
  match fuel with
  | 0 => acc
  | fuel + 1 =>
    match cs with
    | [] => acc
    | '*' :: rest => patternItems fuel rest (acc ++ [.star])
    | '?' :: rest => patternItems fuel rest (acc ++ [.any])
    | '\\' :: c :: rest => patternItems fuel rest (acc ++ [.char c])
    | '[' :: rest =>
      let (negated, body) := match rest with
        | '!' :: b => (true, b)
        | '^' :: b => (true, b)
        | b => (false, b)
      match readMembers (body.length + 1) true body [] with
      | some (members, more) => patternItems fuel more (acc ++ [.set negated members])
      | none => patternItems fuel rest (acc ++ [.char '['])
    | c :: rest => patternItems fuel rest (acc ++ [.char c])

/-- A pattern from the pieces of a word: quoted text matches itself. -/
def Pattern.ofPieces (pieces : List (String × Bool)) : List PatItem :=
  pieces.flatMap fun (s, quoted) =>
    if quoted then s.toList.map PatItem.char else patternItems (s.length + 1) s.toList []

/-- Whether a pattern matches the whole text. -/
def patternMatches : List PatItem → List Char → Bool
  | [], s => s.isEmpty
  | .star :: rest, s =>
    patternMatches rest s ||
      match s with
      | [] => false
      | _ :: t => patternMatches (.star :: rest) t
  | .char c :: rest, d :: t => c == d && patternMatches rest t
  | .any :: rest, _ :: t => patternMatches rest t
  | .set neg ms :: rest, d :: t => (ms.any (·.holds d) != neg) && patternMatches rest t
  | _ :: _, [] => false
termination_by p s => (s.length, p.length)

/-- Removes the shortest (or longest) prefix that the pattern matches. -/
def trimPrefix (longest : Bool) (pat : List PatItem) (s : String) : String :=
  let cs := s.toList
  let lengths := List.range (cs.length + 1)
  let order := if longest then lengths.reverse else lengths
  match order.find? fun k => patternMatches pat (cs.take k) with
  | some k => String.ofList (cs.drop k)
  | none => s

/-- Removes the shortest (or longest) suffix that the pattern matches. -/
def trimSuffix (longest : Bool) (pat : List PatItem) (s : String) : String :=
  let cs := s.toList
  let lengths := List.range (cs.length + 1)
  let order := if longest then lengths.reverse else lengths
  match order.find? fun k => patternMatches pat (cs.drop (cs.length - k)) with
  | some k => String.ofList (cs.take (cs.length - k))
  | none => s

/-- A star matches any text. -/
theorem patternMatches_star (s : List Char) : patternMatches [.star] s = true := by
  induction s with
  | nil => simp [patternMatches]
  | cons c t ih => simp [patternMatches, ih]

end SnapshotAgent.Shell
