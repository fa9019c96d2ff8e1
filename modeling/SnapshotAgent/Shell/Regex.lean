import SnapshotAgent.Shell.Pattern
/-!
# Regular expressions

Basic regular expressions, as `expr` reads them, and extended ones: characters, `.`, bracket
expressions (shared with shell patterns), the anchors `^` and `$`, groups (`\(…\)`, or `(…)` in
the extended form), back references `\1` to `\9`, repetition `*`, `\+`, `\?` and `\{m,n\}`
(`+`, `?`, `{m,n}` in the extended form), and alternation `\|` (`|`).

Matching is anchored at a position and finds every way to match, the greedy one first; of those
that end furthest, the first is taken, which gives the longest match and its groups.
-/

namespace SnapshotAgent.Shell

/-- A regular expression. -/
inductive Regex where
  | empty
  | char (c : Char)
  | any
  | set (negated : Bool) (members : List SetMember)
  | lineStart
  | lineEnd
  | group (index : Nat) (r : Regex)
  | backref (index : Nat)
  | repeat (r : Regex) (least : Nat) (most : Option Nat)
  | seq (a b : Regex)
  | alt (a b : Regex)
  deriving Repr, Inhabited

/-- Why a regular expression does not read, worded as the matcher words it. -/
inductive RegexError where
  | unmatchedOpen
  | unmatchedClose
  | unmatchedBracket
  | badInterval
  | unmatchedBrace
  | badBackref
  | trailingBackslash
  deriving Repr, DecidableEq, Inhabited

/-- The message of a regular expression error. -/
def RegexError.message : RegexError → String
  | .unmatchedOpen => "Unmatched ( or \\("
  | .unmatchedClose => "Unmatched ) or \\)"
  | .unmatchedBracket => "Unmatched [, [^, [:, [., or [="
  | .badInterval => "Invalid content of \\\x7b\\\x7d"
  | .unmatchedBrace => "Unmatched \\\x7b"
  | .badBackref => "Invalid back reference"
  | .trailingBackslash => "Trailing backslash"

/-- A token of a regular expression, its special characters already told apart. -/
inductive RegexToken where
  | lit (c : Char)
  | dot
  | bracket (negated : Bool) (members : List SetMember)
  | caret
  | dollar
  | openGroup
  | closeGroup
  | star
  | plus
  | question
  | interval (least : Nat) (most : Option Nat)
  | bar
  | backref (n : Nat)
  deriving Repr, Inhabited

/-- Reads an interval's bounds `m`, `m,`, `m,n` or `,n`. -/
def readBounds (body : List Char) : Option (Nat × Option Nat) :=
  let num (cs : List Char) : Option Nat :=
    if cs.isEmpty || !cs.all Char.isDigit then none
    else some (cs.foldl (fun a d => a * 10 + (d.toNat - 48)) 0)
  match body.splitOn ',' with
  | [m] => (num m).map fun v => (v, some v)
  | [m, n] =>
    let lo := if m.isEmpty then some 0 else num m
    match lo with
    | some l =>
      if n.isEmpty then some (l, none)
      else match num n with
        | some h => if l ≤ h then some (l, some h) else none
        | none => none
    | none => none
  | _ => none

/-- Splits a regular expression into tokens. -/
def regexTokens (extended : Bool) (fuel : Nat) (cs : List Char) (acc : Array RegexToken) :
    Except RegexError (Array RegexToken) :=
  match fuel with
  | 0 => .ok acc
  | fuel + 1 =>
    match cs with
    | [] => .ok acc
    | '[' :: rest =>
      let (negated, body) := match rest with
        | '^' :: b => (true, b)
        | b => (false, b)
      match readMembers (body.length + 1) true body [] with
      | some (members, more) => regexTokens extended fuel more (acc.push (.bracket negated members))
      | none => .error .unmatchedBracket
    | '\\' :: c :: rest =>
      if !extended && c = '(' then regexTokens extended fuel rest (acc.push .openGroup)
      else if !extended && c = ')' then regexTokens extended fuel rest (acc.push .closeGroup)
      else if !extended && c = '|' then regexTokens extended fuel rest (acc.push .bar)
      else if !extended && c = '+' then regexTokens extended fuel rest (acc.push .plus)
      else if !extended && c = '?' then regexTokens extended fuel rest (acc.push .question)
      else if !extended && c = '{' then
        let body := rest.takeWhile (· ≠ '\\')
        match rest.drop body.length with
        | '\\' :: '}' :: more =>
          match readBounds body with
          | some (lo, hi) => regexTokens extended fuel more (acc.push (.interval lo hi))
          | none => .error .badInterval
        | _ => .error .unmatchedBrace
      else if c.isDigit && c ≠ '0' then regexTokens extended fuel rest (acc.push (.backref (c.toNat - 48)))
      else if c = 'n' then regexTokens extended fuel rest (acc.push (.lit '\n'))
      else if c = 't' then regexTokens extended fuel rest (acc.push (.lit '\t'))
      else regexTokens extended fuel rest (acc.push (.lit c))
    | ['\\'] => .error .trailingBackslash
    | c :: rest =>
      if c = '.' then regexTokens extended fuel rest (acc.push .dot)
      else if c = '*' then regexTokens extended fuel rest (acc.push .star)
      else if c = '^' then regexTokens extended fuel rest (acc.push .caret)
      else if c = '$' then regexTokens extended fuel rest (acc.push .dollar)
      else if extended && c = '(' then regexTokens extended fuel rest (acc.push .openGroup)
      else if extended && c = ')' then regexTokens extended fuel rest (acc.push .closeGroup)
      else if extended && c = '|' then regexTokens extended fuel rest (acc.push .bar)
      else if extended && c = '+' then regexTokens extended fuel rest (acc.push .plus)
      else if extended && c = '?' then regexTokens extended fuel rest (acc.push .question)
      else if extended && c = '{' then
        let body := rest.takeWhile (· ≠ '}')
        match rest.drop body.length with
        | '}' :: more =>
          match readBounds body with
          | some (lo, hi) => regexTokens extended fuel more (acc.push (.interval lo hi))
          | none => regexTokens extended fuel rest (acc.push (.lit '{'))
        | _ => regexTokens extended fuel rest (acc.push (.lit '{'))
      else regexTokens extended fuel rest (acc.push (.lit c))

/-- Joins two expressions in sequence. -/
def Regex.andThen : Regex → Regex → Regex
  | .empty, b => b
  | a, .empty => a
  | a, b => .seq a b

/-- The state of reading: the tokens left and the number of groups opened so far. -/
abbrev RegexRead := Except RegexError (Regex × List RegexToken × Nat)

mutual
/-- Reads alternatives, up to a closing group or the end. -/
def readAlternatives : Nat → Bool → List RegexToken → Nat → RegexRead
  | 0, _, ts, n => .ok (.empty, ts, n)
  | fuel + 1, extended, ts, n => do
    let (a, rest, n) ← readBranch fuel extended ts n true .empty
    match rest with
    | .bar :: more => do
      let (b, rest, n) ← readAlternatives fuel extended more n
      pure (.alt a b, rest, n)
    | _ => pure (a, rest, n)

/-- Reads a branch: pieces in sequence. At its start `^` is an anchor; a `*` with no atom
before it is a character; `$` is an anchor at its end. -/
def readBranch : Nat → Bool → List RegexToken → Nat → Bool → Regex → RegexRead
  | 0, _, ts, n, _, acc => .ok (acc, ts, n)
  | fuel + 1, extended, ts, n, first, acc =>
    match ts with
    | [] => .ok (acc, [], n)
    | .bar :: _ | .closeGroup :: _ => .ok (acc, ts, n)
    | .caret :: rest =>
      if first || extended then readBranch fuel extended rest n false (acc.andThen .lineStart)
      else readPieceAfter fuel extended (.char '^') rest n acc
    | .dollar :: rest =>
      let atEnd := match rest with
        | [] | .bar :: _ | .closeGroup :: _ => true
        | _ => false
      if atEnd || extended then readBranch fuel extended rest n false (acc.andThen .lineEnd)
      else readPieceAfter fuel extended (.char '$') rest n acc
    | .star :: rest => readPieceAfter fuel extended (.char '*') rest n acc
    | .openGroup :: rest => do
      let index := n + 1
      let (inner, more, n) ← readAlternatives fuel extended rest index
      match more with
      | .closeGroup :: after => readPieceAfter fuel extended (.group index inner) after n acc
      | _ => .error .unmatchedOpen
    | .lit c :: rest => readPieceAfter fuel extended (.char c) rest n acc
    | .dot :: rest => readPieceAfter fuel extended .any rest n acc
    | .bracket neg ms :: rest => readPieceAfter fuel extended (.set neg ms) rest n acc
    | .backref k :: rest =>
      if k ≤ n then readPieceAfter fuel extended (.backref k) rest n acc else .error .badBackref
    | .plus :: rest => readPieceAfter fuel extended (.char '+') rest n acc
    | .question :: rest => readPieceAfter fuel extended (.char '?') rest n acc
    | .interval _ _ :: rest => readPieceAfter fuel extended (.char '{') rest n acc

/-- Reads the repetitions after an atom, then the rest of the branch. -/
def readPieceAfter : Nat → Bool → Regex → List RegexToken → Nat → Regex → RegexRead
  | 0, _, atom, ts, n, acc => .ok (acc.andThen atom, ts, n)
  | fuel + 1, extended, atom, ts, n, acc =>
    match ts with
    | .star :: rest => readPieceAfter fuel extended (.repeat atom 0 none) rest n acc
    | .plus :: rest => readPieceAfter fuel extended (.repeat atom 1 none) rest n acc
    | .question :: rest => readPieceAfter fuel extended (.repeat atom 0 (some 1)) rest n acc
    | .interval lo hi :: rest => readPieceAfter fuel extended (.repeat atom lo hi) rest n acc
    | _ => readBranch fuel extended ts n false (acc.andThen atom)
end

/-- Reads a regular expression: the expression and its number of groups. -/
def Regex.read (extended : Bool) (text : String) : Except RegexError (Regex × Nat) := do
  let ts ← regexTokens extended (text.length + 1) text.toList #[]
  let ts := ts.toList
  let (r, rest, n) ← readAlternatives (4 * ts.length + 8) extended ts 0
  match rest with
  | [] => pure (r, n)
  | _ => throw .unmatchedClose

/-- Where the groups matched: start and end of each group that did. -/
abbrev Captures := List (Nat × Nat × Nat)

/-- The text a group matched. -/
def capturedText (input : Array Char) (caps : Captures) (k : Nat) : Option (List Char) :=
  (caps.find? (·.1 == k)).map fun (_, s, e) => (input.extract s e).toList

mutual
/-- Every way a regular expression matches from a position: the end and the groups, the greedy
way first. -/
def matchesFrom : Nat → Array Char → Regex → Nat → Captures → List (Nat × Captures)
  | 0, _, _, _, _ => []
  | fuel + 1, input, r, pos, caps =>
    match r with
    | .empty => [(pos, caps)]
    | .char c => if input[pos]? = some c then [(pos + 1, caps)] else []
    | .any => if pos < input.size then [(pos + 1, caps)] else []
    | .set neg ms =>
      match input[pos]? with
      | some d => if ms.any (·.holds d) != neg then [(pos + 1, caps)] else []
      | none => []
    | .lineStart => if pos = 0 then [(pos, caps)] else []
    | .lineEnd => if pos = input.size then [(pos, caps)] else []
    | .group k inner =>
      (matchesFrom fuel input inner pos caps).map fun (e, c) =>
        (e, (k, pos, e) :: c.filter (·.1 != k))
    | .backref k =>
      match capturedText input caps k with
      | some text =>
        if (input.extract pos (pos + text.length)).toList == text then [(pos + text.length, caps)] else []
      | none => []
    | .repeat inner least most => repeatFrom fuel input inner least most pos caps
    | .seq a b =>
      (matchesFrom fuel input a pos caps).flatMap fun (e, c) => matchesFrom fuel input b e c
    | .alt a b => matchesFrom fuel input a pos caps ++ matchesFrom fuel input b pos caps

/-- Every way a repetition matches: more repetitions first; a repetition that matches nothing
is not repeated. -/
def repeatFrom : Nat → Array Char → Regex → Nat → Option Nat → Nat → Captures →
    List (Nat × Captures)
  | 0, _, _, _, _, _, _ => []
  | fuel + 1, input, inner, least, most, pos, caps =>
    if most = some 0 then [(pos, caps)]
    else
      let once := matchesFrom fuel input inner pos caps
      let more := once.flatMap fun (e, c) =>
        if e = pos then (if least = 0 then [] else [(e, c)])
        else repeatFrom fuel input inner (least - 1) (most.map (· - 1)) e c
      if least = 0 then more ++ [(pos, caps)] else more
end

/-- The longest match from a position, and its groups: of the ways that end furthest, the
first. -/
def longestMatch (r : Regex) (input : Array Char) (pos : Nat) : Option (Nat × Captures) :=
  let all := matchesFrom (4 * (input.size + 2) * (input.size + 2) + 64) input r pos []
  all.foldl (fun best m => match best with
    | some b => if m.1 > b.1 then some m else some b
    | none => some m) none

/-- The first match in a text at or after a position: its start, end and groups. -/
def firstMatch (r : Regex) (input : Array Char) (from_ : Nat) : Option (Nat × Nat × Captures) :=
  ((List.range (input.size + 1 - from_)).map (· + from_)).findSome? fun i =>
    (longestMatch r input i).map fun (e, caps) => (i, e, caps)

end SnapshotAgent.Shell
