import SnapshotAgent.Json.Basic
/-!
# JSON pointers

A JSON pointer (RFC 6901) names a value inside a document: the empty pointer names the whole
document, and every other pointer is a sequence of `/`-prefixed tokens, each naming a member of
an object or an element of an array. In a token `~1` stands for `/` and `~0` for `~`. An array
index is written in decimal without a sign or leading zeros.
-/

namespace SnapshotAgent.Json

/-- A pointer token with its escapes resolved. -/
def unescapeToken (token : String) : String :=
  (token.replace "~1" "/").replace "~0" "~"

/-- An array index as a pointer writes it. -/
def arrayIndex? (token : String) : Option Nat :=
  let cs := token.toList
  if cs.isEmpty || !cs.all Char.isDigit then none
  else if cs.head? = some '0' && cs.length > 1 then none
  else some (cs.foldl (fun n c => n * 10 + (c.toNat - 48)) 0)

/-- Follows one token. -/
def step (j : Json) (token : String) : Option Json :=
  match j with
  | .obj fields => (fields.find? (·.1 == token)).map (·.2)
  | .arr items => (arrayIndex? token).bind fun i => items[i]?
  | _ => none

/-- The value a pointer names, if any. -/
def pointer (j : Json) (p : String) : Option Json :=
  if p.isEmpty then some j
  else if !p.startsWith "/" then none
  else ((p.drop 1).toString.splitOn "/").foldl (fun acc t => acc.bind (step · (unescapeToken t)))
    (some j)

/-- The empty pointer names the whole document. -/
theorem pointer_empty (j : Json) : pointer j "" = some j := by
  simp [pointer]

end SnapshotAgent.Json
