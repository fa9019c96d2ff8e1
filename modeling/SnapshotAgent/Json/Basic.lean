import SnapshotAgent.Number.Shortest
/-!
# JSON values

A JSON value as the agent keeps it: protocol data captured at the start of an upload, the
details of a notification, the bodies of RPC answers. Numbers are integers when written without a
point or exponent and within 64 bits, and doubles otherwise, so `1` and `1.0` stay apart.

`Json.compact` writes a value with no blanks. Strings escape the quote, the backslash and the
control characters (`\n`, `\t`, `\r`, `\b`, `\f` by name, others as `\u00xx`); doubles are written
in their shortest form with a point or an exponent (`1.0`, `0.1`, `1e-7`), and a non-finite double,
which JSON cannot hold, as `null`.
-/

namespace SnapshotAgent

/-- A JSON value. -/
inductive Json where
  | null
  | bool (b : Bool)
  | int (n : Int)
  | float (x : Float)
  | str (s : String)
  | arr (items : List Json)
  | obj (fields : List (String × Json))
  deriving Inhabited

namespace Json

/-- The four hex digits of a control character's escape. -/
def hexDigit (n : Nat) : Char :=
  if n < 10 then Char.ofNat (48 + n) else Char.ofNat (87 + n)

/-- The escaped form of one character inside a JSON string. -/
def escapeChar (c : Char) : List Char :=
  if c = '"' then ['\\', '"']
  else if c = '\\' then ['\\', '\\']
  else if c = '\n' then ['\\', 'n']
  else if c = '\t' then ['\\', 't']
  else if c = '\r' then ['\\', 'r']
  else if c.toNat = 8 then ['\\', 'b']
  else if c.toNat = 12 then ['\\', 'f']
  else if c.toNat < 32 then ['\\', 'u', '0', '0', hexDigit (c.toNat / 16), hexDigit (c.toNat % 16)]
  else [c]

/-- A string in double quotes with its special characters escaped. -/
def quote (s : String) : String :=
  String.ofList ('"' :: (s.toList.flatMap escapeChar ++ ['"']))

/-- The text of a double inside JSON. -/
def floatText (x : Float) : String :=
  (Number.scientificLate x).getD "null"

mutual
/-- The compact text of a value. -/
def compact : Json → String
  | .null => "null"
  | .bool true => "true"
  | .bool false => "false"
  | .int n => toString n
  | .float x => floatText x
  | .str s => quote s
  | .arr items => "[" ++ compactItems items ++ "]"
  | .obj fields => "\x7b" ++ compactFields fields ++ "\x7d"

/-- The compact text of array items, separated by commas. -/
def compactItems : List Json → String
  | [] => ""
  | [x] => compact x
  | x :: xs => compact x ++ "," ++ compactItems xs

/-- The compact text of object members, separated by commas. -/
def compactFields : List (String × Json) → String
  | [] => ""
  | [(k, v)] => quote k ++ ":" ++ compact v
  | (k, v) :: rest => quote k ++ ":" ++ compact v ++ "," ++ compactFields rest
end

/-- The value stored under a key of an object (the first one), if any. -/
def get? (j : Json) (key : String) : Option Json :=
  match j with
  | .obj fields => (fields.find? (·.1 == key)).map (·.2)
  | _ => none

/-- Inserts a member into a key-sorted list of members, replacing one with the same key. -/
def insertSorted (k : String) (v : Json) : List (String × Json) → List (String × Json)
  | [] => [(k, v)]
  | (k', v') :: rest =>
    if k = k' then (k, v) :: rest
    else if k < k' then (k, v) :: (k', v') :: rest
    else (k', v') :: insertSorted k v rest

/-- An object with its members sorted by key, a later duplicate replacing an earlier one. -/
def sortedObject (fields : List (String × Json)) : Json :=
  .obj (fields.foldl (fun acc (k, v) => insertSorted k v acc) [])

/-- Inserting keeps the key of the inserted member. -/
theorem mem_insertSorted (k : String) (v : Json) (fields : List (String × Json)) :
    (k, v) ∈ insertSorted k v fields := by
  induction fields with
  | nil => simp [insertSorted]
  | cons p rest ih =>
    obtain ⟨k', v'⟩ := p
    simp only [insertSorted]
    split
    · simp
    · split
      · simp
      · simp [ih]

theorem lookup_cons_eq_ite {β : Type} (k k' : String) (b : β) (l : List (String × β)) :
    ((k, b) :: l).lookup k' = if k' = k then some b else l.lookup k' := by
  rw [List.lookup_cons]
  by_cases h : k' = k
  · simp [h]
  · simp [beq_eq_false_iff_ne.2 h, h]

/-- Looking a key up after an insertion: the inserted value for its key, the old one for others. -/
theorem lookup_insertSorted (k : String) (v : Json) (l : List (String × Json)) (k' : String) :
    (insertSorted k v l).lookup k' = if k' = k then some v else l.lookup k' := by
  induction l with
  | nil => rw [insertSorted, lookup_cons_eq_ite]
  | cons e rest ih =>
    obtain ⟨k₁, v₁⟩ := e
    simp only [insertSorted]
    split
    · next hk =>
      subst hk
      by_cases h : k' = k <;> simp [lookup_cons_eq_ite, h]
    · split
      · simp only [lookup_cons_eq_ite]
      · next hk _ =>
        rw [lookup_cons_eq_ite, lookup_cons_eq_ite, ih]
        by_cases h : k' = k₁
        · subst h
          simp [Ne.symm hk]
        · simp [h]

end Json

end SnapshotAgent
