import SnapshotAgent.Config.Toml.Parse
/-!
# Reading TOML documents

A document is read in three steps: its text is cut into tokens (`tokenize`), the tokens are
grouped into statements while their shape is checked (`statementsOf`), and the statements build
the document's table while keys and values are decoded (`buildDocument`). A fault found by the
shape check is reported before any fault of decoding or building, wherever they stand.

Building follows the rules on tables:

* a `[a.b]` header opens a table no header opened before; tables met on the way (`a`) are
  created as implicit ones, which a later header may still open;
* `[[a.b]]` adds a table to the array of tables `a.b`;
* a dotted key `a.b = 1` creates dotted tables, which only dotted keys may extend;
* an inline table is complete as written;
* a key is defined once.

Extending a value that is no table open to it is refused by naming its type (`cannot extend value
of type inline table with a dotted key`); defining something twice is a `duplicate key`. A table
opened by a header joins the document when the next header (or the end) closes it.
-/

namespace SnapshotAgent.Config.Toml

/-- The members of a table. -/
abbrev Entries := List (String × Value)

/-- Decodes the parts of a key. -/
def decodeKeys (ks : List RawText) : Except ReadError (List String) :=
  ks.mapM fun (q, t) => decodeKey q t

/-- Removes a member. -/
def removeKey (k : String) (es : Entries) : Entries := es.filter fun (k', _) => k' ≠ k

/-- Walks `path` down from a table and applies `f` to the table reached, answering the updated
table. Missing tables are created, as dotted ones when `dotted`, else as implicit ones; an array
of tables is entered at its last table. An inline table, a plain array or any other value on the
way cannot be extended, and a dotted key may not enter a table a header opened. -/
def descend {α : Type} (dotted : Bool) (f : Origin → Entries → Except ReadError (Origin × Entries × α)) :
    List String → Origin → Entries → Except ReadError (Origin × Entries × α)
  | [], o, es => f o es
  | k :: ks, o, es =>
    match lookup k es with
    | none => do
      let (o', es', a) ← descend dotted f ks (if dotted then .dotted else .implicit) []
      pure (o, store k (.table o' es') es, a)
    | some (.array items true) =>
      match items.getLast? with
      | some (.table o2 es2) => do
        let (o', es', a) ← descend dotted f ks o2 es2
        pure (o, store k (.array (items.dropLast ++ [.table o' es']) true) es, a)
      | some v => .error (.cannotExtend v.typeName)
      | none => .error (.cannotExtend "array")
    | some (.table .inline _) => .error (.cannotExtend "inline table")
    | some (.table o2 es2) =>
      if dotted && o2 = .header then .error .duplicateKey
      else do
        let (o', es', a) ← descend dotted f ks o2 es2
        pure (o, store k (.table o' es') es, a)
    | some v => .error (.cannotExtend v.typeName)

/-- Defines `path.key = v` in a table. The key must be new, and a plain key may not go into a
dotted table nor a dotted one into a table that is not dotted. -/
def defineAt (path : List String) (key : String) (v : Value) (o : Origin) (es : Entries) :
    Except ReadError (Origin × Entries) := do
  let (o', es', _) ← descend (!path.isEmpty) (fun o es =>
    if decide (o = .dotted) == path.isEmpty then .error .duplicateKey
    else match lookup key es with
      | some _ => .error .duplicateKey
      | none => .ok (o, store key v es, ())) path o es
  pure (o', es')

/-- The path to a key and its last part. -/
def splitKey (ks : List String) : List String × String :=
  (ks.dropLast, ks.getLast?.getD "")

mutual
/-- Decodes a value: strings and bare words by their decoders, arrays item by item, inline
tables member by member. -/
def decodeValue : RawValue → Except ReadError Value
  | .scalar (q, t) => decodeScalar q t
  | .array items => do pure (.array (← decodeItems items) false)
  | .inline entries => do pure (.table .inline (← decodeMembers [] entries))

/-- Decodes the items of an array. -/
def decodeItems : List RawValue → Except ReadError (List Value)
  | [] => .ok []
  | v :: vs => do
    let x ← decodeValue v
    pure (x :: (← decodeItems vs))

/-- Decodes the members of an inline table into `es`, each key before its value. -/
def decodeMembers (es : Entries) : List (List RawText × RawValue) → Except ReadError Entries
  | [] => .ok es
  | (ks, v) :: rest => do
    let keys ← decodeKeys ks
    let x ← decodeValue v
    let (path, key) := splitKey keys
    let (_, es) ← defineAt path key x .inline es
    decodeMembers es rest
end

/-- A document being built: its root table, the members of the table being filled, how that
table came to be, and the header that opened it. -/
structure Building where
  root : Entries := []
  current : Entries := []
  origin : Origin := .header
  header : Option (List String × Bool) := none

/-- Closes the table being filled: the members before any header become the root table; a
header's table joins the document at its path, a `[[…]]` one at the end of its array. -/
def Building.finish (b : Building) : Except ReadError Building :=
  match b.header with
  | none => .ok { b with root := b.current }
  | some (keys, ofArray) => do
    let (path, key) := splitKey keys
    let filled := Value.table .header b.current
    let (_, root, _) ← descend false (fun o es =>
      if ofArray then
        match lookup key es with
        | none => .ok (o, store key (.array [filled] true) es, ())
        | some (.array items true) => .ok (o, store key (.array (items ++ [filled]) true) es, ())
        | some _ => .error .duplicateKey
      else .ok (o, store key filled es, ())) path .header b.root
    pure { b with root := root }

/-- Opens the table of a header. A `[…]` header takes over an implicit table at its path, with
the members it already has, and refuses anything else found there. -/
def Building.start (b : Building) (keys : List String) (ofArray : Bool) :
    Except ReadError Building := do
  let (path, key) := splitKey keys
  let (root, taken) ← if ofArray then pure (b.root, []) else do
    let (_, root, taken) ← descend false (fun o es =>
      match lookup key es with
      | none => .ok (o, es, [])
      | some (.table .implicit members) => .ok (o, removeKey key es, members)
      | some _ => .error .duplicateKey) path .header b.root
    pure (root, taken)
  pure { root := root, current := taken, origin := .header, header := some (keys, ofArray) }

/-- Builds a document from its statements. -/
def buildStatements : Building → List Statement → Except ReadError Building
  | b, [] => .ok b
  | b, .header ks ofArray :: rest => do
    let b ← b.finish
    let keys ← decodeKeys ks
    let b ← b.start keys ofArray
    buildStatements b rest
  | b, .keyValue ks v :: rest => do
    let keys ← decodeKeys ks
    let x ← decodeValue v
    let (path, key) := splitKey keys
    let (o, es) ← defineAt path key x b.origin b.current
    buildStatements { b with current := es, origin := o } rest

/-- Builds the root table of a document from its statements. -/
def buildDocument (ss : List Statement) : Except ReadError Value := do
  let b ← buildStatements {} ss
  let b ← b.finish
  pure (.table .implicit b.root)

/-- Reads a TOML document into its root table. -/
def readDocument (text : String) : Except ReadError Value := do
  buildDocument (← statementsOf (tokenize text))

/-- An empty document is an empty table. -/
theorem readDocument_empty : (readDocument "").toOption.isSome = true := by
  decide

end SnapshotAgent.Config.Toml
