/-!
# Why a TOML document could not be read

A reading failure says what is wrong and, usually, what the reader expected at that point:

```text
invalid fraction, expected digits
unexpected key or value, expected newline, `#`
unexpected leading zero, expected nothing
invalid octal number
```

Expected items are either literal text, shown between backticks (a line break shows as the word
`newline`), or a description shown as it is. An empty list of expectations reads `nothing`; a
failure with no list at all says only what is wrong.
-/

namespace SnapshotAgent.Config.Toml

/-- Something the reader expected to find. -/
inductive Expected where
  /-- Literal text. -/
  | literal (text : String)
  /-- A description of what was expected. -/
  | description (text : String)
  deriving Repr, DecidableEq, Inhabited

/-- How an expectation is shown. -/
def Expected.render : Expected → String
  | .literal text => if text = "\n" then "newline" else "`" ++ text ++ "`"
  | .description text => text

/-- Why a document could not be read: what is wrong, and what was expected instead. -/
structure ReadError where
  description : String
  expected : Option (List Expected) := none
  deriving Repr, DecidableEq, Inhabited

/-- A failure that expects the given items. -/
def ReadError.expecting (description : String) (expected : List Expected) : ReadError :=
  ⟨description, some expected⟩

/-- A failure that says only what is wrong. -/
def ReadError.plain (description : String) : ReadError := ⟨description, none⟩

/-- How a failure is worded. -/
def ReadError.message (e : ReadError) : String :=
  match e.expected with
  | none => e.description
  | some [] => e.description ++ ", expected nothing"
  | some items => e.description ++ ", expected " ++ ", ".intercalate (items.map Expected.render)

/-- The failure of a key or value that follows another key or value on its line. -/
def ReadError.unexpectedContent : ReadError :=
  .expecting "unexpected key or value" [.literal "\n", .literal "#"]

/-- A repeated definition. -/
def ReadError.duplicateKey : ReadError := .plain "duplicate key"

/-- The refusal to add keys to a value that is not a table open to them. -/
def ReadError.cannotExtend (typeName : String) : ReadError :=
  .plain ("cannot extend value of type " ++ typeName ++ " with a dotted key")

/-- A failure with an empty list of expectations reads `expected nothing`. -/
theorem ReadError.message_nothing (d : String) :
    (ReadError.expecting d []).message = d ++ ", expected nothing" := rfl

end SnapshotAgent.Config.Toml
