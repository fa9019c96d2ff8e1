import SnapshotAgent.Text.Blank
/-!
# Searching and splitting text

Small operations on character lists that the parsers share: whether one text occurs in another,
splitting at the first occurrence of a character, and splitting into lines, where a line ends at a
line feed and loses one carriage return before it.
-/

namespace SnapshotAgent.Text

/-- True when `needle` occurs in `hay` as a contiguous run. -/
def occursIn (needle : List Char) : List Char → Bool
  | [] => needle.isEmpty
  | c :: cs => needle.isPrefixOf (c :: cs) || occursIn needle cs

/-- True when the text `needle` occurs in the text `hay`. -/
def String.occursIn (needle hay : String) : Bool :=
  Text.occursIn needle.toList hay.toList

/-- Splits at the first occurrence of `sep`: the part before and the part after it. -/
def splitFirst (sep : Char) : List Char → Option (List Char × List Char)
  | [] => none
  | c :: cs =>
    if c = sep then some ([], cs)
    else (splitFirst sep cs).map fun (a, b) => (c :: a, b)

/-- Drops one carriage return at the end of a line. -/
def dropReturn (line : List Char) : List Char :=
  match line.reverse with
  | '\r' :: rest => rest.reverse
  | _ => line

/-- Splits at line feeds, with the line being read kept reversed in `acc`. -/
def linesAux : List Char → List Char → List (List Char)
  | [], acc => if acc.isEmpty then [] else [dropReturn acc.reverse]
  | c :: cs, acc =>
    if c = '\n' then dropReturn acc.reverse :: linesAux cs [] else linesAux cs (c :: acc)

/-- The lines of a text: split at line feeds, a trailing carriage return removed from each, and
no empty last line after a final line feed. -/
def lines (s : List Char) : List (List Char) :=
  linesAux s []

/-- A needle found in the tail of a text is found in the text. -/
theorem occursIn_cons {needle : List Char} {c : Char} {cs : List Char}
    (h : occursIn needle cs = true) : occursIn needle (c :: cs) = true := by
  simp [occursIn, h]

/-- Splitting at `sep` gives back the text with `sep` between the parts. -/
theorem splitFirst_eq {sep : Char} {cs a b : List Char} (h : splitFirst sep cs = some (a, b)) :
    cs = a ++ sep :: b := by
  induction cs generalizing a b with
  | nil => simp [splitFirst] at h
  | cons c cs ih =>
    simp only [splitFirst] at h
    split at h
    · simp only [Option.some.injEq, Prod.mk.injEq] at h
      obtain ⟨rfl, rfl⟩ := h
      simp_all
    · obtain ⟨⟨a', b'⟩, h1, h2⟩ := Option.map_eq_some_iff.1 h
      simp only [Prod.mk.injEq] at h2
      obtain ⟨rfl, rfl⟩ := h2
      simp [ih h1]

end SnapshotAgent.Text
