/-!
# Blank characters

The Unicode `White_Space` property: the characters that separate words in the tool's output and
in configuration values, and that trimming removes. It has 25 members, ten of them ASCII
(tab, line feed, vertical tab, form feed, carriage return and space) and fifteen beyond it.

`trim`, `trimStart` and `trimEnd` remove blanks from the ends of a text, and `words` splits a
text at runs of blanks, dropping empty pieces.
-/

namespace SnapshotAgent.Text

/-- A blank is a member of the Unicode `White_Space` property. -/
def isBlank (c : Char) : Bool :=
  let n := c.toNat
  (0x09 ≤ n && n ≤ 0x0D) || n == 0x20 || n == 0x85 || n == 0xA0 || n == 0x1680 ||
    (0x2000 ≤ n && n ≤ 0x200A) || n == 0x2028 || n == 0x2029 || n == 0x202F ||
    n == 0x205F || n == 0x3000

/-- Every ASCII whitespace character that core knows is a blank. -/
theorem isBlank_of_isWhitespace {c : Char} (h : c.isWhitespace = true) : isBlank c = true := by
  simp only [Char.isWhitespace, Bool.or_eq_true, decide_eq_true_eq] at h
  rcases h with ((h | h) | h) | h <;> subst h <;> decide

/-- The characters of a list after its leading blanks. -/
def dropBlanks : List Char → List Char
  | [] => []
  | c :: cs => if isBlank c then dropBlanks cs else c :: cs

/-- Removes the leading blanks of a text. -/
def trimStart (s : String) : String :=
  String.ofList (dropBlanks s.toList)

/-- Removes the trailing blanks of a text. -/
def trimEnd (s : String) : String :=
  String.ofList (dropBlanks s.toList.reverse).reverse

/-- Removes the blanks at both ends of a text. -/
def trim (s : String) : String :=
  trimEnd (trimStart s)

/-- True when a text holds blanks only (the empty text included). -/
def isBlankText (s : String) : Bool :=
  s.toList.all isBlank

/-- Splits a character list at runs of blanks; `acc` holds the reversed word being read. -/
def wordsAux : List Char → List Char → List String
  | [], acc => if acc.isEmpty then [] else [String.ofList acc.reverse]
  | c :: cs, acc =>
    if isBlank c then
      if acc.isEmpty then wordsAux cs [] else String.ofList acc.reverse :: wordsAux cs []
    else wordsAux cs (c :: acc)

/-- The words of a text: the maximal runs of characters that are not blanks. -/
def words (s : String) : List String :=
  wordsAux s.toList []

@[simp] theorem dropBlanks_nil : dropBlanks [] = [] := rfl

theorem dropBlanks_cons (c : Char) (cs : List Char) :
    dropBlanks (c :: cs) = if isBlank c then dropBlanks cs else c :: cs := rfl

/-- After `dropBlanks` the list is empty or starts with a character that is not a blank. -/
theorem dropBlanks_head (cs : List Char) :
    ∀ c rest, dropBlanks cs = c :: rest → isBlank c = false := by
  induction cs with
  | nil => intro c rest h; simp at h
  | cons d ds ih =>
    intro c rest h
    rw [dropBlanks_cons] at h
    by_cases hd : isBlank d
    · rw [if_pos hd] at h; exact ih c rest h
    · rw [if_neg hd] at h
      simp only [List.cons.injEq] at h
      rw [← h.1]; simpa using hd

/-- What `dropBlanks` removes is a prefix of blanks. -/
theorem dropBlanks_suffix (cs : List Char) :
    ∃ pre, cs = pre ++ dropBlanks cs ∧ ∀ c ∈ pre, isBlank c = true := by
  induction cs with
  | nil => exact ⟨[], rfl, by simp⟩
  | cons d ds ih =>
    rw [dropBlanks_cons]
    by_cases hd : isBlank d
    · obtain ⟨pre, hpre, hall⟩ := ih
      refine ⟨d :: pre, ?_, ?_⟩
      · rw [if_pos hd]; simp [← hpre]
      · intro c hc
        simp only [List.mem_cons] at hc
        rcases hc with rfl | hc
        · exact hd
        · exact hall c hc
    · exact ⟨[], by rw [if_neg hd]; rfl, by simp⟩

end SnapshotAgent.Text
