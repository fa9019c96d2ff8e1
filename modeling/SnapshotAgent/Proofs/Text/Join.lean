import Mathlib
import SnapshotAgent.Text.Lower
import SnapshotAgent.Text.Search
/-!
# Texts made of lines

A report is a text of lines joined by line feeds. This file says how the text operations that
read a whole report act on its lines.

* Trimming a joined text drops the blank lines at both ends, the blanks before the first line
  and those after the last (`dropBlanks_joinLines`, `dropTrailingBlanks_joinLines`).
* Splitting a joined text into lines gives its lines back, each less a carriage return at its
  end, with no empty last line (`lines_joinLines_cons_cons`, `lines_joinLines_singleton`).
* Lower-casing never looks across a blank: a blank is neither cased nor case-ignorable, so the
  form of a capital sigma is decided within the stretch of text it stands in, and the blank
  itself stays (`lowerChars_split`).
* Whether a needle occurs in a text is whether it is an infix (`occursIn_iff_infix`). A needle
  without a line feed occurs in a joined text exactly when it occurs in one of its lines, and
  blanks at the ends of a text do not change whether a needle that neither starts nor ends with
  a blank occurs in it.
-/

namespace SnapshotAgent.Text

/-! ## Blanks -/

/-- The code points of the blanks. -/
def blankCodes : List Nat :=
  [0x09, 0x0A, 0x0B, 0x0C, 0x0D, 0x20, 0x85, 0xA0, 0x1680, 0x2000, 0x2001, 0x2002, 0x2003, 0x2004,
   0x2005, 0x2006, 0x2007, 0x2008, 0x2009, 0x200A, 0x2028, 0x2029, 0x202F, 0x205F, 0x3000]

theorem toNat_mem_blankCodes {c : Char} (h : isBlank c = true) : c.toNat ∈ blankCodes := by
  simp only [isBlank, Bool.or_eq_true, Bool.and_eq_true, decide_eq_true_eq, beq_iff_eq] at h
  simp only [blankCodes, List.mem_cons, List.not_mem_nil, or_false]
  omega

/-- No blank is a cased letter or case-ignorable, and none has a lower case of its own. -/
theorem blankCodes_uncased : ∀ n ∈ blankCodes, inRanges casedRanges n = false ∧
    inRanges caseIgnorableRanges n = false ∧ lowerRuns.all (fun r => !r.holds n) = true := by
  decide +kernel

theorem isBlank_newline : isBlank '\n' = true := by decide

theorem dropBlanks_append_of_blank {x : List Char} (hx : x.all isBlank = true) (y : List Char) :
    dropBlanks (x ++ y) = dropBlanks y := by
  induction x with
  | nil => rfl
  | cons c x ih =>
    simp only [List.all_cons, Bool.and_eq_true] at hx
    rw [List.cons_append, dropBlanks_cons, if_pos hx.1, ih hx.2]

theorem dropBlanks_append_of_not_blank {x : List Char} (hx : x.all isBlank = false)
    (y : List Char) : dropBlanks (x ++ y) = dropBlanks x ++ y := by
  induction x with
  | nil => simp at hx
  | cons c x ih =>
    rw [List.cons_append, dropBlanks_cons, dropBlanks_cons]
    by_cases hc : isBlank c = true
    · rw [if_pos hc, if_pos hc]
      exact ih (by simpa [hc] using hx)
    · rw [if_neg hc, if_neg hc, List.cons_append]

theorem dropBlanks_eq_nil_iff (x : List Char) : dropBlanks x = [] ↔ x.all isBlank = true := by
  induction x with
  | nil => simp
  | cons c x ih =>
    rw [dropBlanks_cons]
    by_cases hc : isBlank c = true
    · rw [if_pos hc, ih]
      simp [hc]
    · rw [if_neg hc]
      simp [hc]

/-- The characters of a list before its trailing blanks. -/
def dropTrailingBlanks (cs : List Char) : List Char := (dropBlanks cs.reverse).reverse

theorem dropTrailingBlanks_append (x y : List Char) :
    dropTrailingBlanks (x ++ y) =
      if y.all isBlank then dropTrailingBlanks x else x ++ dropTrailingBlanks y := by
  unfold dropTrailingBlanks
  rw [List.reverse_append]
  split
  · rename_i hy
    rw [dropBlanks_append_of_blank (by simpa using hy)]
  · rename_i hy
    rw [dropBlanks_append_of_not_blank (by simpa using hy), List.reverse_append,
      List.reverse_reverse]

theorem dropTrailingBlanks_eq_nil_iff (x : List Char) :
    dropTrailingBlanks x = [] ↔ x.all isBlank = true := by
  simp [dropTrailingBlanks, dropBlanks_eq_nil_iff]

theorem toList_trim (s : String) : (trim s).toList = dropTrailingBlanks (dropBlanks s.toList) := by
  simp [trim, trimStart, trimEnd, dropTrailingBlanks]

/-- A trimmed text is empty exactly when the text holds blanks only. -/
theorem trim_isEmpty_iff (s : String) : (trim s).isEmpty = true ↔ s.toList.all isBlank = true := by
  rw [String.isEmpty_iff, ← String.toList_inj, toList_trim, String.toList_empty,
    dropTrailingBlanks_eq_nil_iff]
  constructor
  · intro h
    by_contra hs
    obtain ⟨c, rest, hcr⟩ : ∃ c rest, dropBlanks s.toList = c :: rest := by
      cases hd : dropBlanks s.toList with
      | nil => exact absurd ((dropBlanks_eq_nil_iff _).1 hd) hs
      | cons c rest => exact ⟨c, rest, rfl⟩
    have hc := dropBlanks_head s.toList c rest hcr
    rw [hcr] at h
    simp [hc] at h
  · intro h
    rw [(dropBlanks_eq_nil_iff _).2 h]
    rfl

/-! ## Joined lines -/

/-- Lines joined by line feeds. -/
def joinLines (ls : List (List Char)) : List Char := ['\n'].intercalate ls

@[simp] theorem joinLines_nil : joinLines [] = [] := rfl

@[simp] theorem joinLines_singleton (l : List Char) : joinLines [l] = l :=
  List.intercalate_singleton

theorem joinLines_cons_of_ne_nil (l : List Char) {ms : List (List Char)} (h : ms ≠ []) :
    joinLines (l :: ms) = l ++ '\n' :: joinLines ms := by
  simp [joinLines, List.intercalate_cons_of_ne_nil h]

theorem joinLines_cons_cons (l m : List Char) (ms : List (List Char)) :
    joinLines (l :: m :: ms) = l ++ '\n' :: joinLines (m :: ms) :=
  joinLines_cons_of_ne_nil l (List.cons_ne_nil m ms)

theorem all_isBlank_joinLines : ∀ ls : List (List Char),
    (joinLines ls).all isBlank = ls.all (·.all isBlank)
  | [] => rfl
  | [l] => by simp
  | l :: m :: ms => by
    rw [joinLines_cons_cons, List.all_append, List.all_cons, all_isBlank_joinLines (m :: ms),
      isBlank_newline]
    simp

/-- The lines of a text after its leading blanks: the blank lines before the first other one
dropped, then the leading blanks of that line. -/
def dropBlankStart : List (List Char) → List (List Char)
  | [] => []
  | [l] => [dropBlanks l]
  | l :: m :: ms => if l.all isBlank then dropBlankStart (m :: ms) else dropBlanks l :: m :: ms

theorem dropBlankStart_cons_cons (l m : List Char) (ms : List (List Char)) :
    dropBlankStart (l :: m :: ms) =
      if l.all isBlank then dropBlankStart (m :: ms) else dropBlanks l :: m :: ms := rfl

theorem dropBlanks_joinLines : ∀ ls : List (List Char),
    dropBlanks (joinLines ls) = joinLines (dropBlankStart ls)
  | [] => rfl
  | [l] => by simp [dropBlankStart]
  | l :: m :: ms => by
    rw [joinLines_cons_cons, dropBlankStart_cons_cons]
    split
    · rename_i hl
      rw [dropBlanks_append_of_blank hl, dropBlanks_cons, if_pos isBlank_newline,
        dropBlanks_joinLines (m :: ms)]
    · rename_i hl
      rw [dropBlanks_append_of_not_blank (by simpa using hl), joinLines_cons_cons]

/-- The lines of a text before its trailing blanks: the blank lines after the last other one
dropped, then the trailing blanks of that line. -/
def dropBlankEnd : List (List Char) → List (List Char)
  | [] => []
  | [l] => [dropTrailingBlanks l]
  | l :: m :: ms =>
    if (m :: ms).all (·.all isBlank) then [dropTrailingBlanks l] else l :: dropBlankEnd (m :: ms)

theorem dropBlankEnd_cons_cons (l m : List Char) (ms : List (List Char)) :
    dropBlankEnd (l :: m :: ms) =
      if (m :: ms).all (·.all isBlank) then [dropTrailingBlanks l]
      else l :: dropBlankEnd (m :: ms) := rfl

theorem dropBlankEnd_ne_nil : ∀ {ls : List (List Char)}, ls ≠ [] → dropBlankEnd ls ≠ []
  | [l], _ => by simp [dropBlankEnd]
  | l :: m :: ms, _ => by
    rw [dropBlankEnd_cons_cons]
    split <;> simp

theorem dropTrailingBlanks_joinLines : ∀ ls : List (List Char),
    dropTrailingBlanks (joinLines ls) = joinLines (dropBlankEnd ls)
  | [] => rfl
  | [l] => by simp [dropBlankEnd]
  | l :: m :: ms => by
    have hall : ('\n' :: joinLines (m :: ms)).all isBlank = (m :: ms).all (·.all isBlank) := by
      rw [List.all_cons, isBlank_newline, all_isBlank_joinLines, Bool.true_and]
    rw [joinLines_cons_cons, dropTrailingBlanks_append, hall, dropBlankEnd_cons_cons]
    split
    · exact (joinLines_singleton _).symm
    · rename_i hm
      rw [← List.singleton_append, dropTrailingBlanks_append, all_isBlank_joinLines, if_neg hm,
        dropTrailingBlanks_joinLines (m :: ms),
        joinLines_cons_of_ne_nil l (dropBlankEnd_ne_nil (List.cons_ne_nil m ms))]
      rfl

/-! ## Splitting into lines -/

theorem linesAux_append_newline {x : List Char} (hx : '\n' ∉ x) (y acc : List Char) :
    linesAux (x ++ '\n' :: y) acc = dropReturn (acc.reverse ++ x) :: linesAux y [] := by
  induction x generalizing acc with
  | nil => simp [linesAux]
  | cons c x ih =>
    have hc : c ≠ '\n' := fun h => hx (h ▸ List.mem_cons_self)
    rw [List.cons_append, linesAux, if_neg hc, ih (fun h => hx (List.mem_cons_of_mem c h))]
    simp

theorem linesAux_of_not_mem {x : List Char} (hx : '\n' ∉ x) (acc : List Char) :
    linesAux x acc = if acc.reverse ++ x = [] then [] else [dropReturn (acc.reverse ++ x)] := by
  induction x generalizing acc with
  | nil => cases acc <;> simp [linesAux]
  | cons c x ih =>
    have hc : c ≠ '\n' := fun h => hx (h ▸ List.mem_cons_self)
    rw [linesAux, if_neg hc, ih (fun h => hx (List.mem_cons_of_mem c h))]
    simp

/-- Splitting a joined text takes its first line off. -/
theorem lines_joinLines_cons_cons {l : List Char} (hl : '\n' ∉ l) (m : List Char)
    (ms : List (List Char)) :
    lines (joinLines (l :: m :: ms)) = dropReturn l :: lines (joinLines (m :: ms)) := by
  rw [joinLines_cons_cons, lines, linesAux_append_newline hl]
  rfl

/-- A single line splits into itself, less a carriage return at its end, unless it is empty. -/
theorem lines_joinLines_singleton {l : List Char} (hl : '\n' ∉ l) :
    lines (joinLines [l]) = if l = [] then [] else [dropReturn l] := by
  rw [joinLines_singleton, lines, linesAux_of_not_mem hl]
  by_cases h : l = [] <;> simp [h]

/-! ## Lower case across blanks -/

/-- A blank is neither cased nor case-ignorable, is neither of the two capitals with a rule of
their own, and lower-cases to itself. -/
theorem isBlank_uncased {c : Char} (h : isBlank c = true) :
    isCased c = false ∧ isCaseIgnorable c = false ∧ c ≠ 'Σ' ∧ c ≠ 'İ' ∧ lowerSimple c = c := by
  have hn := toNat_mem_blankCodes h
  obtain ⟨hcased, hign, hruns⟩ := blankCodes_uncased _ hn
  refine ⟨hcased, hign, ?_, ?_, ?_⟩
  · rintro rfl
    simp [blankCodes] at hn
  · rintro rfl
    simp [blankCodes] at hn
  · have : lowerRuns.find? (·.holds c.toNat) = none := by
      rw [List.find?_eq_none]
      simpa using hruns
    simp [lowerSimple, this]

/-- Whether a cased letter is reached skipping case-ignorable characters never depends on what
lies beyond a blank. -/
theorem casedAfterIgnorable_append_blank {c : Char} (hc : isBlank c = true) (xs ys : List Char) :
    casedAfterIgnorable (xs ++ c :: ys) = casedAfterIgnorable xs := by
  obtain ⟨hcased, hign, -⟩ := isBlank_uncased hc
  induction xs with
  | nil => simp [casedAfterIgnorable, hign, hcased]
  | cons x xs ih =>
    unfold casedAfterIgnorable at ih ⊢
    by_cases hx : isCaseIgnorable x = true
    · simpa [List.dropWhile_cons, hx] using ih
    · simp [hx]

/-- Lower-casing depends on the characters already passed only through where a cased letter is
reached from them. -/
theorem lowerChars_congr {b b' : List Char}
    (h : ∀ zs, casedAfterIgnorable (zs ++ b) = casedAfterIgnorable (zs ++ b')) (cs : List Char) :
    lowerChars b cs = lowerChars b' cs := by
  induction cs generalizing b b' with
  | nil => rfl
  | cons c cs ih =>
    have h0 : casedAfterIgnorable b = casedAfterIgnorable b' := by simpa using h []
    have hc : ∀ zs, casedAfterIgnorable (zs ++ c :: b) = casedAfterIgnorable (zs ++ c :: b') :=
      fun zs => by simpa using h (zs ++ [c])
    simp only [lowerChars, lowerSigma, h0, ih hc]

/-- Lower-casing a text with a blank in it lower-cases the two sides apart and keeps the blank. -/
theorem lowerChars_split {c : Char} (hc : isBlank c = true) (b x y : List Char) :
    lowerChars b (x ++ c :: y) = lowerChars b x ++ c :: lowerChars [] y := by
  obtain ⟨-, -, hsigma, hdot, hsame⟩ := isBlank_uncased hc
  induction x generalizing b with
  | nil =>
    have hctx : lowerChars (c :: b) y = lowerChars [] y :=
      lowerChars_congr (fun zs => by simp [casedAfterIgnorable_append_blank hc]) y
    simp [lowerChars, hsigma, hdot, hsame, hctx]
  | cons a x ih =>
    simp only [List.cons_append, lowerChars, lowerSigma, casedAfterIgnorable_append_blank hc, ih,
      List.append_assoc]

theorem lowerChars_blank_append {pre : List Char} (hpre : pre.all isBlank = true) (y : List Char) :
    lowerChars [] (pre ++ y) = pre ++ lowerChars [] y := by
  induction pre with
  | nil => rfl
  | cons p pre ih =>
    simp only [List.all_cons, Bool.and_eq_true] at hpre
    rw [List.cons_append, ← List.nil_append (p :: _), lowerChars_split hpre.1, ih hpre.2]
    rfl

theorem lowerChars_append_blank {suf : List Char} (hsuf : suf.all isBlank = true) (x : List Char) :
    lowerChars [] (x ++ suf) = lowerChars [] x ++ suf := by
  cases suf with
  | nil => simp
  | cons d suf =>
    simp only [List.all_cons, Bool.and_eq_true] at hsuf
    have hrest : lowerChars [] suf = suf := by
      simpa [lowerChars] using lowerChars_blank_append hsuf.2 []
    rw [lowerChars_split hsuf.1, hrest]

/-! ## Occurrences -/

theorem occursIn_iff_infix (needle hay : List Char) : occursIn needle hay = true ↔ needle <:+: hay := by
  induction hay with
  | nil => simp [occursIn]
  | cons c cs ih => rw [occursIn, Bool.or_eq_true, ih, List.isPrefixOf_iff_prefix, List.infix_cons_iff]

/-- A prefix of a text that does not hold `c` ends before the first `c`. -/
theorem prefix_of_prefix_append_cons {l u v : List Char} {c : Char} (h : l <+: u ++ c :: v)
    (hc : c ∉ l) : l <+: u := by
  induction u generalizing l with
  | nil =>
    rcases List.prefix_cons_iff.1 h with rfl | ⟨t, rfl, -⟩
    · exact List.nil_prefix
    · exact absurd List.mem_cons_self hc
  | cons a u ih =>
    rcases List.prefix_cons_iff.1 h with rfl | ⟨t, rfl, ht⟩
    · exact List.nil_prefix
    · exact List.cons_prefix_cons.2 ⟨rfl, ih ht (fun h' => hc (List.mem_cons_of_mem a h'))⟩

/-- A needle without `c` occurs across a `c` only on one side of it. -/
theorem infix_append_cons_iff {needle x y : List Char} {c : Char} (hc : c ∉ needle) :
    needle <:+: x ++ c :: y ↔ needle <:+: x ∨ needle <:+: y := by
  constructor
  · intro h
    induction x with
    | nil =>
      rcases List.infix_cons_iff.1 h with hp | hi
      · rcases List.prefix_cons_iff.1 hp with rfl | ⟨t, rfl, -⟩
        · exact .inl (List.nil_infix)
        · exact absurd List.mem_cons_self hc
      · exact .inr hi
    | cons a x ih =>
      rcases List.infix_cons_iff.1 h with hp | hi
      · exact .inl (prefix_of_prefix_append_cons hp hc).isInfix
      · exact (ih hi).imp List.infix_cons id
  · rintro (h | h)
    · exact h.trans List.infix_append_left
    · exact h.trans ((List.infix_cons List.infix_rfl).trans List.infix_append_right)

/-- A needle that does not start with a blank does not reach into blanks before a text. -/
theorem infix_of_infix_blank_append {needle pre z : List Char} (hpre : pre.all isBlank = true)
    (hhead : ∀ c ∈ needle.head?, isBlank c = false) (h : needle <:+: pre ++ z) :
    needle <:+: z := by
  induction pre with
  | nil => exact h
  | cons p pre ih =>
    simp only [List.all_cons, Bool.and_eq_true] at hpre
    rcases List.infix_cons_iff.1 h with hp | hi
    · rcases List.prefix_cons_iff.1 hp with rfl | ⟨t, rfl, -⟩
      · exact List.nil_infix
      · have := hhead p (by simp)
        rw [hpre.1] at this
        cases this
    · exact ih hpre.2 hi

/-- A needle that does not end with a blank does not reach into blanks after a text. -/
theorem infix_of_infix_append_blank {needle suf z : List Char} (hsuf : suf.all isBlank = true)
    (hlast : ∀ c ∈ needle.getLast?, isBlank c = false) (h : needle <:+: z ++ suf) :
    needle <:+: z := by
  rw [← List.reverse_infix] at h ⊢
  rw [List.reverse_append] at h
  exact infix_of_infix_blank_append (by simpa using hsuf)
    (by simpa [List.head?_reverse] using hlast) h

end SnapshotAgent.Text
