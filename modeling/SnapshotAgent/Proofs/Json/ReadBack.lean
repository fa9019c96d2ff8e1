import Mathlib
import SnapshotAgent.Json.Parse
/-!
# Reading compact JSON back

The store keeps the protocol data of an upload as the compact text of a JSON object
(`Json.compact`) and reads it back with `Json.parseObject`. This file proves that the reader
answers the members written, for the values the agent's maps hold (`Json.Canonical`): integers
within the 64-bit ranges, no doubles, and the members of every object in strictly increasing key
order, nested at most 127 deep (`parseObject_compact`).

The proof follows the reader. `ReadsBack j` says that `readValue` takes `j` back from its text,
whatever may follow a value there, given enough fuel and room for its nesting. It is proved for
each kind of scalar, and for arrays and objects from the same fact about their items and members
(`readItems_back`, `readMembers_back`), by induction on `Canonical`. A string is read back
character by character from its escapes (`readStringBody_escaped`), an integer from its digits
(`readNumber_whole`), and the members of an object, already sorted, keep their order through the
reader's sorting (`sortedObject_of_sorted`).
-/

namespace SnapshotAgent.Json

/-! ## Cursors -/

@[simp] theorem Cursor.rest_advance (c : Cursor) : c.advance.rest = c.rest.tail := by
  unfold Cursor.advance
  split
  · simp_all
  · split <;> simp_all

theorem Cursor.skipBlanks_of_head {c : Cursor} (h : ∀ ch ∈ c.rest.head?, 32 < ch.toNat) :
    c.skipBlanks = c := by
  obtain ⟨rest, line, column⟩ := c
  cases rest with
  | nil => rfl
  | cons ch r =>
    have hch := h ch rfl
    have h1 : ch ≠ ' ' := fun e => by subst e; simp at hch
    have h2 : ch ≠ '\t' := fun e => by subst e; simp at hch
    have h3 : ch ≠ '\r' := fun e => by subst e; simp at hch
    have h4 : ch ≠ '\n' := fun e => by subst e; simp at hch
    simp [Cursor.skipBlanks, skipBlanksAux, h1, h2, h3, h4]

theorem readWord_prefix (w : List Char) :
    ∀ (c : Cursor) (rest : List Char), c.rest = w ++ rest →
      ∃ c', readWord c w = .ok ((), c') ∧ c'.rest = rest := by
  induction w with
  | nil => intro c rest hc; exact ⟨c, rfl, hc⟩
  | cons ch w ih =>
    intro c rest hc
    obtain ⟨c', hr, hc'⟩ := ih c.advance rest (by simp [hc])
    refine ⟨c', ?_, hc'⟩
    rw [readWord, hc]
    simpa using hr

/-! ## Canonical values and their texts -/

/-- A value as the agent's maps hold it: integers within the 64-bit ranges, no doubles, and the
members of every object in strictly increasing key order, each key once. -/
inductive Canonical : Json → Prop
  | null : Canonical .null
  | bool (b : Bool) : Canonical (.bool b)
  | int (n : Int) (lo : -9223372036854775808 ≤ n) (hi : n ≤ 18446744073709551615) :
      Canonical (.int n)
  | str (s : String) : Canonical (.str s)
  | arr (items : List Json) (h : ∀ x ∈ items, Canonical x) : Canonical (.arr items)
  | obj (fields : List (String × Json)) (sorted : (fields.map (·.1)).Pairwise (· < ·))
      (h : ∀ p ∈ fields, Canonical p.2) : Canonical (.obj fields)

mutual
/-- How deeply arrays and objects nest in a value. -/
def nesting : Json → Nat
  | .arr items => nestingItems items + 1
  | .obj fields => nestingFields fields + 1
  | _ => 0

def nestingItems : List Json → Nat
  | [] => 0
  | x :: xs => max (nesting x) (nestingItems xs)

def nestingFields : List (String × Json) → Nat
  | [] => 0
  | (_, v) :: rest => max (nesting v) (nestingFields rest)
end

/-- What may follow a value in compact text: nothing, a comma, or a closing bracket. -/
def AfterValue (rest : List Char) : Prop :=
  rest = [] ∨ ∃ r, rest = ',' :: r ∨ rest = ']' :: r ∨ rest = '}' :: r

theorem AfterValue.head {rest : List Char} (hr : AfterValue rest) :
    ∀ ch ∈ rest.head?, ch = ',' ∨ ch = ']' ∨ ch = '}' := by
  obtain rfl | ⟨r, rfl | rfl | rfl⟩ := hr <;> simp

/-- The reader takes `j` back from its compact text, whatever may follow a value, with enough fuel
and at any depth that leaves room for its nesting. -/
def ReadsBack (j : Json) : Prop :=
  ∀ (fuel depth : Nat) (c : Cursor) (rest : List Char), (compact j).length ≤ fuel →
    nesting j + depth ≤ 127 → c.rest = (compact j).toList ++ rest → AfterValue rest →
    ∃ c', readValue fuel depth c = .ok (j, c') ∧ c'.rest = rest

theorem quote_toList (s : String) :
    (quote s).toList = '"' :: (s.toList.flatMap escapeChar ++ ['"']) := by
  simp [quote]

theorem compact_int_ofNat_toList (m : Nat) :
    (compact (.int (m : Int))).toList = Nat.toDigits 10 m := by
  rw [show compact (.int (m : Int)) = String.ofList (Nat.toDigits 10 m) from rfl,
    String.toList_ofList]

theorem compact_int_negSucc_toList (m : Nat) :
    (compact (.int (Int.negSucc m))).toList = '-' :: Nat.toDigits 10 (m + 1) := by
  rw [show compact (.int (Int.negSucc m)) = "-" ++ String.ofList (Nat.toDigits 10 (m + 1)) from rfl]
  simp

theorem compact_arr_toList (items : List Json) :
    (compact (.arr items)).toList = '[' :: ((compactItems items).toList ++ [']']) := by
  rw [show compact (.arr items) = "[" ++ compactItems items ++ "]" from rfl]
  simp

theorem compact_obj_toList (fields : List (String × Json)) :
    (compact (.obj fields)).toList = '{' :: ((compactFields fields).toList ++ ['}']) := by
  rw [show compact (.obj fields) = "\x7b" ++ compactFields fields ++ "\x7d" from rfl]
  simp

theorem compactItems_cons_cons (x y : Json) (ys : List Json) :
    compactItems (x :: y :: ys) = compact x ++ "," ++ compactItems (y :: ys) := by
  rw [compactItems]
  exact List.cons_ne_nil y ys

theorem compactFields_cons_cons (k : String) (v : Json) (p : String × Json)
    (ps : List (String × Json)) :
    compactFields ((k, v) :: p :: ps) =
      quote k ++ ":" ++ compact v ++ "," ++ compactFields (p :: ps) := by
  rw [compactFields]
  exact List.cons_ne_nil p ps

theorem compactItems_toList_cons (y : Json) (ys : List Json) :
    ∃ t, (compactItems (y :: ys)).toList = (compact y).toList ++ t := by
  cases ys with
  | nil => exact ⟨[], by simp [compactItems]⟩
  | cons z zs =>
    rw [compactItems_cons_cons, String.toList_append, String.toList_append, List.append_assoc]
    exact ⟨_, rfl⟩

theorem compactFields_toList_cons (p : String × Json) (ps : List (String × Json)) :
    ∃ t, (compactFields (p :: ps)).toList = '"' :: t := by
  obtain ⟨k, v⟩ := p
  cases ps with
  | nil =>
    rw [show compactFields [(k, v)] = quote k ++ ":" ++ compact v from rfl]
    simp only [String.toList_append, quote_toList, List.cons_append]
    exact ⟨_, rfl⟩
  | cons q qs =>
    rw [compactFields_cons_cons]
    simp only [String.toList_append, quote_toList, List.cons_append]
    exact ⟨_, rfl⟩

/-- The text of a member: its quoted key, a colon and its value, then what follows. -/
theorem compactMember_toList (k : String) (v : Json) (more : List Char) :
    (quote k ++ ":" ++ compact v).toList ++ more =
      '"' :: (k.toList.flatMap escapeChar ++ '"' :: ':' :: ((compact v).toList ++ more)) := by
  simp [quote_toList]

theorem isDigit_toNat {ch : Char} (h : ch.isDigit = true) :
    48 ≤ ch.toNat ∧ ch.toNat ≤ 57 := by
  simp only [Char.isDigit, Bool.and_eq_true, decide_eq_true_eq, UInt32.le_iff_toNat_le] at h
  exact h

/-- The compact text of a canonical value starts with a mark that is neither a blank nor a
closing bracket. -/
theorem Canonical.head {j : Json} (hj : Canonical j) :
    ∃ ch r, (compact j).toList = ch :: r ∧ 32 < ch.toNat ∧ ch ≠ ']' ∧ ch ≠ '}' := by
  cases hj with
  | null => exact ⟨'n', _, rfl, by decide, by decide, by decide⟩
  | bool b => cases b <;> exact ⟨_, _, rfl, by decide, by decide, by decide⟩
  | int n lo hi =>
    cases n with
    | ofNat m =>
      obtain ⟨d, ds, hds⟩ := List.exists_cons_of_ne_nil (Nat.toDigits_ne_nil (n := m) (b := 10))
      have hd := isDigit_toNat (Nat.isDigit_of_mem_toDigits (b := 10) (n := m) (c := d)
        (by decide) (by decide) (by simp [hds]))
      refine ⟨d, ds, by rw [Int.ofNat_eq_natCast, compact_int_ofNat_toList, hds], by omega, ?_,
        ?_⟩
      · rintro rfl; simp at hd
      · rintro rfl; simp at hd
    | negSucc m => exact ⟨'-', _, compact_int_negSucc_toList m, by decide, by decide, by decide⟩
  | str s => exact ⟨'"', _, quote_toList s, by decide, by decide, by decide⟩
  | arr items _ => exact ⟨'[', _, compact_arr_toList items, by decide, by decide, by decide⟩
  | obj fields _ _ => exact ⟨'{', _, compact_obj_toList fields, by decide, by decide, by decide⟩

theorem nesting_le_nestingItems {x : Json} {xs : List Json} (h : x ∈ xs) :
    nesting x ≤ nestingItems xs := by
  induction xs with
  | nil => simp at h
  | cons y ys ih =>
    rw [nestingItems]
    rcases List.mem_cons.1 h with rfl | h
    · exact Nat.le_max_left _ _
    · exact Nat.le_trans (ih h) (Nat.le_max_right _ _)

theorem nesting_le_nestingFields {p : String × Json} {ps : List (String × Json)} (h : p ∈ ps) :
    nesting p.2 ≤ nestingFields ps := by
  induction ps with
  | nil => simp at h
  | cons q qs ih =>
    obtain ⟨k, v⟩ := q
    rw [nestingFields]
    rcases List.mem_cons.1 h with rfl | h
    · exact Nat.le_max_left _ _
    · exact Nat.le_trans (ih h) (Nat.le_max_right _ _)

/-! ## Strings -/

theorem hexValue_hexDigit : ∀ k, k < 16 → hexValue (hexDigit k) = some k := by
  decide

/-- A character read back from its escaped form, the rest of the text untouched. -/
theorem readStringBody_escapeChar (ch : Char) (acc : List Char) (f : Nat) {c : Cursor}
    {more : List Char} (hc : c.rest = escapeChar ch ++ more) :
    ∃ c', c'.rest = more ∧ readStringBody (f + 1) c acc = readStringBody f c' (ch :: acc) := by
  unfold escapeChar at hc
  -- the escapes by name: a backslash and one letter
  by_cases h1 : ch = '"'
  · rw [if_pos h1] at hc
    subst h1; exact ⟨c.advance.advance, by simp [hc], by rw [readStringBody, hc]; simp [hc]⟩
  rw [if_neg h1] at hc
  by_cases h2 : ch = '\\'
  · rw [if_pos h2] at hc
    subst h2; exact ⟨c.advance.advance, by simp [hc], by rw [readStringBody, hc]; simp [hc]⟩
  rw [if_neg h2] at hc
  by_cases h3 : ch = '\n'
  · rw [if_pos h3] at hc
    subst h3; exact ⟨c.advance.advance, by simp [hc], by rw [readStringBody, hc]; simp [hc]⟩
  rw [if_neg h3] at hc
  by_cases h4 : ch = '\t'
  · rw [if_pos h4] at hc
    subst h4; exact ⟨c.advance.advance, by simp [hc], by rw [readStringBody, hc]; simp [hc]⟩
  rw [if_neg h4] at hc
  by_cases h5 : ch = '\r'
  · rw [if_pos h5] at hc
    subst h5; exact ⟨c.advance.advance, by simp [hc], by rw [readStringBody, hc]; simp [hc]⟩
  rw [if_neg h5] at hc
  by_cases h6 : ch.toNat = 8
  · rw [if_pos h6] at hc
    obtain rfl : ch = Char.ofNat 8 := by rw [← h6, Char.ofNat_toNat]
    exact ⟨c.advance.advance, by simp [hc], by rw [readStringBody, hc]; simp [hc]⟩
  rw [if_neg h6] at hc
  by_cases h7 : ch.toNat = 12
  · rw [if_pos h7] at hc
    obtain rfl : ch = Char.ofNat 12 := by rw [← h7, Char.ofNat_toNat]
    exact ⟨c.advance.advance, by simp [hc], by rw [readStringBody, hc]; simp [hc]⟩
  rw [if_neg h7] at hc
  by_cases h8 : ch.toNat < 32
  · -- another control character: its code in four hex digits
    rw [if_pos h8] at hc
    have hhi := hexValue_hexDigit (ch.toNat / 16) (by omega)
    have hlo := hexValue_hexDigit (ch.toNat % 16) (by omega)
    refine ⟨c.advance.advance.advance.advance.advance.advance, by simp [hc], ?_⟩
    rw [readStringBody, hc]
    have h0 : hexValue '0' = some 0 := rfl
    have hlow : ¬ 55296 ≤ ch.toNat := by omega
    have hhigh : ¬ 56320 ≤ ch.toNat := by omega
    simp [hc, readHex4, readHex4.go, h0, hhi, hlo, Nat.div_add_mod', hlow, hhigh]
  · -- any other character stands for itself
    rw [if_neg h8] at hc
    refine ⟨c.advance, by simp [hc], ?_⟩
    rw [readStringBody, hc]
    simp [h1, h2, h8]

/-- The body of a quoted string is read back character by character, up to its closing quote. -/
theorem readStringBody_escaped (cs : List Char) :
    ∀ (fuel : Nat) (c : Cursor) (acc rest : List Char), cs.length < fuel →
      c.rest = cs.flatMap escapeChar ++ '"' :: rest →
      ∃ c', readStringBody fuel c acc = .ok (String.ofList (acc.reverse ++ cs), c') ∧
        c'.rest = rest := by
  induction cs with
  | nil =>
    intro fuel c acc rest hf hc
    obtain ⟨f, rfl⟩ : ∃ f, fuel = f + 1 := ⟨fuel - 1, by simp at hf; omega⟩
    refine ⟨c.advance, ?_, by simp [hc]⟩
    rw [readStringBody, hc]
    simp
  | cons ch cs ih =>
    intro fuel c acc rest hf hc
    obtain ⟨f, rfl⟩ : ∃ f, fuel = f + 1 := ⟨fuel - 1, by simp at hf; omega⟩
    obtain ⟨c₁, hc₁, hstep⟩ := readStringBody_escapeChar ch acc f
      (by rw [hc, List.flatMap_cons, List.append_assoc])
    obtain ⟨c', hread, hrest⟩ := ih f c₁ (ch :: acc) rest (by simp at hf; omega) hc₁
    refine ⟨c', ?_, hrest⟩
    rw [hstep, hread, List.reverse_cons, List.append_assoc]
    rfl

/-- A choice between two non-empty lists is non-empty. -/
theorem ite_ne_nil {α : Type} {p : Prop} [Decidable p] {a b : List α} (ha : a ≠ [])
    (hb : b ≠ []) : (if p then a else b) ≠ [] := by
  split <;> assumption

/-- Every character is written as at least one character. -/
theorem escapeChar_ne_nil (c : Char) : escapeChar c ≠ [] := by
  unfold escapeChar
  -- eight tests, each answering an escape that starts with a backslash, then the character itself;
  -- peeled without deciding the tests, which `split_ifs` would do at every branch
  iterate 8 refine ite_ne_nil (List.cons_ne_nil _ _) ?_
  exact List.cons_ne_nil _ _

theorem length_le_flatMap_escapeChar (cs : List Char) :
    cs.length ≤ (cs.flatMap escapeChar).length := by
  induction cs with
  | nil => simp
  | cons ch cs ih =>
    have : 1 ≤ (escapeChar ch).length := List.length_pos_iff.2 (escapeChar_ne_nil ch)
    simp only [List.flatMap_cons, List.length_append, List.length_cons]
    omega

/-! ## Numbers -/

theorem digit_ne_marks {d : Char} (hd : d.isDigit = true) :
    d ≠ 'n' ∧ d ≠ 't' ∧ d ≠ 'f' ∧ d ≠ '-' ∧ d ≠ '"' ∧ d ≠ '[' ∧ d ≠ '{' := by
  have := isDigit_toNat hd
  refine ⟨?_, ?_, ?_, ?_, ?_, ?_, ?_⟩ <;> (rintro rfl; simp at this)

theorem toDigits_head_ne_zero {n : Nat} (hn : 0 < n) :
    ∃ d ds, Nat.toDigits 10 n = d :: ds ∧ d ≠ '0' := by
  induction n using Nat.strong_induction_on with
  | _ n ih =>
    by_cases h : n < 10
    · refine ⟨Nat.digitChar n, [], Nat.toDigits_of_lt_base h, ?_⟩
      interval_cases n <;> decide
    · obtain ⟨d, ds, hds, hd⟩ := ih (n / 10) (by omega) (by omega)
      exact ⟨d, ds ++ [Nat.digitChar (n % 10)],
        by rw [Nat.toDigits_of_base_le (by omega) (by omega), hds, List.cons_append], hd⟩

theorem appendOverflows_eq_false {acc d : Nat} (hd : d ≤ 9)
    (h : acc * 10 + d ≤ significandLimit) :
    appendOverflows acc d significandLimit = false := by
  rw [appendOverflows, Bool.eq_false_iff]
  simp only [ne_eq, Bool.and_eq_true, Bool.or_eq_true, decide_eq_true_eq]
  unfold significandLimit at h ⊢
  omega

theorem le_ofDigitChars (ds : List Char) (init : Nat) : init ≤ Nat.ofDigitChars 10 ds init := by
  rw [Nat.ofDigitChars_eq_ofDigitChars_zero]
  have : 1 ≤ 10 ^ ds.length := Nat.one_le_pow _ _ (by omega)
  nlinarith

/-- Digits whose value fits the significand fold into it exactly. -/
theorem foldWhole_digits (ds : List Char) (hds : ∀ ch ∈ ds, ch.isDigit = true) :
    ∀ {acc : Nat} {e : Int}, Nat.ofDigitChars 10 ds acc ≤ significandLimit →
      foldWhole (acc, false, e) ds = (Nat.ofDigitChars 10 ds acc, false, e) := by
  induction ds with
  | nil => intro acc e _; rfl
  | cons ch ds ih =>
    intro acc e hle
    have hd := isDigit_toNat (hds ch (by simp))
    rw [Nat.ofDigitChars_cons] at hle ⊢
    have hstep : acc * 10 + (ch.toNat - 48) ≤ significandLimit := by
      have := le_ofDigitChars ds (10 * acc + (ch.toNat - '0'.toNat))
      simp only [Char.reduceToNat] at this hle
      omega
    rw [foldWhole, Bool.false_or, appendOverflows_eq_false (by omega) hstep,
      if_neg Bool.false_ne_true, Nat.mul_comm]
    exact ih (fun x hx => hds x (by simp [hx])) hle

theorem readDigitsAt_digits {ds rest : List Char} (hds : ∀ ch ∈ ds, ch.isDigit = true)
    (hr : ∀ ch ∈ rest.head?, ch.isDigit = false) {c : Cursor} (hc : c.rest = ds ++ rest) :
    (readDigitsAt c).1 = ds ∧ (readDigitsAt c).2.rest = rest := by
  have htake : c.rest.takeWhile Char.isDigit = ds := by
    rw [hc, List.takeWhile_append_of_pos hds]
    cases rest with
    | nil => simp
    | cons ch r => simp [List.takeWhile_cons_of_neg, hr ch rfl]
  refine ⟨htake, ?_⟩
  simp only [readDigitsAt]
  rw [htake, hc, List.drop_left]

theorem readNumber_whole (negative : Bool) {n : Nat} (hn : n ≤ significandLimit) {c : Cursor}
    {rest : List Char} (hc : c.rest = Nat.toDigits 10 n ++ rest) (hr : AfterValue rest) :
    ∃ c', readNumber negative c = .ok (wholeNumber negative n, c') ∧ c'.rest = rest := by
  have hdig : ∀ ch ∈ Nat.toDigits 10 n, ch.isDigit = true :=
    fun ch h => Nat.isDigit_of_mem_toDigits (by decide) (by decide) h
  have hfold : foldWhole (0, false, 0) (Nat.toDigits 10 n) = (n, false, 0) := by
    rw [foldWhole_digits _ hdig (by rw [Nat.ofDigitChars_ten_toDigits]; exact hn),
      Nat.ofDigitChars_ten_toDigits]
  rcases Nat.eq_zero_or_pos n with rfl | hpos
  · rw [show Nat.toDigits 10 0 = ['0'] from rfl] at hc hfold
    obtain rfl | ⟨r, rfl | rfl | rfl⟩ := hr
    all_goals
      simp [readNumber, hc, bind, Except.bind, hfold]
  · obtain ⟨d, ds, hds, hd0⟩ := toDigits_head_ne_zero hpos
    have hd : d.isDigit = true := hdig d (by simp [hds])
    have hnd : ∀ ch ∈ rest.head?, ch.isDigit = false := by
      intro ch hch
      rcases hr.head ch hch with rfl | rfl | rfl <;> rfl
    obtain ⟨hread1, hread2⟩ := readDigitsAt_digits hdig hnd hc
    rw [hds] at hc
    obtain rfl | ⟨r, rfl | rfl | rfl⟩ := hr
    all_goals
      simp [readNumber, hc, bind, Except.bind, hd, hread1, hread2, hfold]

/-! ## Scalars -/

/-- A keyword is read by its first letter, then the rest of its word. -/
theorem readsBack_of_word {j : Json} (ch : Char) (ws : List Char)
    (hword : (compact j).toList = ch :: ws)
    (hstep : ∀ {f depth : Nat} {c : Cursor} {r : List Char}, c.rest = ch :: r →
      readValue (f + 1) depth c = (readWord c.advance ws).map fun p => (j, p.2)) :
    ReadsBack j := by
  intro fuel depth c rest hf _ hc _
  cases fuel with
  | zero => simp [← String.length_toList, hword] at hf
  | succ f =>
    rw [hword, List.cons_append] at hc
    obtain ⟨c', hw, hrest⟩ := readWord_prefix ws c.advance rest (by simp [hc])
    exact ⟨c', by rw [hstep hc, hw]; rfl, hrest⟩

theorem readsBack_null : ReadsBack .null :=
  readsBack_of_word 'n' ['u', 'l', 'l'] rfl fun hc => by
    rw [readValue, Cursor.skipBlanks_of_head (by simp [hc])]
    simp [hc]

theorem readsBack_bool (b : Bool) : ReadsBack (.bool b) := by
  cases b with
  | true =>
    exact readsBack_of_word 't' ['r', 'u', 'e'] rfl fun hc => by
      rw [readValue, Cursor.skipBlanks_of_head (by simp [hc])]
      simp [hc]
  | false =>
    exact readsBack_of_word 'f' ['a', 'l', 's', 'e'] rfl fun hc => by
      rw [readValue, Cursor.skipBlanks_of_head (by simp [hc])]
      simp [hc]

theorem readsBack_int {n : Int} (lo : -9223372036854775808 ≤ n)
    (hi : n ≤ 18446744073709551615) :
    ReadsBack (.int n) := by
  intro fuel depth c rest hf _ hc hr
  cases fuel with
  | zero =>
    have : 0 < (compact (.int n)).toList.length := by
      cases n with
      | ofNat m => simp [Int.ofNat_eq_natCast, compact_int_ofNat_toList, Nat.length_toDigits_pos]
      | negSucc m => simp [compact_int_negSucc_toList]
    simp [String.length_toList] at this
    omega
  | succ f =>
  cases n with
  | ofNat m =>
    -- a non-negative integer: its digits, read as a whole number
    simp only [Int.ofNat_eq_natCast] at *
    obtain ⟨d, ds, hds⟩ := List.exists_cons_of_ne_nil (Nat.toDigits_ne_nil (n := m) (b := 10))
    rw [compact_int_ofNat_toList] at hc
    have hd : d.isDigit = true :=
      Nat.isDigit_of_mem_toDigits (b := 10) (n := m) (by decide) (by decide) (by simp [hds])
    obtain ⟨h1, h2, h3, h4, -⟩ := digit_ne_marks hd
    obtain ⟨c', hnum, hrest⟩ :=
      readNumber_whole false (n := m) (by simp [significandLimit]; omega) hc hr
    refine ⟨c', ?_, hrest⟩
    rw [readValue, Cursor.skipBlanks_of_head (by simp [hc, hds]; have := isDigit_toNat hd; omega)]
    simp [hc, hds, h1, h2, h3, h4, hd, hnum, wholeNumber]
  | negSucc m =>
    -- a negative integer: a minus sign, then the digits of its magnitude
    rw [compact_int_negSucc_toList] at hc
    obtain ⟨c', hnum, hrest⟩ := readNumber_whole true (n := m + 1) (c := c.advance)
      (by simp [significandLimit]; omega) (by simp [hc]) hr
    refine ⟨c', ?_, hrest⟩
    rw [readValue, Cursor.skipBlanks_of_head (by simp [hc])]
    have hm : m < 9223372036854775808 := by
      rw [Int.negSucc_eq] at lo
      omega
    simp [hc, hnum, wholeNumber, hm, Int.negSucc_eq]

theorem readsBack_str (s : String) : ReadsBack (.str s) := by
  intro fuel depth c rest hf _ hc _
  have hc' : c.rest = '"' :: (s.toList.flatMap escapeChar ++ '"' :: rest) := by
    rw [hc, show compact (.str s) = quote s from rfl, quote_toList]
    simp
  cases fuel with
  | zero =>
    rw [← String.length_toList, show compact (.str s) = quote s from rfl, quote_toList] at hf
    simp at hf
  | succ f =>
    obtain ⟨c', hread, hrest⟩ := readStringBody_escaped s.toList (c.rest.length + 1) c.advance
      [] rest
      (by
        rw [hc']
        have := length_le_flatMap_escapeChar s.toList
        simp only [List.length_cons, List.length_append]
        omega)
      (by simp [hc'])
    rw [hc'] at hread
    refine ⟨c', ?_, hrest⟩
    rw [readValue, Cursor.skipBlanks_of_head (by simp [hc'])]
    simp only [hc', hread, Except.map, reduceIte, Char.reduceEq, show '"'.isDigit = false from rfl,
      Bool.false_eq_true, List.reverse_nil, List.nil_append, String.ofList_toList]

/-! ## Arrays and objects -/

/-- Array items are read back one by one up to the closing bracket. -/
theorem readItems_back {xs : List Json} (hback : ∀ x ∈ xs, ReadsBack x)
    (hcanon : ∀ x ∈ xs, Canonical x) :
    ∀ (fuel depth : Nat) (c : Cursor) (acc : List Json) (rest : List Char), xs ≠ [] →
      (compactItems xs).length < fuel → nestingItems xs + depth ≤ 127 →
      c.rest = (compactItems xs).toList ++ ']' :: rest →
      ∃ c', readItems fuel depth c acc = .ok (.arr (acc.reverse ++ xs), c') ∧
        c'.rest = rest := by
  induction xs with
  | nil => intro _ _ _ _ _ h; exact absurd rfl h
  | cons x xs ih =>
    intro fuel depth c acc rest _ hf hn hc
    obtain ⟨f, rfl⟩ : ∃ f, fuel = f + 1 := ⟨fuel - 1, by omega⟩
    have hnx : nesting x + depth ≤ 127 :=
      Nat.le_trans (Nat.add_le_add_right (nesting_le_nestingItems List.mem_cons_self) _) hn
    cases xs with
    | nil =>
      -- the last item, then the closing bracket
      have hc' : c.rest = (compact x).toList ++ ']' :: rest := by simpa [compactItems] using hc
      have hlen : (compact x).length ≤ f := by simp [compactItems] at hf; omega
      obtain ⟨c1, hread, hrest⟩ := hback x List.mem_cons_self f depth c (']' :: rest) hlen hnx
        hc' (Or.inr ⟨rest, Or.inr (Or.inl rfl)⟩)
      refine ⟨c1.advance, ?_, by simp [hrest]⟩
      rw [readItems, hread]
      simp [Cursor.skipBlanks_of_head (c := c1) (by simp [hrest]), hrest]
    | cons y ys =>
      -- an item, a comma, and the items after it
      have hc' : c.rest =
          (compact x).toList ++ ',' :: ((compactItems (y :: ys)).toList ++ ']' :: rest) := by
        rw [hc, compactItems_cons_cons]
        simp
      have hlens : (compactItems (x :: y :: ys)).length =
          (compact x).length + 1 + (compactItems (y :: ys)).length := by
        rw [compactItems_cons_cons, String.length_append, String.length_append]
        rfl
      have hlen : (compact x).length ≤ f := by omega
      obtain ⟨c1, hread, hrest⟩ := hback x List.mem_cons_self f depth c _ hlen hnx hc'
        (Or.inr ⟨_, Or.inl rfl⟩)
      obtain ⟨ch, r, hy, hch32, hch1, -⟩ := (hcanon y (by simp)).head
      obtain ⟨t, ht⟩ := compactItems_toList_cons y ys
      have hnext : c1.advance.rest = ch :: (r ++ t ++ ']' :: rest) := by
        simp [hrest, ht, hy]
      have hpos : 0 < (compact x).length := by
        obtain ⟨ch', r', hx', -⟩ := (hcanon x List.mem_cons_self).head
        rw [← String.length_toList, hx']
        simp
      obtain ⟨c', hitems, hrest'⟩ := ih (fun z hz => hback z (List.mem_cons_of_mem x hz))
        (fun z hz => hcanon z (List.mem_cons_of_mem x hz)) f depth c1.advance (x :: acc) rest
        (List.cons_ne_nil y ys) (by omega)
        (by rw [nestingItems] at hn; omega) (by simp [hrest])
      have hs1 : c1.skipBlanks = c1 := Cursor.skipBlanks_of_head (by simp [hrest])
      have hs2 : c1.advance.skipBlanks = c1.advance :=
        Cursor.skipBlanks_of_head (by rw [hnext]; simpa using hch32)
      refine ⟨c', ?_, hrest'⟩
      rw [readItems, hread]
      simp only [hs1, hrest, hs2, hnext]
      split
      next tail heq => exact absurd (List.cons.inj heq).1 hch1
      next => rw [hitems]; simp

/-- A member is read as its key, a colon and its value, the cursor left on what follows. -/
theorem readMember_parts {k : String} {v : Json} (hv : ReadsBack v) {f depth : Nat} {c : Cursor}
    {after : List Char} (hlen : (compact v).length ≤ f) (hn : nesting v + depth ≤ 127)
    (hc : c.rest =
      '"' :: (k.toList.flatMap escapeChar ++ '"' :: ':' :: ((compact v).toList ++ after)))
    (hafter : AfterValue after) :
    ∃ c2 c3, readStringBody (c.rest.length + 1) c.advance [] = .ok (k, c2) ∧ c2.skipBlanks = c2 ∧
      c2.rest = ':' :: ((compact v).toList ++ after) ∧ readValue f depth c2.advance = .ok (v, c3) ∧
      c3.skipBlanks = c3 ∧ c3.rest = after := by
  have hfuel : k.toList.length < c.rest.length + 1 := by
    have := length_le_flatMap_escapeChar k.toList
    rw [hc]
    simp only [List.length_cons, List.length_append]
    omega
  obtain ⟨c2, hkey, hrest2⟩ := readStringBody_escaped k.toList (c.rest.length + 1) c.advance []
    (':' :: ((compact v).toList ++ after)) hfuel (by simp [hc])
  obtain ⟨c3, hval, hrest3⟩ := hv f depth c2.advance after hlen hn (by simp [hrest2]) hafter
  refine ⟨c2, c3, by simpa using hkey, Cursor.skipBlanks_of_head (by simp [hrest2]), hrest2, hval,
    Cursor.skipBlanks_of_head ?_, hrest3⟩
  intro ch hch
  rw [hrest3] at hch
  rcases hafter.head ch hch with rfl | rfl | rfl <;> decide

/-- Object members are read back one by one up to the closing brace. -/
theorem readMembers_back {fields : List (String × Json)}
    (hback : ∀ p ∈ fields, ReadsBack p.2) :
    ∀ (fuel depth : Nat) (c : Cursor) (acc : List (String × Json)) (rest : List Char),
      fields ≠ [] → (compactFields fields).length < fuel → nestingFields fields + depth ≤ 127 →
      c.rest = (compactFields fields).toList ++ '}' :: rest →
      ∃ c', readMembers fuel depth c acc = .ok (sortedObject (acc.reverse ++ fields), c') ∧
        c'.rest = rest := by
  induction fields with
  | nil => intro _ _ _ _ _ h; exact absurd rfl h
  | cons p ps ih =>
    obtain ⟨k, v⟩ := p
    intro fuel depth c acc rest _ hf hn hc
    obtain ⟨f, rfl⟩ : ∃ f, fuel = f + 1 := ⟨fuel - 1, by omega⟩
    have hnv : nesting v + depth ≤ 127 :=
      Nat.le_trans
        (Nat.add_le_add_right (nesting_le_nestingFields (p := (k, v)) List.mem_cons_self) _) hn
    cases ps with
    | nil =>
      -- the last member, then the closing brace
      have hc' : c.rest = '"' :: (k.toList.flatMap escapeChar ++ '"' :: ':' ::
          ((compact v).toList ++ '}' :: rest)) := by
        rw [hc, show compactFields [(k, v)] = quote k ++ ":" ++ compact v from rfl,
          compactMember_toList]
      have hlen : (compact v).length ≤ f := by
        rw [show compactFields [(k, v)] = quote k ++ ":" ++ compact v from rfl,
          String.length_append, String.length_append] at hf
        omega
      obtain ⟨c2, c3, hkey, hs2, hrest2, hval, hs3, hrest3⟩ := readMember_parts
        (hback (k, v) List.mem_cons_self) hlen hnv hc' (Or.inr ⟨rest, Or.inr (Or.inr rfl)⟩)
      refine ⟨c3.advance, ?_, by simp [hrest3]⟩
      rw [readMembers, hkey]
      simp [hs2, hrest2, hval, hs3, hrest3]
    | cons q qs =>
      -- a member, a comma, and the members after it
      have hc' : c.rest = '"' :: (k.toList.flatMap escapeChar ++ '"' :: ':' ::
          ((compact v).toList ++ ',' :: ((compactFields (q :: qs)).toList ++ '}' :: rest))) := by
        rw [hc, compactFields_cons_cons]
        simp [quote_toList]
      have hlens : (compactFields ((k, v) :: q :: qs)).length =
          (quote k).length + 1 + (compact v).length + 1 + (compactFields (q :: qs)).length := by
        rw [compactFields_cons_cons]
        simp only [String.length_append]
        rfl
      have hlen : (compact v).length ≤ f := by omega
      obtain ⟨c2, c3, hkey, hs2, hrest2, hval, hs3, hrest3⟩ := readMember_parts
        (hback (k, v) List.mem_cons_self) hlen hnv hc' (Or.inr ⟨_, Or.inl rfl⟩)
      obtain ⟨t, ht⟩ := compactFields_toList_cons q qs
      have hnext : c3.advance.rest = '"' :: (t ++ '}' :: rest) := by simp [hrest3, ht]
      have hs4 : c3.advance.skipBlanks = c3.advance :=
        Cursor.skipBlanks_of_head (by rw [hnext]; simp)
      obtain ⟨c', hmem, hrest'⟩ := ih (fun p hp => hback p (List.mem_cons_of_mem _ hp))
        f depth c3.advance ((k, v) :: acc) rest
        (List.cons_ne_nil q qs) (by omega) (by rw [nestingFields] at hn; omega)
        (by simp [hrest3])
      refine ⟨c', ?_, hrest'⟩
      rw [readMembers, hkey]
      simp [hs2, hrest2, hval, hs3, hrest3, hs4, ht, hmem]

/-- A key above every key of a sorted list of members goes last. -/
theorem insertSorted_of_lt {k : String} {v : Json} :
    ∀ {acc : List (String × Json)}, (∀ p ∈ acc, p.1 < k) →
      insertSorted k v acc = acc ++ [(k, v)]
  | [], _ => rfl
  | (k', v') :: rest, h => by
    have hk : k' < k := h (k', v') List.mem_cons_self
    rw [insertSorted, if_neg (ne_of_gt hk), if_neg (not_lt_of_gt hk),
      insertSorted_of_lt (fun p hp => h p (List.mem_cons_of_mem _ hp))]
    rfl

theorem foldl_insertSorted_of_sorted :
    ∀ (fields acc : List (String × Json)), ((acc ++ fields).map (·.1)).Pairwise (· < ·) →
      fields.foldl (fun acc p => insertSorted p.1 p.2 acc) acc = acc ++ fields
  | [], acc, _ => by simp
  | p :: ps, acc, h => by
    have hlt : ∀ q ∈ acc, q.1 < p.1 := by
      intro q hq
      rw [List.map_append, List.pairwise_append] at h
      exact h.2.2 q.1 (List.mem_map_of_mem hq) p.1 (by simp)
    rw [List.foldl_cons, insertSorted_of_lt hlt,
      foldl_insertSorted_of_sorted ps (acc ++ [p]) (by simpa using h)]
    simp

/-- An object whose keys are strictly sorted is kept as it is. -/
theorem sortedObject_of_sorted {fields : List (String × Json)}
    (h : (fields.map (·.1)).Pairwise (· < ·)) : sortedObject fields = .obj fields := by
  unfold sortedObject
  exact congrArg Json.obj (foldl_insertSorted_of_sorted fields [] (by simpa using h))

theorem readsBack_arr {items : List Json} (hback : ∀ x ∈ items, ReadsBack x)
    (hcanon : ∀ x ∈ items, Canonical x) : ReadsBack (.arr items) := by
  intro fuel depth c rest hf hn hc _
  have hc' : c.rest = '[' :: ((compactItems items).toList ++ ']' :: rest) := by
    rw [hc, compact_arr_toList]
    simp
  have hlen : (compact (.arr items)).length = (compactItems items).length + 2 := by
    rw [← String.length_toList, compact_arr_toList]
    simp [String.length_toList]
  obtain ⟨f, rfl⟩ : ∃ f, fuel = f + 1 := ⟨fuel - 1, by omega⟩
  rw [nesting] at hn
  have hdepth : ¬ depth ≥ 127 := by omega
  rw [readValue, Cursor.skipBlanks_of_head (by simp [hc'])]
  cases items with
  | nil =>
    -- the empty array
    have hc0 : c.rest = '[' :: ']' :: rest := hc'
    refine ⟨c.advance.advance, ?_, by simp [hc0]⟩
    simp [hc0, hdepth, Cursor.skipBlanks_of_head (c := c.advance) (by simp [hc0])]
  | cons y ys =>
    obtain ⟨ch, r, hy, hch32, hch1, -⟩ := (hcanon y List.mem_cons_self).head
    obtain ⟨t, ht⟩ := compactItems_toList_cons y ys
    have hnext : c.advance.rest = ch :: (r ++ t ++ ']' :: rest) := by simp [hc', ht, hy]
    have hs : c.advance.skipBlanks = c.advance :=
      Cursor.skipBlanks_of_head (by rw [hnext]; simpa using hch32)
    obtain ⟨c', hitems, hrest⟩ := readItems_back hback hcanon f (depth + 1) c.advance [] rest
      (List.cons_ne_nil y ys) (by omega) (by omega)
      (by simp [hc'])
    refine ⟨c', ?_, hrest⟩
    simp only [hc', hdepth, hs, hnext]
    simp only [reduceIte, Char.reduceEq, show '['.isDigit = false from rfl, Bool.false_eq_true]
    split
    next tail heq => exact absurd (List.cons.inj heq).1 hch1
    next heq => simp at heq
    next => simpa using hitems

theorem readsBack_obj {fields : List (String × Json)} (hback : ∀ p ∈ fields, ReadsBack p.2)
    (sorted : (fields.map (·.1)).Pairwise (· < ·)) : ReadsBack (.obj fields) := by
  intro fuel depth c rest hf hn hc _
  have hc' : c.rest = '{' :: ((compactFields fields).toList ++ '}' :: rest) := by
    rw [hc, compact_obj_toList]
    simp
  have hlen : (compact (.obj fields)).length = (compactFields fields).length + 2 := by
    rw [← String.length_toList, compact_obj_toList]
    simp [String.length_toList]
  obtain ⟨f, rfl⟩ : ∃ f, fuel = f + 1 := ⟨fuel - 1, by omega⟩
  rw [nesting] at hn
  have hdepth : ¬ depth ≥ 127 := by omega
  rw [readValue, Cursor.skipBlanks_of_head (by simp [hc'])]
  cases fields with
  | nil =>
    -- the empty object
    have hc0 : c.rest = '{' :: '}' :: rest := hc'
    refine ⟨c.advance.advance, ?_, by simp [hc0]⟩
    simp [hc0, hdepth, Cursor.skipBlanks_of_head (c := c.advance) (by simp [hc0])]
  | cons p ps =>
    obtain ⟨t, ht⟩ := compactFields_toList_cons p ps
    have hnext : c.advance.rest = '"' :: (t ++ '}' :: rest) := by simp [hc', ht]
    have hs : c.advance.skipBlanks = c.advance := Cursor.skipBlanks_of_head (by rw [hnext]; simp)
    obtain ⟨c', hmem, hrest⟩ := readMembers_back hback f (depth + 1) c.advance [] rest
      (List.cons_ne_nil p ps) (by omega) (by omega)
      (by simp [hc'])
    rw [List.reverse_nil, List.nil_append, sortedObject_of_sorted sorted] at hmem
    refine ⟨c', ?_, hrest⟩
    simp only [hc', hdepth, hs, hnext]
    simp only [reduceIte, Char.reduceEq, show '{'.isDigit = false from rfl, Bool.false_eq_true]
    exact hmem

/-- Every canonical value is read back from its compact text. -/
theorem Canonical.readsBack {j : Json} (hj : Canonical j) : ReadsBack j := by
  induction hj with
  | null => exact readsBack_null
  | bool b => exact readsBack_bool b
  | int n lo hi => exact readsBack_int lo hi
  | str s => exact readsBack_str s
  | arr items h ih => exact readsBack_arr ih h
  | obj fields sorted _ ih => exact readsBack_obj ih sorted

/-! ## Whole texts -/

/-- The compact text of a canonical value that nests at most 127 deep parses as the value. -/
theorem parse_compact {j : Json} (hj : Canonical j) (hn : nesting j ≤ 127) :
    parse (compact j) = .ok j := by
  obtain ⟨c', hread, hrest⟩ := hj.readsBack (2 * (compact j).toList.length + 2) 0
    ⟨(compact j).toList, 1, 0⟩ [] (by simp [String.length_toList]; omega) hn
    (by simp) (Or.inl rfl)
  have hs : c'.skipBlanks = c' := Cursor.skipBlanks_of_head (by simp [hrest])
  unfold parse
  simp only [hread, hs, hrest]

/-- The compact text of a canonical object that nests at most 127 deep reads back as its
members. -/
theorem parseObject_compact {fields : List (String × Json)} (hj : Canonical (.obj fields))
    (hn : nesting (.obj fields) ≤ 127) : parseObject (compact (.obj fields)) = .ok fields := by
  -- the text opens with a brace, so the whole text is parsed
  have hhead : (skipBlanksAux (compact (.obj fields)).toList 1 0).rest =
      '{' :: ((compactFields fields).toList ++ ['}']) := by
    rw [compact_obj_toList]
    simp [skipBlanksAux]
  unfold parseObject
  simp only [hhead, parse_compact hj hn]

end SnapshotAgent.Json
