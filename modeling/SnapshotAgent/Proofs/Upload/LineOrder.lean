import SnapshotAgent.Proofs.Upload.Verdict
import SnapshotAgent.Proofs.Text.Join
/-!
# The order of a report's lines

The tool's report is a list of `key: value` lines. The reader takes them one after another, and a
line acts only on the fields of its key: a status line on the status, start time, exit code and
running flag, a progress line on the percentage and the chunk counts, and the three other keys
each on a field of its own. So when no key the reader acts on comes twice, the order of the lines
does not matter: every field but the raw text comes out the same.

## The argument

* Each kind of line is a plain update of its own fields (`withStatus_eq`, `withProgress_eq`),
  so lines of different keys commute (`takeEntry_comm`, `withLine_comm`), and a fold over lines
  whose keys are all different is unchanged by a permutation (`foldl_withLine_perm`).
* The report is trimmed before it is split into lines. Trimming drops whole blank lines at the
  ends and blanks around the text, and a line reads the same with blanks added around it, so the
  lines of the trimmed report act as the report's own lines do (`foldl_lines_trim_joinLines`).
* The check for a sentinel runs over the whole lower-cased report. Lower-casing never looks
  across a line feed or a blank, and no sentinel holds a line feed or starts or ends with a
  blank, so a report holds a sentinel exactly when one of its lines does
  (`namesNoJob_joinLines_iff`), whatever the order.

## Main statement

`parse_agrees_under_line_reordering`: for lines without line feeds whose keys the reader acts on
are pairwise different, any reordering gives a snapshot that differs at most in its raw text.
-/

namespace SnapshotAgent.Upload

open SnapshotAgent.Text SnapshotAgent.Number SnapshotAgent.Time

/-! ## A line as an update of its fields -/

/-- The start time after a status value: the stamp's, when the value has one. -/
def startedAfter (old : Option Instant) (value : List Char) : Option Instant :=
  match matchTimestamped value with
  | some (stamp, _) => Instant.readPlain (String.ofList stamp)
  | none => old

/-- The exit code a status value names, read after its stamp. -/
def exitCodeOf (value : List Char) : Option Int :=
  (findExitCode (statusText value).toList).bind fun ds => readOk (readI32 (String.ofList ds))

theorem withStatus_eq (s : Snapshot) (v : List Char) :
    s.withStatus v =
      { s with statusLine := some (String.ofList v), startedAt := startedAfter s.startedAt v,
               exitCode := exitCodeOf v, isRunning := runningAfter s.isRunning (statusText v) } := by
  unfold Snapshot.withStatus startedAfter exitCodeOf runningAfter statusText mentionsRunning
    mentionsTerminal
  rcases matchTimestamped v with _ | ⟨stamp, rest⟩ <;> simp

/-- The percentage after a progress value. -/
def percentAfter (old : Option Float) (value : List Char) : Option Float :=
  match splitFirst '%' value with
  | some (before, _) => parsePercent (String.ofList before)
  | none => old

/-- The chunk counts after a progress value: both read, or both kept. -/
def chunksAfter (old : Option Int × Option Int) (value : List Char) : Option Int × Option Int :=
  match findChunks value with
  | some (done, total) =>
    match readOk (readI64 (String.ofList done)), readOk (readI64 (String.ofList total)) with
    | some c, some t => if c ≤ t then (some c, some t) else old
    | _, _ => old
  | none => old

theorem withProgress_eq (s : Snapshot) (w : List Char) :
    s.withProgress w =
      { s with progressPercent := percentAfter s.progressPercent w,
               chunksCompleted := (chunksAfter (s.chunksCompleted, s.chunksTotal) w).1,
               chunksTotal := (chunksAfter (s.chunksCompleted, s.chunksTotal) w).2 } := by
  unfold Snapshot.withProgress percentAfter chunksAfter
  rcases splitFirst '%' w with _ | ⟨before, after⟩ <;>
  rcases findChunks w with _ | ⟨done, total⟩ <;> dsimp only <;>
  rcases readOk (readI64 (String.ofList done)) with _ | c <;>
  rcases readOk (readI64 (String.ofList total)) with _ | t <;> dsimp only <;>
  (try split) <;> rfl

/-- The keys the reader acts on. -/
def readKeys : List String := ["status", "progress", "restart_count", "upgrade_blocking", "logs"]

/-- A line's key and value: the text before the first colon, trimmed and in lower case, and the
trimmed text after it. -/
def lineEntry (line : List Char) : Option (String × List Char) :=
  (splitFirst ':' line).map fun (key, raw) =>
    (lower (trim (String.ofList key)), (trim (String.ofList raw)).toList)

/-- The key of a line, when it is one the reader acts on. -/
def lineKey (line : List Char) : Option String :=
  (lineEntry line).bind fun (k, _) => if k ∈ readKeys then some k else none

/-- What the reader does with one key and its value. -/
def Snapshot.takeEntry (s : Snapshot) (k : String) (value : List Char) : Snapshot :=
  if k = "status" then s.withStatus value
  else if k = "progress" then s.withProgress value
  else if k = "restart_count" then { s with restartCount := some (String.ofList value) }
  else if k = "upgrade_blocking" then { s with upgradeBlocking := some (String.ofList value) }
  else if k = "logs" then { s with logs := some (String.ofList value) }
  else s

theorem withLine_eq (s : Snapshot) (line : List Char) :
    s.withLine line = match lineEntry line with
      | some (k, v) => s.takeEntry k v
      | none => s := by
  unfold Snapshot.withLine lineEntry
  rcases splitFirst ':' line with _ | ⟨key, raw⟩ <;> rfl

section Keys

variable (s : Snapshot) (v : List Char)

@[simp] theorem takeEntry_status : s.takeEntry "status" v = s.withStatus v := rfl

@[simp] theorem takeEntry_progress : s.takeEntry "progress" v = s.withProgress v := rfl

@[simp] theorem takeEntry_restartCount :
    s.takeEntry "restart_count" v = { s with restartCount := some (String.ofList v) } := rfl

@[simp] theorem takeEntry_upgradeBlocking :
    s.takeEntry "upgrade_blocking" v = { s with upgradeBlocking := some (String.ofList v) } := rfl

@[simp] theorem takeEntry_logs : s.takeEntry "logs" v = { s with logs := some (String.ofList v) } :=
  rfl

theorem takeEntry_of_not_mem {k : String} (hk : k ∉ readKeys) : s.takeEntry k v = s := by
  simp only [readKeys, List.mem_cons, List.not_mem_nil, or_false, not_or] at hk
  obtain ⟨h1, h2, h3, h4, h5⟩ := hk
  simp only [Snapshot.takeEntry, if_neg h1, if_neg h2, if_neg h3, if_neg h4, if_neg h5]

end Keys

/-- Entries with different keys act on different fields, so they commute. -/
theorem takeEntry_comm {k k' : String} (hne : k ≠ k') (s : Snapshot) (v v' : List Char) :
    (s.takeEntry k v).takeEntry k' v' = (s.takeEntry k' v').takeEntry k v := by
  -- an entry with a key the reader ignores changes nothing
  by_cases hk : k ∈ readKeys
  swap
  · rw [takeEntry_of_not_mem _ _ hk, takeEntry_of_not_mem _ _ hk]
  by_cases hk' : k' ∈ readKeys
  swap
  · rw [takeEntry_of_not_mem _ _ hk', takeEntry_of_not_mem _ _ hk']
  -- two of the five keys: each update is a plain update of its own fields
  simp only [readKeys, List.mem_cons, List.not_mem_nil, or_false] at hk hk'
  rcases hk with rfl | rfl | rfl | rfl | rfl <;> rcases hk' with rfl | rfl | rfl | rfl | rfl <;>
  simp only [takeEntry_status, takeEntry_progress, takeEntry_restartCount,
    takeEntry_upgradeBlocking, takeEntry_logs, withStatus_eq, withProgress_eq] <;>
  exact absurd rfl hne

/-- A line whose key the reader does not act on changes nothing. -/
theorem withLine_of_lineKey_none {line : List Char} (h : lineKey line = none) (s : Snapshot) :
    s.withLine line = s := by
  rw [withLine_eq]
  unfold lineKey at h
  rcases he : lineEntry line with _ | ⟨k, v⟩
  · rfl
  · rw [he] at h
    have hk : k ∉ readKeys := fun hk => by simp [hk] at h
    exact takeEntry_of_not_mem s v hk

theorem lineEntry_of_lineKey {line : List Char} {k : String} (h : lineKey line = some k) :
    ∃ v, lineEntry line = some (k, v) := by
  unfold lineKey at h
  rcases he : lineEntry line with _ | ⟨k', v⟩
  · rw [he] at h
    cases h
  · rw [he] at h
    by_cases hk : k' ∈ readKeys
    · simp only [Option.bind_some, hk, if_true, Option.some.injEq] at h
      exact ⟨v, by rw [h]⟩
    · simp [hk] at h

/-- Two lines commute unless they carry the same key the reader acts on. -/
theorem withLine_comm {a b : List Char} (h : ∀ k, lineKey a = some k → lineKey b ≠ some k)
    (s : Snapshot) : (s.withLine a).withLine b = (s.withLine b).withLine a := by
  rcases ha : lineKey a with _ | k
  · rw [withLine_of_lineKey_none ha, withLine_of_lineKey_none ha]
  rcases hb : lineKey b with _ | k'
  · rw [withLine_of_lineKey_none hb, withLine_of_lineKey_none hb]
  obtain ⟨v, hv⟩ := lineEntry_of_lineKey ha
  obtain ⟨v', hv'⟩ := lineEntry_of_lineKey hb
  have hne : k ≠ k' := fun hkk => h k ha (hkk ▸ hb)
  simp only [withLine_eq, hv, hv']
  exact takeEntry_comm hne s v v'

/-- Keys that are pairwise different across a list of lines. -/
theorem lineKey_ne_of_nodup {ls : List (List Char)} (hnd : (ls.filterMap lineKey).Nodup)
    {a b : List Char} (ha : a ∈ ls) (hb : b ∈ ls) (hab : a ≠ b) :
    ∀ k, lineKey a = some k → lineKey b ≠ some k := by
  intro k hka hkb
  -- `a` first, then the rest of the lines, which still hold `b`
  have hperm := (List.perm_cons_erase ha).filterMap lineKey
  have hnd' := hperm.nodup_iff.1 hnd
  rw [List.filterMap_cons, hka] at hnd'
  exact (List.nodup_cons.1 hnd').1
    (List.mem_filterMap.2 ⟨b, List.mem_erase_of_ne (Ne.symm hab) |>.2 hb, hkb⟩)

/-- Reading lines with pairwise different keys does not depend on their order. -/
theorem foldl_withLine_perm {ls ls' : List (List Char)} (hperm : ls.Perm ls')
    (hnd : (ls.filterMap lineKey).Nodup) (s : Snapshot) :
    ls.foldl Snapshot.withLine s = ls'.foldl Snapshot.withLine s := by
  refine hperm.foldl_eq' (fun a ha b hb z => ?_) s
  by_cases hab : a = b
  · rw [hab]
  · exact withLine_comm (lineKey_ne_of_nodup hnd ha hb hab) z

/-! ## Blanks around a line -/

theorem trim_ofList_blank_append {pre : List Char} (hpre : pre.all isBlank = true)
    (x : List Char) : trim (String.ofList (pre ++ x)) = trim (String.ofList x) := by
  rw [← String.toList_inj, toList_trim, toList_trim, String.toList_ofList, String.toList_ofList,
    dropBlanks_append_of_blank hpre]

theorem trim_ofList_append_blank {suf : List Char} (hsuf : suf.all isBlank = true)
    (x : List Char) : trim (String.ofList (x ++ suf)) = trim (String.ofList x) := by
  rw [← String.toList_inj, toList_trim, toList_trim, String.toList_ofList, String.toList_ofList]
  by_cases hx : x.all isBlank = true
  · rw [dropBlanks_append_of_blank hx, (dropBlanks_eq_nil_iff _).2 hsuf,
      (dropBlanks_eq_nil_iff _).2 hx]
  · rw [dropBlanks_append_of_not_blank (by simpa using hx), dropTrailingBlanks_append, if_pos hsuf]

theorem colon_not_blank : isBlank ':' = false := by decide

theorem splitFirst_blank_append {pre : List Char} (hpre : pre.all isBlank = true) (x : List Char) :
    splitFirst ':' (pre ++ x) = (splitFirst ':' x).map fun (a, b) => (pre ++ a, b) := by
  induction pre with
  | nil => simp
  | cons p pre ih =>
    simp only [List.all_cons, Bool.and_eq_true] at hpre
    have hp : p ≠ ':' := fun h => by rw [h, colon_not_blank] at hpre; exact absurd hpre.1 (by decide)
    simp only [List.cons_append, splitFirst, if_neg hp, ih hpre.2, Option.map_map]
    rfl

theorem splitFirst_blank {suf : List Char} (hsuf : suf.all isBlank = true) :
    splitFirst ':' suf = none := by
  induction suf with
  | nil => rfl
  | cons d suf ih =>
    simp only [List.all_cons, Bool.and_eq_true] at hsuf
    have hd : d ≠ ':' := fun h => by rw [h, colon_not_blank] at hsuf; exact absurd hsuf.1 (by decide)
    simp [splitFirst, hd, ih hsuf.2]

theorem splitFirst_append_blank {suf : List Char} (hsuf : suf.all isBlank = true) (x : List Char) :
    splitFirst ':' (x ++ suf) = (splitFirst ':' x).map fun (a, b) => (a, b ++ suf) := by
  induction x with
  | nil =>
    rw [List.nil_append, splitFirst_blank hsuf]
    rfl
  | cons c x ih =>
    simp only [List.cons_append, splitFirst]
    split
    · rfl
    · rw [ih, Option.map_map, Option.map_map]
      rfl

theorem lineEntry_blank_append {pre : List Char} (hpre : pre.all isBlank = true) (x : List Char) :
    lineEntry (pre ++ x) = lineEntry x := by
  simp only [lineEntry, splitFirst_blank_append hpre, Option.map_map, Function.comp_def,
    trim_ofList_blank_append hpre]

theorem lineEntry_append_blank {suf : List Char} (hsuf : suf.all isBlank = true) (x : List Char) :
    lineEntry (x ++ suf) = lineEntry x := by
  simp only [lineEntry, splitFirst_append_blank hsuf, Option.map_map, Function.comp_def,
    trim_ofList_append_blank hsuf]

theorem withLine_blank_append {pre : List Char} (hpre : pre.all isBlank = true) (s : Snapshot)
    (x : List Char) : s.withLine (pre ++ x) = s.withLine x := by
  rw [withLine_eq, withLine_eq, lineEntry_blank_append hpre]

theorem withLine_append_blank {suf : List Char} (hsuf : suf.all isBlank = true) (s : Snapshot)
    (x : List Char) : s.withLine (x ++ suf) = s.withLine x := by
  rw [withLine_eq, withLine_eq, lineEntry_append_blank hsuf]

theorem withLine_blank {x : List Char} (hx : x.all isBlank = true) (s : Snapshot) :
    s.withLine x = s := by
  rw [← List.append_nil x, withLine_blank_append hx]
  rfl

theorem withLine_dropBlanks (s : Snapshot) (x : List Char) :
    s.withLine (dropBlanks x) = s.withLine x := by
  obtain ⟨pre, hx, hpre⟩ := dropBlanks_suffix x
  conv_rhs => rw [hx]
  exact (withLine_blank_append (by simpa using hpre) s _).symm

theorem withLine_dropTrailingBlanks (s : Snapshot) (x : List Char) :
    s.withLine (dropTrailingBlanks x) = s.withLine x := by
  obtain ⟨suf, hx, hsuf⟩ := dropBlanks_suffix x.reverse
  have hx' : x = dropTrailingBlanks x ++ suf.reverse := by
    rw [dropTrailingBlanks, ← List.reverse_append, ← hx, List.reverse_reverse]
  conv_rhs => rw [hx']
  exact (withLine_append_blank (by simpa using hsuf) s _).symm

theorem withLine_dropReturn (s : Snapshot) (x : List Char) :
    s.withLine (dropReturn x) = s.withLine x := by
  unfold dropReturn
  split
  · rename_i rest hrest
    have hx : x = rest.reverse ++ ['\r'] := by
      rw [← List.reverse_reverse x, hrest, List.reverse_cons]
    conv_rhs => rw [hx]
    exact (withLine_append_blank (by decide) s _).symm
  · rfl

/-! ## The lines of a trimmed report -/

theorem foldl_withLine_blank {ls : List (List Char)} (h : ls.all (·.all isBlank) = true)
    (s : Snapshot) : ls.foldl Snapshot.withLine s = s := by
  induction ls generalizing s with
  | nil => rfl
  | cons l ls ih =>
    simp only [List.all_cons, Bool.and_eq_true] at h
    rw [List.foldl_cons, withLine_blank h.1, ih h.2]

theorem foldl_withLine_dropBlankStart : ∀ (ls : List (List Char)) (s : Snapshot),
    (dropBlankStart ls).foldl Snapshot.withLine s = ls.foldl Snapshot.withLine s
  | [], _ => rfl
  | [l], s => by simp [dropBlankStart, withLine_dropBlanks]
  | l :: m :: ms, s => by
    rw [dropBlankStart_cons_cons]
    split
    · rename_i hl
      rw [foldl_withLine_dropBlankStart (m :: ms), List.foldl_cons (a := l), withLine_blank hl]
    · simp only [List.foldl_cons, withLine_dropBlanks]

theorem foldl_withLine_dropBlankEnd : ∀ (ls : List (List Char)) (s : Snapshot),
    (dropBlankEnd ls).foldl Snapshot.withLine s = ls.foldl Snapshot.withLine s
  | [], _ => rfl
  | [l], s => by simp [dropBlankEnd, withLine_dropTrailingBlanks]
  | l :: m :: ms, s => by
    rw [dropBlankEnd_cons_cons]
    split
    · rename_i hm
      rw [List.foldl_cons (a := l), foldl_withLine_blank hm, List.foldl_cons, List.foldl_nil,
        withLine_dropTrailingBlanks]
    · rw [List.foldl_cons, List.foldl_cons (a := l), foldl_withLine_dropBlankEnd (m :: ms)]

theorem foldl_withLine_lines_joinLines : ∀ (ls : List (List Char)), (∀ l ∈ ls, '\n' ∉ l) →
    ∀ s : Snapshot, (lines (joinLines ls)).foldl Snapshot.withLine s = ls.foldl Snapshot.withLine s
  | [], _, _ => rfl
  | [l], hnl, s => by
    rw [lines_joinLines_singleton (hnl l List.mem_cons_self)]
    split
    · rename_i hl
      subst hl
      rfl
    · simp [withLine_dropReturn]
  | l :: m :: ms, hnl, s => by
    rw [lines_joinLines_cons_cons (hnl l List.mem_cons_self), List.foldl_cons, List.foldl_cons,
      withLine_dropReturn, foldl_withLine_lines_joinLines (m :: ms)
        (fun l' hl' => hnl l' (List.mem_cons_of_mem l hl'))]

theorem not_mem_dropBlanks {c : Char} {x : List Char} (h : c ∉ x) : c ∉ dropBlanks x := by
  obtain ⟨pre, hx, -⟩ := dropBlanks_suffix x
  exact fun h' => h (hx ▸ List.mem_append_right pre h')

theorem not_mem_dropTrailingBlanks {c : Char} {x : List Char} (h : c ∉ x) :
    c ∉ dropTrailingBlanks x := by
  simp only [dropTrailingBlanks, List.mem_reverse]
  exact not_mem_dropBlanks (by simpa using h)

theorem not_mem_dropBlankStart {c : Char} : ∀ {ls : List (List Char)}, (∀ l ∈ ls, c ∉ l) →
    ∀ l ∈ dropBlankStart ls, c ∉ l
  | [], _ => by simp [dropBlankStart]
  | [l], h => by simpa [dropBlankStart] using not_mem_dropBlanks (h l List.mem_cons_self)
  | l :: m :: ms, h => by
    rw [dropBlankStart_cons_cons]
    split
    · exact not_mem_dropBlankStart (fun l' hl' => h l' (List.mem_cons_of_mem l hl'))
    · intro l' hl'
      rcases List.mem_cons.1 hl' with rfl | hl'
      · exact not_mem_dropBlanks (h l List.mem_cons_self)
      · exact h l' (List.mem_cons_of_mem l hl')

theorem not_mem_dropBlankEnd {c : Char} : ∀ {ls : List (List Char)}, (∀ l ∈ ls, c ∉ l) →
    ∀ l ∈ dropBlankEnd ls, c ∉ l
  | [], _ => by simp [dropBlankEnd]
  | [l], h => by simpa [dropBlankEnd] using not_mem_dropTrailingBlanks (h l List.mem_cons_self)
  | l :: m :: ms, h => by
    rw [dropBlankEnd_cons_cons]
    split
    · simpa using not_mem_dropTrailingBlanks (h l List.mem_cons_self)
    · intro l' hl'
      rcases List.mem_cons.1 hl' with rfl | hl'
      · exact h l' List.mem_cons_self
      · exact not_mem_dropBlankEnd (fun l' hl' => h l' (List.mem_cons_of_mem l hl')) l' hl'

/-- The lines of a trimmed report act as the report's own lines do. -/
theorem foldl_lines_trim_joinLines {ls : List (List Char)} (hnl : ∀ l ∈ ls, '\n' ∉ l)
    (output : String) (hout : output.toList = joinLines ls) (s : Snapshot) :
    (lines (trim output).toList).foldl Snapshot.withLine s = ls.foldl Snapshot.withLine s := by
  rw [toList_trim, hout, dropBlanks_joinLines, dropTrailingBlanks_joinLines,
    foldl_withLine_lines_joinLines _ (not_mem_dropBlankEnd (not_mem_dropBlankStart hnl)),
    foldl_withLine_dropBlankEnd, foldl_withLine_dropBlankStart]

/-! ## Sentinels -/

/-- A sentinel occurs in the lower case of a list of characters. -/
def SentinelIn (cs : List Char) : Prop := ∃ t ∈ sentinels, t.toList <:+: lowerChars [] cs

theorem hasSentinel_iff (text : String) : hasSentinel text = true ↔ SentinelIn text.toList := by
  simp [hasSentinel, SentinelIn, String.occursIn, lower, occursIn_iff_infix]

/-- No sentinel is empty, holds a line feed, or starts or ends with a blank. -/
theorem sentinels_shape : ∀ t ∈ sentinels, t.toList ≠ [] ∧ '\n' ∉ t.toList ∧
    (∀ c ∈ t.toList.head?, isBlank c = false) ∧ (∀ c ∈ t.toList.getLast?, isBlank c = false) := by
  simp [sentinels, isBlank]

theorem sentinelIn_trim (cs : List Char) :
    SentinelIn (dropTrailingBlanks (dropBlanks cs)) ↔ SentinelIn cs := by
  obtain ⟨pre, hcs, hpre⟩ := dropBlanks_suffix cs
  obtain ⟨suf, hrev, hsuf⟩ := dropBlanks_suffix (dropBlanks cs).reverse
  have hmid : dropBlanks cs = dropTrailingBlanks (dropBlanks cs) ++ suf.reverse := by
    rw [dropTrailingBlanks, ← List.reverse_append, ← hrev, List.reverse_reverse]
  have hpre' : pre.all isBlank = true := by simpa using hpre
  have hsuf' : suf.reverse.all isBlank = true := by simpa using hsuf
  -- the lower case of the text is the lower case of its trimmed part between the same blanks
  have hlow : lowerChars [] cs =
      pre ++ lowerChars [] (dropTrailingBlanks (dropBlanks cs)) ++ suf.reverse := by
    conv_lhs => rw [hcs, hmid]
    rw [lowerChars_blank_append hpre', lowerChars_append_blank hsuf', List.append_assoc]
  unfold SentinelIn
  rw [hlow]
  refine exists_congr fun t => and_congr_right fun ht => ⟨fun h => ?_, fun h => ?_⟩
  · exact (h.trans List.infix_append_right).trans List.infix_append_left
  · obtain ⟨-, -, hhead, hlast⟩ := sentinels_shape t ht
    exact infix_of_infix_blank_append hpre' hhead (infix_of_infix_append_blank hsuf' hlast
      (by simpa [List.append_assoc] using h))

theorem sentinelIn_joinLines : ∀ ls : List (List Char),
    SentinelIn (joinLines ls) ↔ ∃ l ∈ ls, SentinelIn l
  | [] => by
    simp only [SentinelIn, joinLines_nil, lowerChars, List.infix_nil, List.not_mem_nil,
      false_and, exists_false, iff_false]
    rintro ⟨t, ht, h⟩
    exact (sentinels_shape t ht).1 h
  | [l] => by simp
  | l :: m :: ms => by
    rw [joinLines_cons_cons]
    have hsplit : ∀ t ∈ sentinels, t.toList <:+: lowerChars [] (l ++ '\n' :: joinLines (m :: ms)) ↔
        t.toList <:+: lowerChars [] l ∨ t.toList <:+: lowerChars [] (joinLines (m :: ms)) :=
      fun t ht => by
        rw [lowerChars_split isBlank_newline]
        exact infix_append_cons_iff (sentinels_shape t ht).2.1
    have ih := sentinelIn_joinLines (m :: ms)
    unfold SentinelIn at ih ⊢
    simp only [List.mem_cons, exists_eq_or_imp] at ih ⊢
    constructor
    · rintro ⟨t, ht, h⟩
      rcases (hsplit t ht).1 h with h | h
      · exact .inl ⟨t, ht, h⟩
      · exact .inr (ih.1 ⟨t, ht, h⟩)
    · rintro (⟨t, ht, h⟩ | h)
      · exact ⟨t, ht, (hsplit t ht).2 (.inl h)⟩
      · obtain ⟨t, ht, h⟩ := ih.2 h
        exact ⟨t, ht, (hsplit t ht).2 (.inr h)⟩

/-- A report of lines names no job exactly when all its lines are blank or one of them holds a
sentinel. -/
theorem namesNoJob_joinLines_iff {ls : List (List Char)} (output : String)
    (hout : output.toList = joinLines ls) :
    namesNoJob output = true ↔ ls.all (·.all isBlank) = true ∨ ∃ l ∈ ls, SentinelIn l := by
  rw [namesNoJob, Bool.or_eq_true, trim_isEmpty_iff, hasSentinel_iff, toList_trim,
    sentinelIn_trim, hout, all_isBlank_joinLines, sentinelIn_joinLines]

/-! ## The raw text -/

/-- A snapshot with its raw text left out. -/
def Snapshot.withoutRaw (s : Snapshot) : Snapshot := { s with rawOutput := "" }

theorem takeEntry_withoutRaw (s : Snapshot) (k : String) (v : List Char) :
    (s.takeEntry k v).withoutRaw = s.withoutRaw.takeEntry k v := by
  by_cases hk : k ∈ readKeys
  · simp only [readKeys, List.mem_cons, List.not_mem_nil, or_false] at hk
    rcases hk with rfl | rfl | rfl | rfl | rfl <;>
    simp only [takeEntry_status, takeEntry_progress, takeEntry_restartCount,
      takeEntry_upgradeBlocking, takeEntry_logs, withStatus_eq, withProgress_eq,
      Snapshot.withoutRaw]
  · rw [takeEntry_of_not_mem _ _ hk, takeEntry_of_not_mem _ _ hk]

/-- The reader never looks at the raw text. -/
theorem foldl_withLine_withoutRaw (ls : List (List Char)) (s : Snapshot) :
    (ls.foldl Snapshot.withLine s).withoutRaw = ls.foldl Snapshot.withLine s.withoutRaw := by
  induction ls generalizing s with
  | nil => rfl
  | cons l ls ih =>
    rw [List.foldl_cons, List.foldl_cons, ih, withLine_eq, withLine_eq]
    congr 1
    rcases lineEntry l with _ | ⟨k, v⟩
    · rfl
    · exact takeEntry_withoutRaw s k v

/-- Apart from its raw text, a snapshot is the idle one or the fold of the report's lines. -/
theorem parse_withoutRaw (output : String) :
    (Snapshot.parse output).withoutRaw =
      if namesNoJob output then {} else (lines (trim output).toList).foldl Snapshot.withLine {} := by
  by_cases h : namesNoJob output = true
  · rw [(parse_of_namesNoJob h).1, if_pos h]
    rfl
  · have hparse : Snapshot.parse output =
        (lines (trim output).toList).foldl Snapshot.withLine { rawOutput := trim output } := by
      unfold namesNoJob at h
      simp [Snapshot.parse, h]
    rw [hparse, if_neg h, foldl_withLine_withoutRaw]
    rfl

/-! ## Reordering the lines -/

/-- Reordering lines without line feeds, whose keys the reader acts on are pairwise different,
changes nothing the reader gives but the raw text: the running flag, the status line, the start
time, the exit code, the percentage, the chunk counts, the restart count, the upgrade flag and the
logs all come out the same. -/
theorem parse_agrees_under_line_reordering {L L' : List String} (hperm : L.Perm L')
    (hnl : ∀ l ∈ L, '\n' ∉ l.toList) (hkeys : (L.filterMap fun l => lineKey l.toList).Nodup) :
    (Snapshot.parse ("\n".intercalate L)).withoutRaw =
      (Snapshot.parse ("\n".intercalate L')).withoutRaw := by
  have hM : (L.map String.toList).Perm (L'.map String.toList) := hperm.map _
  have hout : ∀ K : List String, ("\n".intercalate K).toList = joinLines (K.map String.toList) :=
    fun K => by simp [joinLines]
  have hnl' : ∀ l ∈ L.map String.toList, '\n' ∉ l := by simpa using hnl
  have hnl'' : ∀ l ∈ L'.map String.toList, '\n' ∉ l := fun l hl => hnl' l (hM.mem_iff.2 hl)
  have hnd : ((L.map String.toList).filterMap lineKey).Nodup := by
    simpa [List.filterMap_map, Function.comp_def] using hkeys
  -- whether the report names no job is read line by line, so it does not see the order
  have hjob : namesNoJob ("\n".intercalate L) = namesNoJob ("\n".intercalate L') := by
    rw [Bool.eq_iff_iff, namesNoJob_joinLines_iff _ (hout L), namesNoJob_joinLines_iff _ (hout L'),
      List.all_eq_true, List.all_eq_true]
    simp only [hM.mem_iff]
  rw [parse_withoutRaw, parse_withoutRaw, hjob]
  split
  · rfl
  · rw [foldl_lines_trim_joinLines hnl' _ (hout L), foldl_lines_trim_joinLines hnl'' _ (hout L'),
      foldl_withLine_perm hM hnd]

/-- A status line and a progress line read the same in either order. -/
theorem status_and_progress_in_either_order :
    (Snapshot.parse ("\n".intercalate ["status: Running", "progress: 50.00% (100/200 uploading)"])).withoutRaw =
      (Snapshot.parse ("\n".intercalate ["progress: 50.00% (100/200 uploading)", "status: Running"])).withoutRaw := by
  have hkeys : (["status: Running", "progress: 50.00% (100/200 uploading)"].filterMap
      fun l => lineKey l.toList) = ["status", "progress"] := by decide +kernel
  exact parse_agrees_under_line_reordering (by decide) (by decide) (by rw [hkeys]; decide)

end SnapshotAgent.Upload
