import SnapshotAgent.Proofs.Store.Percent
/-!
# What a report of the tool reads as

The tool describes an upload job in free text, and `Snapshot.parse` keeps what it can read. Two
things hold of every snapshot it gives, whatever the text (`Snapshot.wellFormed_parse`), and of
the snapshot of an idle node (`Snapshot.wellFormed_notRunning`): its percentage is a percentage,
and its chunk counts come as a pair, done at most total. A line of the report either leaves the
counts alone or replaces both, and reads its percentage with `parsePercent`, so the two facts
hold line by line (`Snapshot.WellFormed.withLine`). Every such fact is carried from the idle
snapshot through the lines by `Snapshot.parse_induction`: so are the raw text, which is the
trimmed report (`Snapshot.rawOutput_parse`), and the sign of the count of chunks done, which is
read from a run of digits and so is never negative (`Snapshot.chunksCompleted_parse_nonneg`).

A patch made from such a snapshot, to refresh the progress or to finish the upload, is then one
the store accepts (`Patch.refusal_progress`, `Patch.refusal_finish`).
-/

namespace SnapshotAgent.Upload

open SnapshotAgent.Store SnapshotAgent.Text

/-- What every snapshot read from the tool satisfies. -/
structure Snapshot.WellFormed (s : Snapshot) : Prop where
  /-- The percentage lies between 0 and 100. -/
  percent : ∀ x, s.progressPercent = some x → isPercent x = true
  /-- The counts of chunks done and in all are known together. -/
  paired : s.chunksCompleted.isSome = s.chunksTotal.isSome
  /-- No more chunks are done than there are. -/
  ordered : ∀ c t, s.chunksCompleted = some c → s.chunksTotal = some t → c ≤ t

namespace Snapshot

theorem wellFormed_notRunning (raw : String) : (Snapshot.notRunning raw).WellFormed where
  percent := fun _ h => by cases h
  paired := rfl
  ordered := fun _ _ h => by cases h

variable {s : Snapshot}

/-- A status line changes no progress. -/
theorem WellFormed.withStatus (hs : s.WellFormed) (value : List Char) :
    (s.withStatus value).WellFormed := by
  unfold Snapshot.withStatus
  -- taking the pair apart first keeps unification from evaluating the reading
  split
  exact ⟨hs.percent, hs.paired, hs.ordered⟩

/-- A progress line reads its percentage as a percentage and takes both counts or neither. -/
theorem WellFormed.withProgress (hs : s.WellFormed) (value : List Char) :
    (s.withProgress value).WellFormed := by
  unfold Snapshot.withProgress
  extract_lets s'
  -- the percentage first, which leaves the counts alone
  have hp : s'.WellFormed := by
    subst s'
    split
    · -- the projection is reduced first, or unification unfolds the reading instead
      refine ⟨fun _ h => ?_, hs.paired, hs.ordered⟩
      dsimp only at h
      exact parsePercent_isPercent h
    · exact hs
  split
  · split
    · split
      · next c t hle =>
        refine ⟨hp.percent, rfl, ?_⟩
        rintro c' t' ⟨⟩ ⟨⟩
        exact hle
      · exact hp
    · exact hp
  · exact hp

/-- Every line of a report keeps a snapshot well formed. -/
theorem WellFormed.withLine (hs : s.WellFormed) (line : List Char) :
    (s.withLine line).WellFormed := by
  unfold Snapshot.withLine
  split
  · exact hs
  · dsimp only
    split
    · exact hs.withStatus _
    split
    · exact hs.withProgress _
    split
    · exact ⟨hs.percent, hs.paired, hs.ordered⟩
    split
    · exact ⟨hs.percent, hs.paired, hs.ordered⟩
    split
    · exact ⟨hs.percent, hs.paired, hs.ordered⟩
    · exact hs

/-- A property that the idle snapshot of the trimmed text has and that every line keeps holds of
the snapshot read from the text. -/
theorem parse_induction (P : Snapshot → Prop) (output : String)
    (hidle : P (Snapshot.notRunning (trim output)))
    (hline : ∀ s line, P s → P (s.withLine line)) : P (Snapshot.parse output) := by
  unfold Snapshot.parse
  dsimp only
  split
  · exact hidle
  · -- the lines are read one after another from the idle snapshot
    suffices key : ∀ (ls : List (List Char)) (s : Snapshot), P s →
        P (ls.foldl Snapshot.withLine s) from
      key _ _ hidle
    intro ls
    induction ls with
    | nil => exact fun _ hs => hs
    | cons l ls ih => exact fun s hs => ih _ (hline s l hs)

/-- Every snapshot read from the tool's text is well formed. -/
theorem wellFormed_parse (output : String) : (Snapshot.parse output).WellFormed :=
  parse_induction _ output (wellFormed_notRunning _) fun _ l hs => hs.withLine l

/-! ### What a line leaves alone -/

/-- A progress line leaves the flag, the status line and the raw text. -/
theorem withProgress_keeps (s : Snapshot) (value : List Char) :
    (s.withProgress value).isRunning = s.isRunning ∧
      (s.withProgress value).statusLine = s.statusLine ∧
      (s.withProgress value).rawOutput = s.rawOutput := by
  unfold Snapshot.withProgress
  extract_lets s'
  -- the percentage is read first, into `s'`, and the counts touch none of the three
  have hs' : s'.isRunning = s.isRunning ∧ s'.statusLine = s.statusLine ∧
      s'.rawOutput = s.rawOutput := by
    subst s'
    split <;> exact ⟨rfl, rfl, rfl⟩
  split
  · split
    · split <;> exact hs'
    · exact hs'
  · exact hs'

theorem withStatus_rawOutput (s : Snapshot) (value : List Char) :
    (s.withStatus value).rawOutput = s.rawOutput := by
  unfold Snapshot.withStatus
  rcases matchTimestamped value with _ | ⟨stamp, rest⟩ <;> rfl

/-- No line changes the raw text. -/
theorem withLine_rawOutput (s : Snapshot) (line : List Char) :
    (s.withLine line).rawOutput = s.rawOutput := by
  unfold Snapshot.withLine
  rcases splitFirst ':' line with _ | ⟨key, rawValue⟩
  · rfl
  · dsimp only
    split
    · exact withStatus_rawOutput s _
    split
    · exact (withProgress_keeps s _).2.2
    repeat' split
    all_goals rfl

/-- A snapshot keeps the trimmed text it was read from. -/
theorem rawOutput_parse (output : String) : (Snapshot.parse output).rawOutput = trim output :=
  parse_induction (fun s => s.rawOutput = trim output) output rfl
    fun s l hs => (withLine_rawOutput s l).trans hs

/-! ### Chunk counts are never negative -/

theorem takeDigitRun_digits {cs ds r : List Char} (h : takeDigitRun cs = some (ds, r)) :
    ds ≠ [] ∧ ∀ c ∈ ds, isDecimalDigit c = true := by
  unfold takeDigitRun at h
  dsimp only at h
  split at h
  · cases h
  · next hne =>
    cases h
    exact ⟨fun h0 => hne (by rw [h0]; rfl), fun c hc => List.mem_takeWhile_imp hc⟩

theorem matchChunksHere_digits {cs done total : List Char}
    (h : matchChunksHere cs = some (done, total)) :
    done ≠ [] ∧ ∀ c ∈ done, isDecimalDigit c = true := by
  unfold matchChunksHere at h
  simp only [bind, Option.bind_eq_some_iff] at h
  -- the counts done are the first run of digits
  obtain ⟨_, _, ⟨d, r⟩, hd, _, _, _, _, hpure⟩ := h
  obtain ⟨rfl, -⟩ := Prod.mk.inj (Option.some.inj hpure)
  exact takeDigitRun_digits hd

theorem findChunks_digits : ∀ {cs done total : List Char},
    findChunks cs = some (done, total) → done ≠ [] ∧ ∀ c ∈ done, isDecimalDigit c = true
  | [], _, _, h => by cases h
  | c :: cs, done, total, h => by
    unfold findChunks at h
    split at h
    · next hm =>
      cases h
      exact matchChunksHere_digits hm
    · exact findChunks_digits h

/-- Digits read upwards from a non-negative value give a non-negative value. -/
theorem readUp_nonneg (radix : Nat) (hi acc : Int) (cs : List Char) (v : Int)
    (hacc : 0 ≤ acc) (h : Number.readUp radix hi acc cs = .ok v) : 0 ≤ v := by
  induction cs generalizing acc with
  | nil =>
    cases h
    exact hacc
  | cons c cs ih =>
    simp only [Number.readUp] at h
    split at h
    · cases h
    · split at h
      · cases h
      · split at h
        · cases h
        · exact ih _ (by positivity) h

/-- A count read from decimal digits is never negative: its text starts with a digit, not a
sign. -/
theorem readI64_nonneg {ds : List Char} (hne : ds ≠ []) (hd : ∀ c ∈ ds, isDecimalDigit c = true)
    {v : Int} (h : Number.readI64 (String.ofList ds) = .ok v) : 0 ≤ v := by
  obtain ⟨c, cs, rfl⟩ := List.exists_cons_of_ne_nil hne
  have hc := hd c List.mem_cons_self
  have hplus : c ≠ '+' := by
    rintro rfl
    exact absurd hc (by decide)
  have hminus : c ≠ '-' := by
    rintro rfl
    exact absurd hc (by decide)
  unfold Number.readI64 Number.readInRange at h
  rw [String.toList_ofList] at h
  split at h
  · cases h
  · cases h
  · cases h
  · -- a sign in front would have to be the leading digit
    rename_i heq
    exact absurd (List.cons.inj heq).1 hplus
  · rename_i heq
    exact absurd (List.cons.inj heq).1 hminus
  · exact readUp_nonneg 10 _ 0 _ v le_rfl h

/-- The counts a progress line takes are never negative. -/
theorem withProgress_nonneg {s : Snapshot} (hs : ∀ c, s.chunksCompleted = some c → 0 ≤ c)
    (value : List Char) : ∀ c, (s.withProgress value).chunksCompleted = some c → 0 ≤ c := by
  unfold Snapshot.withProgress
  extract_lets s'
  have hs' : ∀ c, s'.chunksCompleted = some c → 0 ≤ c := by
    subst s'
    split
    · exact hs
    · exact hs
  split
  · next done total hfind =>
    split
    · next c t hc _ =>
      split
      · -- the counts are taken: the done count was read from the digits of the pattern
        rintro c' ⟨⟩
        obtain ⟨hne, hd⟩ := findChunks_digits hfind
        unfold readOk at hc
        split at hc
        · next v hv =>
          cases hc
          exact readI64_nonneg hne hd hv
        · cases hc
      · exact hs'
    · exact hs'
  · exact hs'

/-- No line gives a negative count of chunks done. -/
theorem withLine_nonneg {s : Snapshot} (hs : ∀ c, s.chunksCompleted = some c → 0 ≤ c)
    (line : List Char) : ∀ c, (s.withLine line).chunksCompleted = some c → 0 ≤ c := by
  unfold Snapshot.withLine
  rcases splitFirst ':' line with _ | ⟨key, rawValue⟩
  · exact hs
  · dsimp only
    split
    · -- a status line leaves the counts
      unfold Snapshot.withStatus
      rcases matchTimestamped (trim (String.ofList rawValue)).toList with _ | ⟨stamp, rest⟩ <;>
        exact hs
    split
    · exact withProgress_nonneg hs _
    repeat' split
    all_goals exact hs

/-- A snapshot read from the tool never counts a negative number of chunks done. -/
theorem chunksCompleted_parse_nonneg (output : String) :
    ∀ c, (Snapshot.parse output).chunksCompleted = some c → 0 ≤ c :=
  parse_induction (fun s => ∀ c, s.chunksCompleted = some c → 0 ≤ c) output
    (fun _ h => by cases h) fun _ l hs => withLine_nonneg hs l

end Snapshot

/-! ## The patches the store accepts -/

theorem Patch.chunkRefusal_eq_none_iff (p : Patch) :
    Patch.refusal.chunkRefusal p = none ↔
      ∀ c t, p.chunksCompleted = some c → p.chunksTotal = some t → c ≤ t := by
  unfold Patch.refusal.chunkRefusal
  split
  · next c t hc ht =>
    by_cases hle : c ≤ t
    · simp [hc, ht, hle]
    · simp only [hc, ht, gt_iff_lt, Int.not_le.1 hle, if_true, reduceCtorEq, false_iff]
      exact fun h => hle (h c t rfl rfl)
  · next hno =>
    exact ⟨fun _ c t hc ht => (hno c t hc ht).elim, fun _ => rfl⟩

/-- What validation asks of a patch: it does not move a row back to running, it names a
completion time exactly when it names a status, its percentage is a percentage, and it does not
give more chunks done than in all. -/
theorem Patch.refusal_eq_none_iff (p : Patch) :
    p.refusal = none ↔
      (p.status ≠ some .running ∧ p.status.isSome = p.completedAt.isSome) ∧
      (∀ x, p.progressPercent = some x → isPercent x = true) ∧
      (∀ c t, p.chunksCompleted = some c → p.chunksTotal = some t → c ≤ t) := by
  rw [← Patch.chunkRefusal_eq_none_iff]
  unfold Patch.refusal
  -- the status and the completion time first, then the percentage, then the counts
  rcases hs : p.status with _ | ⟨_ | _ | _⟩ <;> rcases hc : p.completedAt with _ | t <;>
    rcases hx : p.progressPercent with _ | x <;> simp
  -- a patch that passes the status checks and carries a percentage
  all_goals by_cases hp : isPercent x = true <;> simp [hp]

variable {s : Snapshot}

/-- A patch refreshing the progress from a well-formed snapshot is accepted. -/
theorem Patch.refusal_progress (hs : s.WellFormed) (id : Int) (t : Time.Instant) :
    (Patch.progress id s t).refusal = none :=
  (Patch.refusal_eq_none_iff _).2 ⟨⟨by simp [Patch.progress], rfl⟩, hs.percent, hs.ordered⟩

/-- A patch finishing an upload from a well-formed snapshot with a status other than running is
accepted. -/
theorem Patch.refusal_finish (hs : s.WellFormed) (id : Int) {st : Status} (hst : st ≠ .running)
    (t : Time.Instant) : (Patch.finish id st t s).refusal = none :=
  (Patch.refusal_eq_none_iff _).2 ⟨⟨by simpa [Patch.finish] using hst, rfl⟩, hs.percent, hs.ordered⟩

end SnapshotAgent.Upload
