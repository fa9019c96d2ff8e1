import SnapshotAgent.Proofs.Upload.Report
/-!
# Whether a report says the job runs

A report of the tool decides the running flag in two tiers. A report that is blank, or whose
lower case holds a sentinel anywhere (a log line included), names no job at all, and its snapshot
is the idle one whatever else it says (`parse_of_namesNoJob`).

Otherwise only the `status:` lines count. Each examines its *status text*, the value after a
leading `YYYY-MM-DD HH:MM:SS UTC |` stamp, or the whole value when there is none: a text that
mentions "running" sets the flag, one that mentions a terminal word without "running" clears it,
and any other text keeps the verdict before it (`runningAfter`). Folding that over the lines, the
flag is set exactly when some status text mentions "running" and every later status text that
mentions a terminal word mentions "running" too (`isRunning_parse_iff`).

The fold is read in two steps: a line acts on the flag through its status text alone
(`withLine_isRunning`), so the flag after the lines is a fold over the status texts
(`foldl_withLine_isRunning`); and such a fold is characterised from an arbitrary earlier verdict
(`foldl_runningAfter_iff`), by induction on the texts.
-/

namespace SnapshotAgent.Upload

open SnapshotAgent.Text

/-! ## Status texts and their verdicts -/

/-- The lower case of a status text mentions "running". -/
def mentionsRunning (text : String) : Bool :=
  "running".occursIn (lower text)

/-- The lower case of a status text mentions one of the terminal words. -/
def mentionsTerminal (text : String) : Bool :=
  terminalWords.any (·.occursIn (lower text))

/-- The verdict after a status text, when the verdict before it was `prev`: "running" wins over a
terminal word, and a text with neither keeps the verdict. -/
def runningAfter (prev : Bool) (text : String) : Bool :=
  if mentionsRunning text then true else if mentionsTerminal text then false else prev

/-- The trimmed value of a line whose key, trimmed and in lower case, is `status`. -/
def statusValue? (line : List Char) : Option (List Char) :=
  match splitFirst ':' line with
  | some (key, value) =>
    if lower (trim (String.ofList key)) = "status" then some (trim (String.ofList value)).toList
    else none
  | none => none

/-- What a status value says about the job: the part after a leading timestamp and `UTC |`, or
the whole value when it has no such stamp. -/
def statusText (value : List Char) : String :=
  match matchTimestamped value with
  | some (_, rest) => String.ofList rest
  | none => String.ofList value

/-- The status texts of a report, in the order of its lines. -/
def statusTexts (output : String) : List String :=
  ((lines (trim output).toList).filterMap statusValue?).map statusText

/-- A report names no job: it is blank, or its lower case holds a sentinel. -/
def namesNoJob (output : String) : Bool :=
  (trim output).isEmpty || hasSentinel (trim output)

/-- Some status text mentions "running", and every later one that mentions a terminal word
mentions "running" as well. -/
def RunningStands (texts : List String) : Prop :=
  ∃ pre t post, texts = pre ++ t :: post ∧ mentionsRunning t = true ∧
    ∀ u ∈ post, mentionsTerminal u = true → mentionsRunning u = true

theorem runningStands_cons (t : String) (ts : List String) :
    RunningStands (t :: ts) ↔
      (mentionsRunning t = true ∧ ∀ u ∈ ts, mentionsTerminal u = true → mentionsRunning u = true) ∨
        RunningStands ts := by
  constructor
  · rintro ⟨pre, t', post, hsplit, hrun, hlater⟩
    cases pre with
    | nil =>
      -- the standing text is the first one
      obtain ⟨rfl, rfl⟩ := List.cons.inj hsplit
      exact .inl ⟨hrun, hlater⟩
    | cons p pre =>
      obtain ⟨-, rfl⟩ := List.cons.inj hsplit
      exact .inr ⟨pre, t', post, rfl, hrun, hlater⟩
  · rintro (⟨hrun, hlater⟩ | ⟨pre, t', post, rfl, hrun, hlater⟩)
    · exact ⟨[], t, ts, rfl, hrun, hlater⟩
    · exact ⟨t :: pre, t', post, rfl, hrun, hlater⟩

/-- The verdict after a sequence of status texts, from the verdict `prev` before them: some text
stands as running, or none decides and `prev` was already running. -/
theorem foldl_runningAfter_iff (texts : List String) (prev : Bool) :
    texts.foldl runningAfter prev = true ↔
      RunningStands texts ∨
        (prev = true ∧ ∀ u ∈ texts, mentionsTerminal u = true → mentionsRunning u = true) := by
  induction texts generalizing prev with
  | nil =>
    simp only [List.foldl_nil, List.not_mem_nil, false_implies, implies_true, and_true]
    refine ⟨.inr, fun h => h.elim (fun ⟨pre, t, post, hsplit, _⟩ => ?_) id⟩
    exact absurd hsplit.symm (List.append_ne_nil_of_right_ne_nil pre (List.cons_ne_nil t post))
  | cons t ts ih =>
    rw [List.foldl_cons, ih, runningStands_cons]
    simp only [List.mem_cons, forall_eq_or_imp]
    -- the first text's verdict either stands, is overruled later, or defers to `prev`; what the
    -- later texts say enters only through the two propositions `A` and `B`
    generalize RunningStands ts = B
    generalize (∀ u ∈ ts, mentionsTerminal u = true → mentionsRunning u = true) = A
    unfold runningAfter
    generalize mentionsRunning t = r
    generalize mentionsTerminal t = r'
    cases r <;> cases r' <;> cases prev <;> simp <;> tauto

/-! ## The flag line by line -/

theorem withStatus_isRunning (s : Snapshot) (value : List Char) :
    (s.withStatus value).isRunning = runningAfter s.isRunning (statusText value) := by
  unfold Snapshot.withStatus statusText runningAfter mentionsRunning mentionsTerminal
  -- `dsimp` reduces both sides to the same test; `rfl` would unfold the lower-casing instead
  rcases matchTimestamped value with _ | ⟨stamp, rest⟩ <;> dsimp only

/-- A line acts on the flag through its status text alone. -/
theorem withLine_isRunning (s : Snapshot) (line : List Char) :
    (s.withLine line).isRunning =
      match statusValue? line with
      | some value => runningAfter s.isRunning (statusText value)
      | none => s.isRunning := by
  unfold Snapshot.withLine statusValue?
  rcases splitFirst ':' line with _ | ⟨key, rawValue⟩
  · rfl
  · dsimp only
    by_cases hk : lower (trim (String.ofList key)) = "status"
    · rw [if_pos hk, if_pos hk]
      exact withStatus_isRunning s _
    · rw [if_neg hk, if_neg hk]
      dsimp only
      -- a progress line reads counts, and the other keys set fields beside the flag
      split
      · exact (Snapshot.withProgress_keeps s _).1
      repeat' split
      all_goals rfl

/-- The flag after a sequence of lines is the verdict over their status texts. -/
theorem foldl_withLine_isRunning (ls : List (List Char)) (s : Snapshot) :
    (ls.foldl Snapshot.withLine s).isRunning =
      ((ls.filterMap statusValue?).map statusText).foldl runningAfter s.isRunning := by
  induction ls generalizing s with
  | nil => rfl
  | cons l ls ih =>
    rw [List.foldl_cons, ih, withLine_isRunning, List.filterMap_cons]
    cases statusValue? l with
    | none => dsimp only
    | some value => rw [List.map_cons, List.foldl_cons]

/-! ## The running flag of a report -/

/-- A report that names no job reads as an idle node, whatever status or progress lines it holds:
no flag, no field, no progress. -/
theorem parse_of_namesNoJob {output : String} (h : namesNoJob output = true) :
    Snapshot.parse output = Snapshot.notRunning (trim output) ∧
      (Snapshot.parse output).isRunning = false ∧ (Snapshot.parse output).hasProgress = false ∧
      (Snapshot.parse output).statusLine = none ∧ (Snapshot.parse output).startedAt = none ∧
      (Snapshot.parse output).exitCode = none ∧ (Snapshot.parse output).progressPercent = none ∧
      (Snapshot.parse output).chunksCompleted = none ∧ (Snapshot.parse output).chunksTotal = none ∧
      (Snapshot.parse output).restartCount = none ∧
      (Snapshot.parse output).upgradeBlocking = none ∧ (Snapshot.parse output).logs = none := by
  have hparse : Snapshot.parse output = Snapshot.notRunning (trim output) := by
    unfold namesNoJob at h
    simp [Snapshot.parse, h]
  rw [hparse]
  exact ⟨rfl, rfl, rfl, rfl, rfl, rfl, rfl, rfl, rfl, rfl, rfl, rfl⟩

/-- A report that names a job says it runs exactly when some status text mentions "running" and
no later status text mentions a terminal word without "running". -/
theorem isRunning_parse_iff {output : String} (h : namesNoJob output = false) :
    (Snapshot.parse output).isRunning = true ↔ RunningStands (statusTexts output) := by
  have hparse : Snapshot.parse output =
      (lines (trim output).toList).foldl Snapshot.withLine { rawOutput := trim output } := by
    unfold namesNoJob at h
    simp [Snapshot.parse, h]
  rw [hparse, foldl_withLine_isRunning, foldl_runningAfter_iff]
  -- the fold starts from a snapshot that does not run
  exact ⟨fun h' => h'.elim id (fun hidle => absurd hidle.1 Bool.false_ne_true), .inl⟩

/-- The running flag of every report: a report naming no job is the idle snapshot of its trimmed
text; any other report runs exactly when some status text mentions "running" and every later
status text that mentions a terminal word mentions "running" as well. -/
theorem running_flag_of_report (output : String) :
    (namesNoJob output = true →
      Snapshot.parse output = Snapshot.notRunning (trim output) ∧
        (Snapshot.parse output).isRunning = false ∧ (Snapshot.parse output).hasProgress = false ∧
        (Snapshot.parse output).statusLine = none ∧ (Snapshot.parse output).startedAt = none ∧
        (Snapshot.parse output).exitCode = none ∧ (Snapshot.parse output).progressPercent = none ∧
        (Snapshot.parse output).chunksCompleted = none ∧
        (Snapshot.parse output).chunksTotal = none ∧
        (Snapshot.parse output).restartCount = none ∧
        (Snapshot.parse output).upgradeBlocking = none ∧ (Snapshot.parse output).logs = none) ∧
    (namesNoJob output = false →
      ((Snapshot.parse output).isRunning = true ↔ RunningStands (statusTexts output))) :=
  ⟨parse_of_namesNoJob, isRunning_parse_iff⟩

/-- The tool's answer for a node with no job reads as idle, and a stamped running status is read
by its text after the stamp. -/
theorem running_flag_of_sample_reports :
    namesNoJob "Job 'upload' not found" = true ∧
      Snapshot.parse "Job 'upload' not found" = Snapshot.notRunning "Job 'upload' not found" ∧
    namesNoJob "status: 2025-12-07 12:00:00 UTC| Running" = false ∧
      ((Snapshot.parse "status: 2025-12-07 12:00:00 UTC| Running").isRunning = true ↔
        RunningStands (statusTexts "status: 2025-12-07 12:00:00 UTC| Running")) :=
  ⟨by decide,
    ((running_flag_of_report _).1 (by decide)).1.trans
      (congrArg Snapshot.notRunning (by decide)),
    by decide, (running_flag_of_report _).2 (by decide)⟩

end SnapshotAgent.Upload
