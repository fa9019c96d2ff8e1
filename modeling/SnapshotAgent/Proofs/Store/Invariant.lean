import SnapshotAgent.Proofs.Store.Operations
/-!
# The store over whole runs

A run of the store is a list of writes, each the creation of an upload or the application of a
patch; a refused write leaves the database as it was, as the agent's `writeStore` keeps it. The
read operations answer no database and take no part in a run.

## The construction

`Database.afterWrites` runs the writes on the database; `UploadTables.run` runs them on typed
states from the empty one. `UploadTables.run_db` proves that the two agree, by induction over the
writes: each step is an equation of `Operations`, which holds while the state is `Sound`.

## The invariant

Each write is first inverted (`create_ok`, `update_ok`, `appendReading_ok`): what the new state's
rows and history are made of. From the inversions alone, every write keeps `Sound`
(`Sound.applyWrite`) and leaves a later state (`later_applyWrite`): every row lives on with the
same identity, and a finished row and its history do not change. The run lemmas follow by
induction on the writes.
-/

namespace SnapshotAgent.Store

open SnapshotAgent.Upload SnapshotAgent.Time

/-! ## The constraints of a row -/

/-- The constraints of `uploads` in plain terms: a row has a completion time exactly when it has
stopped running, its percentage lies between 0 and 100 as the engine compares a real with an
integer, and it has not completed more chunks than it has. -/
theorem UploadRow.consistent_iff (u : UploadRow) :
    u.consistent = true ↔
      (u.completedAt = none ↔ u.status = .running) ∧
      (∀ x, u.progressPercent = some x →
        (storedReal x).compare (.integer 0) ≠ .lt ∧ (storedReal x).compare (.integer 100) ≠ .gt) ∧
      (∀ c t, u.chunksCompleted = some c → u.chunksTotal = some t → c ≤ t) := by
  have hc : u.completionAgrees = true ↔ (u.completedAt = none ↔ u.status = .running) := by
    unfold UploadRow.completionAgrees
    cases u.completedAt <;> cases u.status <;> simp
  have hp : percentAllowed u.progressPercent = true ↔ ∀ x, u.progressPercent = some x →
      (storedReal x).compare (.integer 0) ≠ .lt ∧ (storedReal x).compare (.integer 100) ≠ .gt := by
    cases u.progressPercent <;> simp [percentAllowed]
  have hk : u.chunksAgree = true ↔
      ∀ c t, u.chunksCompleted = some c → u.chunksTotal = some t → c ≤ t := by
    unfold UploadRow.chunksAgree
    cases u.chunksCompleted <;> cases u.chunksTotal <;> simp
  simp only [UploadRow.consistent, Bool.and_eq_true, hc, hp, hk, and_assoc]

/-! ## Inverting the writes -/

theorem except_map_eq_ok {ε α β : Type} {f : α → β} {x : Except ε α} {b : β}
    (h : f <$> x = .ok b) : ∃ a, x = .ok a ∧ f a = b := by
  cases x with
  | error e => cases h
  | ok a => exact ⟨a, rfl, Except.ok.inj h⟩

namespace UploadTables

variable {s : UploadTables}

/-- A reading appended to the history goes after the others, with the next id. -/
theorem appendReading_ok {uploadId : Int} {checkedAt : Instant} {percent : Option Float}
    {done total : Option Int} {s' : UploadTables}
    (h : s.appendReading uploadId checkedAt percent done total = .ok s') :
    s'.uploads = s.uploads ∧
      s'.progress = s.progress ++ [progressRow (s.nextId s.progressT) uploadId checkedAt percent
        done total] := by
  unfold appendReading at h
  split at h
  · cases h
  · cases h
    exact ⟨rfl, rfl⟩

/-- What an accepted creation is made of: the new row has the next id, keeps the constraints and
is the only running row of its node; it goes after the others, and the history gains at most a
reading of it. -/
theorem create_ok {u : NewUpload} {s' : UploadTables} {k : Int} (h : s.create u = .ok (s', k)) :
    k = s.nextId s.uploadsT ∧ (s.newRow u).consistent = true ∧
      (∀ o ∈ s.uploads, o.status = .running → o.nodeName ≠ u.nodeName) ∧
      s'.uploads = s.uploads ++ [s.newRow u] ∧
      (s'.progress = s.progress ∨ ∃ q, s'.progress = s.progress ++ [q] ∧ q.uploadId = k) := by
  unfold create at h
  split at h
  · cases h
  split at h
  · cases h
  next hk =>
  split at h
  · cases h
  next hfree =>
  have hfree' : ∀ o ∈ s.uploads, o.status = .running → o.nodeName ≠ u.nodeName := by
    intro o ho hrun hname
    exact hfree (List.any_eq_true.2 ⟨o, ho, by simp [hrun, hname]⟩)
  have hv := (UploadRow.brokenCheck_eq_none _).1 hk
  split at h
  · -- a first reading is appended
    obtain ⟨s'', hs'', hpair⟩ := except_map_eq_ok h
    cases hpair
    obtain ⟨hu, hp⟩ := appendReading_ok hs''
    exact ⟨rfl, hv, hfree', hu, .inr ⟨_, hp, rfl⟩⟩
  · cases h
    exact ⟨rfl, hv, hfree', rfl, .inl rfl⟩

/-- What an accepted patch is made of: either it found no running row and changed nothing, or
it replaced its running row by the merge, which keeps the constraints, and the history gains at
most a reading of that row. -/
theorem update_ok {p : Patch} {now : Instant} {s' : UploadTables} {b : Bool}
    (h : s.update p now = .ok (s', b)) :
    (b = false ∧ s' = s) ∨
      (b = true ∧ ∃ u, s.target p = some u ∧ (u.patch p).consistent = true ∧
        s'.uploads = (s.setUpload (u.patch p)).uploads ∧
        (s'.progress = s.progress ∨ ∃ q, s'.progress = s.progress ++ [q] ∧ q.uploadId = p.id)) := by
  unfold update at h
  split at h
  · cases h
  split at h
  · cases h
    exact .inl ⟨rfl, rfl⟩
  next u hu =>
  split at h
  · cases h
  next hk =>
  have hv := (UploadRow.brokenCheck_eq_none _).1 hk
  split at h
  · obtain ⟨s'', hs'', hpair⟩ := except_map_eq_ok h
    cases hpair
    obtain ⟨hup, hp⟩ := appendReading_ok hs''
    exact .inr ⟨rfl, u, hu, hv, hup, .inr ⟨_, hp, rfl⟩⟩
  · cases h
    exact .inr ⟨rfl, u, hu, hv, rfl, .inl rfl⟩

/-- The rows of a state with one row set: the set row, and the others of other ids. -/
theorem mem_setUpload_cases {v o : UploadRow} (h : o ∈ (s.setUpload v).uploads) :
    o = v ∨ (o ∈ s.uploads ∧ o.id ≠ v.id) := by
  obtain ⟨x, hx, rfl⟩ := List.mem_map.1 h
  by_cases hid : x.id = v.id
  · exact .inl (if_pos hid)
  · rw [if_neg hid]
    exact .inr ⟨hx, hid⟩

/-- A row other than the set one lives on in the state with one row set. -/
theorem mem_setUpload_of_ne {v o : UploadRow} (ho : o ∈ s.uploads) (hid : o.id ≠ v.id) :
    o ∈ (s.setUpload v).uploads :=
  List.mem_map.2 ⟨o, ho, if_neg hid⟩

end UploadTables

/-! ## Each write keeps the invariant -/

namespace UploadTables.Sound

variable {s : UploadTables}

/-- The invariant reads only the rows and the history. -/
theorem of_rows (hs : s.Sound) {s' : UploadTables} (hu : s'.uploads = s.uploads)
    (hp : s'.progress = s.progress) : s'.Sound where
  ids_sorted := hu ▸ hs.ids_sorted
  one_running := hu ▸ hs.one_running
  consistent := hu ▸ hs.consistent
  owned := by simpa only [UploadTables.historyOwned, hu, hp] using hs.owned

/-- A reading of an upload of the state keeps the invariant. -/
theorem addReading (hs : s.Sound) {o : UploadRow} (ho : o ∈ s.uploads) {s' : UploadTables}
    (hu : s'.uploads = s.uploads) {q : ProgressRow} (hp : s'.progress = s.progress ++ [q])
    (hq : o.id = q.uploadId) : s'.Sound where
  ids_sorted := hu ▸ hs.ids_sorted
  one_running := hu ▸ hs.one_running
  consistent := hu ▸ hs.consistent
  owned := by
    have h := UploadTables.historyOwned_addProgress hs.owned ho hq
    simpa only [UploadTables.historyOwned, UploadTables.addProgress, hu, hp] using h

/-- A history that gains at most a reading of an upload of the state keeps the invariant. -/
theorem withReading (hs : s.Sound) {o : UploadRow} (ho : o ∈ s.uploads) {s' : UploadTables}
    (hu : s'.uploads = s.uploads)
    (hp : s'.progress = s.progress ∨ ∃ q, s'.progress = s.progress ++ [q] ∧ q.uploadId = o.id) :
    s'.Sound := by
  rcases hp with hp | ⟨q, hp, hq⟩
  · exact hs.of_rows hu hp
  · exact hs.addReading ho hu hp hq.symm

/-- A new row with an id above all others, keeping the constraints, and running only where its
node runs nothing, keeps the invariant. -/
theorem addUpload (hs : s.Sound) {v : UploadRow} (hlt : ∀ o ∈ s.uploads, o.id < v.id)
    (hv : v.consistent = true)
    (hfree : v.status = .running → ∀ o ∈ s.uploads, o.status = .running → o.nodeName ≠ v.nodeName) :
    (s.addUpload v).Sound where
  ids_sorted := List.pairwise_append.2 ⟨hs.ids_sorted, List.pairwise_singleton _ _,
    fun o ho w hw => by rw [List.mem_singleton.1 hw]; exact hlt o ho⟩
  one_running := by
    simp only [UploadTables.addUpload, List.mem_append, List.mem_singleton]
    rintro o (ho | rfl) o' (ho' | rfl) hr hr' hn
    · exact hs.one_running o ho o' ho' hr hr' hn
    · exact absurd hn (hfree hr' o ho hr)
    · exact absurd hn.symm (hfree hr o' ho' hr')
    · rfl
  consistent := by
    simp only [UploadTables.addUpload, List.mem_append, List.mem_singleton]
    rintro o (ho | rfl)
    · exact hs.consistent o ho
    · exact hv
  owned := UploadTables.historyOwned_addUpload hs.owned v

/-- Setting a running row to a row of the same id and node that keeps the constraints keeps the
invariant. -/
theorem setUpload (hs : s.Sound) {u : UploadRow} (hu : u ∈ s.uploads) (hrun : u.status = .running)
    {v : UploadRow} (hid : v.id = u.id) (hnode : v.nodeName = u.nodeName)
    (hv : v.consistent = true) : (s.setUpload v).Sound where
  ids_sorted := by
    have h := List.pairwise_map.2 hs.ids_sorted
    rw [← UploadTables.setUpload_ids s v] at h
    exact List.pairwise_map.1 h
  one_running := by
    -- a running row beside the set one would have shared its node with the old row
    have hother : ∀ o ∈ s.uploads, o.id ≠ v.id → o.status = .running → o.nodeName ≠ v.nodeName :=
      fun o ho hne hr hn => hne (by
        rw [hs.one_running o ho u hu hr hrun (hn.trans hnode), hid])
    intro o ho o' ho' hr hr' hn
    rcases UploadTables.mem_setUpload_cases ho with hov | ⟨ho, hne⟩ <;>
      rcases UploadTables.mem_setUpload_cases ho' with hov' | ⟨ho', hne'⟩
    · rw [hov, hov']
    · rw [hov] at hn
      exact absurd hn.symm (hother o' ho' hne' hr')
    · rw [hov'] at hn
      exact absurd hn (hother o ho hne hr)
    · exact hs.one_running o ho o' ho' hr hr' hn
  consistent := by
    intro o ho
    rcases UploadTables.mem_setUpload_cases ho with hov | ⟨ho, -⟩
    · rw [hov]
      exact hv
    · exact hs.consistent o ho
  owned := by
    rw [UploadTables.historyOwned_setUpload]
    exact hs.owned

/-- An accepted creation keeps the invariant. -/
theorem create (hs : s.Sound) {u : NewUpload} {s' : UploadTables} {k : Int}
    (h : s.create u = .ok (s', k)) : s'.Sound := by
  obtain ⟨rfl, hv, hfree, hu, hp⟩ := UploadTables.create_ok h
  have hadd : (s.addUpload (s.newRow u)).Sound :=
    hs.addUpload (fun o ho => s.id_lt_nextId ho) hv fun _ o ho hr => hfree o ho hr
  exact hadd.withReading (o := s.newRow u) (by simp [UploadTables.addUpload]) hu hp

/-- An accepted patch keeps the invariant. -/
theorem update (hs : s.Sound) {p : Patch} {now : Instant} {s' : UploadTables} {b : Bool}
    (h : s.update p now = .ok (s', b)) : s'.Sound := by
  rcases UploadTables.update_ok h with ⟨-, rfl⟩ | ⟨-, u, hu, hv, hup, hp⟩
  · exact hs
  · obtain ⟨hmem, hid, hrun⟩ := UploadTables.target_spec hu
    have hset := @UploadTables.Sound.setUpload s hs u hmem hrun (u.patch p) rfl rfl hv
    exact hset.withReading (@UploadTables.mem_setUpload s u hmem (u.patch p) rfl) hup (hid ▸ hp)

end UploadTables.Sound

/-! ## Later states -/

/-- How a row may look in a later state: the same upload, with the same id, node, protocol, node
type, start, trigger and protocol data, and the very same row once it has finished. -/
structure UploadRow.Revision (o o' : UploadRow) : Prop where
  id : o'.id = o.id
  nodeName : o'.nodeName = o.nodeName
  protocol : o'.protocol = o.protocol
  nodeType : o'.nodeType = o.nodeType
  startedAt : o'.startedAt = o.startedAt
  trigger : o'.trigger = o.trigger
  protocolData : o'.protocolData = o.protocolData
  frozen : o.status ≠ .running → o' = o

theorem UploadRow.Revision.refl (o : UploadRow) : o.Revision o :=
  ⟨rfl, rfl, rfl, rfl, rfl, rfl, rfl, fun _ => rfl⟩

theorem UploadRow.Revision.trans {o o₁ o₂ : UploadRow} (h₁ : o.Revision o₁) (h₂ : o₁.Revision o₂) :
    o.Revision o₂ where
  id := h₂.id.trans h₁.id
  nodeName := h₂.nodeName.trans h₁.nodeName
  protocol := h₂.protocol.trans h₁.protocol
  nodeType := h₂.nodeType.trans h₁.nodeType
  startedAt := h₂.startedAt.trans h₁.startedAt
  trigger := h₂.trigger.trans h₁.trigger
  protocolData := h₂.protocolData.trans h₁.protocolData
  frozen := fun hfin => by
    have h := h₁.frozen hfin
    subst h
    exact h₂.frozen hfin

/-- A running row merged with a patch is a revision of it. -/
theorem UploadRow.revision_patch {u : UploadRow} (hrun : u.status = .running) (p : Patch) :
    u.Revision (u.patch p) :=
  ⟨rfl, rfl, rfl, rfl, rfl, rfl, rfl, fun hfin => absurd hrun hfin⟩

/-- A later state of the store: every row lives on as a revision of itself, and the history of a
finished row is as it was. -/
structure UploadTables.Later (s s' : UploadTables) : Prop where
  rows : ∀ o ∈ s.uploads, ∃ o' ∈ s'.uploads, o.Revision o'
  history : ∀ o ∈ s.uploads, o.status ≠ .running →
    s'.progress.filter (·.uploadId == o.id) = s.progress.filter (·.uploadId == o.id)

namespace UploadTables.Later

variable {s s₁ s₂ : UploadTables}

theorem refl (s : UploadTables) : s.Later s :=
  ⟨fun o ho => ⟨o, ho, .refl o⟩, fun _ _ _ => rfl⟩

theorem trans (h₁ : s.Later s₁) (h₂ : s₁.Later s₂) : s.Later s₂ where
  rows := fun o ho => by
    obtain ⟨o₁, ho₁, hr₁⟩ := h₁.rows o ho
    obtain ⟨o₂, ho₂, hr₂⟩ := h₂.rows o₁ ho₁
    exact ⟨o₂, ho₂, hr₁.trans hr₂⟩
  history := fun o ho hfin => by
    -- a finished row is still there, unchanged, in the middle state
    obtain ⟨o₁, ho₁, hr₁⟩ := h₁.rows o ho
    rw [hr₁.frozen hfin] at ho₁
    rw [h₂.history o ho₁ hfin, h₁.history o ho hfin]

end UploadTables.Later

/-- A history that gains at most a reading of another upload keeps an upload's readings. -/
theorem filter_readings {ps ps' : List ProgressRow} {n m : Int}
    (hp : ps' = ps ∨ ∃ q, ps' = ps ++ [q] ∧ q.uploadId = n) (hne : n ≠ m) :
    ps'.filter (·.uploadId == m) = ps.filter (·.uploadId == m) := by
  rcases hp with rfl | ⟨q, rfl, hq⟩
  · rfl
  · simp [List.filter_append, hq, hne]

namespace UploadTables

variable {s : UploadTables}

/-- An accepted creation leaves a later state. -/
theorem later_create {u : NewUpload} {s' : UploadTables} {k : Int}
    (h : s.create u = .ok (s', k)) : s.Later s' := by
  obtain ⟨rfl, -, -, hu, hp⟩ := create_ok h
  refine ⟨fun o ho => ⟨o, ?_, .refl o⟩, fun o ho _ => ?_⟩
  · rw [hu]
    exact List.mem_append_left _ ho
  · -- the reading, if any, is of the new row, whose id is above every other
    exact filter_readings hp (Int.ne_of_gt (s.id_lt_nextId ho))

/-- An accepted patch leaves a later state. -/
theorem later_update (hs : s.Sound) {p : Patch} {now : Instant} {s' : UploadTables} {b : Bool}
    (h : s.update p now = .ok (s', b)) : s.Later s' := by
  rcases update_ok h with ⟨-, rfl⟩ | ⟨-, u, hu, -, hup, hp⟩
  · exact .refl _
  obtain ⟨hmem, hid, hrun⟩ := target_spec hu
  -- the only row of the target's id is the target itself
  have hsame : ∀ o ∈ s.uploads, o.id = u.id → o = u := fun o ho ho' =>
    eq_of_id_eq hs.ids_sorted ho hmem ho'
  refine ⟨fun o ho => ?_, fun o ho hfin => ?_⟩
  · by_cases ho' : o.id = u.id
    · rw [hsame o ho ho']
      exact ⟨u.patch p, hup ▸ @mem_setUpload s u hmem (u.patch p) rfl,
        UploadRow.revision_patch hrun p⟩
    · exact ⟨o, hup ▸ mem_setUpload_of_ne ho ho', .refl o⟩
  · refine filter_readings hp fun hpo => hfin ?_
    rw [hsame o ho (hpo ▸ hid).symm]
    exact hrun

end UploadTables

/-! ## Runs -/

/-- A write of the store's users. -/
inductive StoreWrite where
  /-- Creating an upload. -/
  | create (u : NewUpload)
  /-- Applying a patch, with the time a reading without one of its own falls back on. -/
  | update (p : Patch) (now : Instant)

/-- What an accepted write answers first, else what was there before: a refused write changes
nothing. -/
def acceptedOr {ε α β : Type} (r : Except ε (α × β)) (old : α) : α :=
  match r with
  | .ok a => a.1
  | .error _ => old

theorem acceptedOr_map {ε α α' β : Type} (f : α → α') (r : Except ε (α × β)) (old : α) :
    acceptedOr ((fun x => (f x.1, x.2)) <$> r) (f old) = f (acceptedOr r old) := by
  cases r <;> rfl

/-- The database after a write. -/
def StoreWrite.apply (db : Database) : StoreWrite → Database
  | .create u => acceptedOr (db.createUpload u) db
  | .update p now => acceptedOr (db.updateUpload p now) db

/-- The database after a run of writes. -/
def Database.afterWrites (db : Database) (ws : List StoreWrite) : Database :=
  ws.foldl StoreWrite.apply db

namespace UploadTables

/-- A write on typed states. -/
def applyWrite (s : UploadTables) : StoreWrite → UploadTables
  | .create u => acceptedOr (s.create u) s
  | .update p now => acceptedOr (s.update p now) s

/-- The typed state after a run of writes on a new store. -/
def run (ws : List StoreWrite) : UploadTables := ws.foldl applyWrite empty

variable {s : UploadTables}

/-- A write on the database of a sound state is the write on the state. -/
theorem apply_db (hs : s.Sound) (w : StoreWrite) : w.apply s.db = (s.applyWrite w).db := by
  cases w with
  | create u =>
    rw [StoreWrite.apply, applyWrite, Database.createUpload_eq hs.owned]
    exact acceptedOr_map db _ _
  | update p now =>
    rw [StoreWrite.apply, applyWrite, Database.updateUpload_eq hs]
    exact acceptedOr_map db _ _

/-- Every write keeps the invariant. -/
theorem Sound.applyWrite (hs : s.Sound) (w : StoreWrite) : (s.applyWrite w).Sound := by
  cases w with
  | create u =>
    rw [UploadTables.applyWrite]
    cases h : s.create u with
    | ok r => exact hs.create h
    | error e => exact hs
  | update p now =>
    rw [UploadTables.applyWrite]
    cases h : s.update p now with
    | ok r => exact hs.update h
    | error e => exact hs

/-- Every write leaves a later state. -/
theorem later_applyWrite (hs : s.Sound) (w : StoreWrite) : s.Later (s.applyWrite w) := by
  cases w with
  | create u =>
    rw [UploadTables.applyWrite]
    cases h : s.create u with
    | ok r => exact later_create h
    | error e => exact .refl s
  | update p now =>
    rw [UploadTables.applyWrite]
    cases h : s.update p now with
    | ok r => exact later_update hs h
    | error e => exact .refl s

/-- A run of writes from a sound state keeps the invariant, agrees with the run on its database,
and leaves a later state. -/
theorem foldl_applyWrite (hs : s.Sound) (ws : List StoreWrite) :
    (ws.foldl applyWrite s).Sound ∧ s.db.afterWrites ws = (ws.foldl applyWrite s).db ∧
      s.Later (ws.foldl applyWrite s) := by
  induction ws generalizing s with
  | nil => exact ⟨hs, rfl, .refl s⟩
  | cons w ws ih =>
    obtain ⟨hsound, hdb, hlater⟩ := ih (hs.applyWrite w)
    refine ⟨hsound, ?_, (later_applyWrite hs w).trans hlater⟩
    rw [Database.afterWrites, List.foldl_cons, apply_db hs w]
    exact hdb

theorem empty_sound : empty.Sound where
  ids_sorted := List.Pairwise.nil
  one_running := fun _ h => absurd h List.not_mem_nil
  consistent := fun _ h => absurd h List.not_mem_nil
  owned := rfl

theorem run_sound (ws : List StoreWrite) : (run ws).Sound :=
  (foldl_applyWrite empty_sound ws).1

/-- The database a run leaves on a new store is the database of the typed run. -/
theorem run_db (ws : List StoreWrite) : Database.freshUploads.afterWrites ws = (run ws).db := by
  rw [freshUploads_eq]
  exact (foldl_applyWrite empty_sound ws).2.1

/-- More writes leave a later state. -/
theorem run_append_later (ws more : List StoreWrite) : (run ws).Later (run (ws ++ more)) := by
  rw [run, run, List.foldl_append]
  exact (foldl_applyWrite (run_sound ws) more).2.2

/-- A patch of a finished row's id is refused, or finds no running row and changes nothing. -/
theorem update_of_finished (hs : s.Sound) {r : UploadRow} (hr : r ∈ s.uploads)
    (hfin : r.status ≠ .running) {p : Patch} (hp : p.id = r.id) (now : Instant) :
    s.update p now = .ok (s, false) ∨
      ∃ reason, p.refusal = some reason ∧ s.update p now = .error (.invalidPatch reason) := by
  -- the only row of that id is the finished one, so no running row has it
  have htarget : s.target p = none := by
    rw [target, List.find?_eq_none]
    intro o ho hq
    simp only [Bool.and_eq_true, beq_iff_eq] at hq
    exact hfin (eq_of_id_eq hs.ids_sorted ho hr (hq.1.trans hp) ▸ hq.2)
  unfold update
  cases p.refusal with
  | some reason => exact .inr ⟨reason, rfl, rfl⟩
  | none =>
    left
    rw [htarget]

end UploadTables

/-! ## Opening the store

The program opens its store with `CREATE TABLE IF NOT EXISTS` and `CREATE INDEX IF NOT EXISTS`.
On an empty database that builds the new store's database, where the runs above start; on the
database of any state it changes nothing, so a store opened again keeps what it holds. -/

/-- Creating a table that already exists, where that is allowed, leaves the database as it is. -/
theorem Database.runCreateTable_existing {db : Database} {t : Table} (keys : List Sql.UniqueKey)
    (h : db.table? t.name ≠ none) : db.runCreateTable t keys true = .ok db := by
  simp [Database.runCreateTable, Option.isSome_iff_ne_none.2 h]

/-- Creating an index that already exists, where that is allowed, leaves the database as it is. -/
theorem Database.runCreateIndex_existing {db : Database} {ix : Index}
    (ht : db.table? ix.table ≠ none) (hix : ix ∈ db.indexes) :
    db.runCreateIndex ix true = .ok db := by
  obtain ⟨t, ht⟩ := Option.ne_none_iff_exists'.1 ht
  -- the index is found by its own name, if not at an earlier entry of the same name
  obtain ⟨old, hold⟩ := Option.isSome_iff_exists.1
    (List.find?_isSome.2 ⟨ix, hix, UploadTables.sameName_self ix.name⟩ :
      (db.indexes.find? fun i => sameName i.name ix.name).isSome)
  simp only [Database.runCreateIndex, ht, hold]
  rfl

/-- Creating indexes that all exist leaves the database as it is. -/
theorem Database.foldlM_runCreateIndex_existing {db : Database} :
    ∀ {ixs : List Index}, (∀ ix ∈ ixs, db.runCreateIndex ix true = .ok db) →
      ixs.foldlM (fun db ix => db.runCreateIndex ix true) db = .ok db
  | [], _ => rfl
  | ix :: ixs, h => by
    rw [List.foldlM_cons, h ix List.mem_cons_self]
    exact foldlM_runCreateIndex_existing fun i hi => h i (List.mem_cons_of_mem ix hi)

/-- Opening the store on an empty database creates exactly the tables and indexes of a new
store. -/
theorem Database.openUploads_empty : ({} : Database).openUploads = .ok Database.freshUploads := by
  -- every table and index is missing, so each statement is checked and creates its object
  with_unfolding_all rfl

/-- Opening the store again leaves every state as it is: its tables and indexes are all there,
and each is created only where it is missing. -/
theorem UploadTables.openUploads_db (s : UploadTables) : s.db.openUploads = .ok s.db := by
  have hidx : ∀ ix ∈ uploadIndexes, s.db.runCreateIndex ix true = .ok s.db := by
    intro ix hix
    have htab : ix.table = "uploads" := by revert ix; decide
    exact Database.runCreateIndex_existing (by simp [htab]) (List.mem_append_left _ hix)
  unfold Database.openUploads
  rw [Database.runCreateTable_existing _ (by simp [show uploadsTable.name = "uploads" from rfl]),
    except_ok_bind, Database.foldlM_runCreateIndex_existing hidx, except_ok_bind,
    Database.runCreateTable_existing _
      (by simp [show progressTable.name = "upload_progress" from rfl]), except_ok_bind]
  exact Database.runCreateIndex_existing
    (by simp [show progressIndex.table = "upload_progress" from rfl])
    (List.mem_append_right _ List.mem_cons_self)

/-! ## The store's laws over whole runs -/

/-- Over every run of writes on a new store, the uploads table keeps the store's laws: a node has
at most one running upload; a row has a completion time exactly when it has stopped running; no
row has completed more chunks than it has; every percentage lies between 0 and 100; ids grow in
insertion order; and an accepted creation gets an id above every id used before it. -/
theorem uploads_invariant_over_runs (ws : List StoreWrite) :
    Database.freshUploads.afterWrites ws = (UploadTables.run ws).db ∧
      (∀ o ∈ (UploadTables.run ws).uploads, ∀ o' ∈ (UploadTables.run ws).uploads,
        o.status = .running → o'.status = .running → o.nodeName = o'.nodeName → o = o') ∧
      (∀ o ∈ (UploadTables.run ws).uploads, (o.completedAt = none ↔ o.status = .running)) ∧
      (∀ o ∈ (UploadTables.run ws).uploads, ∀ c t,
        o.chunksCompleted = some c → o.chunksTotal = some t → c ≤ t) ∧
      (∀ o ∈ (UploadTables.run ws).uploads, ∀ x, o.progressPercent = some x →
        (storedReal x).compare (.integer 0) ≠ .lt ∧ (storedReal x).compare (.integer 100) ≠ .gt) ∧
      (UploadTables.run ws).uploads.Pairwise (·.id < ·.id) ∧
      (∀ earlier later, ws = earlier ++ later → ∀ u db k,
        (Database.freshUploads.afterWrites ws).createUpload u = .ok (db, k) →
        ∀ o ∈ (UploadTables.run earlier).uploads, o.id < k) := by
  have hs := UploadTables.run_sound ws
  have hrow := fun o ho => (UploadRow.consistent_iff o).1 (hs.consistent o ho)
  refine ⟨UploadTables.run_db ws, hs.one_running, fun o ho => (hrow o ho).1,
    fun o ho => (hrow o ho).2.2, fun o ho => (hrow o ho).2.1, hs.ids_sorted, ?_⟩
  rintro earlier later rfl u db k hk o ho
  rw [UploadTables.run_db, Database.createUpload_eq hs.owned] at hk
  obtain ⟨⟨s', k'⟩, hc, hpair⟩ := except_map_eq_ok hk
  have hk' : k' = k := (Prod.mk.inj hpair).2
  obtain ⟨hnext, -⟩ := UploadTables.create_ok hc
  -- the row lives on with its id, and the new id is above every id of the state
  obtain ⟨o', ho', hrev⟩ := (UploadTables.run_append_later earlier later).rows o ho
  rw [← hk', hnext, ← hrev.id]
  exact UploadTables.id_lt_nextId _ ho'

/-- Once a run has finished an upload, every later run keeps its row as it is and its readings
as they were, and a patch of its id is refused or changes nothing; every row, finished or not,
keeps its id, node, protocol, node type, start, trigger and protocol data. -/
theorem finished_uploads_frozen (ws more : List StoreWrite) {r : UploadRow}
    (hr : r ∈ (UploadTables.run ws).uploads) (hfin : r.status ≠ .running) :
    r ∈ (UploadTables.run (ws ++ more)).uploads ∧
      (UploadTables.run (ws ++ more)).progress.filter (·.uploadId == r.id) =
        (UploadTables.run ws).progress.filter (·.uploadId == r.id) ∧
      (∀ p now, p.id = r.id →
        (Database.freshUploads.afterWrites (ws ++ more)).updateUpload p now =
            .ok (Database.freshUploads.afterWrites (ws ++ more), false) ∨
          ∃ reason, p.refusal = some reason ∧
            (Database.freshUploads.afterWrites (ws ++ more)).updateUpload p now =
              .error (.invalidPatch reason)) ∧
      ∀ o ∈ (UploadTables.run ws).uploads, ∃ o' ∈ (UploadTables.run (ws ++ more)).uploads,
        o.Revision o' := by
  have hlater := UploadTables.run_append_later ws more
  have hs := UploadTables.run_sound (ws ++ more)
  have hr' : r ∈ (UploadTables.run (ws ++ more)).uploads := by
    obtain ⟨o', ho', hrev⟩ := hlater.rows r hr
    rwa [hrev.frozen hfin] at ho'
  refine ⟨hr', hlater.history r hr hfin, fun p now hp => ?_, hlater.rows⟩
  rw [UploadTables.run_db, Database.updateUpload_eq hs]
  rcases UploadTables.update_of_finished hs hr' hfin hp now with h | ⟨reason, hreason, h⟩
  · left
    rw [h]
    rfl
  · right
    exact ⟨reason, hreason, by rw [h]; rfl⟩

/-- An upload created and then completed on a new store: a later patch finishing it again as
failed is refused or changes nothing, and the row stays as it is. -/
theorem completed_upload_frozen :
    let created : NewUpload :=
      { nodeName := "n", protocol := "p", nodeType := "t", startedAt := ⟨0, 0, 0⟩,
        trigger := .manual }
    let done : Patch := { id := 1, status := some .completed, completedAt := some ⟨0, 60, 0⟩ }
    let ws := [StoreWrite.create created, .update done ⟨0, 60, 0⟩]
    let more := [StoreWrite.update { done with status := some .failed } ⟨0, 90, 0⟩]
    let r := (UploadTables.empty.newRow created).patch done
    (r ∈ (UploadTables.run ws).uploads ∧ r.status ≠ .running) ∧
      r ∈ (UploadTables.run (ws ++ more)).uploads ∧
      (UploadTables.run (ws ++ more)).progress.filter (·.uploadId == r.id) =
        (UploadTables.run ws).progress.filter (·.uploadId == r.id) ∧
      (∀ p now, p.id = r.id →
        (Database.freshUploads.afterWrites (ws ++ more)).updateUpload p now =
            .ok (Database.freshUploads.afterWrites (ws ++ more), false) ∨
          ∃ reason, p.refusal = some reason ∧
            (Database.freshUploads.afterWrites (ws ++ more)).updateUpload p now =
              .error (.invalidPatch reason)) ∧
      ∀ o ∈ (UploadTables.run ws).uploads, ∃ o' ∈ (UploadTables.run (ws ++ more)).uploads,
        o.Revision o' := by
  intro created done ws more r
  have hr : r ∈ (UploadTables.run ws).uploads := by
    rw [show (UploadTables.run ws).uploads = [r] from rfl]
    exact List.mem_singleton_self r
  have hfin : r.status ≠ .running := by decide
  exact ⟨⟨hr, hfin⟩, finished_uploads_frozen ws more hr hfin⟩

end SnapshotAgent.Store
