import SnapshotAgent.Proofs.Store.Session
/-!
# The store's operations on typed states

`Database.createUpload` and `Database.updateUpload` run the store's statements in a session and
read back what they answer. Over the database of an `UploadTables`, each of them is a plain
function of the typed state (`UploadTables.create`, `UploadTables.update`): which refusal comes
first, which row is written, which reading the history gains. `Database.createUpload_eq` and
`Database.updateUpload_eq` prove the two equal, so the theory of the store's runs can be told on
typed states alone.

## The invariant

`UploadTables.Sound` collects what the store keeps true: ids grow in the order rows were
inserted, a node has at most one running upload, every row keeps the constraints of its table,
and every reading of the history belongs to an upload. The update needs the first two to find
its row, and every write needs the last to pass the foreign key check.
-/

namespace SnapshotAgent.Store

open SnapshotAgent.Upload SnapshotAgent.Time

/-! ## The operations on typed states -/

namespace UploadTables

variable (s : UploadTables)

/-- Appending a reading of an upload to the history: refused only when ids are exhausted. -/
def appendReading (uploadId : Int) (checkedAt : Instant) (percent : Option Float)
    (done total : Option Int) : Except StoreError UploadTables :=
  if maxInteger < s.nextId s.progressT then
    .error (.database (engineError 13 "database or disk is full"))
  else
    .ok ((s.addProgress (progressRow (s.nextId s.progressT) uploadId checkedAt percent done
      total)).recordId "upload_progress" (s.nextId s.progressT))

/-- The row a new upload gets: the next id, and its protocol data written as compact JSON. -/
def newRow (u : NewUpload) : UploadRow :=
  u.toRow (Json.compact (.obj u.protocolData)) (s.nextId s.uploadsT)

/-- Creating an upload: the new row is refused when ids are exhausted, when it breaks a
constraint, or when its node has a running upload; otherwise it is appended, with a first
reading of its progress when it carries one. -/
def create (u : NewUpload) : Except StoreError (UploadTables × Int) :=
  if maxInteger < s.nextId s.uploadsT then
    .error (.database (engineError 13 "database or disk is full"))
  else match (s.newRow u).brokenCheck with
    | some k => .error (.database (engineError 275 ("CHECK constraint failed: " ++ k.text)))
    | none =>
      if s.uploads.any (fun o => o.nodeName == u.nodeName && o.status == .running) then
        .error (.conflict u.nodeName)
      else if u.hasProgress then
        (·, s.nextId s.uploadsT) <$>
          ((s.addUpload (s.newRow u)).recordId "uploads" (s.nextId s.uploadsT)).appendReading
            (s.nextId s.uploadsT) (u.lastProgressCheck.getD u.startedAt) u.progressPercent
            u.chunksCompleted u.chunksTotal
      else .ok ((s.addUpload (s.newRow u)).recordId "uploads" (s.nextId s.uploadsT),
        s.nextId s.uploadsT)

/-- The running row with a patch's id, if there is one. -/
def target (p : Patch) : Option UploadRow :=
  s.uploads.find? fun o => o.id == p.id && o.status == .running

/-- Applying a patch: an inconsistent patch is refused, a patch of no running row changes
nothing, and otherwise the merged row replaces its row unless it breaks a constraint; a patch
carrying progress then appends a reading, timed at its progress check, else its completion, else
`now`. -/
def update (p : Patch) (now : Instant) : Except StoreError (UploadTables × Bool) :=
  match p.refusal with
  | some reason => .error (.invalidPatch reason)
  | none =>
    match s.target p with
    | none => .ok (s, false)
    | some u =>
      match (u.patch p).brokenCheck with
      | some k => .error (.database (engineError 275 ("CHECK constraint failed: " ++ k.text)))
      | none =>
        if p.hasProgress then
          (·, true) <$> (s.setUpload (u.patch p)).appendReading p.id
            ((p.lastProgressCheck.orElse fun _ => p.completedAt).getD now) p.progressPercent
            p.chunksCompleted p.chunksTotal
        else .ok (s.setUpload (u.patch p), true)

/-- The target of a patch is a running row of the patch's id. -/
theorem target_spec {s : UploadTables} {p : Patch} {u : UploadRow} (h : s.target p = some u) :
    u ∈ s.uploads ∧ u.id = p.id ∧ u.status = .running := by
  have hq := List.find?_some h
  simp only [Bool.and_eq_true, beq_iff_eq] at hq
  exact ⟨List.mem_of_find?_eq_some h, hq⟩

/-- A row set in the place of a row of its id is a row of the new state. -/
theorem mem_setUpload {o : UploadRow} (ho : o ∈ s.uploads) {v : UploadRow} (hid : o.id = v.id) :
    v ∈ (s.setUpload v).uploads :=
  List.mem_map.2 ⟨o, ho, if_pos hid⟩

end UploadTables

/-! ## The invariant -/

/-- What the store keeps true of its tables. -/
structure UploadTables.Sound (s : UploadTables) : Prop where
  /-- Ids grow in the order rows were inserted. -/
  ids_sorted : s.uploads.Pairwise (·.id < ·.id)
  /-- A node has at most one running upload. -/
  one_running : ∀ o ∈ s.uploads, ∀ o' ∈ s.uploads, o.status = .running → o'.status = .running →
    o.nodeName = o'.nodeName → o = o'
  /-- Every row keeps the constraints of its table. -/
  consistent : ∀ o ∈ s.uploads, o.consistent = true
  /-- Every reading of the history belongs to an upload. -/
  owned : s.historyOwned = true

/-! ## The operations on the database -/

section Refinement

variable {s : UploadTables}

theorem readId (k : Int) : ResultRow.integer ⟨["id"], [.integer k]⟩ "id" = .ok k := by
  simp [ResultRow.integer, ResultRow.cell]

theorem readColumn_ok {α : Type} (a : α) : readColumn (.ok a) = .ok a := rfl

/-- Creating an upload in the database of a state is creating it in the state. -/
theorem Database.createUpload_eq (hown : s.historyOwned = true) (u : NewUpload) :
    s.db.createUpload u = (fun r => (r.1.db, r.2)) <$> s.create u := by
  unfold Database.createUpload UploadTables.create
  dsimp only
  rw [@Session.storeStep_uploadInsert (Session.start s.db) s rfl hown u _,
    show u.toRow (Json.obj u.protocolData).compact (s.nextId s.uploadsT) = s.newRow u from rfl]
  by_cases htop : maxInteger < s.nextId s.uploadsT
  · simp only [htop, if_true]
    rfl
  simp only [htop, if_false]
  cases (s.newRow u).brokenCheck with
  | some k => rfl
  | none =>
    cases s.uploads.any (fun o => o.nodeName == u.nodeName && o.status == .running)
    · -- the row is written and its id read back
      simp only [Bool.false_eq_true, if_false, pure_bind, List.head?_cons, readId, readColumn_ok,
        except_ok_bind]
      cases u.hasProgress
      · rfl
      · -- the first reading goes to the new row
        have hv : s.newRow u ∈
            ((s.addUpload (s.newRow u)).recordId "uploads" (s.nextId s.uploadsT)).uploads := by
          simp [UploadTables.addUpload]
        have hown' : ((s.addUpload (s.newRow u)).recordId "uploads"
            (s.nextId s.uploadsT)).historyOwned = true := by
          rw [UploadTables.historyOwned_recordId]
          exact UploadTables.historyOwned_addUpload hown _
        generalize (s.addUpload (s.newRow u)).recordId "uploads" (s.nextId s.uploadsT) = s'
          at hv hown' ⊢
        rw [if_pos rfl, if_pos rfl,
          @Session.appendProgress_eq ((Session.start s.db).wrote s'.db (s.nextId s.uploadsT) 1) s'
            rfl hown' _ hv (s.nextId s.uploadsT) rfl, UploadTables.appendReading]
        by_cases hfull : maxInteger < s'.nextId s'.progressT
        · simp only [hfull, if_true]
          rfl
        · simp only [hfull, if_false]
          rfl
    · rfl

/-- Applying a patch in the database of a sound state is applying it in the state. -/
theorem Database.updateUpload_eq (hs : s.Sound) (p : Patch) (now : Instant) :
    s.db.updateUpload p now = (fun r => (r.1.db, r.2)) <$> s.update p now := by
  unfold Database.updateUpload UploadTables.update
  cases p.refusal with
  | some reason => rfl
  | none =>
    dsimp only
    erw [@Session.storeStep_patch (Session.start s.db) s rfl hs.ids_sorted hs.one_running hs.owned p]
    rw [show s.uploads.find? (fun o => o.id == p.id && o.status == .running) = s.target p from rfl]
    cases htarget : s.target p with
    | none => rfl
    | some u =>
      obtain ⟨hu, hid, -⟩ := UploadTables.target_spec htarget
      dsimp only
      cases (u.patch p).brokenCheck with
      | some k => rfl
      | none =>
        cases p.hasProgress
        · rfl
        · -- the reading goes to the patched row
          have hv := @UploadTables.mem_setUpload s u hu (u.patch p) rfl
          have hown' : (s.setUpload (u.patch p)).historyOwned = true := by
            rw [UploadTables.historyOwned_setUpload]
            exact hs.owned
          generalize s.setUpload (u.patch p) = s' at hv hown' ⊢
          simp only [Session.wrote_changes, beq_self_eq_true, Bool.true_and, if_true]
          rw [@Session.appendProgress_eq
            ((Session.start s.db).wrote s'.db (Session.start s.db).effects.lastRowid 1) s' rfl hown' _
            hv p.id hid, UploadTables.appendReading]
          by_cases hfull : maxInteger < s'.nextId s'.progressT
          · simp only [hfull, if_true]
            rfl
          · simp only [hfull, if_false]
            rfl

end Refinement

end SnapshotAgent.Store
