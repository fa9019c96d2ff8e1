import Mathlib
import SnapshotAgent.Proofs.Store.Creation
/-!
# How the next ids grow

The engine gives a new row of a table the id one above the largest of the table's row ids and of
the id `sqlite_sequence` records for it (`UploadTables.nextId`). A run that writes many rows, such
as a monitor tick that discovers several uploads, stays within the ids only if each write uses up
at most one id of each table. This file proves that bound for the two writes of the store:

* an accepted creation adds one row to `uploads`, records its id, and may add one reading to the
  history (`create_nextIds`);
* an accepted patch keeps the row ids of `uploads` and may add one reading (`update_nextIds`).

Both rest on `nextId_le`: once the engine has recorded a bound of a table's ids, the next id is at
most one above it.
-/

namespace SnapshotAgent.Store

open SnapshotAgent.Upload SnapshotAgent.Time

/-! ## The largest row id -/

/-- The highest row id of a table with rows is at most any bound of its rows' ids. -/
theorem Table.maxRowid_le {t : Table} {m : Int} (hne : t.rows ≠ [])
    (h : ∀ r ∈ t.rows, r.rowid ≤ m) : t.maxRowid ≤ m := by
  -- the running maximum stays below the bound
  have key : ∀ (l : List Row) (m₀ : Int), m₀ ≤ m → (∀ o ∈ l, o.rowid ≤ m) →
      l.foldl (fun m o => max m o.rowid) m₀ ≤ m := by
    intro l
    induction l with
    | nil => exact fun m₀ h₀ _ => h₀
    | cons x xs ih =>
      intro m₀ h₀ hl
      exact ih _ (max_le h₀ (hl x List.mem_cons_self)) fun o ho => hl o (List.mem_cons_of_mem x ho)
  unfold Table.maxRowid
  split
  · contradiction
  · next a rest hrows =>
    rw [hrows] at h
    exact key rest a.rowid (h a List.mem_cons_self) fun o ho => h o (List.mem_cons_of_mem a ho)

/-- The highest row id of a table reads the rows' ids only. -/
theorem Table.maxRowid_congr {t t' : Table} (h : t.rows.map (·.rowid) = t'.rows.map (·.rowid)) :
    t.maxRowid = t'.maxRowid := by
  unfold Table.maxRowid
  rcases ht : t.rows with _ | ⟨a, rest⟩ <;> rcases ht' : t'.rows with _ | ⟨a', rest'⟩
  · rfl
  · rw [ht, ht'] at h
    cases h
  · rw [ht, ht'] at h
    cases h
  · rw [ht, ht', List.map_cons, List.map_cons, List.cons.injEq] at h
    obtain ⟨ha, hrest⟩ := h
    dsimp only
    rw [← List.foldl_map (g := fun m x => max m x), hrest, List.foldl_map, ha]

/-- A new row placed among rows none of which passes a test is the first that passes it. -/
theorem Table.find?_placeRow_self {t : Table} {r : Row} {p : Row → Bool} (hr : p r = true) :
    ∀ rows : List Row, (∀ o ∈ rows, p o = false) → (t.placeRow r rows).find? p = some r
  | [], _ => by simp [Table.placeRow, hr]
  | o :: rest, hrows => by
    unfold Table.placeRow
    split
    · simp [hr]
    · rw [List.find?_cons, hrows o List.mem_cons_self,
        Table.find?_placeRow_self hr rest fun x hx => hrows x (List.mem_cons_of_mem o hx)]

namespace UploadTables

variable (s : UploadTables)

/-- Recording the id a table gave out is what the engine then reads for it. -/
theorem sequenceOf_recordId_self (a : String) (v : Int) :
    (s.recordId a v).db.sequenceOf a = some v := by
  have hrenew : ∀ r : Row, (if r.records a then { r with cells := [.text a, .integer v] } else r).records a
      = r.records a := by
    intro r
    by_cases hr : r.records a = true
    · rw [if_pos hr, hr]
      exact sameName_self a
    · rw [if_neg hr]
  rw [db_recordId]
  unfold Database.setSequence
  rw [table_sequence]
  dsimp only
  split
  · next hany =>
    rw [putTable_sequence]
    simp only [Database.sequenceOf, table_sequence, Option.bind_some]
    dsimp only [UploadTables.sequenceT]
    change ((List.map (fun r : Row => if r.records a then { r with cells := [.text a, .integer v] }
        else r) s.sequence).find? fun r : Row => r.records a).bind _ = _
    rw [List.find?_map, show (fun r : Row => r.records a) ∘
      (fun r : Row => if r.records a then { r with cells := [.text a, .integer v] } else r) =
      fun r : Row => r.records a from funext hrenew]
    obtain ⟨r, hr⟩ : ∃ r, s.sequence.find? (fun r : Row => r.records a) = some r := by
      rcases h : s.sequence.find? (fun r : Row => r.records a) with _ | r
      · rw [List.find?_eq_none] at h
        obtain ⟨o, ho, hoa⟩ := List.any_eq_true.1 hany
        exact absurd (show o.records a = true from hoa) (by simpa using h o ho)
      · exact ⟨r, rfl⟩
    rw [hr]
    have hra : r.records a = true := by simpa using List.find?_some hr
    simp [hra]
  · next hany =>
    rw [Table.addRow, putTable_sequence]
    simp only [Database.sequenceOf, table_sequence, Option.bind_some]
    dsimp only [UploadTables.sequenceT]
    change ((Table.placeRow _ _ s.sequence).find? fun r : Row => r.records a).bind _ = _
    rw [Table.find?_placeRow_self (by simp [Row.records, sameName_self])]
    · rfl
    · intro o ho
      rw [Bool.not_eq_true, List.any_eq_false] at hany
      have hno := hany o ho
      simp only [Bool.not_eq_true] at hno
      exact hno

/-! ## The writes -/

section Counts

variable {S : UploadTables}

/-- The next id is at most one above a bound of a table's ids that the engine has recorded. -/
theorem nextId_le {t : Table} {k : Int} (hmax : t.maxRowid ≤ k)
    (hseq : S.db.sequenceOf t.name = some k) : S.nextId t ≤ k + 1 := by
  unfold nextId
  rw [hseq, Option.getD_some]
  have := Int.max_le.2 ⟨hmax, Int.le_refl k⟩
  omega

/-- An upload row appended with the next id, whose id is then recorded: the next id of `uploads` is
at most one above it. -/
theorem nextId_uploads_recordId (v : UploadRow) (hv : v.id = S.nextId S.uploadsT) :
    ((S.addUpload v).recordId "uploads" v.id).nextId
      ((S.addUpload v).recordId "uploads" v.id).uploadsT ≤ v.id + 1 := by
  have hmax : ((S.addUpload v).recordId "uploads" v.id).uploadsT.maxRowid ≤ v.id := by
    apply Table.maxRowid_le (by simp [addUpload])
    intro r hr
    simp only [uploadsT_rows, recordId_uploads, addUpload, List.map_append, List.map_singleton,
      List.mem_append, List.mem_map, List.mem_singleton] at hr
    rcases hr with ⟨o, ho, rfl⟩ | rfl
    · exact Int.le_of_lt (hv ▸ S.id_lt_nextId ho)
    · exact Int.le_refl _
  exact nextId_le hmax (by rw [uploadsT_name]; exact sequenceOf_recordId_self _ _ _)

/-- An appended reading: the next id of the history grows by at most one, and that of `uploads`
stays. -/
theorem appendReading_nextIds {uploadId : Int} {checkedAt : Instant} {percent : Option Float}
    {done total : Option Int} {S' : UploadTables}
    (h : S.appendReading uploadId checkedAt percent done total = .ok S') :
    S'.nextId S'.progressT ≤ S.nextId S.progressT + 1 ∧ S'.nextId S'.uploadsT = S.nextId S.uploadsT := by
  unfold appendReading at h
  split at h
  · cases h
  cases h
  refine ⟨?_, ?_⟩
  · have hmax : ((S.addProgress (progressRow (S.nextId S.progressT) uploadId checkedAt percent done
        total)).recordId "upload_progress" (S.nextId S.progressT)).progressT.maxRowid ≤
        S.nextId S.progressT := by
      apply Table.maxRowid_le (by simp [addProgress])
      intro r hr
      simp only [progressT_rows, recordId_progress, addProgress, List.map_append,
        List.map_singleton, List.mem_append, List.mem_map, List.mem_singleton] at hr
      rcases hr with ⟨q, hq, rfl⟩ | rfl
      · exact Int.le_of_lt (S.progress_id_lt_nextId hq)
      · exact Int.le_refl _
    exact nextId_le hmax (by rw [progressT_name]; exact sequenceOf_recordId_self _ _ _)
  · generalize S.nextId S.progressT = k
    have hseq : ((S.addProgress (progressRow k uploadId checkedAt percent done
        total)).recordId "upload_progress" k).db.sequenceOf "uploads" =
        S.db.sequenceOf "uploads" := by
      rw [sequenceOf_recordId _ (by decide)]
      exact sequenceOf_progress S _ _
    unfold nextId
    rw [uploadsT_name, uploadsT_name, hseq]
    rfl

/-- An accepted creation: the next id of each table grows by at most one. -/
theorem create_nextIds {u : NewUpload} {S' : UploadTables} {k : Int}
    (h : S.create u = .ok (S', k)) :
    S'.nextId S'.uploadsT ≤ S.nextId S.uploadsT + 1 ∧
      S'.nextId S'.progressT ≤ S.nextId S.progressT + 1 := by
  -- the new row's id is the next id; rewritten first, so that no step compares the two by unfolding
  have hid : (S.newRow u).id = S.nextId S.uploadsT := rfl
  have hup := nextId_uploads_recordId (S := S) (S.newRow u) hid
  rw [hid] at hup
  have hprog := nextId_progress_recordId S (S.newRow u) (S.nextId S.uploadsT)
  unfold create at h
  split at h
  · cases h
  split at h
  · cases h
  split at h
  · cases h
  split at h
  · -- the first reading adds one to the history's ids only
    obtain ⟨S'', hS'', hpair⟩ := except_map_eq_ok h
    cases hpair
    obtain ⟨hp, hu⟩ := appendReading_nextIds hS''
    rw [hu, ← hprog]
    exact ⟨hup, hp⟩
  · cases h
    exact ⟨hup, by rw [hprog]; omega⟩

/-- Setting a row keeps the next id of `uploads`: the row ids stay. -/
theorem nextId_uploads_setUpload (v : UploadRow) :
    (S.setUpload v).nextId (S.setUpload v).uploadsT = S.nextId S.uploadsT := by
  have hmax : (S.setUpload v).uploadsT.maxRowid = S.uploadsT.maxRowid := by
    apply Table.maxRowid_congr
    simp only [uploadsT_rows, setUpload, List.map_map]
    apply List.map_congr_left
    intro o _
    by_cases ho : o.id = v.id <;> simp [ho]
  unfold nextId
  rw [hmax, uploadsT_name, uploadsT_name, setUpload, sequenceOf_uploads]

/-- An accepted patch: the next id of `uploads` stays and that of the history grows by at most
one. -/
theorem update_nextIds {p : Patch} {now : Instant} {S' : UploadTables} {b : Bool}
    (h : S.update p now = .ok (S', b)) :
    S'.nextId S'.uploadsT = S.nextId S.uploadsT ∧
      S'.nextId S'.progressT ≤ S.nextId S.progressT + 1 := by
  unfold update at h
  split at h
  · cases h
  split at h
  · cases h
    exact ⟨rfl, by omega⟩
  next u _ =>
  split at h
  · cases h
  split at h
  · obtain ⟨S'', hS'', hpair⟩ := except_map_eq_ok h
    cases hpair
    obtain ⟨hp, hu⟩ := appendReading_nextIds hS''
    rw [nextId_progress_setUpload] at hp
    exact ⟨hu.trans (nextId_uploads_setUpload _), hp⟩
  · cases h
    exact ⟨nextId_uploads_setUpload _, by rw [nextId_progress_setUpload]; omega⟩

end Counts

end UploadTables

end SnapshotAgent.Store
