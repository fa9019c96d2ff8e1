import Mathlib
import SnapshotAgent.Proofs.Store.Operations
import SnapshotAgent.Proofs.Store.Query
/-!
# Reading upload rows

The store reads its upload rows with one shape of query, `columnsQuery "uploads" uploadColumns`:
every column of the table, a filter, an order over columns of the table and perhaps a limit. Over
the database of an `UploadTables` this is the query of columns of `Proofs/Store/Query` on the
`uploads` table, and `UploadTables.selectRows_uploadsQuery` says what it answers: the rows the
filter keeps, sorted by `sortByKeys` on their order keys when there is an order, and cut to the
limit.

A filter enters only through what it evaluates to over one row of the table, and an order term
only through the column it names, whose value in a row is `UploadRow.column`.
-/

namespace SnapshotAgent.Store

theorem uploadsShape_answers : ∀ c ∈ uploadColumns, (uploadsTable.sourceShape "uploads").answers c = true := by
  decide

/-- In a scope of the `uploads` table, each of its columns resolves. -/
theorem checkExpr_uploadsColumn {n : Names} (hf : n.frames = [[uploadsTable.sourceShape "uploads"]])
    (fuel : Nat) {c : String} (hc : c ∈ uploadColumns) : checkExpr (fuel + 1) n (.col c) = .ok () :=
  checkExpr_sourceColumn hf fuel (uploadsShape_answers c hc)

/-- A term ordering by one of the columns of `uploads`. -/
def ByUploadsColumn (t : OrderTerm) : Prop := ∃ c ∈ uploadColumns, t.expr = .col c

/-- The value of a column of `uploads` in an upload row, `NULL` for a name it does not have. -/
def UploadRow.column (o : UploadRow) (c : String) : Cell :=
  ((uploadsTable.columnIndex? c).map fun i => o.cells.getD i .null).getD .null

/-- The key an upload row sorts by under an order term naming one of its columns. -/
def UploadRow.sortKey (o : UploadRow) : OrderTerm → SortKey
  | .term e descending nullsFirst =>
    { value := match e with
        | .column _ c => o.column c
        | _ => .null
      descending, nullsFirst := nullsFirst.getD !descending, collation := .binary }

/-- Read column by column, an upload row gives back its values. -/
theorem map_column_uploadColumns (o : UploadRow) : uploadColumns.map o.column = o.cells := by
  have h : uploadColumns.map o.column =
      (uploadColumns.map uploadsTable.columnIndex?).map fun oi =>
        (oi.map fun i => o.cells.getD i .null).getD .null := by
    simp only [List.map_map]
    rfl
  have hidx : uploadColumns.map uploadsTable.columnIndex? = (List.range 16).map some := by
    decide
  rw [h, hidx]
  rfl

namespace UploadTables

variable (s : UploadTables)

theorem uploadsT_columnIndex : ∀ c ∈ uploadColumns, (s.uploadsT.columnIndex? c).isSome := by
  have h : ∀ c ∈ uploadColumns, (uploadsTable.columnIndex? c).isSome = true := by decide
  exact h

theorem uploadsT_collation : ∀ c ∈ s.uploadsT.columns, c.collation = none := by
  rw [uploadsT_columns]
  decide

theorem uploadsT_cellOf (o : UploadRow) : s.uploadsT.cellOf o.row = o.column := rfl

theorem uploadsT_sortKeyOf (o : UploadRow) : s.uploadsT.sortKeyOf o.row = o.sortKey := by
  funext term
  obtain ⟨e, descending, nullsFirst⟩ := term
  rfl

/-- Over the database of an `UploadTables`, the store's query of the columns of `uploads` answers
the rows its filter keeps, in the order of their keys, cut to the limit. -/
theorem selectRows_uploadsQuery {filter : Expr} {P : UploadRow → Bool}
    (hcheck : ∀ n : Names, n.frames = [[uploadsTable.sourceShape "uploads"]] →
      checkExpr 1997 n filter = .ok ())
    (hP : ∀ sc o, RowScope sc s.uploadsT o.row → evalExpr 1997 sc filter = .ok (ofBool (P o)))
    {order : List OrderTerm} (horder : ∀ t ∈ order, ByUploadsColumn t) (limit : Option Nat) :
    s.db.selectRows (columnsQuery "uploads" uploadColumns filter order limit) =
      .ok (keepFirst limit (if order.isEmpty then (s.uploads.filter P).map UploadRow.cells
        else sortByKeys ((s.uploads.filter P).map fun o => (o.cells, order.map o.sortKey)))) := by
  rw [Database.selectRows_columnsQuery (table_uploads s) rfl (uploadsT_collation s) (uploadsT_rows s)
    (uploadsT_columnIndex s) (by decide) hcheck hP
    (fun t ht => let ⟨c, hc, he⟩ := horder t ht; ⟨c, uploadsT_columnIndex s c hc, he⟩) limit]
  simp only [columnsAnswer, uploadsT_cellOf, uploadsT_sortKeyOf, map_column_uploadColumns]

end UploadTables

end SnapshotAgent.Store
