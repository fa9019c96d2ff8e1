import Mathlib
import SnapshotAgent.Proofs.Store.Session
/-!
# Reading the rows of a table

The store reads its rows with one shape of query, `columnsQuery table columns filter order limit`:
some columns of one table, a filter, an order over columns of the table and perhaps a limit. This
file runs that query through the engine once and for all, for any table whose columns carry no
collation and whose rows are the images of a list of typed rows. `checkChange_columnsQuery` says
that the query passes the engine's check whenever its filter does, and
`Database.selectRows_columnsQuery` says what it answers: the rows its filter keeps, read column by
column (`Table.cellOf`), sorted by `sortByKeys` on their order keys when there is an order, and cut
to the limit.

A filter enters only through what it evaluates to over one row of the table, and an order term
only through the column it names (`Table.OrdersBy`). The uploads and the progress history are
both read through these lemmas.
-/

namespace SnapshotAgent.Store

/-- A loop whose every step goes on without failing does not fail. -/
theorem forIn_yield_ok {α ε : Type} (l : List α) (g : α → PUnit → Except ε (ForInStep PUnit))
    (h : ∀ x ∈ l, g x PUnit.unit = .ok (.yield PUnit.unit)) : forIn l PUnit.unit g = .ok PUnit.unit := by
  induction l with
  | nil => rfl
  | cons x l ih =>
    rw [List.forIn_cons, h x List.mem_cons_self]
    exact ih fun y hy => h y (List.mem_cons_of_mem x hy)

/-! ## The columns of a table -/

/-- The value of a column of a table in one of its rows, `NULL` for a name the table does not
have. -/
def Table.cellOf (t : Table) (r : Row) (c : String) : Cell :=
  ((t.columnIndex? c).map fun i => r.cells.getD i .null).getD .null

/-- A term ordering by one of the columns of a table. -/
def Table.OrdersBy (t : Table) (term : OrderTerm) : Prop :=
  ∃ c, (t.columnIndex? c).isSome ∧ term.expr = .col c

/-- The key a row of a table sorts by under an order term naming one of the table's columns. -/
def Table.sortKeyOf (t : Table) (r : Row) : OrderTerm → SortKey
  | .term e descending nullsFirst =>
    { value := match e with
        | .column _ c => t.cellOf r c
        | _ => .null
      descending, nullsFirst := nullsFirst.getD !descending, collation := .binary }

section Columns

variable {t : Table}

/-- The check's view of a table answers exactly the names of its columns. -/
theorem Table.answers_sourceShape (t : Table) (name c : String) :
    (t.sourceShape name).answers c = (t.columnIndex? c).isSome := by
  simp [SourceShape.answers, Table.sourceShape, Table.columnIndex?, List.findIdx?_isSome,
    List.any_map, Function.comp_def]

theorem Table.columnIndex_of_isSome {c : String} (h : (t.columnIndex? c).isSome) :
    ∃ i, t.columnIndex? c = some i :=
  Option.isSome_iff_exists.1 h

theorem Table.cellOf_of_index {r : Row} {c : String} {i : Nat} (hi : t.columnIndex? c = some i) :
    t.cellOf r c = r.cells.getD i .null := by
  simp [Table.cellOf, hi]

/-- A table whose columns carry no collation lends none to the columns of its rows. -/
theorem Table.shape_collation (hcoll : ∀ c ∈ t.columns, c.collation = none) (i : Nat) :
    ((t.shape none).columns[i]?.getD default).collation = none := by
  cases h : (t.shape none).columns[i]? with
  | none => rfl
  | some c =>
    obtain ⟨c', hc', rfl⟩ := List.mem_map.1 (List.mem_of_getElem? h)
    exact hcoll c' hc'

/-- In the scope of the table's shape, a column of the table is found. -/
theorem Table.find_shape {c : String} (hc : (t.columnIndex? c).isSome) :
    (Frame.find [t.shape none] none c).isSome = true := by
  obtain ⟨i, hi⟩ := Table.columnIndex_of_isSome hc
  have hcols : ((t.shape none).columns.findIdx? fun col => sameName col.name c) = some i := by
    simp only [Table.shape]
    rw [List.findIdx?_map]
    exact hi
  have hframe : Frame.find [t.shape none] none c = (t.shape none).find c := by
    simp [Frame.find, Table.shape]
  rw [hframe, Binding.find, hcols]
  rfl

end Columns

/-! ## The check -/

theorem checkSource_table {t : Table} {n : Names} {name : String} (htable : n.db.table? name = some t)
    (hname : t.name = name) (hctes : n.ctes = []) (fuel : Nat) :
    checkSource (fuel + 1) n (.table name none) = .ok [t.sourceShape name] := by
  simp only [checkSource, hctes, List.find?_nil, htable]
  rw [← hname]
  rfl

/-- In a scope of one source, each name the source answers resolves. -/
theorem checkExpr_sourceColumn {n : Names} {shape : SourceShape} (hf : n.frames = [[shape]])
    (fuel : Nat) {c : String} (hc : shape.answers c = true) : checkExpr (fuel + 1) n (.col c) = .ok () := by
  obtain ⟨db, frames, ctes, aggregates, inTrigger, aliases, schema⟩ := n
  subst hf
  rw [checkExpr_col]
  exact Names.column_single _ _ _ _ _ _ _ hc

section Check

variable {t : Table} {db : Database} {name : String} (htable : db.table? name = some t)
  (hname : t.name = name) {cols : List String} (hcols : ∀ c ∈ cols, (t.columnIndex? c).isSome)
  {filter : Expr} (hfilter : ∀ n : Names, n.frames = [[t.sourceShape name]] →
    checkExpr 1997 n filter = .ok ())
  {order : List OrderTerm} (horder : ∀ term ∈ order, t.OrdersBy term)
include htable hname hcols hfilter horder

/-- Columns of a table, selected with a filter and ordered by columns of the table, pass the
check when the filter does. -/
theorem checkSelect_columns :
    checkSelect 1998 { db, ctes := [] } (cols.map fun c => .expr (.col c) none c)
      (some (.table name none)) (some filter) [] none order =
      .ok (resultNames [t.sourceShape name] (cols.map fun c => .expr (.col c) none c)) := by
  rw [checkSelect, checkSource_table htable hname rfl 1996]
  simp only [except_ok_bind, Option.isNone_some, Bool.false_and, Bool.false_eq_true, if_false]
  rw [forIn_yield_ok _ _ (by simp), forIn_yield_ok _ _ fun x hx => ?column, hfilter _ rfl]
  · simp only [except_ok_bind, List.length_nil, List.range_zero, List.zip_nil_left, List.forIn_nil]
    rw [forIn_yield_ok _ _ fun x hx => ?term]
    · rfl
    -- an order term names a column of the table, so it is checked as that column
    case term =>
      obtain ⟨c, hc, he⟩ := horder x.1 (List.of_mem_zip hx).1
      simp only [he, Expr.col]
      rw [show Expr.column none c = Expr.col c from rfl,
        checkExpr_sourceColumn rfl 1996 (by rw [Table.answers_sourceShape]; exact hc)]
      rfl
  case column =>
    simp only [List.mem_map] at hx
    obtain ⟨c, hc, rfl⟩ := hx
    dsimp only
    rw [checkExpr_sourceColumn rfl 1996 (by rw [Table.answers_sourceShape]; exact hcols c hc)]
    all_goals rfl

/-- A query of columns of a table passes the check when its filter does and it orders by columns
of the table. -/
theorem checkChange_columnsQuery (limit : Option Nat) :
    checkChange evalFuel { db, ctes := [] } []
      (.select (columnsQuery name cols filter order limit)) = .ok () := by
  unfold columnsQuery
  rw [show evalFuel = 1997 + 1 + 1 + 1 from rfl, checkChange]
  -- with no order and no limit the query is a plain `SELECT`, else an ordered one
  split
  · rw [checkQuery, checkSelect_columns htable hname hcols hfilter fun _ h => absurd h List.not_mem_nil]
    rfl
  · rw [checkQuery]
    dsimp only
    rw [checkSelect_columns htable hname hcols hfilter horder]
    cases limit <;> rfl

end Check

/-! ## Running the query -/

theorem filterAuxM_map_ok {α β ε : Type} (g : β → α) (p : α → Except ε Bool) (q : β → Bool) :
    ∀ (xs : List β) (acc : List α), (∀ x ∈ xs, p (g x) = .ok (q x)) →
      List.filterAuxM p (xs.map g) acc = .ok (((xs.filter q).map g).reverse ++ acc)
  | [], _, _ => rfl
  | x :: xs, acc, hp => by
    simp only [List.map_cons, List.filterAuxM, hp x List.mem_cons_self, except_ok_bind]
    rw [filterAuxM_map_ok g p q xs _ fun y hy => hp y (List.mem_cons_of_mem x hy)]
    cases hq : q x <;> simp [hq, cond]

/-- Picking, by a test that cannot fail, among the images of a list. -/
theorem filterM_map_ok {α β ε : Type} (xs : List β) (g : β → α) (p : α → Except ε Bool)
    (q : β → Bool) (hp : ∀ x ∈ xs, p (g x) = .ok (q x)) :
    (xs.map g).filterM p = .ok ((xs.filter q).map g) := by
  simp only [List.filterM, filterAuxM_map_ok g p q xs [] hp, List.append_nil, except_ok_bind,
    List.reverse_reverse]
  rfl

theorem runQuery_columnsQuery (fuel : Nat) (sc : Scope) (table : String) (columns : List String)
    (filter : Expr) (order : List OrderTerm) (limit : Option Nat) :
    runQuery (fuel + 1) sc (columnsQuery table columns filter order limit) =
      runSelect fuel sc false (columns.map fun c => .expr (.col c) none c) (some (.table table none))
        (some filter) [] none order (limit.map fun n => .lit (.integer n)) none := by
  unfold columnsQuery
  split
  · rename_i h
    simp only [Bool.and_eq_true, List.isEmpty_iff, Option.isNone_iff_eq_none] at h
    obtain ⟨rfl, rfl⟩ := h
    rw [runQuery]
    rfl
  · rw [runQuery]

theorem sourceFrames_table {t : Table} {sc : Scope} {name : String} (htable : sc.db.table? name = some t)
    (hctes : sc.ctes = []) (fuel : Nat) :
    sourceFrames (fuel + 1) sc (.table name none) =
      .ok ([t.shape none], t.rows.map fun r => [t.bind none r]) := by
  simp only [sourceFrames, hctes, List.find?_nil, htable]

section Row

variable {sc : Scope} {t : Table} {r : Row}

theorem evalExpr_tableColumn (h : RowScope sc t r) (fuel : Nat) {c : String}
    (hc : (t.columnIndex? c).isSome) : evalExpr (fuel + 1) sc (.col c) = .ok (t.cellOf r c) := by
  obtain ⟨i, hi⟩ := Table.columnIndex_of_isSome hc
  rw [Table.cellOf_of_index hi]
  exact evalExpr_col (h.find hi)

theorem exprCollation_tableColumn (h : RowScope sc t r) (hcoll : ∀ c ∈ t.columns, c.collation = none)
    {c : String} (hc : (t.columnIndex? c).isSome) : exprCollation sc (.col c) = none := by
  obtain ⟨i, hi⟩ := Table.columnIndex_of_isSome hc
  simp [Expr.col, exprCollation, h.find hi, Table.shape_collation hcoll]

/-- Read column by column in the scope of its row, a row of a table gives back its values. -/
theorem evalList_tableColumns (h : RowScope sc t r) :
    ∀ (cols : List String), (∀ c ∈ cols, (t.columnIndex? c).isSome) → ∀ fuel,
      evalList (fuel + cols.length + 1) sc (cols.map Expr.col) = .ok (cols.map (t.cellOf r))
  | [], _, fuel => by simp [evalList]
  | c :: cols, hcols, fuel => by
    rw [List.length_cons, show fuel + (cols.length + 1) + 1 = (fuel + cols.length + 1) + 1 by omega,
      List.map_cons, evalList, evalExpr_tableColumn h _ (hcols c List.mem_cons_self),
      evalList_tableColumns h cols (fun d hd => hcols d (List.mem_cons_of_mem c hd)) fuel]
    rfl

end Row

theorem filterMap_none {α β : Type} (l : List α) : l.filterMap (fun _ => (none : Option β)) = [] :=
  List.filterMap_eq_nil_iff.2 fun _ _ => rfl

/-- The rows a limit keeps. -/
def keepFirst {α : Type} (limit : Option Nat) (rows : List α) : List α :=
  match limit with
  | some n => rows.take n
  | none => rows

theorem cutRows_keepFirst (fuel : Nat) (sc : Scope) (rows : List (List Cell)) (limit : Option Nat) :
    cutRows (fuel + 2) sc rows (limit.map fun n => .lit (.integer n)) none =
      .ok (keepFirst limit rows) := by
  cases limit with
  | none => rfl
  | some n =>
    show cutRows (fuel + 2) sc rows (some (.lit (.integer n))) none = _
    have hlim : ((fun x => some x) <$> limitValue (.integer n)) = .ok (some (n : Int)) := rfl
    have hpos : ¬ (n : Int) < 0 := by omega
    simp only [cutRows, evalExpr_lit, except_ok_bind, hlim, except_pure, if_neg hpos,
      Int.toNat_zero, List.drop_zero, Int.toNat_natCast, keepFirst]

/-- What the query of columns of a table answers when its rows are the images of typed rows: the
rows its filter keeps, read column by column, sorted by their keys when there is an order, and
cut to the limit. -/
def columnsAnswer {α : Type} (t : Table) (row : α → Row) (rows : List α) (cols : List String)
    (P : α → Bool) (order : List OrderTerm) (limit : Option Nat) : List (List Cell) :=
  keepFirst limit (if order.isEmpty then (rows.filter P).map fun a => cols.map (t.cellOf (row a))
    else sortByKeys ((rows.filter P).map fun a =>
      (cols.map (t.cellOf (row a)), order.map (t.sortKeyOf (row a)))))

/-- The query of columns of a table, run over a scope that sees no other row. -/
theorem runSelect_columnsQuery {t : Table} {sc : Scope} {name : String}
    (htable : sc.db.table? name = some t) (hframes : sc.frames = []) (hctes : sc.ctes = [])
    (hcoll : ∀ c ∈ t.columns, c.collation = none) {α : Type} {rows : List α} {row : α → Row}
    (hrows : t.rows = rows.map row) {cols : List String}
    (hcols : ∀ c ∈ cols, (t.columnIndex? c).isSome) {filter : Expr} {P : α → Bool} (fuel : Nat)
    (hP : ∀ sc' a, RowScope sc' t (row a) →
      evalExpr (fuel + cols.length + 3) sc' filter = .ok (ofBool (P a)))
    {order : List OrderTerm} (horder : ∀ term ∈ order, t.OrdersBy term) (limit : Option Nat) :
    (runSelect (fuel + cols.length + 4) sc false (cols.map fun c => .expr (.col c) none c)
      (some (.table name none)) (some filter) [] none order (limit.map fun n => .lit (.integer n))
      none).map (·.rows) = .ok (columnsAnswer t row rows cols P order limit) := by
  rw [runSelect]
  simp only [sourceFrames_table htable hctes, hrows, except_ok_bind, List.flatMap_map, resultName,
    Expr.col, ← List.map_eq_flatMap, List.filterMap_map, Function.comp_def, List.map_map]
  have hcolsAgg : (cols.map fun x => Expr.column none x).any Expr.hasAggregate = false := by
    refine List.any_eq_false.2 fun e he => ?_
    obtain ⟨c, -, rfl⟩ := List.mem_map.1 he
    simp [Expr.hasAggregate, Expr.aggregates]
  have horderAgg : (order.any fun t => t.expr.hasAggregate) = false := by
    refine List.any_eq_false.2 fun t ht => ?_
    obtain ⟨c, _, he⟩ := horder t ht
    simp [he, Expr.col, Expr.hasAggregate, Expr.aggregates]
  simp only [filterMap_none, hcolsAgg, horderAgg, List.isEmpty_nil, Bool.not_true, Bool.false_or,
    Option.map_none, Option.getD_none, Bool.false_eq_true, if_false]
  rw [filterM_map_ok _ _ _ P fun a _ => ?kept, except_ok_bind, List.mapM_map,
    mapM_eq_pure _ (fun a => (cols.map (t.cellOf (row a)), order.map (t.sortKeyOf (row a)))) _
      fun a _ => ?row, except_pure, except_ok_bind]
  case kept =>
    rw [hP _ a ⟨by simp [hframes], rfl⟩]
    simp
  case row =>
    have h : RowScope (Scope.mk sc.db sc.params ([t.bind none (row a)] :: sc.frames) sc.ctes none []
        sc.call) t (row a) := ⟨by simp [hframes], rfl⟩
    simp only [Function.comp_apply]
    rw [show List.map (fun x => Expr.column none x) cols = cols.map Expr.col from rfl,
      show fuel + cols.length + 3 = (fuel + 2) + cols.length + 1 by omega,
      evalList_tableColumns h cols hcols (fuel + 2), except_ok_bind,
      mapM_eq_pure _ (t.sortKeyOf (row a)) _ fun term hterm => ?key]
    · rfl
    -- an order term names a column of the table: its key is that column's value
    obtain ⟨c, hc, he⟩ := horder term hterm
    obtain ⟨e, descending, nullsFirst⟩ := term
    simp only [OrderTerm.expr] at he
    subst he
    simp only [OrderTerm.expr, Expr.col, Table.find_shape hc, if_true]
    rw [show Expr.column none c = Expr.col c from rfl,
      show (fuel + 2) + cols.length + 1 = (fuel + cols.length + 2) + 1 by omega,
      evalExpr_tableColumn h _ hc, exprCollation_tableColumn h hcoll hc]
    rfl
  rw [show fuel + cols.length + 3 = (fuel + cols.length + 1) + 2 by omega, cutRows_keepFirst,
    except_ok_bind, List.map_map]
  rfl

/-- A query that passes the check reads, through a session of the store, the rows the engine
answers for it. -/
theorem Database.selectRows_of_run {db : Database} {q : Query}
    (hcheck : checkChange evalFuel { db, ctes := [] } [] (.select q) = .ok ()) {rows : List (List Cell)}
    (hrun : (runQuery 1999 ((Session.start db).effects.scope {} []) q).map (·.rows) = .ok rows) :
    db.selectRows q = .ok rows := by
  cases hq : runQuery 1999 ((Session.start db).effects.scope {} []) q with
  | error => simp [hq, Except.map] at hrun
  | ok rel =>
    simp only [hq, Except.map, Except.ok.injEq] at hrun
    subst hrun
    have hselect : (runChange evalFuel {} (.select q)).run
        { (Session.start db).effects with counted := 0 } =
          (.ok rel.rows, { (Session.start db).effects with counted := 0 }) := by
      rw [show evalFuel = 1999 + 1 from rfl, runChange]
      simp only [queryIn, Write.run_bind, Write.run_get, Write.run_liftStop]
      rw [show ({ (Session.start db).effects with counted := 0 } : Effects).scope {} [] =
        (Session.start db).effects.scope {} [] from rfl, hq]
      rfl
    unfold Database.selectRows Session.storeStep Session.perform
    simp only [List.map_nil, List.reverse_nil, List.forIn_nil, except_pure, except_ok_bind]
    rw [show (Session.start db).db = db from rfl, hcheck]
    simp only at hselect
    rw [hselect]
    rfl

/-- Over a database holding a table whose rows are the images of typed rows, the store's query of
columns of the table answers `columnsAnswer`: the rows its filter keeps, in the order of their
keys, cut to the limit. -/
theorem Database.selectRows_columnsQuery {db : Database} {t : Table} {name : String}
    (htable : db.table? name = some t) (hname : t.name = name)
    (hcoll : ∀ c ∈ t.columns, c.collation = none) {α : Type} {rows : List α} {row : α → Row}
    (hrows : t.rows = rows.map row) {cols : List String}
    (hcols : ∀ c ∈ cols, (t.columnIndex? c).isSome) (hlen : cols.length ≤ 1994) {filter : Expr}
    {P : α → Bool}
    (hcheck : ∀ n : Names, n.frames = [[t.sourceShape name]] → checkExpr 1997 n filter = .ok ())
    (hP : ∀ sc a, RowScope sc t (row a) → evalExpr 1997 sc filter = .ok (ofBool (P a)))
    {order : List OrderTerm} (horder : ∀ term ∈ order, t.OrdersBy term) (limit : Option Nat) :
    db.selectRows (columnsQuery name cols filter order limit) =
      .ok (columnsAnswer t row rows cols P order limit) := by
  apply Database.selectRows_of_run (checkChange_columnsQuery htable hname hcols hcheck horder limit)
  obtain ⟨fuel, hfuel⟩ : ∃ fuel, fuel + cols.length + 3 = 1997 := ⟨1994 - cols.length, by omega⟩
  rw [runQuery_columnsQuery 1998, show 1998 = fuel + cols.length + 4 by omega]
  exact runSelect_columnsQuery htable rfl rfl hcoll hrows hcols fuel
    (fun sc a h => hfuel ▸ hP sc a h) horder limit

end SnapshotAgent.Store
