import SnapshotAgent.Proofs.Store.Layout
/-!
# How the engine evaluates the store's expressions

The store's statements use a handful of expression shapes: a column compared with a literal,
`AND`, `OR`, `IS NULL`, `IN (...)` over literals, and `COALESCE(value, column)`. This file
evaluates each shape once, in a scope that sees one row of a table, so that the lemmas about
whole statements never unfold the evaluator.

Writing steps run in `Write`, an exception monad over the engine's effects. Most steps of a
statement only read the effects (they look a table up, evaluate an expression, or pick rows);
for those the lemmas below say what a run answers and that the effects come back unchanged.

## Reading the constraints

`UploadRow.Consistent` reads the `CHECK` constraints of `uploads` on a typed row: a row is running
exactly when it has no completion time, its percentage compares with 0 and 100 as a percentage
should, and it never counts more chunks done than chunks in all. `checks_truth` shows that the
engine's evaluation of the constraints agrees with that reading, one constraint at a time.
-/

namespace SnapshotAgent.Store

open SnapshotAgent.Upload

/-! ## Steps of writing -/

section Steps

variable {α β : Type}

theorem Write.run_bind (x : Write α) (f : α → Write β) (e : Effects) :
    (x >>= f).run e = match x.run e with
      | (.ok a, e') => (f a).run e'
      | (.error s, e') => (.error s, e') := by
  show (ExceptT.bind x f).run e = _
  simp only [ExceptT.bind, ExceptT.mk, ExceptT.run]
  show StateT.bind x _ e = _
  simp only [StateT.bind]
  rcases x e with ⟨a | a, e'⟩ <;> rfl

@[simp] theorem Write.run_pure (a : α) (e : Effects) : (pure a : Write α).run e = (.ok a, e) :=
  rfl

@[simp] theorem Write.run_get (e : Effects) : (get : Write Effects).run e = (.ok e, e) := rfl

@[simp] theorem Write.run_modify (f : Effects → Effects) (e : Effects) :
    (modify f : Write Unit).run e = (.ok (), f e) := rfl

@[simp] theorem Write.run_throw (s : Stop) (e : Effects) :
    (throw s : Write α).run e = (.error s, e) := rfl

@[simp] theorem Write.run_liftStop (r : Except Stop α) (e : Effects) :
    (liftStop r).run e = (r, e) := by
  cases r <;> rfl

/-- Evaluating an expression while writing reads the effects and leaves them. -/
@[simp] theorem Write.run_evalIn (fuel : Nat) (ctx : WriteCtx) (frames : List Frame) (ex : Expr)
    (e : Effects) : (evalIn fuel ctx frames ex).run e = (evalExpr fuel (e.scope ctx frames) ex, e) := by
  simp only [evalIn, run_bind, run_get, run_liftStop]

theorem Write.run_filterAuxM_map (g : β → α) (p : α → Write Bool) (q : β → Bool) (e : Effects) :
    ∀ (xs : List β) (acc : List α), (∀ x ∈ xs, (p (g x)).run e = (.ok (q x), e)) →
      (List.filterAuxM p (xs.map g) acc).run e = (.ok (((xs.filter q).map g).reverse ++ acc), e) := by
  intro xs
  induction xs with
  | nil => intro acc _; rfl
  | cons x xs ih =>
    intro acc hp
    simp only [List.map_cons, List.filterAuxM, run_bind, hp x List.mem_cons_self]
    rw [ih _ (fun y hy => hp y (List.mem_cons_of_mem x hy))]
    cases hq : q x <;> simp [hq, cond]

/-- Picking, by a test that only reads the effects, among the images of a list. -/
theorem Write.run_filterM_map (xs : List β) (g : β → α) (p : α → Write Bool) (q : β → Bool)
    (e : Effects) (hp : ∀ x ∈ xs, (p (g x)).run e = (.ok (q x), e)) :
    ((xs.map g).filterM p).run e = (.ok ((xs.filter q).map g), e) := by
  simp only [List.filterM, run_bind, run_filterAuxM_map g p q e xs [] hp, List.append_nil,
    List.reverse_reverse]
  rfl

/-- Two steps of writing are equal when they run alike from every state. -/
theorem Write.ext {x y : Write α} (h : ∀ e, x.run e = y.run e) : x = y := by
  apply ExceptT.ext
  funext e
  exact h e

/-- Looking up a table that exists answers it and leaves the effects. -/
theorem Write.run_currentTable {name : String} {t : Table} {e : Effects}
    (h : e.db.table? name = some t) : (currentTable name).run e = (.ok t, e) := by
  simp only [currentTable, run_bind, run_get, h]
  rfl

/-- With no trigger to fire, nothing runs and nothing is dropped. -/
@[simp] theorem Write.run_catchIgnored_none (fuel : Nat) (ctx : WriteCtx) (rows : List Binding)
    (e : Effects) : (catchIgnored (fireTriggers (fuel + 1) ctx [] rows)).run e = (.ok false, e) :=
  rfl

/-- A map each of whose steps only answers a value. -/
theorem mapM_eq_pure {m : Type → Type} [Monad m] [LawfulMonad m] (f : α → m β) (g : α → β) :
    ∀ xs : List α, (∀ x ∈ xs, f x = pure (g x)) → xs.mapM f = pure (xs.map g)
  | [], _ => rfl
  | x :: xs, h => by
    rw [List.mapM_cons, h x List.mem_cons_self,
      mapM_eq_pure f g xs fun y hy => h y (List.mem_cons_of_mem x hy)]
    simp

/-- The row id the engine picks for a new row of an `AUTOINCREMENT` table: one above the highest
it holds or ever gave out, unless that one is already the largest integer. -/
theorem Write.run_newRowid {t : Table} (ht : t.autoincrement = true) (e : Effects) :
    (newRowid t).run e =
      if maxInteger ≤ max t.maxRowid ((e.db.sequenceOf t.name).getD 0) then
        (.error (.failed (engineError 13 "database or disk is full") .abort), e)
      else (.ok (max t.maxRowid ((e.db.sequenceOf t.name).getD 0) + 1), e) := by
  simp only [newRowid, run_bind, run_get, ht, if_true, ge_iff_le]
  split <;> rfl

/-- A loop each of whose steps keeps the state ends where it began. -/
theorem forIn_keep {m : Type → Type} [Monad m] [LawfulMonad m] (xs : List α) (b : β)
    (f : α → β → m (ForInStep β)) (h : ∀ x ∈ xs, f x b = pure (.yield b)) :
    forIn xs b f = pure b := by
  induction xs with
  | nil => rfl
  | cons x xs ih =>
    rw [List.forIn_cons, h x List.mem_cons_self, pure_bind]
    exact ih (fun y hy => h y (List.mem_cons_of_mem x hy))

end Steps

/-! ## Expressions

Each lemma evaluates one shape of expression from the values of its parts; `fuel` only has to
cover the depth of the shape. -/

section Expressions

variable {fuel : Nat} {s : Scope}

-- Every lemma of this section runs the evaluator one step on its shape: its equations are simp
-- rules here, computed once for the section rather than in each proof.
attribute [local simp] evalExpr

@[simp] theorem except_ok_bind {ε α β : Type} (a : α) (f : α → Except ε β) :
    (Except.ok a >>= f) = f a := rfl

@[simp] theorem except_pure {ε α : Type} (a : α) : (pure a : Except ε α) = .ok a := rfl

theorem except_bind_eq_ok {ε α β : Type} {x : Except ε α} {f : α → Except ε β} {b : β} :
    (x >>= f) = .ok b ↔ ∃ a, x = .ok a ∧ f a = .ok b := by
  cases x <;> simp [bind, Except.bind]

@[simp] theorem Cell.isNull_null : Cell.null.isNull = true := rfl
@[simp] theorem Cell.isNull_integer (n : Int) : (Cell.integer n).isNull = false := rfl
@[simp] theorem Cell.isNull_real (x : Float) : (Cell.real x).isNull = false := rfl
@[simp] theorem Cell.isNull_text (t : String) : (Cell.text t).isNull = false := rfl
@[simp] theorem Cell.isNull_blob (b : List UInt8) : (Cell.blob b).isNull = false := rfl

@[simp] theorem evalExpr_lit (c : Cell) : evalExpr (fuel + 1) s (.lit c) = .ok c := rfl

@[simp] theorem ofBool_truth (b : Bool) : (ofBool b).truth? = some b := by
  cases b <;> rfl

/-- A truth value refutes a constraint exactly when it is false. -/
@[simp] theorem ofBool_refuted (b : Bool) : ((ofBool b).truth? == some false) = !b := by
  cases b <;> rfl

@[simp] theorem ofTruth_some (b : Bool) : ofTruth (some b) = ofBool b := rfl

/-- A literal, as a step of writing. -/
theorem evalIn_lit (fuel : Nat) (ctx : WriteCtx) (frames : List Frame) (c : Cell) :
    evalIn (fuel + 1) ctx frames (.lit c) = pure c :=
  Write.ext fun e => by simp

theorem evalExpr_col {name : String} {v : Cell} {info : ColumnInfo}
    (h : s.find none name = some (v, info)) : evalExpr (fuel + 1) s (.col name) = .ok v := by
  simp [Expr.col, h]

/-- A column compared with a literal: both sides are converted by the column's affinity and
compared under its collation. -/
theorem evalExpr_compare_col_lit {name : String} {v : Cell} {info : ColumnInfo}
    (h : s.find none name = some (v, info)) (op : BinOp) (hop : op = .eq ∨ op = .ge ∨ op = .le)
    (c : Cell) :
    evalExpr (fuel + 2) s (.binary op (.col name) (.lit c)) =
      .ok (ofTruth ((compareUnder (comparisonAffinity info.affinity .none)
        (info.collation.getD .binary) v c).map op.accepts)) := by
  rcases hop with rfl | rfl | rfl <;> cases hc : info.collation <;>
    simp [Expr.col, h, exprAffinity, comparisonCollation, exprCollation, hc]

/-- `IS NULL` and `IS NOT NULL`. -/
theorem evalExpr_isNull {a : Expr} {v : Cell} (ha : evalExpr fuel s a = .ok v) (negated : Bool) :
    evalExpr (fuel + 1) s (.isNull a negated) = .ok (ofBool (v.isNull != negated)) := by
  simp [ha]

/-- `AND` of two truth values. -/
theorem evalExpr_and {a b : Expr} {x y : Bool} (ha : evalExpr fuel s a = .ok (ofBool x))
    (hb : evalExpr fuel s b = .ok (ofBool y)) :
    evalExpr (fuel + 1) s (andExpr a b) = .ok (ofBool (x && y)) := by
  cases x <;> cases y <;> simp [andExpr, ha, hb]

/-- `OR` of two truth values. -/
theorem evalExpr_or {a b : Expr} {x y : Bool} (ha : evalExpr fuel s a = .ok (ofBool x))
    (hb : evalExpr fuel s b = .ok (ofBool y)) :
    evalExpr (fuel + 1) s (orExpr a b) = .ok (ofBool (x || y)) := by
  cases x <;> cases y <;> simp [orExpr, ha, hb]

/-- `OR` whose left side already holds does not evaluate its right side. -/
theorem evalExpr_or_true {a b : Expr} (ha : evalExpr fuel s a = .ok (ofBool true)) :
    evalExpr (fuel + 1) s (orExpr a b) = .ok (ofBool true) := by
  simp [orExpr, ha]

theorem lowerAscii_coalesce : lowerAscii "COALESCE" = "coalesce" := by decide

theorem isAggregateCall_coalesce : isAggregateCall "COALESCE" 2 = false := by decide

/-- `COALESCE(value, column)` outside an aggregate: the value unless it is `NULL`. -/
theorem evalExpr_coalesce {name : String} {w : Cell} {info : ColumnInfo}
    (h : s.find none name = some (w, info)) (hg : s.group = none) (v : Cell) :
    evalExpr (fuel + 5) s (.call "COALESCE" false [.lit v, .col name]) =
      .ok (if v.isNull then w else v) := by
  cases v <;> simp [hg, lowerAscii_coalesce, isAggregateCall_coalesce, evalCall,
    firstNonNull, Expr.col, h]
  cases w <;> simp

/-- Two truth values compared with `=`, when neither side carries an affinity or a collation. -/
theorem evalExpr_eq_truths {a b : Expr} {x y : Bool} (ha : evalExpr fuel s a = .ok (ofBool x))
    (hb : evalExpr fuel s b = .ok (ofBool y)) (hfa : exprAffinity s a = .none)
    (hfb : exprAffinity s b = .none) (hca : exprCollation s a = none)
    (hcb : exprCollation s b = none) :
    evalExpr (fuel + 1) s (eqExpr a b) = .ok (ofBool (x == y)) := by
  cases x <;> cases y <;>
    simp [eqExpr, ha, hb, hfa, hfb, comparisonCollation, hca, hcb, comparisonAffinity,
      compareUnder, ofBool, Cell.applyAffinity, Cell.compareWith, BinOp.accepts]

/-- Two columns compared: both are converted by the affinity their two kinds agree on. -/
theorem evalExpr_compare_cols {n₁ n₂ : String} {v₁ v₂ : Cell} {i₁ i₂ : ColumnInfo}
    (h₁ : s.find none n₁ = some (v₁, i₁)) (h₂ : s.find none n₂ = some (v₂, i₂))
    (hc₁ : i₁.collation = none) (hc₂ : i₂.collation = none) (op : BinOp) (hop : op = .le) :
    evalExpr (fuel + 2) s (.binary op (.col n₁) (.col n₂)) =
      .ok (ofTruth ((compareUnder (comparisonAffinity i₁.affinity i₂.affinity) .binary v₁ v₂).map
        op.accepts)) := by
  subst hop
  simp [Expr.col, h₁, h₂, exprAffinity, comparisonCollation, exprCollation, hc₁, hc₂]

/-- A text column tested against a list of three texts. -/
theorem evalExpr_inList_texts {name : String} {v : String} {info : ColumnInfo}
    (h : s.find none name = some (.text v, info)) (ha : info.affinity = .text)
    (hc : info.collation = none) (t₁ t₂ t₃ : String) :
    evalExpr (fuel + 5) s (.inList (.col name) [textLit t₁, textLit t₂, textLit t₃] false) =
      .ok (ofBool (v = t₁ ∨ v = t₂ ∨ v = t₃)) := by
  simp [evalList, Expr.col, h, textLit, exprAffinity, exprCollation, ha, hc,
    comparisonAffinity, compareUnder, Cell.applyAffinity, Cell.compareWith, inResult,
    Collation.key]
  by_cases h₁ : v = t₁ <;> by_cases h₂ : v = t₂ <;> by_cases h₃ : v = t₃ <;> simp [h₁, h₂, h₃]

end Expressions

/-! ## One row in scope -/

/-- A scope that sees one row of a table and is outside any aggregate: where a statement
evaluates its filter and assignments over a row, and where the table's constraints and index
filters are evaluated over a new row. -/
structure RowScope (sc : Scope) (t : Table) (r : Row) : Prop where
  frames : sc.frames = [[t.bind none r]]
  group : sc.group = none

/-- A top-level statement evaluates over a row in a scope that sees only that row. -/
theorem Effects.rowScope (e : Effects) {ctx : WriteCtx} (h : ctx.outer = []) (t : Table)
    (r : Row) : RowScope (e.scope ctx [[t.bind none r]]) t r :=
  ⟨by simp [Effects.scope, h], rfl⟩

theorem RowScope.find {sc : Scope} {t : Table} {r : Row} (h : RowScope sc t r) {name : String}
    {i : Nat} (hi : t.columnIndex? name = some i) :
    sc.find none name = some (r.cells.getD i .null, (t.shape none).columns.getD i default) := by
  have hcols : ((t.bind none r).columns.findIdx? fun c => sameName c.name name) = some i := by
    simp only [Table.bind, Table.shape]
    rw [List.findIdx?_map]
    exact hi
  have hframe : sc.find none name = (t.bind none r).find name := by
    simp [Scope.find, h.frames, Frame.find, Table.bind, Table.shape]
  rw [hframe, Binding.find, hcols]
  rfl

/-- An expression whose value over a row does not depend on the rest of the scope evaluates to
that value in any state. -/
theorem evalIn_eq_pure {fuel : Nat} {ctx : WriteCtx} (hctx : ctx.outer = []) {t : Table}
    {r : Row} {ex : Expr} {v : Cell} (h : ∀ sc, RowScope sc t r → evalExpr fuel sc ex = .ok v) :
    evalIn fuel ctx [[t.bind none r]] ex = pure v := by
  apply Write.ext
  intro e
  rw [Write.run_evalIn, h _ (e.rowScope hctx t r)]
  rfl

/-- The information the `uploads` table gives about its `i`-th column. -/
def uploadsColumn (i : Nat) : ColumnInfo := (uploadsTable.shape none).columns.getD i default

/-- The columns of `uploads` that the store's expressions name, with their positions, kinds and
collations. -/
theorem uploads_columnIndex :
    uploadsTable.columnIndex? "id" = some 0 ∧ uploadsTable.columnIndex? "node_name" = some 1 ∧
    uploadsTable.columnIndex? "completed_at" = some 5 ∧
    uploadsTable.columnIndex? "status" = some 6 ∧
    uploadsTable.columnIndex? "trigger_type" = some 7 ∧
    uploadsTable.columnIndex? "progress_percent" = some 9 ∧
    uploadsTable.columnIndex? "chunks_completed" = some 10 ∧
    uploadsTable.columnIndex? "chunks_total" = some 11 := by decide

theorem uploadsColumn_affinity :
    (uploadsColumn 0).affinity = .integer ∧ (uploadsColumn 6).affinity = .text ∧
    (uploadsColumn 7).affinity = .text ∧ (uploadsColumn 9).affinity = .real ∧
    (uploadsColumn 10).affinity = .integer ∧ (uploadsColumn 11).affinity = .integer := by decide

theorem uploadsColumn_collation :
    (uploadsColumn 0).collation = none ∧ (uploadsColumn 1).collation = none ∧
    (uploadsColumn 5).collation = none ∧ (uploadsColumn 6).collation = none ∧
    (uploadsColumn 7).collation = none ∧ (uploadsColumn 9).collation = none ∧
    (uploadsColumn 10).collation = none ∧ (uploadsColumn 11).collation = none := by decide

/-! ## The constraints of `uploads` on a typed row -/

/-- Whether a stored percentage lies in `0..100`, compared with the integers 0 and 100 the way the
database compares a real with an integer. -/
def percentAllowed : Option Float → Bool
  | none => true
  | some x =>
    (storedReal x).compare (.integer 0) != .lt && (storedReal x).compare (.integer 100) != .gt

namespace UploadRow

/-- A row is running exactly when it has no completion time. -/
def completionAgrees (u : UploadRow) : Bool := (u.status == .running) == u.completedAt.isNone

/-- A row never counts more chunks done than chunks in all. -/
def chunksAgree (u : UploadRow) : Bool :=
  match u.chunksCompleted, u.chunksTotal with
  | some c, some t => decide (c ≤ t)
  | _, _ => true

/-- Whether a row satisfies every `CHECK` constraint of `uploads`; the constraints on the status
and the trigger hold of every typed row. -/
def consistent (u : UploadRow) : Bool :=
  u.completionAgrees && percentAllowed u.progressPercent && u.chunksAgree

/-- The first `CHECK` constraint of `uploads` a row breaks, in the order the table lists them. -/
def brokenCheck (u : UploadRow) : Option Check :=
  if !percentAllowed u.progressPercent then uploadsTable.checks[2]?
  else if !u.completionAgrees then uploadsTable.checks[3]?
  else if !u.chunksAgree then uploadsTable.checks[4]?
  else none

/-- A row breaks no constraint exactly when it is consistent. -/
theorem brokenCheck_eq_none (u : UploadRow) : u.brokenCheck = none ↔ u.consistent = true := by
  unfold brokenCheck consistent
  cases percentAllowed u.progressPercent <;> cases u.completionAgrees <;> cases u.chunksAgree <;>
    simp [uploadsTable]

end UploadRow

/-- How a statement stops on a broken `CHECK` constraint: with the engine's code for it and the
text of the constraint. -/
def Check.failure (k : Check) : Stop :=
  .failed (engineError 275 ("CHECK constraint failed: " ++ k.text)) .abort

section Constraints

variable {fuel : Nat} {sc : Scope} {t : Table} {u : UploadRow}

theorem status_name_running (st : Status) : (st.name == "running") = (st == .running) := by
  cases st <;> rfl

theorem status_name_mem (st : Status) :
    st.name = "running" ∨ st.name = "completed" ∨ st.name = "failed" := by
  cases st <;> simp [Status.name]

theorem trigger_name_mem (tr : Upload.Trigger) :
    tr.name = "scheduled" ∨ tr.name = "manual" ∨ tr.name = "discovered" := by
  cases tr <;> simp [Upload.Trigger.name]

@[simp] theorem compare_beq_eq_string (a b : String) : (compare a b == .eq) = (a == b) := by
  rw [Bool.eq_iff_iff]
  simp only [beq_iff_eq]
  exact Std.LawfulEqCmp.compare_eq_iff_eq

@[simp] theorem compare_bne_gt_int (c n : Int) : (compare c n != .gt) = decide (c ≤ n) := by
  rw [Bool.eq_iff_iff]
  simp only [bne_iff_ne, ne_eq, decide_eq_true_eq]
  exact Int.compare_ne_gt

@[simp] theorem storedReal_isNull (x : Float) : (storedReal x).isNull = false := by
  unfold storedReal
  split <;> rfl

/-- A stored real compared with an integer under the affinity of a real column. -/
theorem compareUnder_storedReal (x : Float) (n : Int) :
    compareUnder .real .binary (storedReal x) (.integer n) =
      some ((storedReal x).compare (.integer n)) := by
  unfold storedReal
  split <;> rfl

theorem RowScope.find_uploads (h : RowScope sc t u.row) (ht : t.columns = uploadsTable.columns)
    {name : String} {i : Nat} (hi : uploadsTable.columnIndex? name = some i) :
    sc.find none name = some (u.cells.getD i .null, uploadsColumn i) := by
  have hi' : t.columnIndex? name = some i := by
    simpa [Table.columnIndex?, ht] using hi
  rw [h.find hi']
  simp [uploadsColumn, Table.shape, ht]

/-- The filter `status = 'running'` over an upload row. -/
theorem evalExpr_isRunningRow (h : RowScope sc t u.row) (ht : t.columns = uploadsTable.columns) :
    evalExpr (fuel + 2) sc isRunningRow = .ok (ofBool (u.status == .running)) := by
  rw [isRunningRow, textLit, eqExpr,
    evalExpr_compare_col_lit (h.find_uploads ht uploads_columnIndex.2.2.2.1) .eq (.inl rfl)]
  simp [UploadRow.cells, uploadsColumn_affinity, uploadsColumn_collation, comparisonAffinity,
    compareUnder, Cell.applyAffinity, Cell.compareWith, Collation.key, BinOp.accepts,
    ← status_name_running]

/-- The constraint on the status holds of every typed row. -/
theorem evalExpr_statusCheck (h : RowScope sc t u.row) (ht : t.columns = uploadsTable.columns) :
    evalExpr (fuel + 5) sc (.inList (.col "status")
      [textLit "running", textLit "completed", textLit "failed"] false) = .ok (ofBool true) := by
  rw [evalExpr_inList_texts (h.find_uploads ht uploads_columnIndex.2.2.2.1)
    uploadsColumn_affinity.2.1 uploadsColumn_collation.2.2.2.1]
  rcases status_name_mem u.status with hs | hs | hs <;> simp [hs]

/-- The constraint on the trigger holds of every typed row. -/
theorem evalExpr_triggerCheck (h : RowScope sc t u.row) (ht : t.columns = uploadsTable.columns) :
    evalExpr (fuel + 5) sc (.inList (.col "trigger_type")
      [textLit "scheduled", textLit "manual", textLit "discovered"] false) =
      .ok (ofBool true) := by
  rw [evalExpr_inList_texts (h.find_uploads ht uploads_columnIndex.2.2.2.2.1)
    uploadsColumn_affinity.2.2.1 uploadsColumn_collation.2.2.2.2.1]
  rcases trigger_name_mem u.trigger with hs | hs | hs <;> simp [hs]

/-- A stored percentage compared with an integer bound. -/
theorem evalExpr_percent_bound (h : RowScope sc t u.row) (ht : t.columns = uploadsTable.columns)
    {x : Float} (hp : u.progressPercent = some x) (op : BinOp) (hop : op = .ge ∨ op = .le)
    (n : Int) :
    evalExpr (fuel + 2) sc (.binary op (.col "progress_percent") (intLit n)) =
      .ok (ofBool (op.accepts ((storedReal x).compare (.integer n)))) := by
  have hf : sc.find none "progress_percent" = some (storedReal x, uploadsColumn 9) := by
    rw [h.find_uploads ht uploads_columnIndex.2.2.2.2.2.1]
    simp [UploadRow.cells, hp, optionCell]
  rw [intLit, evalExpr_compare_col_lit hf op (hop.elim (.inr ∘ .inl) (.inr ∘ .inr)) _]
  simp [uploadsColumn_affinity, uploadsColumn_collation, comparisonAffinity,
    compareUnder_storedReal]

/-- The constraint on the percentage reads as `percentAllowed`. -/
theorem evalExpr_percentCheck (h : RowScope sc t u.row) (ht : t.columns = uploadsTable.columns) :
    evalExpr (fuel + 5) sc (orExpr (isNullOf "progress_percent")
      (andExpr (.binary .ge (.col "progress_percent") (intLit 0))
        (.binary .le (.col "progress_percent") (intLit 100)))) =
      .ok (ofBool (percentAllowed u.progressPercent)) := by
  have hf : sc.find none "progress_percent" =
      some (optionCell storedReal u.progressPercent, uploadsColumn 9) :=
    h.find_uploads ht uploads_columnIndex.2.2.2.2.2.1
  have hnull := @evalExpr_isNull (fuel + 3) _ _ _ (evalExpr_col hf) false
  cases hp : u.progressPercent with
  | none =>
    simp only [hp, optionCell] at hnull
    exact evalExpr_or_true hnull
  | some x =>
    simp only [hp, optionCell] at hnull
    refine (evalExpr_or hnull (evalExpr_and (evalExpr_percent_bound h ht hp .ge (.inl rfl) 0)
      (evalExpr_percent_bound h ht hp .le (.inr rfl) 100))).trans ?_
    simp [BinOp.accepts, percentAllowed]

/-- The constraint tying the status to the completion time reads as `completionAgrees`. -/
theorem evalExpr_runningCheck (h : RowScope sc t u.row) (ht : t.columns = uploadsTable.columns) :
    evalExpr (fuel + 5) sc (eqExpr isRunningRow (isNullOf "completed_at")) =
      .ok (ofBool u.completionAgrees) := by
  have hs : sc.find none "status" = some (.text u.status.name, uploadsColumn 6) :=
    h.find_uploads ht uploads_columnIndex.2.2.2.1
  have hf : sc.find none "completed_at" = some (optionCell .text u.completedAt, uploadsColumn 5) :=
    h.find_uploads ht uploads_columnIndex.2.2.1
  have hcoll : exprCollation sc isRunningRow = none := by
    simp [isRunningRow, eqExpr, exprCollation, Expr.col, hs, uploadsColumn_collation, textLit]
  have hnull := @evalExpr_isNull (fuel + 3) _ _ _ (evalExpr_col hf) false
  refine (evalExpr_eq_truths (@evalExpr_isRunningRow (fuel + 2) _ _ _ h ht) hnull
    rfl rfl hcoll rfl).trans ?_
  cases hc : u.completedAt <;> simp [UploadRow.completionAgrees, hc, optionCell]

/-- The constraint on the chunk counts reads as `chunksAgree`. -/
theorem evalExpr_chunksCheck (h : RowScope sc t u.row) (ht : t.columns = uploadsTable.columns) :
    evalExpr (fuel + 5) sc (orExpr (orExpr (isNullOf "chunks_completed") (isNullOf "chunks_total"))
      (.binary .le (.col "chunks_completed") (.col "chunks_total"))) =
      .ok (ofBool u.chunksAgree) := by
  have hc : sc.find none "chunks_completed" =
      some (optionCell .integer u.chunksCompleted, uploadsColumn 10) :=
    h.find_uploads ht uploads_columnIndex.2.2.2.2.2.2.1
  have hn : sc.find none "chunks_total" = some (optionCell .integer u.chunksTotal, uploadsColumn 11) :=
    h.find_uploads ht uploads_columnIndex.2.2.2.2.2.2.2
  have hnc := @evalExpr_isNull (fuel + 2) _ _ _ (evalExpr_col hc) false
  have hnt := @evalExpr_isNull (fuel + 2) _ _ _ (evalExpr_col hn) false
  cases hdone : u.chunksCompleted with
  | none =>
    simp only [hdone, optionCell] at hnc
    refine (evalExpr_or_true (evalExpr_or_true hnc)).trans ?_
    simp [UploadRow.chunksAgree, hdone]
  | some c =>
    cases htotal : u.chunksTotal with
    | none =>
      simp only [hdone, htotal, optionCell] at hnc hnt
      refine (evalExpr_or_true (evalExpr_or hnc hnt)).trans ?_
      simp [UploadRow.chunksAgree, hdone, htotal]
    | some n =>
      simp only [hdone, htotal, optionCell] at hnc hnt hc hn
      have hle : evalExpr (fuel + 4) sc
          (.binary .le (.col "chunks_completed") (.col "chunks_total")) = .ok (ofBool (c ≤ n)) := by
        rw [evalExpr_compare_cols hc hn uploadsColumn_collation.2.2.2.2.2.2.1
          uploadsColumn_collation.2.2.2.2.2.2.2 .le rfl]
        simp [uploadsColumn_affinity, comparisonAffinity, Affinity.isNumeric, compareUnder,
          Cell.applyAffinity, Cell.compareWith, BinOp.accepts]
      refine (evalExpr_or (evalExpr_or hnc hnt) hle).trans ?_
      simp [UploadRow.chunksAgree, hdone, htotal]

/-- The search for a failed constraint over a typed row, among all the constraints of `uploads`
or all but the trigger's: it only reads the effects, and finds the first constraint the row
breaks. -/
theorem Write.run_findM?_checks {ctx : WriteCtx} (hctx : ctx.outer = []) (e : Effects)
    (ht : t.columns = uploadsTable.columns) (u : UploadRow) {ks : List Check}
    (hks : ks = uploadsTable.checks ∨ ks = uploadsTable.checks.eraseIdx 1) :
    (ks.findM? fun (k : Check) => do
        let v ← evalIn (fuel + 5) ctx [[t.bind none u.row]] k.expr
        pure (v.truth? == some false)).run e = (.ok u.brokenCheck, e) := by
  have h := e.rowScope hctx t u.row
  -- the search stops at the first refuted constraint, so split on the three verdicts first
  rcases hks with rfl | rfl <;>
  cases hp : percentAllowed u.progressPercent <;> cases hc : u.completionAgrees <;>
    cases hk : u.chunksAgree <;>
  simp only [uploadsTable, List.eraseIdx, List.findM?, Write.run_bind, Write.run_evalIn,
    evalExpr_statusCheck h ht, evalExpr_triggerCheck h ht, evalExpr_percentCheck h ht,
    evalExpr_runningCheck h ht, evalExpr_chunksCheck h ht, Write.run_pure, ofBool_refuted,
    hp, hc, hk, Bool.not_true, Bool.not_false] <;>
  simp [UploadRow.brokenCheck, uploadsTable, hp, hc, hk]

end Constraints

end SnapshotAgent.Store
