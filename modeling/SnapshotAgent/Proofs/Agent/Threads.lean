import SnapshotAgent.Agent.Host
/-!
# Operations that run side by side

An operation of the agent is a state function of the `Host`, and a run of it alone is that
function. Jobs of the agent also run side by side: two node ticks, two monitor ticks, a manual
upload beside a scheduled one. What one of them does can then depend on what the others did in
between its own steps, so a job is taken here as a `Thread`: its atomic steps on the host, each
of which looks at the host as the others left it and decides what the thread does next.

A step is atomic where the job meets something it shares with the others: a store read, a store
write (a transaction, with the time it is made), an invocation of the node tool, the collection of
a node's metrics, a delivery to a transport. Reading the clock is no such meeting, and the pure
computation between two steps takes no step at all.

## The construction

* `Thread.alone` runs a thread with no one beside it; `Thread.runAlone` does so for a thread that
  may fail. A job's thread is shown to be the job by proving the two equal, so what is proved of
  the thread is proved of the program.
* `Interleaving` runs threads side by side with an environment: at each turn one thread that has
  not finished takes its next step, or the environment changes the host as it is allowed to.
  `Interleaving.invariant` is the run lemma: what holds at the start and is kept by every step of
  a thread and every step of the environment holds at the end of every interleaving.

## Protocols

`Thread.CommitsOnce` says what a thread's steps may do whatever the others do: every step
before its commit is allowed by one relation, the commit is a step allowed by another, together
with what the thread does after it, and a thread that finishes without committing answers what
a third allows. `Thread.Every` is the protocol of a thread that never commits. Both compose along
`Thread.bind` (`CommitsOnce.bind`), so a job's protocol is proved step by step along its program.
-/

namespace SnapshotAgent.Agent

/-- An operation cut into its atomic steps: finished with an answer, or about to take a step that
changes the host by `effect` and goes on as `next` decides from the host it saw. -/
inductive Thread (α : Type) where
  | done (a : α)
  | step (effect : Host → Host) (next : Host → Thread α)

namespace Thread

variable {α β γ ε : Type}

/-- Runs one thread after another. -/
def bind : Thread α → (α → Thread β) → Thread β
  | done a, f => f a
  | step e n, f => step e fun h => (n h).bind f

instance : Monad Thread where
  pure := done
  bind := bind

/-- An operation on the host taken as one atomic step. -/
def atomic (x : HostM α) : Thread α :=
  step (fun h => (x.run h).2) fun h => done (x.run h).1

/-- An operation that may fail, taken as one atomic step. -/
def atomicRun (x : Run α) : ExceptT Failure Thread α :=
  ExceptT.mk (atomic x.run)

/-- A thread run with no one beside it. -/
def alone : Thread α → HostM α
  | done a => pure a
  | step e n => fun h => (n h).alone (e h)

/-- A thread that may fail, run with no one beside it. -/
def runAlone (x : ExceptT ε Thread α) : ExceptT ε HostM α :=
  ExceptT.mk x.run.alone

@[simp] theorem pure_eq (a : α) : (pure a : Thread α) = done a := rfl

@[simp] theorem bind_eq (t : Thread α) (f : α → Thread β) : t >>= f = t.bind f := rfl

@[simp] theorem done_bind (a : α) (f : α → Thread β) : (done a).bind f = f a := rfl

theorem bind_done (t : Thread α) : t.bind done = t := by
  induction t with
  | done a => rfl
  | step e n ih => exact congrArg (step e) (funext ih)

theorem bind_assoc (t : Thread α) (f : α → Thread β) (g : β → Thread γ) :
    (t.bind f).bind g = t.bind fun a => (f a).bind g := by
  induction t with
  | done a => rfl
  | step e n ih => exact congrArg (step e) (funext ih)

instance : LawfulMonad Thread :=
  LawfulMonad.mk' Thread (fun t => bind_done t) (fun _ _ => rfl) bind_assoc

/-! ## Running alone -/

theorem alone_bind (t : Thread α) (f : α → Thread β) :
    (t.bind f).alone = t.alone >>= fun a => (f a).alone := by
  induction t with
  | done a => rfl
  | step e n ih =>
    funext h
    show ((n h).bind f).alone (e h) = _
    rw [ih h]
    rfl

theorem alone_atomic (x : HostM α) : (atomic x).alone = x := rfl

theorem alone_mapM (f : α → Thread β) :
    ∀ l : List α, (l.mapM f).alone = l.mapM fun a => (f a).alone
  | [] => rfl
  | a :: l => by
    simp only [List.mapM_cons, bind_eq, pure_eq, alone_bind, alone_mapM f l]
    rfl

theorem runAlone_atomicRun (x : Run α) : runAlone (atomicRun x) = x := rfl

theorem runAlone_bind (x : ExceptT ε Thread α) (f : α → ExceptT ε Thread β) :
    runAlone (x >>= f) = runAlone x >>= fun a => runAlone (f a) := by
  apply ExceptT.ext
  simp only [runAlone, ExceptT.run_mk, ExceptT.run_bind, bind_eq, alone_bind]
  congr 1
  funext r
  cases r <;> rfl

theorem runAlone_throw (e : ε) : runAlone (throw e : ExceptT ε Thread α) = throw e := rfl

theorem runAlone_tryCatch (x : ExceptT ε Thread α) (handle : ε → ExceptT ε Thread α) :
    runAlone (tryCatch x handle) = tryCatch (runAlone x) fun e => runAlone (handle e) := by
  apply ExceptT.ext
  simp only [runAlone, ExceptT.run_mk, ExceptT.run_tryCatch, bind_eq, alone_bind]
  congr 1
  funext r
  cases r <;> rfl

/-- What follows the part `x` of a thread that may fail, in `x >>= f`: `f` on its answer, or the
failure. -/
def afterOk (f : α → ExceptT ε Thread β) : Except ε α → Thread (Except ε β)
  | .ok a => (f a).run
  | .error e => done (.error e)

theorem run_bind_afterOk (x : ExceptT ε Thread α) (f : α → ExceptT ε Thread β) :
    (x >>= f).run = x.run.bind (afterOk f) := by
  rw [ExceptT.run_bind, bind_eq]
  congr 1
  funext r
  cases r <;> rfl

theorem runAlone_map (f : α → β) (x : ExceptT ε Thread α) :
    runAlone (f <$> x) = f <$> runAlone x := by
  rw [map_eq_pure_bind, map_eq_pure_bind, runAlone_bind]
  rfl

theorem runAlone_lift (t : Thread α) :
    runAlone (monadLift t : ExceptT ε Thread α) = (monadLift t.alone : ExceptT ε HostM α) := by
  apply ExceptT.ext
  show (Except.ok <$> t).alone = Except.ok <$> t.alone
  simp only [map_eq_pure_bind, bind_eq, alone_bind]
  rfl

/-! ## Protocols -/

/-- A thread that commits at most once: its commit is a step that `commit` allows together with
what the thread does after it; every other step before it is allowed by `keep`; a thread that
finishes without committing answers what `uncommitted` allows. -/
inductive CommitsOnce (keep : Host → Host → Prop) (commit : Host → Host → Thread α → Prop)
    (uncommitted : α → Prop) : Thread α → Prop
  | done {a : α} (ha : uncommitted a) : CommitsOnce keep commit uncommitted (.done a)
  | step {e : Host → Host} {n : Host → Thread α}
      (hkeep : ∀ h, ¬ commit h (e h) (n h) → keep h (e h))
      (hnext : ∀ h, ¬ commit h (e h) (n h) → CommitsOnce keep commit uncommitted (n h)) :
      CommitsOnce keep commit uncommitted (.step e n)

/-- Every atomic step of the thread, from every host, is allowed by `allowed`. -/
def Every (allowed : Host → Host → Prop) (t : Thread α) : Prop :=
  t.CommitsOnce allowed (fun _ _ _ => False) fun _ => True

variable {keep : Host → Host → Prop}

/-- A thread that finished without committing answers what is allowed of it. -/
theorem CommitsOnce.answer {commit : Host → Host → Thread α → Prop} {uncommitted : α → Prop}
    {a : α} (h : (Thread.done a).CommitsOnce keep commit uncommitted) : uncommitted a := by
  cases h with
  | done ha => exact ha

/-- Running a thread after another: the first one's commit carries over to what follows it, and
the second starts wherever the first finished without committing. -/
theorem CommitsOnce.bind {commit : Host → Host → Thread α → Prop} {uncommitted : α → Prop}
    {commit' : Host → Host → Thread β → Prop} {uncommitted' : β → Prop} {t : Thread α}
    {k : α → Thread β} (ht : t.CommitsOnce keep commit uncommitted)
    (hcommit : ∀ h h' c, commit h h' c → commit' h h' (c.bind k))
    (hk : ∀ a, uncommitted a → (k a).CommitsOnce keep commit' uncommitted') :
    (t.bind k).CommitsOnce keep commit' uncommitted' := by
  induction ht with
  | done ha => exact hk _ ha
  | step hkeep _ ih =>
    -- a step that is no commit after the binding was none before it either
    exact .step (fun h hc => hkeep h fun hc' => hc (hcommit _ _ _ hc'))
      fun h hc => ih h fun hc' => hc (hcommit _ _ _ hc')

/-- An atomic step commits, or is kept and answers something uncommitted. -/
theorem CommitsOnce.atomic {commit : Host → Host → Thread α → Prop} {uncommitted : α → Prop}
    {x : HostM α} (hx : ∀ h, commit h (x.run h).2 (.done (x.run h).1) ∨
      (keep h (x.run h).2 ∧ uncommitted (x.run h).1)) :
    (atomic x).CommitsOnce keep commit uncommitted :=
  .step (fun h hc => ((hx h).resolve_left hc).1) fun h hc => .done ((hx h).resolve_left hc).2

/-- A thread that commits at most once is allowed every step by a relation that allows its
steps before the commit, its commit, and every step after. -/
theorem CommitsOnce.every {commit : Host → Host → Thread α → Prop} {uncommitted : α → Prop}
    {allowed : Host → Host → Prop} {t : Thread α} (ht : t.CommitsOnce keep commit uncommitted)
    (hkeep : ∀ h h', keep h h' → allowed h h')
    (hcommit : ∀ h h' c, commit h h' c → allowed h h' ∧ c.Every allowed) : t.Every allowed := by
  induction ht with
  | done _ => exact .done trivial
  | @step e n hk _ ih =>
    refine .step (fun h _ => ?_) fun h _ => ?_
    · by_cases hc : commit h (e h) (n h)
      · exact (hcommit _ _ _ hc).1
      · exact hkeep _ _ (hk h hc)
    · by_cases hc : commit h (e h) (n h)
      · exact (hcommit _ _ _ hc).2
      · exact ih h hc

theorem Every.mono {allowed : Host → Host → Prop} {t : Thread α} (ht : t.Every keep)
    (hle : ∀ h h', keep h h' → allowed h h') : t.Every allowed :=
  ht.every hle fun _ _ _ h => h.elim

theorem Every.bind {t : Thread α} {k : α → Thread β} {commit : Host → Host → Thread β → Prop}
    {uncommitted : β → Prop} (ht : t.Every keep)
    (hk : ∀ a, (k a).CommitsOnce keep commit uncommitted) :
    (t.bind k).CommitsOnce keep commit uncommitted :=
  CommitsOnce.bind ht (fun _ _ _ h => h.elim) fun a _ => hk a

theorem Every.atomic {x : HostM α} (hx : ∀ h, keep h (x.run h).2) : (atomic x).Every keep :=
  .step (fun h _ => hx h) fun _ _ => .done trivial

theorem Every.mapM {f : α → Thread β} (hf : ∀ a, (f a).Every keep) :
    ∀ l : List α, (l.mapM f).Every keep
  | [] => .done trivial
  | a :: l => by
    rw [List.mapM_cons]
    exact (hf a).bind fun b => (Every.mapM hf l).bind fun bs => .done trivial

theorem Every.run_lift {t : Thread α} (ht : t.Every keep) :
    (monadLift t : ExceptT ε Thread α).run.Every keep :=
  ht.bind fun _ => .done trivial

/-- A thread that may fail, then another: the first must finish without committing, and a
failure is an answer that does not commit. -/
theorem Every.run_bind {x : ExceptT ε Thread α} {f : α → ExceptT ε Thread β}
    {commit : Host → Host → Thread (Except ε β) → Prop} {uncommitted : Except ε β → Prop}
    (hx : x.run.Every keep) (hf : ∀ a, (f a).run.CommitsOnce keep commit uncommitted)
    (herr : ∀ e, uncommitted (.error e)) :
    (x >>= f).run.CommitsOnce keep commit uncommitted := by
  rw [ExceptT.run_bind]
  refine hx.bind fun r => ?_
  cases r with
  | error e => exact .done (herr e)
  | ok a => exact hf a

/-! ## What is left of a thread -/

/-- What is left of a thread after some of its steps, from hosts of any kind. -/
inductive Reaches : Thread α → Thread α → Prop
  | refl (t : Thread α) : Reaches t t
  | step {e : Host → Host} {n : Host → Thread α} {t : Thread α} (h : Host) :
      Reaches (n h) t → Reaches (.step e n) t

theorem Reaches.tail {t t' : Thread α} {e : Host → Host} {n : Host → Thread α}
    (ht : t.Reaches t') (he : t' = .step e n) (h : Host) : t.Reaches (n h) := by
  induction ht with
  | refl t => exact he ▸ .step h (.refl _)
  | step h' _ ih => exact .step h' (ih he)

/-- What is left of a thread keeps its protocol. -/
theorem Reaches.every {allowed : Host → Host → Prop} {t t' : Thread α} (ht : t.Reaches t')
    (hall : t.Every allowed) : t'.Every allowed := by
  induction ht with
  | refl t => exact hall
  | step h _ ih =>
    cases hall with
    | step _ hnext => exact ih (hnext h not_false)

/-- What is left of a thread followed by a fixed answer gives that answer, if it is finished. -/
theorem Reaches.bind_answer {t : Thread α} {a b : β}
    (hr : (t.bind fun _ => Thread.done b).Reaches (.done a)) : a = b := by
  induction t with
  | done x =>
    rw [Thread.done_bind] at hr
    cases hr
    rfl
  | step e n ih =>
    cases hr with
    | step h hn => exact ih h hn

end Thread

/-! ## Threads side by side -/

/-- Threads running side by side with an environment: at each turn one thread that has not
finished takes its next atomic step on the host, or the environment changes the host as `env`
allows. -/
inductive Interleaving {α : Type} (env : Host → Host → Prop) :
    List (Thread α) → Host → List (Thread α) → Host → Prop
  | refl (ts : List (Thread α)) (h : Host) : Interleaving env ts h ts h
  | thread {ts ts' : List (Thread α)} {h h' : Host} {i : Nat} {e : Host → Host}
      {n : Host → Thread α} (hi : ts[i]? = some (.step e n)) :
      Interleaving env (ts.set i (n h)) (e h) ts' h' → Interleaving env ts h ts' h'
  | env {ts ts' : List (Thread α)} {h h₁ h' : Host} (henv : env h h₁) :
      Interleaving env ts h₁ ts' h' → Interleaving env ts h ts' h'

/-- What holds at the start of an interleaving and is kept by every step of a thread and of the
environment holds at its end. -/
theorem Interleaving.invariant {α : Type} {env : Host → Host → Prop}
    {Inv : List (Thread α) → Host → Prop}
    (hstep : ∀ ts h i e n, Inv ts h → ts[i]? = some (.step e n) → Inv (ts.set i (n h)) (e h))
    (henv : ∀ ts h h₁, Inv ts h → env h h₁ → Inv ts h₁) {ts ts' : List (Thread α)} {h h' : Host}
    (hrun : Interleaving env ts h ts' h') (hinv : Inv ts h) : Inv ts' h' := by
  induction hrun with
  | refl => exact hinv
  | thread hi _ ih => exact ih (hstep _ _ _ _ _ hinv hi)
  | env he _ ih => exact ih (henv _ _ _ hinv he)

namespace Interleaving

variable {α : Type} {env : Host → Host → Prop}

/-- One interleaving, then another from where it ended. -/
theorem trans {ts ts₁ ts' : List (Thread α)} {h h₁ h' : Host}
    (hrun : Interleaving env ts h ts₁ h₁) (hrest : Interleaving env ts₁ h₁ ts' h') :
    Interleaving env ts h ts' h' := by
  induction hrun with
  | refl => exact hrest
  | thread hi _ ih => exact .thread hi (ih hrest)
  | env he _ ih => exact .env he (ih hrest)

/-- A part `t` of one thread, taking its steps with no one in between, runs as it would alone:
the interleaving ends where `t` alone ends, with the thread gone on to what follows `t` on its
answer. -/
theorem bind_alone {β : Type} (t : Thread β) {k : β → Thread α} :
    ∀ (ts : List (Thread α)) (i : Nat), ts[i]? = some (t.bind k) → ∀ h : Host,
      Interleaving env ts h (ts.set i (k (t.alone h).1)) (t.alone h).2 := by
  induction t with
  | done b =>
    intro ts i hi h
    obtain ⟨hlt, hget⟩ := List.getElem?_eq_some_iff.1 hi
    -- the thread is already at what follows
    show Interleaving env ts h (ts.set i (k b)) h
    rw [← Thread.done_bind b k, ← hget, List.set_getElem_self hlt]
    exact .refl ts h
  | step e n ih =>
    intro ts i hi h
    have hlt := (List.getElem?_eq_some_iff.1 hi).1
    refine .thread (e := e) (n := fun h => (n h).bind k) hi ?_
    have hrest := ih h (ts.set i ((n h).bind k)) i
      (List.getElem?_set_self (by simpa using hlt)) (e h)
    rw [List.set_set] at hrest
    exact hrest

/-- A thread taking all its steps with no one in between runs as it would alone. -/
theorem alone (ts : List (Thread α)) (i : Nat) {t : Thread α} (hi : ts[i]? = some t) (h : Host) :
    Interleaving env ts h (ts.set i (.done (t.alone h).1)) (t.alone h).2 :=
  bind_alone t ts i (by rw [Thread.bind_done]; exact hi) h

end Interleaving

end SnapshotAgent.Agent
