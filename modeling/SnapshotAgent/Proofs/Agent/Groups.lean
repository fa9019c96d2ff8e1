import Mathlib.Data.List.Nodup
import Mathlib.Logic.Function.Basic
import SnapshotAgent.Proofs.Agent.Threads
/-!
# Tasks run as a group

A job may spawn tasks that run side by side and wait for all of them before it goes on: the
monitor tick does so twice, once to discover the nodes the store does not track and once to
reconcile the uploads it does. The tasks then meet on the host in any interleaving, and their
answers come back in the order in which they finish.

* `SideBySide tasks h answers h'`: the tasks, as threads, take their steps in some interleaving
  with no one else, from `h` with the group started, until each has finished; the group then
  ends in `h'`, and `answers` are the tasks' answers in some order.
* `group_sideBySide`: the program's `group`, which runs each task to its end in turn, is one way
  of running them side by side.
* `Interleaving.staged`: the run lemma for tasks that are each at a stage of their program, the
  stages kept in a function of the tasks' keys. What every step of a task keeps, from the stage
  it is at to the stage it reaches, holds at the end of every interleaving, where each task is at
  some stage again.
-/

namespace SnapshotAgent.Agent

variable {α : Type}

/-- The host once a group of tasks has ended: out of the group, and cancelled if a task waited for
the cancellation due when the group ends. -/
def Host.endGroup (h : Host) : Host :=
  { h with inGroup := false, cancelled := h.cancelled || h.cancelDue, cancelDue := false }

/-- A group whose tasks left the caller's token alone, with no cancellation due, ends out of the
group with nothing else changed. -/
theorem Host.endGroup_eq {h : Host} (hc : h.cancelled = false) (hdue : h.cancelDue = false) :
    h.endGroup = { h with inGroup := false } := by
  obtain ⟨store, tool, calls, deliveries, cancelled, cancelDue, inGroup, network, clock⟩ := h
  simp only at hc hdue
  subst hc hdue
  rfl

/-- The program's group runs its tasks in turn within the group. -/
theorem group_run (tasks : List (HostM α)) (h : Host) :
    (group tasks).run h =
      (((tasks.mapM id).run { h with inGroup := true }).1,
        ((tasks.mapM id).run { h with inGroup := true }).2.endGroup) := rfl

/-- Tasks run side by side: from `h` with the group started, their threads take their steps in
some interleaving, with no one else, until each has finished with its result; the group then
ends in `h'`. The answers come back as the tasks finish: in some order of the results. -/
def SideBySide (tasks : List (Thread α)) (h : Host) (answers : List α) (h' : Host) : Prop :=
  ∃ (results : List α) (h₁ : Host),
    Interleaving (fun _ _ => False) tasks { h with inGroup := true } (results.map .done) h₁ ∧
    answers.Perm results ∧ h' = h₁.endGroup

namespace Interleaving

variable {env : Host → Host → Prop}

/-- Threads run to their end one after another, behind some that have finished, are an
interleaving. -/
theorem inTurn : ∀ (pre : List α) (ts : List (Thread α)) (h : Host),
    Interleaving env (pre.map .done ++ ts) h
      ((pre ++ ((ts.mapM Thread.alone).run h).1).map .done) ((ts.mapM Thread.alone).run h).2
  | pre, [], h => by
    show Interleaving env (pre.map .done ++ []) h ((pre ++ []).map .done) h
    rw [List.append_nil, List.append_nil]
    exact .refl _ h
  | pre, t :: ts, h => by
    have hi : (pre.map Thread.done ++ t :: ts)[pre.length]? = some t := by
      rw [List.getElem?_append_right (Nat.le_of_eq (List.length_map _)), List.length_map, Nat.sub_self,
        List.getElem?_cons_zero]
    -- the first thread runs alone, then the rest in turn behind it
    have hfirst : Interleaving env _ _ _ _ := alone (pre.map Thread.done ++ t :: ts) pre.length hi h
    rw [List.set_append_right _ _ (Nat.le_of_eq (List.length_map _)), List.length_map, Nat.sub_self,
      List.set_cons_zero] at hfirst
    have hrest : Interleaving env _ _ _ _ := inTurn (pre ++ [(t.alone h).1]) ts (t.alone h).2
    rw [List.map_append, List.map_singleton, List.append_assoc, List.singleton_append,
      List.append_assoc, List.singleton_append] at hrest
    have hcons : ((t :: ts).mapM Thread.alone).run h =
        ((t.alone h).1 :: ((ts.mapM Thread.alone).run (t.alone h).2).1,
          ((ts.mapM Thread.alone).run (t.alone h).2).2) := by
      rw [List.mapM_cons]
      rfl
    rw [hcons]
    exact hfirst.trans hrest

/-- Threads one per item, each at the stage its key has reached, taking their steps with no one
else. What holds of the stages and the host, and is kept by every step of an item's thread, with
the item's key gone on to the stage the step reaches, holds at the end, where each thread is at
some stage. The keys tell the items apart, so a step moves the stage of its own item only. -/
theorem staged {ι κ σ : Type} [DecidableEq κ] (key : ι → κ) {items : List ι}
    (hkeys : (items.map key).Nodup) {threadAt : ι → σ → Thread α} {Inv : (κ → σ) → Host → Prop}
    (hstep : ∀ stage h x e n, x ∈ items → Inv stage h → threadAt x (stage (key x)) = .step e n →
      ∃ s, n h = threadAt x s ∧ Inv (Function.update stage (key x) s) (e h))
    {stage : κ → σ} {h h' : Host} {ts' : List (Thread α)}
    (hrun : Interleaving (fun _ _ => False) (items.map fun x => threadAt x (stage (key x))) h ts' h')
    (hinv : Inv stage h) :
    ∃ stage', ts' = items.map (fun x => threadAt x (stage' (key x))) ∧ Inv stage' h' := by
  refine @Interleaving.invariant α _
    (fun ts h => ∃ stage', ts = items.map (fun x => threadAt x (stage' (key x))) ∧ Inv stage' h)
    ?_ (fun _ _ _ _ he => he.elim) _ _ _ _ hrun ⟨stage, rfl, hinv⟩
  rintro ts h i e n ⟨stage, rfl, hinv⟩ hi
  rw [List.getElem?_map] at hi
  obtain ⟨x, hx, hthread⟩ := Option.map_eq_some_iff.1 hi
  obtain ⟨s, hn, hinv'⟩ := hstep stage h x e n (List.mem_of_getElem? hx) hinv hthread
  refine ⟨Function.update stage (key x) s, ?_, hinv'⟩
  have hlt := (List.getElem?_eq_some_iff.1 hx).1
  apply List.ext_getElem?
  intro m
  rw [List.getElem?_set, List.getElem?_map, List.getElem?_map]
  by_cases him : i = m
  · subst him
    rw [if_pos rfl, if_pos (by rw [List.length_map]; exact hlt), hx, Option.map_some,
      Function.update_self, hn]
  · rw [if_neg him]
    cases hy : items[m]? with
    | none => rfl
    | some y =>
      -- another item has another key, so its stage is as it was
      have hmy := List.getElem?_eq_some_iff.1 hy
      have hne : key y ≠ key x := by
        intro heq
        have hsame : (items.map key).get ⟨m, by rw [List.length_map]; exact hmy.1⟩ =
            (items.map key).get ⟨i, by rw [List.length_map]; exact hlt⟩ := by
          rw [List.get_eq_getElem, List.get_eq_getElem, List.getElem_map, List.getElem_map, hmy.2,
            (List.getElem?_eq_some_iff.1 hx).2, heq]
        exact him (congrArg Fin.val ((List.Nodup.get_inj_iff hkeys).1 hsame)).symm
      rw [Option.map_some, Option.map_some, Function.update_of_ne hne]

/-- When threads, one per item, have all finished, each item's thread is done. -/
theorem done_of_finished {ι : Type} {results : List α} {items : List ι} {f : ι → Thread α}
    (hend : results.map Thread.done = items.map f) {x : ι} (hx : x ∈ items) :
    ∃ a, f x = .done a := by
  have hmem : f x ∈ results.map Thread.done := by
    rw [hend]
    exact List.mem_map_of_mem hx
  obtain ⟨a, -, ha⟩ := List.mem_map.1 hmem
  exact ⟨a, ha.symm⟩

/-- When threads, one per item, have all finished, their results are what each item's thread is
done with. -/
theorem results_of_finished {ι : Type} {results : List α} {items : List ι} {f : ι → Thread α}
    {g : ι → α} (hend : results.map Thread.done = items.map f)
    (hg : ∀ x ∈ items, f x = .done (g x)) : results = items.map g := by
  apply List.map_injective_iff.2 (fun a b hab => Thread.done.inj hab)
  rw [hend, List.map_map]
  exact List.map_congr_left fun x hx => hg x hx

end Interleaving

/-- Moving the stage of one item, whose key tells it from the others: an item reads the new stage
if it is that item, and its own stage as before if not. -/
theorem update_keyed {ι κ σ : Type} [DecidableEq κ] {key : ι → κ} {items : List ι}
    (hkeys : (items.map key).Nodup) {x y : ι} (hx : x ∈ items) (hy : y ∈ items)
    (stage : κ → σ) (s : σ) :
    (y = x ∧ Function.update stage (key x) s (key y) = s) ∨
      (y ≠ x ∧ Function.update stage (key x) s (key y) = stage (key y)) := by
  by_cases hyx : y = x
  · subst hyx
    exact .inl ⟨rfl, Function.update_self _ _ _⟩
  · exact .inr ⟨hyx, Function.update_of_ne
      (fun hk => hyx (List.inj_on_of_nodup_map hkeys hy hx hk)) _ _⟩

/-- What holds of each item at its stage holds once one item moves to a stage where it holds for
that item too: the others keep their stages. -/
theorem forall_update_keyed {ι κ σ : Type} [DecidableEq κ] {key : ι → κ} {items : List ι}
    (hkeys : (items.map key).Nodup) {x : ι} (hx : x ∈ items) {P : ι → σ → Prop} {stage : κ → σ}
    {s : σ} (hnew : P x s) (hold : ∀ y ∈ items, y ≠ x → P y (stage (key y))) :
    ∀ y ∈ items, P y (Function.update stage (key x) s (key y)) := by
  intro y hy
  rcases update_keyed hkeys hx hy stage s with ⟨rfl, hupd⟩ | ⟨hne, hupd⟩
  · rw [hupd]
    exact hnew
  · rw [hupd]
    exact hold y hy hne

/-- The program's group runs each task to its end in turn: one way of running the tasks side by
side. -/
theorem group_sideBySide (ts : List (Thread α)) (h : Host) :
    SideBySide ts h ((group (ts.map Thread.alone)).run h).1
      ((group (ts.map Thread.alone)).run h).2 := by
  rw [group_run, List.mapM_map, Function.id_comp]
  have hturn : Interleaving (fun _ _ => False) _ _ _ _ :=
    Interleaving.inTurn [] ts { h with inGroup := true }
  rw [List.map_nil, List.nil_append, List.nil_append] at hturn
  exact ⟨_, _, hturn, List.Perm.refl _, rfl⟩

end SnapshotAgent.Agent
