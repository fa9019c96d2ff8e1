import Mathlib
import SnapshotAgent.Metrics.Module
import SnapshotAgent.Notify.Transport
/-!
# Registering named parts

Protocol modules and notification transports are registered once, at start-up, each under all
its names: a module under its name and its aliases, a transport under its name. A registration
changes the registry it runs on, and it vets every name before it inserts any, so it is all or
nothing: a refused registration leaves the registry as it was (`run_register`).

This file states what a registration does without the code that does it (`RegisterLaw`): an
accepted registration maps each of its names to the entry and leaves every other name as it was,
and is accepted exactly when the names are `Registrable` (none empty, none repeated, none taken);
a refused one leaves the registry unchanged and names the first of its names that is `Blocked`
by the names before it or by the registry. Two facts about the code carry it: the vetting pass reports the first blocked name
(`refusal_eq_some_iff`), and a sorted insert of a free name changes the lookup of that name only
(`get?_insertSorted`).

Registries built by accepted registrations from the empty one (`Built`) then keep two
invariants: every name resolves to an entry that answers to it, and the names are listed in
strictly increasing order, so sorted and without repeats.

## Main statement

`registration_atomic`: the law for protocol modules and for notification transports, and the
invariants of the registries of both kinds built from the empty one.
-/

namespace SnapshotAgent.Registry

variable {α : Type}

/-! ## The law of a registration -/

/-- Names an entry can be registered under in `r`: none empty, none repeated, none taken. -/
def Registrable (r : Registry α) (names : List String) : Prop :=
  names.Nodup ∧ ∀ n ∈ names, n ≠ "" ∧ r.contains n = false

/-- A name that cannot be registered after the names `earlier`: it is empty, one of them, or
taken. -/
def Blocked (r : Registry α) (earlier : List String) (n : String) : Prop :=
  n = "" ∨ n ∈ earlier ∨ r.contains n = true

/-- How a blocked name is refused: as empty, or else as a duplicate. -/
def refusalOf (n : String) : Refusal := if n = "" then .emptyName else .duplicate n

/-- What registering an entry under some names in `r` may answer, with the registry it leaves and
refusals reported through `err`: acceptance, when the names are registrable, with each of them
resolving to the entry and every other name as before; or the refusal of the first name blocked
by the names before it, with the registry unchanged. -/
def RegisterLaw {ε : Type} (err : Refusal → ε) (r : Registry α) (names : List String) (a : α) :
    Except ε Unit × Registry α → Prop
  | (.ok (), r') => Registrable r names ∧ ∀ k, r'.get? k = if k ∈ names then some a else r.get? k
  | (.error e, r') => r' = r ∧ ∃ pre n post, names = pre ++ n :: post ∧ Registrable r pre ∧
      Blocked r pre n ∧ e = err (refusalOf n)

/-- The registries built from the empty one by accepted registrations, each entry under the
names `keys` gives it. -/
inductive Built (keys : α → List String) : Registry α → Prop
  | empty : Built keys ⟨[]⟩
  | register {r r' : Registry α} {a : α} : Built keys r →
      (Registry.register (keys a) a).run.run r = (.ok (), r') → Built keys r'

/-! ## Vetting the names -/

section Vetting

variable (r : Registry α)

theorem refusal_cons (seen : List String) (n : String) (rest : List String) :
    r.refusal seen (n :: rest) =
      if n = "" ∨ n ∈ seen ∨ r.contains n = true then some (refusalOf n)
      else r.refusal (seen ++ [n]) rest := by
  show (if n.isEmpty then some .emptyName
    else if seen.contains n || r.contains n then some (.duplicate n)
    else r.refusal (seen ++ [n]) rest) = _
  unfold refusalOf
  by_cases hn : n = ""
  · simp [hn]
  · simp only [String.isEmpty_iff, hn, if_false, Bool.or_eq_true, List.contains_iff_mem,
      false_or]

/-- The vetting pass accepts exactly the names that are none empty, none repeated and none
seen or taken. -/
theorem refusal_eq_none_iff : ∀ (seen names : List String),
    r.refusal seen names = none ↔
      names.Nodup ∧ ∀ n ∈ names, n ≠ "" ∧ n ∉ seen ∧ r.contains n = false
  | _, [] => by simp [refusal]
  | seen, n :: rest => by
    rw [refusal_cons]
    split
    · next hb =>
      refine ⟨fun h => by simp at h, ?_⟩
      rintro ⟨-, hall⟩
      obtain ⟨h1, h2, h3⟩ := hall n List.mem_cons_self
      rcases hb with hb | hb | hb
      · exact absurd hb h1
      · exact absurd hb h2
      · rw [hb] at h3
        cases h3
    · next hb =>
      simp only [not_or, Bool.not_eq_true] at hb
      rw [refusal_eq_none_iff (seen ++ [n]) rest, List.nodup_cons]
      constructor
      · rintro ⟨hnd, hall⟩
        refine ⟨⟨fun h => (hall n h).2.1 (List.mem_append_right _ (List.mem_singleton_self n)), hnd⟩,
          fun x hx => ?_⟩
        rcases List.mem_cons.1 hx with rfl | hx
        · exact hb
        · obtain ⟨h1, h2, h3⟩ := hall x hx
          exact ⟨h1, fun h => h2 (List.mem_append_left _ h), h3⟩
      · rintro ⟨⟨hnr, hnd⟩, hall⟩
        refine ⟨hnd, fun x hx => ?_⟩
        obtain ⟨h1, h2, h3⟩ := hall x (List.mem_cons_of_mem n hx)
        refine ⟨h1, fun h => ?_, h3⟩
        rcases List.mem_append.1 h with h | h
        · exact h2 h
        · rw [List.mem_singleton.1 h] at hx
          exact hnr hx

theorem registrable_iff (names : List String) :
    Registrable r names ↔ r.refusal [] names = none := by
  rw [refusal_eq_none_iff]
  simp [Registrable]

/-- The vetting pass refuses the first name blocked by the names before it. -/
theorem refusal_eq_some_iff : ∀ (seen names : List String) (e : Refusal),
    r.refusal seen names = some e ↔ ∃ pre n post, names = pre ++ n :: post ∧
      r.refusal seen pre = none ∧ (n = "" ∨ n ∈ seen ++ pre ∨ r.contains n = true) ∧
      e = refusalOf n
  | seen, [], e => by
    simp only [refusal, reduceCtorEq, false_iff, not_exists, not_and]
    intro pre n post h
    simp at h
  | seen, m :: rest, e => by
    rw [refusal_cons]
    split
    · next hb =>
      constructor
      · intro h
        exact ⟨[], m, rest, rfl, rfl, by simpa using hb, (Option.some.inj h).symm⟩
      · rintro ⟨pre, n, post, hnames, hpre, -, rfl⟩
        cases pre with
        | nil =>
          obtain ⟨rfl, -⟩ := List.cons.inj hnames
          rfl
        | cons m' pre =>
          obtain ⟨rfl, -⟩ := List.cons.inj hnames
          rw [refusal_cons, if_pos hb] at hpre
          cases hpre
    · next hb =>
      rw [refusal_eq_some_iff (seen ++ [m]) rest e]
      constructor
      · rintro ⟨pre, n, post, rfl, hpre, hn, rfl⟩
        refine ⟨m :: pre, n, post, rfl, ?_, ?_, rfl⟩
        · rw [refusal_cons, if_neg hb]
          exact hpre
        · simpa using hn
      · rintro ⟨pre, n, post, hnames, hpre, hn, rfl⟩
        cases pre with
        | nil =>
          obtain ⟨rfl, -⟩ := List.cons.inj hnames
          exact absurd (by simpa using hn) hb
        | cons m' pre =>
          obtain ⟨rfl, hrest⟩ := List.cons.inj hnames
          rw [refusal_cons, if_neg hb] at hpre
          exact ⟨pre, n, post, hrest, hpre, by simpa using hn, rfl⟩

end Vetting

/-! ## Inserting the names -/

/-- The names of an entry list. -/
def keys (es : List (String × α)) : List String := es.map (·.1)

theorem mem_keys_insertSorted (name : String) (a : α) (es : List (String × α)) (k : String) :
    k ∈ keys (insertSorted name a es) ↔ k = name ∨ k ∈ keys es := by
  induction es with
  | nil => simp [insertSorted, keys]
  | cons e rest ih =>
    obtain ⟨m, b⟩ := e
    unfold insertSorted
    split
    · simp [keys]
    · simp only [keys, List.map_cons, List.mem_cons] at ih ⊢
      rw [ih]
      tauto

/-- A sorted insert keeps the names strictly increasing, when the name is not among them. -/
theorem keys_sorted_insertSorted (name : String) (a : α) {es : List (String × α)}
    (hfree : name ∉ keys es) (hsorted : (keys es).Pairwise (· < ·)) :
    (keys (insertSorted name a es)).Pairwise (· < ·) := by
  induction es with
  | nil => simp [insertSorted, keys]
  | cons e rest ih =>
    obtain ⟨m, b⟩ := e
    simp only [keys, List.map_cons, List.mem_cons, not_or, List.pairwise_cons] at hfree hsorted
    unfold insertSorted
    split
    · next hlt =>
      simp only [keys, List.map_cons, List.pairwise_cons, List.mem_cons, forall_eq_or_imp]
      exact ⟨⟨hlt, fun x hx => lt_trans hlt (hsorted.1 x hx)⟩, hsorted⟩
    · next hge =>
      have hgt : m < name := lt_of_le_of_ne (not_lt.1 hge) (Ne.symm hfree.1)
      simp only [keys, List.map_cons, List.pairwise_cons]
      refine ⟨fun x hx => ?_, ih hfree.2 hsorted.2⟩
      rcases (mem_keys_insertSorted name a rest x).1 hx with rfl | hx
      · exact hgt
      · exact hsorted.1 x hx

theorem get?_nil (k : String) : (⟨[]⟩ : Registry α).get? k = none := rfl

theorem get?_cons (m : String) (b : α) (es : List (String × α)) (k : String) :
    (⟨(m, b) :: es⟩ : Registry α).get? k = if m = k then some b else (⟨es⟩ : Registry α).get? k := by
  by_cases h : m = k <;> simp [get?, h]

/-- A sorted insert of a free name changes the lookup of that name only. -/
theorem get?_insertSorted (name : String) (a : α) {es : List (String × α)}
    (hfree : name ∉ keys es) (k : String) :
    (⟨insertSorted name a es⟩ : Registry α).get? k =
      if k = name then some a else (⟨es⟩ : Registry α).get? k := by
  induction es with
  | nil =>
    rw [insertSorted, get?_cons, get?_nil]
    by_cases hk : k = name
    · simp [hk]
    · simp [hk, Ne.symm hk]
  | cons e rest ih =>
    obtain ⟨m, b⟩ := e
    simp only [keys, List.map_cons, List.mem_cons, not_or] at hfree
    unfold insertSorted
    split
    · rw [get?_cons]
      by_cases hk : k = name
      · simp [hk]
      · simp [hk, Ne.symm hk]
    · rw [get?_cons, get?_cons, ih hfree.2]
      by_cases hmk : m = k
      · subst hmk
        simp [Ne.symm hfree.1]
      · simp [hmk]

/-- Names that were free and distinct from the one inserted stay free. -/
theorem free_after_insertSorted (a : α) {n : String} {rest : List String}
    {es : List (String × α)} (hnot : n ∉ rest) (hfree : ∀ x ∈ n :: rest, x ∉ keys es) :
    ∀ x ∈ rest, x ∉ keys (insertSorted n a es) := fun x hx hmem => by
  rcases (mem_keys_insertSorted n a es x).1 hmem with rfl | hmem
  · exact hnot hx
  · exact hfree x (List.mem_cons_of_mem n hx) hmem

/-- Inserting free, distinct names maps each of them to the entry and keeps every other lookup. -/
theorem get?_foldl_insertSorted (a : α) : ∀ {names : List String} {es : List (String × α)},
    names.Nodup → (∀ n ∈ names, n ∉ keys es) → ∀ k,
      (⟨names.foldl (fun es n => insertSorted n a es) es⟩ : Registry α).get? k =
        if k ∈ names then some a else (⟨es⟩ : Registry α).get? k
  | [], _, _, _, k => by simp
  | n :: rest, es, hnd, hfree, k => by
    rw [List.nodup_cons] at hnd
    rw [List.foldl_cons, get?_foldl_insertSorted a hnd.2 (free_after_insertSorted a hnd.1 hfree) k,
      get?_insertSorted n a (hfree n List.mem_cons_self) k]
    by_cases hk : k = n <;> simp [hk]

/-- Inserting free, distinct names into a strictly increasing list keeps it so. -/
theorem keys_sorted_foldl_insertSorted (a : α) : ∀ {names : List String} {es : List (String × α)},
    names.Nodup → (∀ n ∈ names, n ∉ keys es) → (keys es).Pairwise (· < ·) →
      (keys (names.foldl (fun es n => insertSorted n a es) es)).Pairwise (· < ·)
  | [], _, _, _, hsorted => hsorted
  | n :: rest, es, hnd, hfree, hsorted => by
    rw [List.nodup_cons] at hnd
    rw [List.foldl_cons]
    exact keys_sorted_foldl_insertSorted a hnd.2 (free_after_insertSorted a hnd.1 hfree)
      (keys_sorted_insertSorted n a (hfree n List.mem_cons_self) hsorted)

/-- A name the registry does not hold is not among its entries' names. -/
theorem not_mem_keys_of_contains {r : Registry α} {n : String} (h : r.contains n = false) :
    n ∉ keys r.entries := by
  intro hmem
  obtain ⟨⟨m, b⟩, hme, rfl⟩ := List.mem_map.1 hmem
  have hfind : (r.entries.find? (·.1 == m)).isSome := List.find?_isSome.2 ⟨(m, b), hme, by simp⟩
  simp [contains, get?, hfind] at h

/-! ## Running a registration -/

/-- The insertion pass adds the entry under each name in turn. -/
theorem run_insertAll (a : α) : ∀ (names : List String) (r : Registry α),
    (insertAll names a).run.run r =
      (.ok (), ⟨names.foldl (fun es n => insertSorted n a es) r.entries⟩)
  | [], _ => rfl
  | n :: rest, r => by
    unfold insertAll at *
    simp only [List.forIn_cons]
    exact run_insertAll a rest (r.insert n a)

/-- A registration vets the names against the registry it runs on: refused, it leaves that
registry as it was; accepted, it inserts the entry under every name. -/
theorem run_register (r : Registry α) (names : List String) (a : α) :
    (register names a).run.run r =
      match r.refusal [] names with
      | some why => (.error why, r)
      | none => (.ok (), ⟨names.foldl (fun es n => insertSorted n a es) r.entries⟩) := by
  -- the vetting pass reads the registry as it was handed over
  have hvet : (register names a).run.run r =
      (match r.refusal [] names with
        | some why => throw why
        | none => insertAll names a).run.run r := rfl
  rw [hvet]
  cases r.refusal [] names with
  | some why => rfl
  | none => exact run_insertAll a names r

theorem run_adapt {ε : Type} (err : Refusal → ε) (x : ExceptT Refusal (StateM (Registry α)) Unit)
    (r : Registry α) :
    (x.adapt err).run.run r = ((x.run.run r).1.mapError err, (x.run.run r).2) := rfl

/-! ## The law and the invariants -/

/-- Registering obeys its law: it is accepted exactly when the names are registrable, each name
then resolving to the entry and every other as before, and otherwise refused for the first
blocked name with the registry untouched. -/
theorem register_law (r : Registry α) (names : List String) (a : α) :
    RegisterLaw id r names a ((register names a).run.run r) := by
  rw [run_register]
  split
  · next why hwhy =>
    obtain ⟨pre, n, post, hnames, hpre, hn, rfl⟩ := (refusal_eq_some_iff r [] names why).1 hwhy
    exact ⟨rfl, pre, n, post, hnames, (registrable_iff r pre).2 hpre, by simpa [Blocked] using hn,
      rfl⟩
  · next hnone =>
    have hreg := (registrable_iff r names).2 hnone
    exact ⟨hreg, get?_foldl_insertSorted a hreg.1
      (fun n hn => not_mem_keys_of_contains (hreg.2 n hn).2)⟩

/-- Reporting the refusals in other terms keeps the law. -/
theorem registerLaw_adapt {ε : Type} (err : Refusal → ε) (r : Registry α)
    (names : List String) (a : α) :
    RegisterLaw err r names a (((register names a).adapt err).run.run r) := by
  have hlaw := register_law r names a
  rw [run_adapt]
  generalize (register names a).run.run r = out at hlaw
  obtain ⟨res, r'⟩ := out
  cases res with
  | error e =>
    obtain ⟨rfl, pre, n, post, h1, h2, h3, rfl⟩ := hlaw
    exact ⟨rfl, pre, n, post, h1, h2, h3, rfl⟩
  | ok u => exact hlaw

/-- A registry built from the empty one resolves each name to an entry that answers to it, and
lists its names in strictly increasing order. -/
theorem Built.invariant {keys : α → List String} {r : Registry α} (h : Built keys r) :
    (∀ k a, r.get? k = some a → k ∈ keys a) ∧ r.names.Pairwise (· < ·) := by
  induction h with
  | empty => exact ⟨fun k a h => by simp [get?] at h, List.Pairwise.nil⟩
  | @register r r' a _ hreg ih =>
    have hlaw := register_law r (keys a) a
    rw [hreg] at hlaw
    obtain ⟨⟨hnd, hfree⟩, hget⟩ := hlaw
    refine ⟨fun k b hk => ?_, ?_⟩
    · rw [hget k] at hk
      split at hk
      · next hmem =>
        cases hk
        exact hmem
      · exact ih.1 k b hk
    · -- the accepted registry is the names inserted one by one into the old entries
      rw [run_register, (registrable_iff r _).1 ⟨hnd, hfree⟩] at hreg
      cases hreg
      exact keys_sorted_foldl_insertSorted a hnd
        (fun n hn => not_mem_keys_of_contains (hfree n hn).2) ih.2

end SnapshotAgent.Registry

namespace SnapshotAgent.Metrics

theorem Protocols.find_eq_ok_iff (r : Protocols) (k : String) (m : Module) :
    r.find k = .ok m ↔ r.get? k = some m := by
  unfold Protocols.find
  split <;> simp_all

theorem Protocols.contains_eq_isOk (r : Protocols) (k : String) :
    r.contains k = (r.find k).isOk := by
  unfold Protocols.find Registry.contains
  split <;> simp_all [Except.isOk, Except.toBool]

end SnapshotAgent.Metrics

namespace SnapshotAgent.Notify

theorem Notifiers.find_eq_ok_iff (r : Notifiers) (k : String) (n : Notifier) :
    r.find k = .ok n ↔ r.get? k = some n := by
  unfold Notifiers.find
  split <;> simp_all

theorem Notifiers.contains_eq_isOk (r : Notifiers) (k : String) :
    r.contains k = (r.find k).isOk := by
  unfold Notifiers.find Registry.contains
  split <;> simp_all [Except.isOk, Except.toBool]

end SnapshotAgent.Notify

namespace SnapshotAgent.Registry

open SnapshotAgent.Metrics SnapshotAgent.Notify

/-- Registration is atomic. A protocol module is registered under its name and aliases, a
transport under its name, all or none: accepted exactly when the names are none empty, none
repeated and none taken, each then resolving to the new entry and every other name as before;
refused with `EmptyName` or `Duplicate` for the first of the names blocked by the ones before it
or by the registry, the registry left as it was. Registries of either kind built by accepted registrations from the empty one
resolve every name to an entry that answers to it, find exactly the names they hold, and list
their names sorted without repeats. -/
theorem registration_atomic :
    (∀ (r : Protocols) (m : Module),
      RegisterLaw Metrics.refusalError r (m.name :: m.aliases) m ((Protocols.add m).run.run r)) ∧
    (∀ (r : Notifiers) (n : Notifier),
      RegisterLaw Notify.refusalError r [n.name] n ((Notifiers.add n).run.run r)) ∧
    (∀ r : Protocols, Built (fun m => m.name :: m.aliases) r →
      (∀ k m, r.find k = .ok m → k ∈ m.name :: m.aliases) ∧
        (∀ k, r.contains k = (r.find k).isOk) ∧ r.names.Pairwise (· < ·)) ∧
    (∀ r : Notifiers, Built (fun n => [n.name]) r →
      (∀ k n, r.find k = .ok n → k = n.name) ∧
        (∀ k, r.contains k = (r.find k).isOk) ∧ r.names.Pairwise (· < ·)) := by
  refine ⟨fun r m => registerLaw_adapt _ r _ m, fun r n => registerLaw_adapt _ r _ n,
    fun r hr => ?_, fun r hr => ?_⟩
  · obtain ⟨hkeys, hsorted⟩ := hr.invariant
    exact ⟨fun k m hk => hkeys k m ((Protocols.find_eq_ok_iff r k m).1 hk),
      Protocols.contains_eq_isOk r, hsorted⟩
  · obtain ⟨hkeys, hsorted⟩ := hr.invariant
    exact ⟨fun k n hk => List.mem_singleton.1 (hkeys k n ((Notifiers.find_eq_ok_iff r k n).1 hk)),
      Notifiers.contains_eq_isOk r, hsorted⟩

/-- The built-in protocol modules are registered one after the other from the empty registry:
the Ethereum module, then the Arbitrum module with its alias. -/
theorem default_protocols_built :
    Built (fun m : Module => m.name :: m.aliases) Protocols.defaults ∧
      (∀ k m, Protocols.defaults.find k = .ok m → k ∈ m.name :: m.aliases) ∧
        (∀ k, Protocols.defaults.contains k = (Protocols.defaults.find k).isOk) ∧
          Protocols.defaults.names.Pairwise (· < ·) :=
  have hbuilt : Built (fun m : Module => m.name :: m.aliases) Protocols.defaults :=
    .register (.register .empty (a := Module.ethereumModule) rfl) (a := Module.arbitrumModule) rfl
  ⟨hbuilt, registration_atomic.2.2.1 _ hbuilt⟩

end SnapshotAgent.Registry
