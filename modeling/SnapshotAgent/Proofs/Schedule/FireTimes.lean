import Mathlib
import SnapshotAgent.Schedule.Next
import SnapshotAgent.Proofs.Time.InstantOrder
/-!
# Fire times

A job's ticker turns again and again. At each turn it reads the clock, searches for the first
fire time strictly after the later of its last launch and the reading (`searchFrom`), and
launches the job then; it stops when the search finds nothing (`tickLaunches`). The search is
the cron library's. What the ticker relies on is that the search finds the least fire time
strictly after the instant it is given, and finds nothing only when the schedule never fires
after it (`FindsNextFire`).

## Main statements

* `tickLaunches_increase`: whatever the clock reads at each turn, going back in time included,
  the launches strictly increase and each is strictly after the reading it was computed from.
  When the clock lags behind the last launch the search starts from the launch, so nothing fires
  twice.
* `tickLaunches_frozen`: with the clock frozen, the launches are fire times after the search
  point in ascending order, and none is skipped: every fire time up to a launch is a launch, and
  a ticker that stops early has launched all of them.
* `fire_times_never_repeat_or_skip`: both, for a ticker that starts with no launch.

Each is one induction on the turns, with the search point as the invariant: it is never before
the clock, and a launch is always after it.
-/

namespace SnapshotAgent.Schedule

open SnapshotAgent.Time

/-- A search that finds, strictly after any instant, the least instant at which the schedule
fires, and finds nothing only when the schedule never fires after it. -/
structure FindsNextFire (fires : Instant → Prop) (after : Instant → Option Instant) : Prop where
  fires_found : ∀ {t x}, after t = some x → fires x
  found_after : ∀ {t x}, after t = some x → t.before x = true
  found_least : ∀ {t x y}, after t = some x → fires y → t.before y = true → y.before x = false
  none_after : ∀ {t y}, after t = none → fires y → t.before y = false

section Ticks

variable {fires : Instant → Prop} {after : Instant → Option Instant}

/-- A fire time after the search point is the fire time found, or after it. -/
theorem FindsNextFire.eq_or_after (hfind : FindsNextFire fires after) {t x y : Instant}
    (hfound : after t = some x) (hy : fires y) (hty : t.before y = true) :
    y = x ∨ x.before y = true := by
  rcases Instant.before_trichotomy y x with hyx | rfl | hxy
  · rw [hfind.found_least hfound hy hty] at hyx
    cases hyx
  · exact .inl rfl
  · exact .inr hxy

theorem tickLaunches_cons (after : Instant → Option Instant) (previous : Option Instant)
    (now : Instant) (readings : List Instant) :
    tickLaunches after previous (now :: readings) =
      match after (searchFrom previous now) with
      | some t => t :: tickLaunches after (some t) readings
      | none => [] := rfl

/-- The search starts from neither before the last launch nor before the reading. -/
theorem searchFrom_not_before (previous : Option Instant) (now : Instant) :
    (searchFrom previous now).before now = false ∧
      ∀ p, previous = some p → (searchFrom previous now).before p = false := by
  cases previous with
  | none => exact ⟨Instant.before_irrefl now, fun _ h => by cases h⟩
  | some p =>
    obtain ⟨hp, hnow⟩ := Instant.latest_not_before p now
    exact ⟨hnow, fun q hq => by cases hq; exact hp⟩

/-- Over any readings of the clock, every launch is after the last launch before the turns and
after its own reading, and the launches strictly increase. -/
theorem tickLaunches_increase (hfind : FindsNextFire fires after) :
    ∀ (readings : List Instant) (previous : Option Instant),
      (tickLaunches after previous readings).Pairwise (fun a b => a.before b = true) ∧
      (∀ p, previous = some p → ∀ t ∈ tickLaunches after previous readings, p.before t = true) ∧
      ∀ rt ∈ readings.zip (tickLaunches after previous readings), rt.1.before rt.2 = true
  | [], _ => by simp [tickLaunches]
  | now :: readings, previous => by
    rw [tickLaunches_cons]
    rcases hfound : after (searchFrom previous now) with _ | t
    · simp
    · -- the launch is after the search point, which is after the reading and the last launch
      have hafter := hfind.found_after hfound
      obtain ⟨hnow, hprev⟩ := searchFrom_not_before previous now
      obtain ⟨ihpair, ihprev, ihzip⟩ := tickLaunches_increase hfind readings (some t)
      refine ⟨List.pairwise_cons.2 ⟨ihprev t rfl, ihpair⟩, ?_, ?_⟩
      · intro p hp x hx
        have hpt : p.before t = true := Instant.before_of_not_before_of_before (hprev p hp) hafter
        rcases List.mem_cons.1 hx with rfl | hx
        · exact hpt
        · exact Instant.before_trans hpt (ihprev t rfl x hx)
      · intro rt hrt
        rcases List.mem_cons.1 (by simpa using hrt) with rfl | hrt
        · exact Instant.before_of_not_before_of_before hnow hafter
        · exact ihzip rt hrt

/-- With the clock frozen at `now`, from a last launch that is not before `now`: the launches
are fire times after the search point in ascending order, no fire time after the search point
up to a launch is skipped, and a ticker that stops early has launched all of them. -/
theorem tickLaunches_frozen (hfind : FindsNextFire fires after) (now : Instant) :
    ∀ (n : Nat) (previous : Option Instant), (∀ p, previous = some p → p.before now = false) →
      let b := searchFrom previous now
      let L := tickLaunches after previous (List.replicate n now)
      (∀ t ∈ L, fires t ∧ b.before t = true) ∧
      (∀ y, fires y → b.before y = true → (∃ t ∈ L, t.before y = false) → y ∈ L) ∧
      (L.length < n → ∀ y, fires y → b.before y = true → y ∈ L)
  | 0, _, _ => by simp [tickLaunches]
  | n + 1, previous, hprev => by
    dsimp only
    rw [List.replicate_succ, tickLaunches_cons]
    set b := searchFrom previous now with hb
    rcases hfound : after b with _ | x <;> dsimp only
    · -- nothing is found: the schedule never fires after the search point
      refine ⟨by simp, by simp, fun _ y hy hby => ?_⟩
      rw [hfind.none_after hfound hy] at hby
      cases hby
    · have hbx := hfind.found_after hfound
      -- the search point is not before `now`, so `now` is before the launch
      have hnowx : now.before x = true :=
        Instant.before_of_not_before_of_before (searchFrom_not_before previous now).1 hbx
      have hnext : searchFrom (some x) now = x :=
        Instant.latest_of_before hnowx
      obtain ⟨ihfires, ihskip, ihall⟩ :=
        tickLaunches_frozen hfind now n (some x) (fun p hp => by cases hp; exact Instant.before_asymm hnowx)
      simp only [hnext] at ihfires ihskip ihall
      refine ⟨?_, ?_, ?_⟩
      · intro t ht
        rcases List.mem_cons.1 ht with rfl | ht
        · exact ⟨hfind.fires_found hfound, hbx⟩
        · exact ⟨(ihfires t ht).1, Instant.before_trans hbx (ihfires t ht).2⟩
      · rintro y hy hby ⟨t, ht, hty⟩
        rcases hfind.eq_or_after hfound hy hby with rfl | hxy
        · exact List.mem_cons_self
        · rcases List.mem_cons.1 ht with rfl | ht
          · rw [hxy] at hty
            cases hty
          · exact List.mem_cons_of_mem x (ihskip y hy hxy ⟨t, ht, hty⟩)
      · intro hlen y hy hby
        rcases hfind.eq_or_after hfound hy hby with rfl | hxy
        · exact List.mem_cons_self
        · exact List.mem_cons_of_mem x (ihall (by simpa using hlen) y hy hxy)

/-- With the clock frozen at `now`, a ticker that starts with no launch launches fire times after
`now` in strictly ascending order, skips none of them up to its last launch and, when it stops
before `n` turns, has launched every fire time after `now`. Whatever the clock reads at each turn,
the launches strictly increase and each is strictly after the reading it was computed from. -/
theorem fire_times_never_repeat_or_skip (hfind : FindsNextFire fires after) :
    (∀ (now : Instant) (n : Nat),
      let L := tickLaunches after none (List.replicate n now)
      L.Pairwise (fun a b => a.before b = true) ∧ (∀ t ∈ L, fires t ∧ now.before t = true) ∧
        (∀ y, fires y → now.before y = true → (∃ t ∈ L, t.before y = false) → y ∈ L) ∧
        (L.length < n → ∀ y, fires y → now.before y = true → y ∈ L)) ∧
    ∀ readings : List Instant,
      (tickLaunches after none readings).Pairwise (fun a b => a.before b = true) ∧
        ∀ rt ∈ readings.zip (tickLaunches after none readings), rt.1.before rt.2 = true :=
  ⟨fun now n => ⟨(tickLaunches_increase hfind _ none).1, tickLaunches_frozen hfind now n none (by simp)⟩,
    fun readings => ⟨(tickLaunches_increase hfind readings none).1,
      (tickLaunches_increase hfind readings none).2.2⟩⟩

/-- The search of a schedule that fires once, at `x`. -/
def onceAt (x t : Instant) : Option Instant := if t.before x then some x else none

theorem onceAt_finds (x : Instant) : FindsNextFire (· = x) (onceAt x) where
  fires_found h := by
    unfold onceAt at h
    split at h <;> simp_all
  found_after h := by
    unfold onceAt at h
    split at h <;> simp_all
  found_least h hy _ := by
    subst hy
    unfold onceAt at h
    split at h <;> simp_all [Instant.before_irrefl]
  none_after h hy := by
    subst hy
    unfold onceAt at h
    split at h <;> simp_all

/-- The instant 2030-01-01T00:00:00Z, the one fire time of a schedule that fires once. -/
def newYear2030 : Instant := ⟨21915, 0, 0⟩

theorem fire_times_of_one_shot_schedule :
    FindsNextFire (· = newYear2030) (onceAt newYear2030) ∧
    (∀ (now : Instant) (n : Nat),
      let L := tickLaunches (onceAt newYear2030) none (List.replicate n now)
      L.Pairwise (fun a b => a.before b = true) ∧
        (∀ t ∈ L, t = newYear2030 ∧ now.before t = true) ∧
        (∀ y, y = newYear2030 → now.before y = true → (∃ t ∈ L, t.before y = false) → y ∈ L) ∧
        (L.length < n → ∀ y, y = newYear2030 → now.before y = true → y ∈ L)) ∧
    ∀ readings : List Instant,
      (tickLaunches (onceAt newYear2030) none readings).Pairwise (fun a b => a.before b = true) ∧
        ∀ rt ∈ readings.zip (tickLaunches (onceAt newYear2030) none readings),
          rt.1.before rt.2 = true :=
  ⟨onceAt_finds newYear2030, fire_times_never_repeat_or_skip (onceAt_finds newYear2030)⟩

end Ticks

end SnapshotAgent.Schedule
