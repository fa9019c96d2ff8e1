import SnapshotAgent.Text.Lower
/-!
# Fields of a cron schedule

A cron schedule has a field for each unit of time: seconds, minutes, hours, days of the month,
months, days of the week (Sunday is 1) and years. A field is a comma-separated list of
specifiers, each one of

* `*` (every value; `?` means the same in the day fields),
* a point `5`, a range `1-5`, or a named range `MON-FRI`,
* a period `spec/step`: every `step`-th value of `spec`, where a point `p` stands for `p` to the
  unit's maximum,
* a named point `JAN`.

`Unit.ordinals` turns the specifiers of a field into the sorted set of values it allows, checking
each value against the unit's bounds; the first problem found, from the left, is reported.
-/

namespace SnapshotAgent.Schedule

open SnapshotAgent.Text

/-- A specifier that can start a period. -/
inductive Spec where
  | all
  | point (n : Nat)
  | range (lo hi : Nat)
  | namedRange (lo hi : String)
  deriving Repr, DecidableEq

/-- A specifier as it may stand in a field's list. -/
inductive RootSpec where
  | spec (s : Spec)
  | period (start : Spec) (step : Nat)
  | namedPoint (name : String)
  deriving Repr, DecidableEq

/-- A unit of time as a cron field sees it: its name in messages, its bounds, and the names it
accepts for its values. -/
structure Unit where
  name : String
  min : Nat
  max : Nat
  /-- The value a name stands for, or the message refusing it. -/
  ordinalOfName : String → Except String Nat

/-- The refusal of a name by a unit without names. -/
def noNames (unitName : String) (n : String) : Except String Nat :=
  .error ("The '" ++ unitName ++ "' field does not support using names. '" ++ n ++ "' specified.")

/-- The month a name stands for: the first three letters or the whole name, in any case. -/
def monthOfName (n : String) : Except String Nat :=
  let l := lower n
  let table : List (List String × Nat) :=
    [(["jan", "january"], 1), (["feb", "february"], 2), (["mar", "march"], 3),
     (["apr", "april"], 4), (["may"], 5), (["jun", "june"], 6), (["jul", "july"], 7),
     (["aug", "august"], 8), (["sep", "september"], 9), (["oct", "october"], 10),
     (["nov", "november"], 11), (["dec", "december"], 12)]
  match table.find? (fun (ns, _) => ns.contains l) with
  | some (_, v) => .ok v
  | none => .error ("'" ++ n ++ "' is not a valid month name.")

/-- The day of the week a name stands for, Sunday being 1. -/
def weekdayOfName (n : String) : Except String Nat :=
  let l := lower n
  let table : List (List String × Nat) :=
    [(["sun", "sunday"], 1), (["mon", "monday"], 2), (["tue", "tues", "tuesday"], 3),
     (["wed", "wednesday"], 4), (["thu", "thurs", "thursday"], 5), (["fri", "friday"], 6),
     (["sat", "saturday"], 7)]
  match table.find? (fun (ns, _) => ns.contains l) with
  | some (_, v) => .ok v
  | none => .error ("'" ++ n ++ "' is not a valid day of the week.")

def Unit.seconds : Unit := ⟨"Seconds", 0, 59, noNames "Seconds"⟩
def Unit.minutes : Unit := ⟨"Minutes", 0, 59, noNames "Minutes"⟩
def Unit.hours : Unit := ⟨"Hours", 0, 23, noNames "Hours"⟩
def Unit.daysOfMonth : Unit := ⟨"Days of Month", 1, 31, noNames "Days of Month"⟩
def Unit.months : Unit := ⟨"Months", 1, 12, monthOfName⟩
def Unit.daysOfWeek : Unit := ⟨"Days of Week", 1, 7, weekdayOfName⟩
def Unit.years : Unit := ⟨"Years", 1970, 2100, noNames "Years"⟩

/-- Every value of a unit, in order. -/
def Unit.allValues (u : Unit) : List Nat := (List.range (u.max + 1 - u.min)).map (· + u.min)

/-- Checks that a value lies within the unit's bounds. -/
def Unit.check (u : Unit) (n : Nat) : Except String Nat :=
  if n < u.min then
    .error (u.name ++ " must be greater than or equal to " ++ toString u.min ++ ". ('" ++
      toString n ++ "' specified.)")
  else if n > u.max then
    .error (u.name ++ " must be less than " ++ toString u.max ++ ". ('" ++ toString n ++
      "' specified.)")
  else .ok n

/-- The values from `lo` to `hi`. -/
def span (lo hi : Nat) : List Nat := (List.range (hi + 1 - lo)).map (· + lo)

/-- Every `step`-th element of a list, starting with the first. -/
def everyNth (step : Nat) : List Nat → Nat → List Nat
  | [], _ => []
  | x :: xs, k => if k % step = 0 then x :: everyNth step xs (k + 1) else everyNth step xs (k + 1)

/-- The values of a specifier, before each is checked against the bounds. -/
def Unit.specValues (u : Unit) : Spec → Except String (List Nat)
  | .all => .ok u.allValues
  | .point n => .ok [n]
  | .range lo hi =>
    match u.check lo, u.check hi with
    | .ok a, .ok b =>
      if a ≤ b then .ok (span a b)
      else .error ("Invalid range for " ++ u.name ++ ": " ++ toString lo ++ "-" ++ toString hi)
    | _, _ => .error ("Invalid range for " ++ u.name ++ ": " ++ toString lo ++ "-" ++ toString hi)
  | .namedRange lo hi => do
    let a ← u.ordinalOfName lo
    let b ← u.ordinalOfName hi
    match u.check a, u.check b with
    | .ok a, .ok b =>
      if a ≤ b then .ok (span a b)
      else .error ("Invalid named range for " ++ u.name ++ ": " ++ lo ++ "-" ++ hi)
    | _, _ => .error ("Invalid named range for " ++ u.name ++ ": " ++ lo ++ "-" ++ hi)

/-- Inserts a value into a sorted list without duplicates. -/
def insertValue (n : Nat) : List Nat → List Nat
  | [] => [n]
  | x :: xs => if n < x then n :: x :: xs else if n = x then x :: xs else x :: insertValue n xs

/-- The values of a root specifier, sorted, before each is checked against the bounds. -/
def Unit.rootValues (u : Unit) : RootSpec → Except String (List Nat)
  | .spec s => (u.specValues s).map (·.foldl (fun acc n => insertValue n acc) [])
  | .period _ 0 => .error "range step cannot be zero"
  | .period start step =>
    if step > u.max then
      .error (u.name ++ " must be between 1 and " ++ toString u.max ++ ". ('" ++ toString step ++
        "' specified.)")
    else do
      let base ← match start with
        | .point p => do
          let p ← u.check p
          pure (span p u.max)
        | s => (u.specValues s).map (·.foldl (fun acc n => insertValue n acc) [])
      pure (everyNth step base 0)
  | .namedPoint n => (u.ordinalOfName n).map fun v => [v]

/-- The sorted values a field allows. A lone `*` allows every value. -/
def Unit.ordinals (u : Unit) (specs : List RootSpec) : Except String (List Nat) :=
  if specs = [.spec .all] then .ok u.allValues
  else
    specs.foldlM (fun acc s => do
      let vs ← u.rootValues s
      vs.foldlM (fun acc v => do
        let v ← u.check v
        pure (insertValue v acc)) acc) []

/-- Inserting keeps every element and adds the new one. -/
theorem mem_insertValue (n m : Nat) (xs : List Nat) :
    m ∈ insertValue n xs ↔ m = n ∨ m ∈ xs := by
  induction xs with
  | nil => simp [insertValue]
  | cons x xs ih =>
    simp only [insertValue]
    split
    · simp
    · split
      · subst_vars; simp
      · simp only [List.mem_cons, ih]
        constructor
        · rintro (h | h | h) <;> simp [h]
        · rintro (h | h | h) <;> simp [h]

end SnapshotAgent.Schedule
