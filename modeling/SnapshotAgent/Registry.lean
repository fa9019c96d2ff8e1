/-!
# Registries of named parts

Protocol modules and notification transports are found by name in a registry that is filled
once at start-up. An entry may answer to several names (a module's aliases); registering it
checks every name in turn, refusing an empty one or one that is taken, by an earlier name of the
same entry or by an entry already registered. A registration changes the registry it is run on;
one that is refused has not changed it.

The names are kept sorted, the order in which a registry lists them.
-/

namespace SnapshotAgent

/-- Why a registration was refused. -/
inductive Refusal where
  | emptyName
  | duplicate (name : String)
  deriving Repr, DecidableEq, Inhabited

/-- Entries by name, sorted by name. -/
structure Registry (α : Type) where
  entries : List (String × α) := []
  deriving Inhabited

namespace Registry

variable {α : Type}

/-- The entry of a name. -/
def get? (r : Registry α) (name : String) : Option α :=
  (r.entries.find? (·.1 == name)).map (·.2)

/-- Whether a name is registered. -/
def contains (r : Registry α) (name : String) : Bool := (r.get? name).isSome

/-- The registered names, sorted. -/
def names (r : Registry α) : List String := r.entries.map (·.1)

/-- Inserts an entry under a name, keeping the names sorted. -/
def insertSorted (name : String) (a : α) : List (String × α) → List (String × α)
  | [] => [(name, a)]
  | (n, b) :: rest =>
    if name < n then (name, a) :: (n, b) :: rest else (n, b) :: insertSorted name a rest

/-- The first of some names that cannot be registered, and why. -/
def refusal (r : Registry α) : List String → List String → Option Refusal
  | _, [] => none
  | seen, n :: rest =>
    if n.isEmpty then some .emptyName
    else if seen.contains n || r.contains n then some (.duplicate n)
    else refusal r (seen ++ [n]) rest

/-- The registry with an entry added under a name, the names kept sorted. -/
def insert (r : Registry α) (name : String) (a : α) : Registry α := ⟨insertSorted name a r.entries⟩

/-- Adds an entry under each of some names, one after the other. -/
def insertAll (names : List String) (a : α) : ExceptT Refusal (StateM (Registry α)) Unit := do
  for n in names do
    modify (·.insert n a)

/-- Registers an entry under all its names, changing the registry in place. Every name is vetted
before any is inserted, so the registration returns at the first name it refuses with the
registry as it found it. -/
def register (names : List String) (a : α) : ExceptT Refusal (StateM (Registry α)) Unit := do
  match (← get).refusal [] names with
  | some why => throw why
  | none => insertAll names a

end Registry

end SnapshotAgent
