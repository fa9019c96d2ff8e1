import SnapshotAgent.Time.Duration
/-!
# A scripted tool

A stand-in for the node tool that answers from a script instead of running anything. Replies are
keyed by the invocation's arguments joined by blanks. A key may have a standing reply, used every
time, and a queue of one-time replies, used first and in order.
-/

namespace SnapshotAgent.Testing

open SnapshotAgent.Time

/-- How a scripted invocation answers. -/
inductive Reply where
  /-- Success with this output. -/
  | stdout (text : String)
  /-- A non-zero exit with this output. -/
  | exit (code : Int) (stdout stderr : String)
  /-- The program cannot be started. -/
  | spawnFailure
  /-- The invocation waits until its caller cancels. -/
  | hang
  /-- The invocation runs past this limit. -/
  | timeout (limit : Duration)
  deriving Repr, Inhabited

/-- The replies of the tool by key. -/
structure Script where
  queued : List (String × List Reply) := []
  standing : List (String × Reply) := []
  deriving Inhabited

/-- Sets the standing reply of a key. -/
def Script.setStanding (s : Script) (key : String) (r : Reply) : Script :=
  { s with standing := (key, r) :: s.standing.filter (·.1 != key) }

/-- Queues a one-time reply for a key. -/
def Script.enqueue (s : Script) (key : String) (r : Reply) : Script :=
  match s.queued.find? (·.1 == key) with
  | some (_, rs) =>
    { s with queued := s.queued.map fun (k, q) => if k == key then (k, rs ++ [r]) else (k, q) }
  | none => { s with queued := s.queued ++ [(key, [r])] }

/-- The reply to the next invocation with a key: its first queued reply, which is used up, else
its standing reply. -/
def Script.take (s : Script) (key : String) : Option Reply × Script :=
  match s.queued.find? (·.1 == key) with
  | some (_, r :: rest) =>
    (some r, { s with queued := s.queued.map fun (k, q) => if k == key then (k, rest) else (k, q) })
  | _ => ((s.standing.find? (·.1 == key)).map (·.2), s)

/-- A key with nothing queued answers with its standing reply. -/
theorem Script.take_standing (s : Script) (key : String) (r : Reply)
    (hq : s.queued = []) (hs : s.standing = [(key, r)]) : (s.take key).1 = some r := by
  simp [Script.take, hq, hs]

end SnapshotAgent.Testing
