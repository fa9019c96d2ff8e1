import SnapshotAgent.Schedule.Parse
import SnapshotAgent.Failure
/-!
# The job scheduler

The scheduler holds jobs, each with its cron schedule; an expression is checked when the job is
added, never when it fires. Starting the scheduler gives every job a ticker, and a job added
later gets one at once. Stopping cancels the scheduler's token and waits for the tickers within a
limit. A ticker ends as soon as it sees the cancellation, so only a zero limit can fall before
the started tickers have ended.
-/

namespace SnapshotAgent

open SnapshotAgent.Time

/-- The scheduler's state. -/
structure Scheduler where
  /-- The jobs' names and schedules, in the order added. -/
  jobs : List (String × Schedule.CronSchedule) := []
  started : Bool := false
  /-- Whether the scheduler's token is cancelled. -/
  cancelled : Bool := false
  deriving Inhabited

/-- How many jobs the scheduler holds. -/
def Scheduler.jobCount (s : Scheduler) : Nat := s.jobs.length

/-- Adds a job, refusing an invalid expression. -/
def Scheduler.add (s : Scheduler) (name expr : String) : Except Failure Scheduler :=
  match Schedule.parseSchedule expr with
  | .ok sched => .ok { s with jobs := s.jobs ++ [(name, sched)] }
  | .error e => .error (.invalidSchedule e.expression e.reason)

/-- Starts the tickers. -/
def Scheduler.start (s : Scheduler) : Scheduler := { s with started := true }

/-- Stops the scheduler within a limit: the token is cancelled whatever the outcome. -/
def Scheduler.stop (s : Scheduler) (limit : Duration) : Scheduler × Except Failure PUnit.{1} :=
  ({ s with cancelled := true },
    if limit.totalNanos = 0 && s.started && !s.jobs.isEmpty then .error (.shutdownTimeout limit)
    else .ok ⟨⟩)

/-- Stopping always cancels the token. -/
theorem Scheduler.stop_cancelled (s : Scheduler) (limit : Duration) :
    (s.stop limit).1.cancelled = true := by
  rfl

end SnapshotAgent
