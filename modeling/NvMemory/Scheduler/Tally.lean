import NvMemory.Clock

/-!
Running counts of what a scheduler has done, and the figures derived from them.

Total execution time stops at the last instant, like the clock.
-/

namespace NvMemory

/-- Counts and derived figures, as they are reported. -/
structure TallyReport where
  time : Nat
  queueLength : Nat
  maxQueueLength : Nat
  overflows : Nat
  timeouts : Nat
  deadlineMisses : Nat
  maxExecution : Nat
  averageExecution : Float
  completed : Nat
  retries : Nat
  retrySuccessRate : Float
deriving Repr

namespace TallyReport

def toJson (report : TallyReport) : Json.Value :=
  .object [
    ("virtual_time_ms", .natural report.time),
    ("queue_length", .natural report.queueLength),
    ("max_queue_length", .natural report.maxQueueLength),
    ("overflow_count", .natural report.overflows),
    ("timeout_count", .natural report.timeouts),
    ("deadline_miss_count", .natural report.deadlineMisses),
    ("max_exec_time_ms", .natural report.maxExecution),
    ("avg_exec_time_ms", .float report.averageExecution),
    ("completed_jobs", .natural report.completed),
    ("retry_count", .natural report.retries),
    ("retry_success_rate", .float report.retrySuccessRate)]

end TallyReport

structure Tally where
  maxQueueLength : Nat := 0
  overflows : Nat := 0
  /-- Jobs that were found late while they were pending. -/
  timeouts : Nat := 0
  /-- Jobs that were late when their turn came. -/
  deadlineMisses : Nat := 0
  maxExecution : Nat := 0
  totalExecution : Nat := 0
  completed : Nat := 0
  retries : Nat := 0
  recovered : Nat := 0
deriving Repr, DecidableEq, Inhabited

namespace Tally

def observeQueueLength (tally : Tally) (length : Nat) : Tally :=
  { tally with maxQueueLength := max tally.maxQueueLength length }

def overflow (tally : Tally) : Tally :=
  { tally with overflows := tally.overflows + 1 }

def timeout (tally : Tally) : Tally :=
  { tally with timeouts := tally.timeouts + 1 }

def missDeadline (tally : Tally) : Tally :=
  { tally with deadlineMisses := tally.deadlineMisses + 1 }

def complete (tally : Tally) (execution : Nat) : Tally :=
  { tally with
    totalExecution := min (tally.totalExecution + execution) lastInstant
    maxExecution := max tally.maxExecution execution
    completed := tally.completed + 1 }

def retry (tally : Tally) (recovered : Bool) : Tally :=
  { tally with
    retries := tally.retries + 1
    recovered := if recovered then tally.recovered + 1 else tally.recovered }

/-- Mean execution time over completed jobs, to one decimal place, halves away from zero. -/
def averageExecution (tally : Tally) : Float :=
  let mean := Float.ofNat tally.totalExecution / Float.ofNat (max tally.completed 1)
  (mean * 10).round / 10

/-- The percentage of retries that succeeded; all of them, as long as there were none. -/
def retrySuccessRate (tally : Tally) : Float :=
  if tally.retries = 0 then 100
  else Float.ofNat tally.recovered / Float.ofNat tally.retries * 100

def report (tally : Tally) (time queueLength : Nat) : TallyReport where
  time := time
  queueLength := queueLength
  maxQueueLength := tally.maxQueueLength
  overflows := tally.overflows
  timeouts := tally.timeouts
  deadlineMisses := tally.deadlineMisses
  maxExecution := tally.maxExecution
  averageExecution := tally.averageExecution
  completed := tally.completed
  retries := tally.retries
  retrySuccessRate := tally.retrySuccessRate

end Tally

end NvMemory
