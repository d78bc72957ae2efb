import NvMemory.Journal
import NvMemory.Scheduler.Occupancy
import NvMemory.Scheduler.Settings
import NvMemory.Scheduler.Tally

/-!
The dispatch of one job against its block.

A job that is late is given up on the spot. Any other job runs from idle back to idle,
through reading or writing, then verifying, then completing; the clock moves by the time
that each of these takes. A write may fail its first verification, and is then retried at
no cost in time, as often as its retries allow.
-/

namespace NvMemory

/-- What became of a dispatched job. -/
inductive Outcome where
  | completed (job : JobId) (kind : JobKind) (block : BlockId) (execution retries : Nat)
  | deadlineMissed (job : JobId) (kind : JobKind) (block : BlockId) (deadline time : Nat)
deriving Repr, DecidableEq

namespace Outcome

def job : Outcome → JobId
  | .completed job .. => job
  | .deadlineMissed job .. => job

def isCompleted : Outcome → Bool
  | .completed .. => true
  | .deadlineMissed .. => false

def toJson : Outcome → Json.Value
  | .completed job kind block execution retries =>
      .object [
        ("result", .text "Completed"),
        ("job_id", job.toJson),
        ("kind", kind.toJson),
        ("block_id", block.toJson),
        ("exec_time_ms", .natural execution),
        ("retries", .natural retries)]
  | .deadlineMissed job kind block deadline time =>
      .object [
        ("result", .text "DeadlineMissed"),
        ("job_id", job.toJson),
        ("kind", kind.toJson),
        ("block_id", block.toJson),
        ("deadline_ms", .natural deadline),
        ("at_ms", .natural time)]

end Outcome

/-- A job, its block and everything else that a dispatch may change. -/
structure Dispatch where
  job : Job
  occupancy : Occupancy
  clock : Clock
  tally : Tally
  journal : Journal
deriving Repr, DecidableEq

namespace Dispatch

def now (dispatch : Dispatch) : Nat :=
  dispatch.clock.now

def jobFields (job : Job) : Fields :=
  [("job", job.id.label), ("block", toString job.block.number.toNat)]

def record (dispatch : Dispatch) (level : Level) (message : String) (fields : Fields) : Dispatch :=
  { dispatch with
    journal := dispatch.journal.record
      { time := dispatch.now, level := level, message := message, fields := fields } }

def transitionEvent (job : Job) (state : JobState) (time : Nat) : TraceEvent where
  level := .debug
  message := "transition"
  fields := [("job", job.id.label), ("block", job.block.label), ("state", state.label),
    ("t", toString time)]

/-- Moves the job and its block to `state` at the present time. -/
def enter (dispatch : Dispatch) (state : JobState) : Dispatch :=
  { dispatch with
    journal := dispatch.journal.announce (transitionEvent dispatch.job state dispatch.now)
    job := { dispatch.job with state := state }
    occupancy := dispatch.occupancy.enter state dispatch.now }

def spend (dispatch : Dispatch) (elapsed : UInt64) : Dispatch :=
  { dispatch with clock := dispatch.clock.advance elapsed.toNat }

def read (settings : Settings) (dispatch : Dispatch) : Dispatch :=
  (((dispatch.enter .reading).spend settings.readLatency).enter .readVerify).spend
    settings.verifyLatency

/-- Whether what was just written fails its first verification. -/
def verifyFails (settings : Settings) (dispatch : Dispatch) : Bool :=
  dispatch.job.mayRetry && dispatch.now % settings.retryModulus.toNat == 0

/-- The retry always succeeds. -/
def retry (dispatch : Dispatch) : Dispatch :=
  let job := { dispatch.job with retries := dispatch.job.retries + 1 }
  { dispatch with job := job, tally := dispatch.tally.retry true }.record .warn
    "write verify failed, retried" (jobFields job ++ [("retry", toString job.retries)])

def write (settings : Settings) (dispatch : Dispatch) : Dispatch :=
  let written := (dispatch.enter .writing).spend settings.writeLatency
  let retried := if verifyFails settings written then written.retry else written
  (retried.enter .writeVerify).spend settings.verifyLatency

/-- Completes the job and frees the block. -/
def finish (settings : Settings) (dispatch : Dispatch) : Dispatch × Outcome :=
  let spent := (dispatch.enter .completing).spend settings.completionLatency
  let execution := spent.clock.since spent.job.startedAt
  let freed := { spent with
    job := { spent.job with state := .idle }
    occupancy := spent.occupancy.release spent.now
    tally := spent.tally.complete execution }
  (freed.record .info "job completed"
    [("job", freed.job.id.label), ("kind", freed.job.kind.label),
      ("block", toString freed.job.block.number.toNat), ("exec_time_ms", toString execution)],
    .completed freed.job.id freed.job.kind freed.job.block execution freed.job.retries)

/-- Runs a job that is in time. -/
def execute (settings : Settings) (dispatch : Dispatch) : Dispatch × Outcome :=
  let held := { dispatch with occupancy := dispatch.occupancy.occupy dispatch.job.id }
  finish settings (if held.job.kind.isWrite then write settings held else read settings held)

/-- Gives up a job whose deadline has passed. -/
def abandon (dispatch : Dispatch) (deadline : Nat) : Dispatch × Outcome :=
  ({ dispatch with tally := dispatch.tally.missDeadline }.record .warn
    "deadline missed, job abandoned"
    (jobFields dispatch.job ++ [("deadline_ms", toString deadline)]),
    .deadlineMissed dispatch.job.id dispatch.job.kind dispatch.job.block deadline dispatch.now)

def run (settings : Settings) (dispatch : Dispatch) : Dispatch × Outcome :=
  match dispatch.job.deadline.filter (· < dispatch.now) with
  | some deadline => dispatch.abandon deadline
  | none => dispatch.execute settings

end Dispatch

end NvMemory
