import NvMemory.Data.WordMap
import NvMemory.Job.Pending
import NvMemory.Scheduler.Dispatch

/-!
A scheduler of jobs over one shared storage bus.

Jobs are accepted into a queue of limited size. Time passes only in `tick`, which first
notes the jobs that have become late, then dispatches the next job, if there is one. Every
tick reports the whole state that callers may see.
-/

namespace NvMemory

structure Request where
  kind : JobKind
  block : BlockId
  priority : Priority
  immediate : Bool
  deadline : Option Nat
deriving Repr, DecidableEq

inductive SchedulerError where
  | queueFull (capacity : Nat)
  | invalidTimeScale (factor : Float)
deriving Repr

namespace SchedulerError

def message : SchedulerError → String
  | .queueFull capacity => s!"Job queue full (capacity {capacity})"
  | .invalidTimeScale factor => "Invalid time scale: " ++ Decimal.plain factor

end SchedulerError

structure TickReport where
  time : Nat
  timeScale : Float
  queueLength : Nat
  /-- The pending jobs in the order of dispatch. -/
  queue : List JobView
  /-- The job that the tick dispatched, in its final state. -/
  inFlight : Option JobView
  /-- What became of the dispatched job. -/
  outcome? : Option Outcome
  blocks : WordMap Occupancy
  tally : TallyReport
deriving Repr

namespace TickReport

/-- The job that the tick dispatched, together with what became of it. -/
def dispatched (report : TickReport) : Option (JobView × Outcome) :=
  report.inFlight.bind fun view => report.outcome?.map fun outcome => (view, outcome)

def isCompleted (report : TickReport) : Bool :=
  report.outcome?.any (·.isCompleted)

def toJson (report : TickReport) : Json.Value :=
  .object [
    ("virtual_time_ms", .natural report.time),
    ("time_scale", .float report.timeScale),
    ("queue_length", .natural report.queueLength),
    ("queue", .list JobView.toJson report.queue),
    ("in_flight", .optional JobView.toJson report.inFlight),
    ("outcome", .optional Outcome.toJson report.outcome?),
    ("blocks", .object (report.blocks.entries.map fun (number, occupancy) =>
      (toString number.toNat, occupancy.toJson))),
    ("metrics", report.tally.toJson)]

end TickReport

structure Scheduler where
  settings : Settings
  clock : Clock
  /-- For display alone; no latency depends on it. -/
  timeScale : Float
  pending : Pending
  nextId : JobId
  blocks : WordMap Occupancy
  tally : Tally
  /-- The pending jobs that have been counted as late. -/
  overdue : List JobId
  journal : Journal
deriving Repr

namespace Scheduler

def ofSettings (settings : Settings) : Scheduler where
  settings := settings
  clock := Clock.zero
  timeScale := 1
  pending := Pending.empty
  nextId := JobId.first
  blocks := WordMap.tabulate settings.initialBlocks fun number =>
    Occupancy.idle ⟨number⟩ settings.historyDepth.toNat
  tally := {}
  overdue := []
  journal := Journal.ofCapacity "nvm_scheduler" settings.eventCapacity.toNat

/-- A scheduler with settings that it can work with. -/
def ofSettings? (settings : Settings) : Except SettingsError Scheduler :=
  settings.check.map ofSettings

def now (scheduler : Scheduler) : Nat :=
  scheduler.clock.now

def record (scheduler : Scheduler) (level : Level) (message : String) (fields : Fields) :
    Scheduler :=
  { scheduler with
    journal := scheduler.journal.record
      { time := scheduler.now, level := level, message := message, fields := fields } }

/-- The occupancy of a block, which is idle if the block has not been named before. -/
def occupancy (scheduler : Scheduler) (block : BlockId) : Occupancy :=
  (scheduler.blocks.get? block.number).getD
    (Occupancy.idle block scheduler.settings.historyDepth.toNat)

def addBlock (scheduler : Scheduler) (block : BlockId) : Scheduler :=
  if scheduler.blocks.contains block.number then scheduler
  else { scheduler with
    blocks := scheduler.blocks.insert block.number (scheduler.occupancy block) }

def isFull (scheduler : Scheduler) : Bool :=
  scheduler.settings.queueCapacity.toNat ≤ scheduler.pending.size

def newJob (scheduler : Scheduler) (request : Request) : Job where
  id := scheduler.nextId
  kind := request.kind
  block := request.block
  priority := request.priority
  immediate := request.immediate
  enqueuedAt := scheduler.now
  startedAt := 0
  deadline := request.deadline
  state := .idle
  retries := 0
  maxRetries := scheduler.settings.maxRetries.toNat

def turnAway (scheduler : Scheduler) (request : Request) : Scheduler :=
  let tally := scheduler.tally.overflow
  { scheduler with tally := tally }.record .warn "job queue overflow"
    [("block", toString request.block.number.toNat), ("overflows", toString tally.overflows)]

def accept (scheduler : Scheduler) (job : Job) : Scheduler :=
  let known := scheduler.addBlock job.block
  let pending := known.pending.push job
  { known with
    nextId := known.nextId.next
    pending := pending
    tally := known.tally.observeQueueLength pending.size }.record .debug "job enqueued"
      [("job", job.id.label), ("kind", job.kind.label),
        ("block", toString job.block.number.toNat),
        ("immediate", if job.immediate then "true" else "false"),
        ("depth", toString pending.size)]

def enqueue (scheduler : Scheduler) (request : Request) :
    Scheduler × Except SchedulerError Job :=
  if scheduler.isFull then
    (scheduler.turnAway request, .error (.queueFull scheduler.settings.queueCapacity.toNat))
  else
    let job := scheduler.newJob request
    (scheduler.accept job, .ok job)

def dequeue (scheduler : Scheduler) : Scheduler × Option Job :=
  match scheduler.pending.pop with
  | (none, _) => (scheduler, none)
  | (some job, rest) =>
      ({ scheduler with
        pending := rest
        overdue := scheduler.overdue.filter (· ≠ job.id) }, some job)

/-- The pending jobs that are late and have not been counted. Callers are not promised any order in which
these are noted; here it is that of their arrival. -/
def newlyOverdue (scheduler : Scheduler) : List Job :=
  scheduler.pending.jobs.filter fun job =>
    job.isLate scheduler.now && !scheduler.overdue.contains job.id

def noteOverdue (scheduler : Scheduler) (job : Job) : Scheduler :=
  { scheduler with
    overdue := job.id :: scheduler.overdue
    tally := scheduler.tally.timeout }.record .warn "pending job overdue"
      (Dispatch.jobFields job)

def markOverdue (scheduler : Scheduler) : Scheduler :=
  scheduler.newlyOverdue.foldl noteOverdue scheduler

def dispatch (scheduler : Scheduler) (job : Job) : Scheduler × (JobView × Outcome) :=
  let started := { job with startedAt := scheduler.now }
  let recorded := scheduler.record .debug "job dispatched" (Dispatch.jobFields started)
  let (done, outcome) := Dispatch.run scheduler.settings {
    job := started
    occupancy := recorded.occupancy job.block
    clock := recorded.clock
    tally := recorded.tally
    journal := recorded.journal }
  ({ recorded with
    blocks := recorded.blocks.insert job.block.number done.occupancy
    clock := done.clock
    tally := done.tally
    journal := done.journal }, (done.job.view done.now, outcome))

def pendingViews (scheduler : Scheduler) : List JobView :=
  scheduler.pending.ordered.map (·.view scheduler.now)

def tallyReport (scheduler : Scheduler) : TallyReport :=
  scheduler.tally.report scheduler.now scheduler.pending.size

def report (scheduler : Scheduler) (dispatched : Option (JobView × Outcome)) : TickReport where
  time := scheduler.now
  timeScale := scheduler.timeScale
  queueLength := scheduler.pending.size
  queue := scheduler.pendingViews
  inFlight := dispatched.map (·.1)
  outcome? := dispatched.map (·.2)
  blocks := scheduler.blocks
  tally := scheduler.tallyReport

def advance (scheduler : Scheduler) (elapsed : Nat) : Scheduler :=
  { scheduler with clock := scheduler.clock.advance elapsed }

/-- Lets time pass and dispatches at most one job. -/
def tick (scheduler : Scheduler) (elapsed : Nat) : Scheduler × TickReport :=
  match (scheduler.advance elapsed).markOverdue.dequeue with
  | (waiting, none) => (waiting, waiting.report none)
  | (waiting, some job) =>
      let (done, dispatched) := waiting.dispatch job
      (done, done.report (some dispatched))

/-- Ticks until a job is completed, but no more than `limit` times. -/
def tickUntilCompleted (scheduler : Scheduler) (elapsed : Nat) :
    (limit : Nat) → Scheduler × List TickReport
  | 0 => (scheduler, [])
  | limit + 1 =>
      let (next, report) := scheduler.tick elapsed
      if report.isCompleted then (next, [report])
      else
        let (final, reports) := next.tickUntilCompleted elapsed limit
        (final, report :: reports)

/-- A time scale is a positive finite number. -/
def setTimeScale (scheduler : Scheduler) (factor : Float) : Except SchedulerError Scheduler :=
  if factor.isFinite && factor > 0 then .ok { scheduler with timeScale := factor }
  else .error (.invalidTimeScale factor)

def reset (scheduler : Scheduler) : Scheduler :=
  ofSettings scheduler.settings

inductive Call where
  | enqueue (request : Request)
  | dequeue
  | tick (elapsed : Nat)
  | setTimeScale (factor : Float)
  | reset
deriving Repr

inductive Reply where
  | enqueued (job : Job)
  | dequeued (job : Option Job)
  | ticked (report : TickReport)
  | done
  | refused (error : SchedulerError)
deriving Repr

def perform (scheduler : Scheduler) : Call → Scheduler × Reply
  | .enqueue request =>
      match scheduler.enqueue request with
      | (next, .ok job) => (next, .enqueued job)
      | (next, .error error) => (next, .refused error)
  | .dequeue =>
      let (next, job) := scheduler.dequeue
      (next, .dequeued job)
  | .tick elapsed =>
      let (next, report) := scheduler.tick elapsed
      (next, .ticked report)
  | .setTimeScale factor =>
      match scheduler.setTimeScale factor with
      | .ok next => (next, .done)
      | .error error => (scheduler, .refused error)
  | .reset => (scheduler.reset, .done)

def performAll (scheduler : Scheduler) : List Call → Scheduler × List Reply
  | [] => (scheduler, [])
  | call :: rest =>
      let (next, reply) := scheduler.perform call
      let (final, replies) := next.performAll rest
      (final, reply :: replies)

/-- Forgets the trace once it has been collected. -/
def collected (scheduler : Scheduler) : Scheduler :=
  { scheduler with journal := scheduler.journal.collected }

end Scheduler

end NvMemory
