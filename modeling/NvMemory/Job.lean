import NvMemory.Ident

/-!
Jobs: what they do to which block, how urgent they are and how far they have come.

`Job.rank` orders jobs for dispatch. Ranks are compared entry by entry, so immediate jobs
precede all others, then a higher priority precedes a lower one, then the job that was
enqueued earlier, then the one with the lower number.
-/

namespace NvMemory

inductive JobKind where
  | read
  | write
  | readAll
  | writeAll
deriving Repr, DecidableEq, Inhabited

namespace JobKind

def all : List JobKind :=
  [.read, .write, .readAll, .writeAll]

def name : JobKind → String
  | .read => "Read"
  | .write => "Write"
  | .readAll => "ReadAll"
  | .writeAll => "WriteAll"

def label : JobKind → String
  | .read => "ReadBlock"
  | .write => "WriteBlock"
  | .readAll => "ReadAll"
  | .writeAll => "WriteAll"

def isWrite : JobKind → Bool
  | .read | .readAll => false
  | .write | .writeAll => true

def ofName? (name : String) : Option JobKind :=
  all.find? (·.name == name)

def toJson (kind : JobKind) : Json.Value :=
  .text kind.name

def ofDocument? (document : Json.Document) : Option JobKind :=
  document.alternative?.bind ofName?

end JobKind

inductive Priority where
  | low
  | med
  | high
deriving Repr, DecidableEq, Inhabited

namespace Priority

def all : List Priority :=
  [.low, .med, .high]

def level : Priority → Nat
  | .low => 0
  | .med => 1
  | .high => 2

def name : Priority → String
  | .low => "Low"
  | .med => "Med"
  | .high => "High"

def ofName? (name : String) : Option Priority :=
  all.find? (·.name == name)

def toJson (priority : Priority) : Json.Value :=
  .text priority.name

def ofDocument? (document : Json.Document) : Option Priority :=
  document.alternative?.bind ofName?

end Priority

/-- The states a job passes through while it runs, which its block shows as well. -/
inductive JobState where
  | idle
  | reading
  | writing
  | readVerify
  | writeVerify
  | completing
deriving Repr, DecidableEq, Inhabited

namespace JobState

def all : List JobState :=
  [.idle, .reading, .writing, .readVerify, .writeVerify, .completing]

def name : JobState → String
  | .idle => "Idle"
  | .reading => "Reading"
  | .writing => "Writing"
  | .readVerify => "ReadVerify"
  | .writeVerify => "WriteVerify"
  | .completing => "Completing"

def label : JobState → String
  | .idle => "IDLE"
  | .reading => "READING"
  | .writing => "WRITING"
  | .readVerify => "READ_VERIFY"
  | .writeVerify => "WRITE_VERIFY"
  | .completing => "COMPLETING"

def ofName? (name : String) : Option JobState :=
  all.find? (·.name == name)

def toJson (state : JobState) : Json.Value :=
  .text state.name

def ofDocument? (document : Json.Document) : Option JobState :=
  document.alternative?.bind ofName?

end JobState

/-- A job as it is listed for inspection. -/
structure JobView where
  id : JobId
  kind : JobKind
  block : BlockId
  priority : Priority
  immediate : Bool
  state : JobState
  enqueuedAt : Nat
  waited : Nat
  deadline : Option Nat
deriving Repr, DecidableEq

namespace JobView

def toJson (view : JobView) : Json.Value :=
  .object [
    ("job_id", view.id.toJson),
    ("kind", view.kind.toJson),
    ("block_id", view.block.toJson),
    ("priority", view.priority.toJson),
    ("immediate", .bool view.immediate),
    ("state", view.state.toJson),
    ("enqueue_time_ms", .natural view.enqueuedAt),
    ("wait_time_ms", .natural view.waited),
    ("deadline_ms", .optional .natural view.deadline)]

end JobView

structure Job where
  id : JobId
  kind : JobKind
  block : BlockId
  priority : Priority
  immediate : Bool
  enqueuedAt : Nat
  /-- When the job left the queue to be dispatched. -/
  startedAt : Nat
  deadline : Option Nat
  state : JobState
  retries : Nat
  maxRetries : Nat
deriving Repr, DecidableEq, Inhabited

namespace Job

/-- The deadline itself is still in time. -/
def isLate (job : Job) (now : Nat) : Bool :=
  job.deadline.any (· < now)

def mayRetry (job : Job) : Bool :=
  job.retries < job.maxRetries

def view (job : Job) (now : Nat) : JobView where
  id := job.id
  kind := job.kind
  block := job.block
  priority := job.priority
  immediate := job.immediate
  state := job.state
  enqueuedAt := job.enqueuedAt
  waited := now - job.enqueuedAt
  deadline := job.deadline

def rank (job : Job) : List Nat :=
  [if job.immediate then 0 else 1, 2 - job.priority.level, job.enqueuedAt, job.id.number]

/-- The job `first` is dispatched before `second`. -/
def Before (first second : Job) : Prop :=
  first.rank < second.rank

instance (first second : Job) : Decidable (first.Before second) :=
  inferInstanceAs (Decidable (first.rank < second.rank))

def toJson (job : Job) : Json.Value :=
  .object [
    ("id", job.id.toJson),
    ("kind", job.kind.toJson),
    ("block_id", job.block.toJson),
    ("priority", job.priority.toJson),
    ("immediate", .bool job.immediate),
    ("enqueue_time_ms", .natural job.enqueuedAt),
    ("start_time_ms", .natural job.startedAt),
    ("deadline_ms", .optional .natural job.deadline),
    ("state", job.state.toJson),
    ("retry_count", .natural job.retries),
    ("max_retries", .natural job.maxRetries)]

end Job

end NvMemory
