import NvMemory.Proofs.Course
import NvMemory.Proofs.Tally

/-!
How long a dispatch takes, how often it retries, and why none of its steps can fail.

`Dispatch.run?` is a dispatch that divides and counts with care: it has no result if it comes to a division
by zero or to a count without room for one more. Time needs no such care, since it stands still at the last
instant. In the states that are reached it has a result, and the same one as `Dispatch.run`.
-/

namespace NvMemory

namespace Settings

/-- When a job ends that starts at `start`, and is not late then. -/
def endOf (settings : Settings) (kind : JobKind) (start : Nat) : Nat :=
  let latency := if kind.isWrite then settings.writeLatency else settings.readLatency
  min (start + latency.toNat + settings.verifyLatency.toNat + settings.completionLatency.toNat)
    lastInstant

/-- How often it is retried. -/
def retriesOf (settings : Settings) (kind : JobKind) (start : Nat) : Nat :=
  let written := min (start + settings.writeLatency.toNat) lastInstant
  if kind.isWrite ∧ 0 < settings.maxRetries.toNat ∧ settings.retryModulus.toNat ∣ written then 1
  else 0

theorem retriesOf_le (settings : Settings) (kind : JobKind) (start : Nat) :
    settings.retriesOf kind start ≤ settings.maxRetries.toNat := by
  simp only [retriesOf]
  split
  · rename_i due
    exact due.2.1
  · exact Nat.zero_le _

end Settings

namespace Dispatch

variable {settings : Settings} {dispatch : Dispatch} {limit : Nat}

/-! The dispatch with care. Its counts go up to `limit`, and the retries of a job up to what settings may
allow. -/

def verifyFails? (settings : Settings) (dispatch : Dispatch) : Option Bool :=
  if dispatch.job.mayRetry then
    if settings.retryModulus.toNat = 0 then none
    else some (dispatch.now % settings.retryModulus.toNat == 0)
  else some false

def retryOnce? (limit : Nat) (dispatch : Dispatch) : Option Dispatch :=
  if dispatch.job.retries < Setting.maxRetries.limit ∧ dispatch.tally.retries < limit ∧
      dispatch.tally.recovered < limit then
    some dispatch.retry
  else none

def write? (limit : Nat) (settings : Settings) (dispatch : Dispatch) : Option Dispatch := do
  let written := (dispatch.enter .writing).spend settings.writeLatency
  let fails ← verifyFails? settings written
  let retried ← if fails then retryOnce? limit written else some written
  return (retried.enter .writeVerify).spend settings.verifyLatency

def finish? (limit : Nat) (settings : Settings) (dispatch : Dispatch) :
    Option (Dispatch × Outcome) :=
  if dispatch.tally.completed < limit then some (finish settings dispatch) else none

def execute? (limit : Nat) (settings : Settings) (dispatch : Dispatch) :
    Option (Dispatch × Outcome) := do
  let verified ←
    if dispatch.job.kind.isWrite then write? limit settings dispatch.held
    else some (read settings dispatch.held)
  finish? limit settings verified

def abandon? (limit : Nat) (dispatch : Dispatch) (deadline : Nat) : Option (Dispatch × Outcome) :=
  if dispatch.tally.deadlineMisses < limit then some (dispatch.abandon deadline) else none

def run? (limit : Nat) (settings : Settings) (dispatch : Dispatch) : Option (Dispatch × Outcome) :=
  match dispatch.job.deadline.filter (· < dispatch.now) with
  | some deadline => dispatch.abandon? limit deadline
  | none => dispatch.execute? limit settings

/-- The job may be retried as often as the settings say, and there is room in all counts of the dispatch. -/
structure Guarded (limit : Nat) (settings : Settings) (dispatch : Dispatch) : Prop where
  modulus : 0 < settings.retryModulus.toNat
  maxRetries : dispatch.job.maxRetries = settings.maxRetries.toNat
  retries : dispatch.tally.retries < limit
  recovered : dispatch.tally.recovered < limit
  completed : dispatch.tally.completed < limit
  deadlineMisses : dispatch.tally.deadlineMisses < limit

theorem verifyFails?_eq (modulus : 0 < settings.retryModulus.toNat) :
    verifyFails? settings dispatch = some (verifyFails settings dispatch) := by
  simp only [verifyFails?, verifyFails, if_neg (Nat.pos_iff_ne_zero.mp modulus)]
  split <;> simp [*]

theorem Guarded.write?_eq (guarded : dispatch.Guarded limit settings) :
    write? limit settings dispatch = some (write settings dispatch) := by
  obtain ⟨modulus, maxRetries, retries, recovered, _, _⟩ := guarded
  simp only [write?, write, verifyFails?_eq modulus, Option.bind_eq_bind, Option.bind_some]
  split
  · rename_i fails
    -- a job that may be retried has room for one more, since what settings allow has room
    have below : dispatch.job.retries < Setting.maxRetries.limit := by
      have budget : dispatch.job.retries < dispatch.job.maxRetries := (verifyFails_iff.mp fails).1
      have bounded := settings.get_le_limit .maxRetries
      rw [maxRetries] at budget
      exact Nat.lt_of_lt_of_le budget bounded
    rw [retryOnce?, if_pos ⟨below, retries, recovered⟩]
    rfl
  · rfl

theorem Guarded.execute?_eq (guarded : dispatch.Guarded limit settings) :
    execute? limit settings dispatch = some (execute settings dispatch) := by
  have held : dispatch.held.Guarded limit settings :=
    ⟨guarded.modulus, guarded.maxRetries, guarded.retries, guarded.recovered, guarded.completed,
      guarded.deadlineMisses⟩
  unfold execute?
  split
  · rename_i writes
    have room : (write settings dispatch.held).tally.completed < limit := by
      rw [(write_retries settings dispatch.held writes).1]
      exact guarded.completed
    rw [held.write?_eq, execute_of_write writes]
    exact if_pos room
  · rename_i reads
    rw [execute_of_read reads]
    exact if_pos guarded.completed

theorem Guarded.run?_eq (guarded : dispatch.Guarded limit settings) :
    run? limit settings dispatch = some (run settings dispatch) := by
  unfold run? run
  cases dispatch.job.deadline.filter (· < dispatch.now) with
  | none => exact guarded.execute?_eq
  | some deadline => exact if_pos guarded.deadlineMisses

/-- The time stops at the last instant in each phase, and so as a whole. A retry takes none. -/
theorem now_execute (settings : Settings) (dispatch : Dispatch) :
    (execute settings dispatch).1.now = settings.endOf dispatch.job.kind dispatch.now := by
  have thrice (time : Nat) (first second third : UInt64) :
      instantAfter (instantAfter (instantAfter time first) second) third =
        min (time + first.toNat + second.toNat + third.toNat) lastInstant := by
    simp only [instantAfter]
    omega
  rw [Settings.endOf, ← thrice]
  split
  · rename_i writes
    rw [execute_of_write writes]
    exact congrArg (instantAfter · settings.completionLatency) (now_write settings _)
  · rename_i reads
    rw [execute_of_read reads]
    rfl

end Dispatch

namespace Scheduler

variable {scheduler final waiting : Scheduler} {settings : Settings} {call : Call} {reply : Reply}
  {job : Job} {rest : Pending} {seen : List Sighting} {limit : Nat}

/-- `dispatch` with care. -/
def dispatch? (limit : Nat) (scheduler : Scheduler) (job : Job) :
    Option (Scheduler × (JobView × Outcome)) := do
  let (done, outcome) ← Dispatch.run? limit scheduler.settings (scheduler.opening job)
  return ({ scheduler with
    blocks := scheduler.blocks.insert job.block.number done.occupancy
    clock := done.clock
    tally := done.tally
    journal := done.journal }, (done.job.view done.now, outcome))

theorem Step.mem_or_new (step : Step scheduler call final reply)
    (member : job ∈ final.pending.jobs) :
    job ∈ scheduler.pending.jobs ∨ ∃ request, job = scheduler.newJob request := by
  cases step with
  | @enqueued request =>
      obtain ⟨_, _, _, same⟩ := scheduler.accept_eq (scheduler.newJob request)
      rw [same] at member
      rcases List.mem_append.mp member with before | new
      · exact .inl before
      · exact .inr ⟨request, List.mem_singleton.mp new⟩
  | handedOut popped => exact .inl ((Pending.sublist_of_pop popped).subset member)
  | dispatched popped runs =>
      rw [(dispatch_spec runs).pending] at member
      exact .inl ((Pending.sublist_of_pop popped).subset member)
  | idled =>
      rw [pending_awaited] at member
      exact .inl member
  | scaled accepted =>
      rw [setTimeScale_eq accepted] at member
      exact .inl member
  | turnedAway | nothingPending | scaleRefused => exact .inl member
  | reset => exact absurd member List.not_mem_nil

/-- The waiting jobs may be retried as often as the settings say. -/
def Allows (scheduler : Scheduler) : Prop :=
  ∀ job ∈ scheduler.pending.jobs, job.maxRetries = scheduler.settings.maxRetries.toNat

theorem Step.allows (step : Step scheduler call final reply) (allows : scheduler.Allows) :
    final.Allows := by
  intro job member
  rw [step.settings]
  rcases step.mem_or_new member with before | ⟨request, rfl⟩
  · exact allows job before
  · rfl

theorem Step.nextId_le (step : Step scheduler call final reply) :
    final.nextId.number ≤ scheduler.nextId.number + 1 := by
  cases step with
  | @enqueued request =>
      obtain ⟨_, _, _, same⟩ := scheduler.accept_eq (scheduler.newJob request)
      rw [same]
      exact Nat.le_refl _
  | dispatched popped runs =>
      rw [(dispatch_spec runs).nextId]
      exact (congrArg JobId.number (scheduler.nextId_awaited _)).trans_le (Nat.le_succ _)
  | idled => exact (congrArg JobId.number (scheduler.nextId_awaited _)).trans_le (Nat.le_succ _)
  | scaled accepted =>
      rw [setTimeScale_eq accepted]
      exact Nat.le_succ _
  | turnedAway | handedOut | nothingPending | scaleRefused => exact Nat.le_succ _
  | reset => exact Nat.zero_le _

theorem nextId_after_le (scheduler : Scheduler) (calls : List Call) :
    (scheduler.after calls).nextId.number ≤ scheduler.nextId.number + calls.length := by
  induction calls generalizing scheduler with
  | nil => exact Nat.le_refl _
  | cons call rest ih =>
      have step := (scheduler.perform_step call).nextId_le
      have others := ih (scheduler.perform call).1
      rw [after_cons, List.length_cons]
      omega

/-- The job that has just left the queue is not among those that are counted, so that there is room for
it in each count. -/
theorem Tells.guarded (tells : Tells seen scheduler) (allows : scheduler.Allows)
    (modulus : 0 < scheduler.settings.retryModulus.toNat)
    (popped : scheduler.pending.pop = (some job, rest))
    (fewer : scheduler.nextId.number ≤ limit) :
    ((scheduler.handOut job rest).opening job).Guarded limit scheduler.settings := by
  have left := tells.left
  have retries := tells.consistent.retries
  have recovered : scheduler.tally.recovered = scheduler.tally.retries := by
    rw [tells.counted]
    rfl
  rw [← tells.numbered, ← Pending.size_pop popped] at left
  constructor
  case modulus => exact modulus
  case maxRetries => exact allows job (Pending.mem_of_pop popped)
  all_goals
    simp only [tally_opening, Scheduler.handOut]
    omega

theorem Allows.awaited (allows : scheduler.Allows) (elapsed : Nat) :
    (scheduler.awaited elapsed).Allows := by
  intro job member
  rw [pending_awaited] at member
  rw [settings_awaited]
  exact allows job member

theorem dispatch?_eq (guarded : (scheduler.opening job).Guarded limit scheduler.settings) :
    scheduler.dispatch? limit job = some (scheduler.dispatch job) := by
  rw [dispatch?, guarded.run?_eq, dispatch_eq]
  rfl

theorem dispatch_inTime (scheduler : Scheduler) (fresh : job.retries = 0)
    (allowed : job.maxRetries = scheduler.settings.maxRetries.toNat)
    (inTime : job.isLate scheduler.now = false) :
    let ended := scheduler.dispatch job
    ended.1.now = scheduler.settings.endOf job.kind scheduler.now ∧
      ended.2.2 = .completed job.id job.kind job.block (ended.1.now - scheduler.now)
        (scheduler.settings.retriesOf job.kind scheduler.now) := by
  intro ended
  let opening := scheduler.opening job
  have executes : Dispatch.run scheduler.settings opening = opening.execute scheduler.settings :=
    Dispatch.run_of_inTime scheduler.settings inTime
  have time : ended.1.now = (opening.execute scheduler.settings).1.now :=
    congrArg (fun result => result.1.now) executes
  have due : opening.retriesDue scheduler.settings =
      scheduler.settings.retriesOf job.kind scheduler.now := by
    have budget : job.retries < job.maxRetries ↔ 0 < scheduler.settings.maxRetries.toNat := by
      rw [fresh, allowed]
    exact if_congr (and_congr_right fun _ => and_congr_left fun _ => budget) rfl rfl
  have outcome := (Dispatch.execute_exact scheduler.settings opening).2
  have unretried : opening.job.retries = 0 := fresh
  rw [due, unretried, Nat.zero_add, ← time, ← executes] at outcome
  exact ⟨time.trans (Dispatch.now_execute scheduler.settings opening), outcome⟩

theorem dispatch_late (scheduler : Scheduler) (late : job.isLate scheduler.now = true)
    (known : scheduler.blocks.get? job.block.number = some (scheduler.occupancy job.block)) :
    let ended := scheduler.dispatch job
    ended.1.clock = scheduler.clock ∧ ended.1.blocks = scheduler.blocks ∧
      ended.1.tally = { scheduler.tally with
        deadlineMisses := scheduler.tally.deadlineMisses + 1 } := by
  intro ended
  have passed : (scheduler.opening job).job.isLate (scheduler.opening job).now = true := late
  obtain ⟨deadline, _, same⟩ := Dispatch.run_of_late scheduler.settings passed
  simp only [ended, dispatch_eq, same]
  exact ⟨rfl, WordMap.insert_self known, rfl⟩

/-- A dispatch divides by no zero and has room in all that it counts, as long as there are no more calls than
can be counted. A job that is in time ends at a known instant, which depends on its kind and on the latencies
alone. It is retried at most once, and only if its write ends at a multiple of the modulus. A late job leaves
all but the count of missed deadlines as it was. -/
theorem dispatch_ends_on_time (built : ofSettings? settings = .ok scheduler) (calls : List Call)
    (elapsed : Nat)
    (taken : ((scheduler.after calls).advance elapsed).markOverdue.dequeue = (waiting, some job)) :
    let reached := scheduler.after calls
    let start := waiting.now
    let ended := waiting.dispatch job
    reached.tick elapsed = (ended.1, ended.1.report (some ended.2)) ∧
    start = min (reached.now + elapsed) lastInstant ∧
    (∀ limit, calls.length ≤ limit → waiting.dispatch? limit job = some ended) ∧
    (job.isLate start = false →
      ended.1.now = settings.endOf job.kind start ∧
        ended.2.2 = .completed job.id job.kind job.block (ended.1.now - start)
          (settings.retriesOf job.kind start) ∧
        settings.retriesOf job.kind start ≤ settings.maxRetries.toNat) ∧
    (job.isLate start = true →
      ended.1.clock = waiting.clock ∧ ended.1.blocks = waiting.blocks ∧
        ended.1.tally = { waiting.tally with
          deadlineMisses := waiting.tally.deadlineMisses + 1 }) := by
  intro reached start ended
  have modulus : 0 < settings.retryModulus.toNat :=
    positive_of_ofSettings? built (List.mem_cons_self : Setting.retryModulus ∈ Setting.positive)
  obtain rfl := eq_of_ofSettings? built
  have tells : Tells ((ofSettings settings).seen calls) reached :=
    tells_after built calls
  have allows : reached.Allows :=
    after_preserves Step.allows (fun _ member => absurd member List.not_mem_nil) calls
  have same : reached.settings = settings := settings_after _ calls
  have numbers : reached.nextId.number ≤ 0 + calls.length := nextId_after_le _ calls
  have ticks : reached.tick elapsed = (ended.1, ended.1.report (some ended.2)) := by
    rw [tick, taken]
  obtain ⟨rest, popped, rfl⟩ := dequeue_eq_some taken
  have waits := Pending.mem_of_pop popped
  have tells := tells.awaited elapsed
  have allows := allows.awaited elapsed
  have same : (reached.awaited elapsed).settings = settings :=
    (reached.settings_awaited elapsed).trans same
  have fresh : job.retries = 0 := (tells.quiet.untouched job waits).retries
  rw [Nat.zero_add, ← reached.nextId_awaited elapsed] at numbers
  refine ⟨ticks, reached.now_awaited elapsed, fun limit fewer => ?_, fun inTime => ?_, fun late => ?_⟩
  · have room := Nat.le_trans numbers fewer
    exact dispatch?_eq (tells.guarded allows (same ▸ modulus) popped room)
  · have ends := dispatch_inTime ((reached.awaited elapsed).handOut job rest) fresh (allows job waits)
      inTime
    have handedOut : ((reached.awaited elapsed).handOut job rest).settings = settings := same
    rw [handedOut] at ends
    exact ⟨ends.1, ends.2, settings.retriesOf_le _ _⟩
  · exact dispatch_late _ late (tells.quiet.get?_block waits)

/-- A write begins four milliseconds before the last instant, which is a multiple of the modulus, and so is
retried. The read that waits behind it is late by then. -/
theorem dispatch_ends_at_last_instant :
    let calls : List Call := [
      .enqueue (.inTurn .write ⟨0⟩ .high none), .enqueue (.inTurn .read ⟨1⟩ .low (some 3))]
    let scheduler := ofSettings Settings.standard
    let first := ((scheduler.after calls).advance (lastInstant - 4)).markOverdue.dequeue
    let second := ((scheduler.after (calls ++ [.tick (lastInstant - 4)])).advance 9).markOverdue.dequeue
    ofSettings? Settings.standard = .ok scheduler ∧
      (∃ job, first.2 = some job ∧ (first.1.dispatch job).1.now = lastInstant ∧
        (first.1.dispatch job).2.2 = .completed ⟨0⟩ .write ⟨0⟩ 4 1 ∧
        first.1.dispatch? 2 job = some (first.1.dispatch job)) ∧
      ∃ job, second.2 = some job ∧ (second.1.dispatch job).1.now = lastInstant ∧
        (second.1.dispatch job).1.tally =
          { second.1.tally with deadlineMisses := second.1.tally.deadlineMisses + 1 } := by
  intro calls scheduler first second
  have built : ofSettings? Settings.standard = .ok scheduler := rfl
  refine ⟨built, ?_, ?_⟩
  · have facts : first.2.map (fun job => (job.id, job.kind, job.block, job.isLate first.1.now)) =
        some (⟨0⟩, .write, ⟨0⟩, false) := by decide +kernel
    have start : first.1.now = lastInstant - 4 := by decide +kernel
    obtain ⟨job, taken, same⟩ := Option.map_eq_some_iff.mp facts
    simp only [Prod.mk.injEq] at same
    obtain ⟨id, kind, block, early⟩ := same
    have dequeues : first = (first.1, some job) := by rw [← taken]
    obtain ⟨_, _, counts, inTime, _⟩ := dispatch_ends_on_time built calls (lastInstant - 4) dequeues
    obtain ⟨time, outcome, _⟩ := inTime early
    rw [kind, start] at time
    rw [id, kind, block, time, start] at outcome
    exact ⟨job, taken, time, outcome, counts 2 (Nat.le_refl 2)⟩
  · have facts : second.2.map (·.isLate second.1.now) = some true := by decide +kernel
    obtain ⟨job, taken, late⟩ := Option.map_eq_some_iff.mp facts
    have dequeues : second = (second.1, some job) := by rw [← taken]
    obtain ⟨_, start, _, _, abandons⟩ := dispatch_ends_on_time built _ 9 dequeues
    obtain ⟨time, _, counted⟩ := abandons late
    have start : second.1.now = lastInstant := by decide +kernel
    exact ⟨job, taken, (congrArg Clock.now time).trans start, counted⟩

end Scheduler

end NvMemory
