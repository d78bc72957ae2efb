import Mathlib.Algebra.GroupWithZero.Nat
import NvMemory.Proofs.Lateness
import NvMemory.Proofs.Quiet

/-!
What the counts of a scheduler say about the replies to its callers.

A caller who keeps every reply, together with the length of the queue after it, can work out all counts
but that of the late jobs. `Tells` relates such a record to the scheduler, and every call preserves it.
The summary that is reported is then a function of the record (`summaryOf`).
-/

namespace NvMemory

open Scheduler (Call Reply)

namespace Outcome

def execution? : Outcome → Option Nat
  | .completed _ _ _ execution _ => some execution
  | .deadlineMissed .. => none

def retries? : Outcome → Option Nat
  | .completed _ _ _ _ retries => some retries
  | .deadlineMissed .. => none

end Outcome

/-- No execution takes longer than time lasts, and no job is retried twice. -/
inductive Outcome.Credible : Outcome → Prop
  | completed {job : JobId} {kind : JobKind} {block : BlockId} {execution retries : Nat}
      (within : execution ≤ lastInstant) (once : retries ≤ 1) :
      Credible (.completed job kind block execution retries)
  | deadlineMissed {job : JobId} {kind : JobKind} {block : BlockId} {deadline time : Nat} :
      Credible (.deadlineMissed job kind block deadline time)

namespace Tally

variable {tally : Tally} {outcome : Outcome}

/-- The tally once the outcome of a dispatch has been counted. -/
def settle (tally : Tally) : Outcome → Tally
  | .completed _ _ _ execution retries => (tally.retried retries).complete execution
  | .deadlineMissed .. => tally.missDeadline

/-- How the counts of executions and retries bound each other. -/
structure Consistent (tally : Tally) : Prop where
  retries : tally.retries ≤ tally.completed
  longest : tally.maxExecution ≤ tally.totalExecution
  within : tally.totalExecution ≤ lastInstant

theorem Consistent.settle (consistent : tally.Consistent) (credible : outcome.Credible) :
    (tally.settle outcome).Consistent := by
  obtain ⟨retries, longest, within⟩ := consistent
  cases credible with
  | completed bounded once => constructor <;> simp only [Tally.settle, retried, complete] <;> omega
  | deadlineMissed => exact ⟨retries, longest, within⟩

end Tally

theorem Dispatch.settle_run (settings : Settings) {dispatch : Dispatch}
    (fresh : dispatch.job.retries = 0) :
    (run settings dispatch).1.tally = dispatch.tally.settle (run settings dispatch).2 ∧
      (run settings dispatch).2.Credible := by
  rcases run_cases settings dispatch with ⟨deadline, _, _, same⟩ | ⟨_, same⟩
  · rw [same]
    exact ⟨rfl, .deadlineMissed⟩
  · obtain ⟨execution, retries, within, once, counted, outcome⟩ := execute_counts settings dispatch
    rw [fresh, Nat.zero_add] at outcome
    rw [same, counted, outcome]
    exact ⟨rfl, .completed within once⟩

/-- What a caller sees of one call: the reply, and how many jobs are pending afterwards. -/
structure Sighting where
  reply : Reply
  waiting : Nat

namespace Sighting

def outcome? (sighting : Sighting) : Option Outcome :=
  match sighting.reply with
  | .ticked report => report.outcome?
  | _ => none

def isTurnedAway (sighting : Sighting) : Bool :=
  match sighting.reply with
  | .refused (.queueFull _) => true
  | _ => false

/-- The length of the queue, if a request has just been accepted. -/
def depth? (sighting : Sighting) : Option Nat :=
  match sighting.reply with
  | .enqueued _ => some sighting.waiting
  | _ => none

/-- A reset is the beginning of a new record. -/
def note (seen : List Sighting) (scheduler : Scheduler) (call : Call) (reply : Reply) :
    List Sighting :=
  match call with
  | .reset => []
  | _ => seen ++ [⟨reply, (scheduler.perform call).1.pending.size⟩]

end Sighting

def outcomes (seen : List Sighting) : List Outcome :=
  seen.filterMap Sighting.outcome?

def executions (seen : List Sighting) : List Nat :=
  (outcomes seen).filterMap Outcome.execution?

def retries (seen : List Sighting) : List Nat :=
  (outcomes seen).filterMap Outcome.retries?

/-- The length of the queue after each request that was accepted. -/
def depths (seen : List Sighting) : List Nat :=
  seen.filterMap Sighting.depth?

/-- The counts that a caller works out, but for the late jobs. -/
def tallyOf (seen : List Sighting) (timeouts : Nat) : Tally where
  maxQueueLength := (depths seen).foldl max 0
  overflows := seen.countP (·.isTurnedAway)
  timeouts := timeouts
  deadlineMisses := (outcomes seen).countP (!·.isCompleted)
  maxExecution := (executions seen).foldl max 0
  totalExecution := min (executions seen).sum lastInstant
  completed := (outcomes seen).countP (·.isCompleted)
  retries := (retries seen).sum
  recovered := (retries seen).sum

/-- The summary that a caller works out who knows how many jobs were late. Every retry has succeeded. -/
def summaryOf (seen : List Sighting) (late time waiting : Nat) : TallyReport where
  time := time
  queueLength := waiting
  maxQueueLength := (depths seen).foldl max 0
  overflows := seen.countP (·.isTurnedAway)
  timeouts := late
  deadlineMisses := (outcomes seen).countP (!·.isCompleted)
  maxExecution := (executions seen).foldl max 0
  averageExecution :=
    let total := min (executions seen).sum lastInstant
    let mean := Float.ofNat total / Float.ofNat (max (executions seen).length 1)
    (mean * 10).round / 10
  completed := (executions seen).length
  retries := (retries seen).sum
  retrySuccessRate :=
    let retried := (retries seen).sum
    if retried = 0 then 100 else Float.ofNat retried / Float.ofNat retried * 100

section Sightings

variable {seen : List Sighting} {sighting : Sighting} {report : TickReport} {outcome : Outcome}
  {timeouts : Nat}

@[simp] theorem outcomes_concat (seen : List Sighting) (sighting : Sighting) :
    outcomes (seen ++ [sighting]) = outcomes seen ++ sighting.outcome?.toList := by
  simp [outcomes, List.filterMap_eq_flatMap_toList]

@[simp] theorem depths_concat (seen : List Sighting) (sighting : Sighting) :
    depths (seen ++ [sighting]) = depths seen ++ sighting.depth?.toList := by
  simp [depths, List.filterMap_eq_flatMap_toList]

@[simp] theorem executions_concat (seen : List Sighting) (sighting : Sighting) :
    executions (seen ++ [sighting]) =
      executions seen ++ (sighting.outcome?.bind Outcome.execution?).toList := by
  cases became : sighting.outcome? <;>
    simp [executions, became, List.filterMap_eq_flatMap_toList]

@[simp] theorem retries_concat (seen : List Sighting) (sighting : Sighting) :
    retries (seen ++ [sighting]) =
      retries seen ++ (sighting.outcome?.bind Outcome.retries?).toList := by
  cases became : sighting.outcome? <;>
    simp [retries, became, List.filterMap_eq_flatMap_toList]

theorem length_executions (seen : List Sighting) :
    (executions seen).length = (outcomes seen).countP (·.isCompleted) := by
  rw [executions, List.length_filterMap_eq_countP]
  congr 1
  funext outcome
  cases outcome <;> rfl

theorem report_tallyOf (seen : List Sighting) (late time waiting : Nat) :
    (tallyOf seen late).report time waiting = summaryOf seen late time waiting := by
  rw [summaryOf, length_executions]
  rfl

theorem tallyOf_ticked (became : report.outcome? = some outcome) (waiting : Nat) :
    tallyOf (seen ++ [⟨.ticked report, waiting⟩]) timeouts =
      (tallyOf seen timeouts).settle outcome := by
  cases outcome with
  | completed job kind block execution again =>
      simp [tallyOf, Sighting.outcome?, Sighting.depth?, Sighting.isTurnedAway, became,
        Tally.settle, Tally.retried, Tally.complete, Outcome.isCompleted, Outcome.execution?,
        Outcome.retries?]
      omega
  | deadlineMissed =>
      simp [tallyOf, Sighting.outcome?, Sighting.depth?, Sighting.isTurnedAway, became,
        Tally.settle, Tally.missDeadline, Outcome.isCompleted, Outcome.execution?,
        Outcome.retries?]

theorem tallyOf_enqueued (job : Job) (waiting : Nat) :
    tallyOf (seen ++ [⟨.enqueued job, waiting⟩]) timeouts =
      (tallyOf seen timeouts).observeQueueLength waiting := by
  simp [tallyOf, Sighting.outcome?, Sighting.depth?, Sighting.isTurnedAway,
    Tally.observeQueueLength]

theorem tallyOf_turnedAway (capacity waiting : Nat) :
    tallyOf (seen ++ [⟨.refused (.queueFull capacity), waiting⟩]) timeouts =
      (tallyOf seen timeouts).overflow := by
  simp [tallyOf, Sighting.outcome?, Sighting.depth?, Sighting.isTurnedAway, Tally.overflow]

/-- The reply tells of nothing that is counted. -/
structure Sighting.Silent (sighting : Sighting) : Prop where
  outcome : sighting.outcome? = none
  depth : sighting.depth? = none
  turnedAway : sighting.isTurnedAway = false

theorem tallyOf_silent (silent : sighting.Silent) :
    tallyOf (seen ++ [sighting]) timeouts = tallyOf seen timeouts := by
  simp [tallyOf, silent.outcome, silent.depth, silent.turnedAway]

end Sightings

namespace Scheduler

def seen (scheduler : Scheduler) (calls : List Call) : List Sighting :=
  scheduler.observe Sighting.note [] calls

variable {scheduler final done : Scheduler} {seen : List Sighting} {sighting : Sighting}
  {call : Call} {reply : Reply} {job : Job} {rest : Pending} {view : JobView} {outcome : Outcome}

/-- The scheduler has counted what was seen, and no more jobs have left it or are waiting in it than it
was seen to accept. -/
structure Tells (seen : List Sighting) (scheduler : Scheduler) : Prop where
  quiet : scheduler.Quiet
  counted : scheduler.tally = tallyOf seen scheduler.tally.timeouts
  consistent : scheduler.tally.Consistent
  room : scheduler.tally.maxQueueLength ≤ scheduler.settings.queueCapacity.toNat
  numbered : scheduler.nextId.number = (depths seen).length
  left : scheduler.pending.size + (scheduler.tally.completed + scheduler.tally.deadlineMisses) ≤
    (depths seen).length

theorem tells_ofSettings (settings : Settings) : Tells [] (ofSettings settings) where
  quiet := quiet_ofSettings settings
  counted := rfl
  consistent := ⟨Nat.le_refl 0, Nat.le_refl 0, Nat.zero_le _⟩
  room := Nat.zero_le _
  numbered := rfl
  left := Nat.le_refl 0

theorem Tells.silent (tells : Tells seen scheduler) (silent : sighting.Silent) :
    Tells (seen ++ [sighting]) scheduler := by
  have accepted : depths (seen ++ [sighting]) = depths seen := by simp [silent.depth]
  refine ⟨tells.quiet, ?_, tells.consistent, tells.room, ?_, ?_⟩
  · rw [tallyOf_silent silent]
    exact tells.counted
  · rw [accepted]
    exact tells.numbered
  · rw [accepted]
    exact tells.left

/-- Only the late jobs have been counted, and jobs may have left the queue. -/
theorem Tells.later (tells : Tells seen scheduler) (quiet : final.Quiet)
    (pending : final.pending.size ≤ scheduler.pending.size)
    (tally : final.tally = { scheduler.tally with timeouts := final.tally.timeouts })
    (nextId : final.nextId = scheduler.nextId) (settings : final.settings = scheduler.settings) :
    Tells seen final := by
  obtain ⟨_, counted, ⟨retries, longest, within⟩, room, numbered, left⟩ := tells
  constructor
  case quiet => exact quiet
  case counted =>
    rw [tally, counted]
    rfl
  case consistent =>
    rw [tally]
    exact ⟨retries, longest, within⟩
  case room =>
    rw [tally, settings]
    exact room
  case numbered => rw [nextId, numbered]
  case left =>
    rw [tally]
    exact Nat.le_trans (Nat.add_le_add_right pending _) left

theorem Tells.awaited (tells : Tells seen scheduler) (elapsed : Nat) :
    Tells seen (scheduler.awaited elapsed) := by
  refine tells.later (tells.quiet.awaited elapsed) ?_ ?_ (scheduler.nextId_awaited elapsed)
    (scheduler.settings_awaited elapsed)
  · rw [pending_awaited]
  · rw [Scheduler.awaited, markOverdue, tally_foldl_noteOverdue]
    rfl

theorem Tells.handOut (tells : Tells seen scheduler)
    (popped : scheduler.pending.pop = (some job, rest)) : Tells seen (scheduler.handOut job rest) :=
  tells.later (tells.quiet.handOut popped) (Pending.size_pop popped ▸ Nat.le_succ _) rfl rfl rfl

theorem Tells.turnAway (tells : Tells seen scheduler) (request : Request) (waiting : Nat) :
    Tells (seen ++ [⟨.refused (.queueFull scheduler.settings.queueCapacity.toNat), waiting⟩])
      (scheduler.turnAway request) := by
  obtain ⟨quiet, counted, ⟨retries, longest, within⟩, room, numbered, left⟩ := tells
  refine ⟨quiet.fewer rfl (List.Subset.refl _), ?_, ⟨retries, longest, within⟩, room, ?_, ?_⟩
  · rw [tallyOf_turnedAway]
    exact congrArg Tally.overflow counted
  · rw [depths_concat]
    exact numbered.trans (congrArg List.length (List.append_nil _).symm)
  · rw [depths_concat]
    exact left.trans_eq (congrArg List.length (List.append_nil _).symm)

theorem Tells.accept (tells : Tells seen scheduler) (request : Request)
    (room : scheduler.isFull = false) :
    let next := scheduler.accept (scheduler.newJob request)
    Tells (seen ++ [⟨.enqueued (scheduler.newJob request), next.pending.size⟩]) next := by
  intro next
  have tally := scheduler.tally_accept (scheduler.newJob request)
  obtain ⟨blocks, counts, journal, same⟩ := scheduler.accept_eq (scheduler.newJob request)
  have longer : next.pending.size = scheduler.pending.size + 1 := by
    simp only [next, same, Pending.size_push]
  have settings : next.settings = scheduler.settings := by simp only [next, same]
  have nextId : next.nextId = scheduler.nextId.next := by simp only [next, same]
  have free : scheduler.pending.size < scheduler.settings.queueCapacity.toNat :=
    Nat.lt_of_not_le (of_decide_eq_false room)
  have accepted (waiting : Nat) :
      (depths (seen ++ [⟨.enqueued (scheduler.newJob request), waiting⟩])).length =
        (depths seen).length + 1 := by
    simp [Sighting.depth?]
  have tally : next.tally = scheduler.tally.observeQueueLength next.pending.size := by
    rw [longer, ← Pending.size_push scheduler.pending (scheduler.newJob request)]
    exact tally
  constructor
  case quiet => exact tells.quiet.accept request
  case counted =>
    rw [tallyOf_enqueued, tally]
    exact congrArg (Tally.observeQueueLength · _) tells.counted
  case consistent =>
    rw [tally]
    exact ⟨tells.consistent.retries, tells.consistent.longest, tells.consistent.within⟩
  case room =>
    have bounded := tells.room
    rw [tally, settings]
    simp only [Tally.observeQueueLength]
    omega
  case numbered => rw [nextId, accepted, JobId.next, tells.numbered]
  case left =>
    have left := tells.left
    rw [tally, accepted]
    simp only [Tally.observeQueueLength]
    omega

/-- The job has left the queue already, so that there is room for it among those that are counted. -/
theorem Tells.dispatch (tells : Tells seen scheduler) {report : TickReport} (waiting : Nat)
    (fresh : job.retries = 0) (runs : scheduler.dispatch job = (done, view, outcome))
    (became : report.outcome? = some outcome)
    (left : scheduler.pending.size + 1 +
      (scheduler.tally.completed + scheduler.tally.deadlineMisses) ≤ (depths seen).length) :
    Tells (seen ++ [⟨.ticked report, waiting⟩]) done := by
  have quiet := tells.quiet.dispatch runs
  have accepted : depths (seen ++ [⟨.ticked report, waiting⟩]) = depths seen := by
    simp [Sighting.depth?]
  rw [dispatch_eq] at runs
  cases runs
  have unretried : (scheduler.opening job).job.retries = 0 := fresh
  obtain ⟨settled, credible⟩ := Dispatch.settle_run scheduler.settings unretried
  rw [tally_opening] at settled
  generalize (Dispatch.run scheduler.settings (scheduler.opening job)).2 = outcome at *
  constructor
  case quiet => exact quiet
  case counted =>
    rw [tallyOf_ticked became, settled]
    refine (congrArg (Tally.settle · outcome) tells.counted).trans ?_
    cases credible <;> rfl
  case consistent =>
    rw [settled]
    exact tells.consistent.settle credible
  case room =>
    have bounded := tells.room
    rw [settled]
    cases credible <;> exact bounded
  case numbered =>
    rw [accepted]
    exact tells.numbered
  case left =>
    rw [settled, accepted]
    cases credible <;>
      simp only [Tally.settle, Tally.retried, Tally.complete, Tally.missDeadline] <;> omega

theorem setTimeScale_error {factor : Float} {error : SchedulerError}
    (refused : scheduler.setTimeScale factor = .error error) : error = .invalidTimeScale factor := by
  unfold setTimeScale at refused
  split at refused
  · contradiction
  · cases refused
    rfl

theorem Tells.step (step : Step scheduler call final reply) (tells : Tells seen scheduler) :
    Tells (Sighting.note seen scheduler call reply) final := by
  have performed := step.perform_eq
  have quiet := step.quiet tells.quiet
  cases step with
  | @enqueued request room =>
      simp only [Sighting.note, performed]
      exact tells.accept request room
  | @turnedAway request =>
      exact tells.turnAway request _
  | @handedOut job rest popped =>
      exact (tells.handOut popped).silent ⟨rfl, rfl, rfl⟩
  | nothingPending => exact tells.silent ⟨rfl, rfl, rfl⟩
  | @dispatched elapsed job rest _ view outcome popped runs =>
      have waited := tells.awaited elapsed
      rw [← scheduler.pending_awaited elapsed] at popped
      -- the job leaves the queue first, and is counted only when its outcome is known
      refine (waited.handOut popped).dispatch _ ?_ runs rfl ?_
      · exact (waited.quiet.untouched job (Pending.mem_of_pop popped)).retries
      · have left := waited.left
        rw [← Pending.size_pop popped] at left
        exact left
  | idled => exact (tells.awaited _).silent ⟨rfl, rfl, rfl⟩
  | scaled accepted =>
      rw [setTimeScale_eq accepted] at quiet ⊢
      refine (tells.later quiet (Nat.le_refl _) rfl rfl rfl).silent ?_
      exact ⟨rfl, rfl, rfl⟩
  | scaleRefused refused =>
      rw [setTimeScale_error refused]
      refine tells.silent ?_
      exact ⟨rfl, rfl, rfl⟩
  | reset => exact tells_ofSettings _

theorem tells_after {settings : Settings} (built : ofSettings? settings = .ok scheduler)
    (calls : List Call) : Tells (scheduler.seen calls) (scheduler.after calls) := by
  refine observe_after Tells.step ?_ calls
  rw [eq_of_ofSettings? built]
  exact tells_ofSettings settings

end Scheduler

theorem LateLedger.Accounts.timeouts_le {ledger : LateLedger} {scheduler : Scheduler}
    (accounts : ledger.Accounts scheduler) :
    scheduler.tally.timeouts ≤ scheduler.nextId.number := by
  rw [accounts.counted, ← Finset.card_range scheduler.nextId.number]
  refine Finset.card_le_card_of_injOn JobId.number (fun id sighted => ?_) ?_
  · exact Finset.mem_coe.mpr (Finset.mem_range.mpr (accounts.given id sighted))
  · exact fun _ _ _ _ same => congrArg JobId.mk same

theorem LateLedger.Accounts.deadlineMisses_le {ledger : LateLedger} {scheduler : Scheduler}
    (accounts : ledger.Accounts scheduler) :
    scheduler.tally.deadlineMisses ≤ scheduler.tally.timeouts := by
  have balanced := accounts.balanced
  omega

namespace Scheduler

/-- After any run a caller who has kept the replies since the last reset knows what the counts are: how
many jobs were completed, how many were given up and how many requests were turned away, how long the
queue became, how long the executions took and how many retries there were. No more jobs were retried than
completed, and no more were completed or given up than accepted. Those that were given up are among those
that were found late, which have all been accepted too. -/
theorem tally_tells_what_was_seen {scheduler : Scheduler} {settings : Settings}
    (built : ofSettings? settings = .ok scheduler) (calls : List Call) :
    let seen := scheduler.seen calls
    let counts := (scheduler.after calls).tally
    (counts.completed = (outcomes seen).countP (·.isCompleted) ∧
      counts.deadlineMisses = (outcomes seen).countP (!·.isCompleted) ∧
      counts.overflows = seen.countP (·.isTurnedAway) ∧
      counts.maxQueueLength = (depths seen).foldl max 0 ∧
      counts.maxQueueLength ≤ settings.queueCapacity.toNat ∧
      counts.maxExecution = (executions seen).foldl max 0 ∧
      counts.totalExecution = min (executions seen).sum lastInstant ∧
      counts.retries = (retries seen).sum ∧ counts.recovered = (retries seen).sum) ∧
    counts.retries ≤ counts.completed ∧
    counts.completed + counts.deadlineMisses ≤ (depths seen).length ∧
    counts.deadlineMisses ≤ counts.timeouts ∧
    counts.timeouts ≤ (depths seen).length ∧
    counts.maxExecution ≤ counts.totalExecution := by
  intro seen counts
  obtain rfl := eq_of_ofSettings? built
  have tells : Tells seen ((ofSettings settings).after calls) := tells_after built calls
  have accounts := LateLedger.accounts_after built calls
  have counted : counts = tallyOf seen counts.timeouts := tells.counted
  have room : counts.maxQueueLength ≤ settings.queueCapacity.toNat := by
    have bounded := tells.room
    rwa [settings_after] at bounded
  refine ⟨⟨?_, ?_, ?_, ?_, room, ?_, ?_, ?_, ?_⟩, tells.consistent.retries, ?_,
    accounts.deadlineMisses_le, ?_, tells.consistent.longest⟩
  iterate 8 exact counted ▸ rfl
  · exact Nat.le_trans (Nat.le_add_left _ _) tells.left
  · exact tells.numbered ▸ accounts.timeouts_le

/-- The summary that callers read after any run, or find in the report of a tick, is the one that can be
worked out from the replies until then, given how many jobs were late, the time and the length of the
queue. -/
theorem summary_tells_what_was_seen {scheduler : Scheduler} {settings : Settings}
    (built : ofSettings? settings = .ok scheduler) (calls : List Call) :
    let told := fun calls : List Call =>
      summaryOf (scheduler.seen calls) (scheduler.observe LateLedger.next {} calls).sighted.card
        (scheduler.after calls).now (scheduler.after calls).pending.size
    (scheduler.after calls).tallyReport = told calls ∧
      ∀ elapsed, ((scheduler.after calls).tick elapsed).2.tally =
        told (calls ++ [.tick elapsed]) := by
  intro told
  have summed (calls : List Call) : (scheduler.after calls).tallyReport = told calls := by
    have counted := (tells_after built calls).counted
    rw [(LateLedger.accounts_after built calls).counted] at counted
    rw [tallyReport, counted, report_tallyOf]
  refine ⟨summed calls, fun elapsed => ?_⟩
  have reports : ((scheduler.after calls).tick elapsed).2.tally =
      ((scheduler.after calls).tick elapsed).1.tallyReport := by
    unfold tick
    split <;> rfl
  rw [reports, ← summed, after_concat]
  rfl

/-- After a reset two requests fill the queue and a third one is turned away. The write is retried and ends
after the deadline of the read. One more job is taken out of the queue by the caller. -/
theorem tally_tells_of_full_queue :
    let settings : Settings := { queueCapacity := 2, retryModulus := 3 }
    let calls : List Call := [
      .enqueue (.inTurn .write ⟨7⟩ .med none), .tick 1, .reset,
      .enqueue (.inTurn .write ⟨7⟩ .med none), .enqueue (.inTurn .read ⟨7⟩ .med (some 4)),
      .enqueue (.inTurn .read ⟨7⟩ .med none), .tick 2, .tick 0,
      .enqueue (.inTurn .readAll ⟨7⟩ .med none), .dequeue]
    let scheduler := ofSettings settings
    let counts := (scheduler.after calls).tally
    ofSettings? settings = .ok scheduler ∧ counts.completed = 1 ∧ counts.deadlineMisses = 1 ∧
      counts.overflows = 1 ∧ counts.maxQueueLength = 2 ∧ counts.maxExecution = 20 ∧
      counts.totalExecution = 20 ∧ counts.retries = 1 ∧ counts.recovered = 1 ∧
      (depths (scheduler.seen calls)).length = 3 ∧ counts.completed + counts.deadlineMisses ≤ 3 ∧
      1 ≤ counts.timeouts ∧ counts.timeouts ≤ 3 := by
  intro settings calls scheduler counts
  have built : ofSettings? settings = .ok scheduler := rfl
  obtain ⟨⟨completed, missed, turnedAway, longest, _, slowest, total, again, recovered⟩, _, left,
    late, accepted, _⟩ := tally_tells_what_was_seen built calls
  have three : (depths (scheduler.seen calls)).length = 3 := by decide +kernel
  have missed : counts.deadlineMisses = 1 := missed.trans (by decide +kernel)
  refine ⟨built, completed.trans ?_, missed, turnedAway.trans ?_, longest.trans ?_,
    slowest.trans ?_, total.trans ?_, again.trans ?_, recovered.trans ?_, three,
    left.trans_eq three, missed.symm.trans_le late, accepted.trans_eq three⟩
  all_goals decide +kernel

end Scheduler

end NvMemory
