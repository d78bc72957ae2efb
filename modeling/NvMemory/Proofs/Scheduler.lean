import NvMemory.Proofs.Dispatch
import NvMemory.Proofs.Lanes
import NvMemory.Scheduler

/-!
What one call can do to a scheduler, and what a run of calls preserves.

`Scheduler.Step` has a rule for each way in which a call can end. In every state that is reached
the waiting jobs have arrived one after the other (`Scheduler.Orderly`), also once the clock stands
still, because their numbers grow when their times do not.
-/

namespace NvMemory

/-- A request that waits for its turn: it is not immediate. -/
def Request.inTurn (kind : JobKind) (block : BlockId) (priority : Priority)
    (deadline : Option Nat) : Request where
  kind := kind
  block := block
  priority := priority
  immediate := false
  deadline := deadline

namespace Scheduler

variable {scheduler final done : Scheduler} {call : Call} {reply : Reply} {job : Job}
  {rest : Pending} {view : JobView} {outcome : Outcome}

def handOut (scheduler : Scheduler) (job : Job) (rest : Pending) : Scheduler :=
  { scheduler with
    pending := rest
    overdue := scheduler.overdue.filter (· ≠ job.id) }

/-- The scheduler in a tick, before it looks for a job. -/
def awaited (scheduler : Scheduler) (elapsed : Nat) : Scheduler :=
  (scheduler.advance elapsed).markOverdue

inductive Step (scheduler : Scheduler) : Call → Scheduler → Reply → Prop
  | enqueued {request : Request} (room : scheduler.isFull = false) :
      Step scheduler (.enqueue request) (scheduler.accept (scheduler.newJob request))
        (.enqueued (scheduler.newJob request))
  | turnedAway {request : Request} (full : scheduler.isFull = true) :
      Step scheduler (.enqueue request) (scheduler.turnAway request)
        (.refused (.queueFull scheduler.settings.queueCapacity.toNat))
  | handedOut {job : Job} {rest : Pending} (popped : scheduler.pending.pop = (some job, rest)) :
      Step scheduler .dequeue (scheduler.handOut job rest) (.dequeued (some job))
  | nothingPending (missing : scheduler.pending.pop.1 = none) :
      Step scheduler .dequeue scheduler (.dequeued none)
  | dispatched {elapsed : Nat} {job : Job} {rest : Pending} {done : Scheduler} {view : JobView}
      {outcome : Outcome} (popped : scheduler.pending.pop = (some job, rest))
      (runs : ((scheduler.awaited elapsed).handOut job rest).dispatch job =
        (done, view, outcome)) :
      Step scheduler (.tick elapsed) done (.ticked (done.report (some (view, outcome))))
  | idled {elapsed : Nat} (missing : scheduler.pending.pop.1 = none) :
      Step scheduler (.tick elapsed) (scheduler.awaited elapsed)
        (.ticked ((scheduler.awaited elapsed).report none))
  | scaled {factor : Float} {scaled : Scheduler}
      (accepted : scheduler.setTimeScale factor = .ok scaled) :
      Step scheduler (.setTimeScale factor) scaled .done
  | scaleRefused {factor : Float} {error : SchedulerError}
      (refused : scheduler.setTimeScale factor = .error error) :
      Step scheduler (.setTimeScale factor) scheduler (.refused error)
  | reset : Step scheduler .reset scheduler.reset .done

/-! Only the notes about late jobs change while they are made. -/

theorem foldl_noteOverdue (late : List Job) (scheduler : Scheduler) :
    ∃ overdue tally journal, late.foldl noteOverdue scheduler =
      { scheduler with overdue := overdue, tally := tally, journal := journal } := by
  induction late generalizing scheduler with
  | nil => exact ⟨_, _, _, rfl⟩
  | cons job rest ih =>
      obtain ⟨overdue, tally, journal, noted⟩ := ih (scheduler.noteOverdue job)
      exact ⟨overdue, tally, journal, noted⟩

theorem awaited_eq (scheduler : Scheduler) (elapsed : Nat) :
    ∃ overdue tally journal, scheduler.awaited elapsed =
      { scheduler.advance elapsed with overdue := overdue, tally := tally, journal := journal } :=
  foldl_noteOverdue _ _

@[simp] theorem pending_awaited (scheduler : Scheduler) (elapsed : Nat) :
    (scheduler.awaited elapsed).pending = scheduler.pending := by
  obtain ⟨_, _, _, same⟩ := scheduler.awaited_eq elapsed
  rw [same]
  rfl

@[simp] theorem nextId_awaited (scheduler : Scheduler) (elapsed : Nat) :
    (scheduler.awaited elapsed).nextId = scheduler.nextId := by
  obtain ⟨_, _, _, same⟩ := scheduler.awaited_eq elapsed
  rw [same]
  rfl

@[simp] theorem settings_awaited (scheduler : Scheduler) (elapsed : Nat) :
    (scheduler.awaited elapsed).settings = scheduler.settings := by
  obtain ⟨_, _, _, same⟩ := scheduler.awaited_eq elapsed
  rw [same]
  rfl

@[simp] theorem now_awaited (scheduler : Scheduler) (elapsed : Nat) :
    (scheduler.awaited elapsed).now = (scheduler.advance elapsed).now := by
  obtain ⟨_, _, _, same⟩ := scheduler.awaited_eq elapsed
  rw [same]
  rfl

theorem now_le_awaited (scheduler : Scheduler) (elapsed : Nat) :
    scheduler.now ≤ (scheduler.awaited elapsed).now := by
  rw [now_awaited]
  exact scheduler.clock.now_le_advance elapsed

theorem overdue_foldl_noteOverdue (late : List Job) (scheduler : Scheduler) :
    (late.foldl noteOverdue scheduler).overdue =
      (late.map Job.id).reverse ++ scheduler.overdue := by
  induction late generalizing scheduler with
  | nil => rfl
  | cons job rest ih =>
      simp only [List.foldl_cons, ih, noteOverdue, record, List.map_cons, List.reverse_cons,
        List.append_assoc, List.singleton_append]

theorem tally_foldl_noteOverdue (late : List Job) (scheduler : Scheduler) :
    (late.foldl noteOverdue scheduler).tally =
      { scheduler.tally with timeouts := scheduler.tally.timeouts + late.length } := by
  induction late generalizing scheduler with
  | nil => rfl
  | cons job rest ih =>
      rw [List.foldl_cons, ih]
      simp only [noteOverdue, record, Tally.timeout, List.length_cons]
      congr 1
      omega

theorem dequeue_of_none (missing : scheduler.pending.pop.1 = none) :
    scheduler.dequeue = (scheduler, none) := by
  rw [dequeue, Pending.pop_of_none missing]

theorem dequeue_of_some (popped : scheduler.pending.pop = (some job, rest)) :
    scheduler.dequeue = (scheduler.handOut job rest, some job) := by
  rw [dequeue, popped, handOut]

theorem tick_of_none (missing : scheduler.pending.pop.1 = none) (elapsed : Nat) :
    scheduler.tick elapsed =
      (scheduler.awaited elapsed, (scheduler.awaited elapsed).report none) := by
  have same := scheduler.pending_awaited elapsed
  rw [← same] at missing
  rw [tick, ← awaited, dequeue_of_none missing]

theorem tick_of_some (popped : scheduler.pending.pop = (some job, rest)) (elapsed : Nat) :
    let ended := ((scheduler.awaited elapsed).handOut job rest).dispatch job
    scheduler.tick elapsed = (ended.1, ended.1.report (some ended.2)) := by
  have same := scheduler.pending_awaited elapsed
  rw [← same] at popped
  rw [tick, ← awaited, dequeue_of_some popped]

theorem perform_dequeue (scheduler : Scheduler) :
    Step scheduler .dequeue (scheduler.perform .dequeue).1 (scheduler.perform .dequeue).2 := by
  cases popped : scheduler.pending.pop with
  | mk head rest =>
      cases head with
      | none =>
          have missing := congrArg Prod.fst popped
          simp only [perform, dequeue_of_none missing]
          exact .nothingPending missing
      | some job =>
          simp only [perform, dequeue_of_some popped]
          exact .handedOut popped

theorem perform_tick (scheduler : Scheduler) (elapsed : Nat) :
    Step scheduler (.tick elapsed) (scheduler.perform (.tick elapsed)).1
      (scheduler.perform (.tick elapsed)).2 := by
  cases popped : scheduler.pending.pop with
  | mk head rest =>
      cases head with
      | none =>
          have missing := congrArg Prod.fst popped
          simp only [perform, tick_of_none missing]
          exact .idled missing
      | some job =>
          simp only [perform, tick_of_some popped]
          exact .dispatched popped rfl

/-- A call follows one of the rules. -/
theorem perform_step (scheduler : Scheduler) (call : Call) :
    Step scheduler call (scheduler.perform call).1 (scheduler.perform call).2 := by
  cases call with
  | enqueue request =>
      cases full : scheduler.isFull with
      | true =>
          simp only [perform, enqueue, full, if_true]
          exact .turnedAway full
      | false =>
          simp only [perform, enqueue, full, Bool.false_eq_true, if_false]
          exact .enqueued full
  | dequeue => exact scheduler.perform_dequeue
  | tick elapsed => exact scheduler.perform_tick elapsed
  | setTimeScale factor =>
      cases result : scheduler.setTimeScale factor with
      | ok scaled =>
          simp only [perform, result]
          exact .scaled result
      | error error =>
          simp only [perform, result]
          exact .scaleRefused result
  | reset => exact .reset

/-- A rule that applies says what the call does. -/
theorem Step.perform_eq (step : Step scheduler call final reply) :
    scheduler.perform call = (final, reply) := by
  cases step with
  | enqueued room => simp only [perform, enqueue, room, Bool.false_eq_true, if_false]
  | turnedAway full => simp only [perform, enqueue, full, if_true]
  | handedOut popped => simp only [perform, dequeue_of_some popped]
  | nothingPending missing => simp only [perform, dequeue_of_none missing]
  | dispatched popped runs => simp only [perform, tick_of_some popped, runs]
  | idled missing => simp only [perform, tick_of_none missing]
  | scaled accepted => simp only [perform, accepted]
  | scaleRefused refused => simp only [perform, refused]
  | reset => rfl

/-! What the parts of a call do to the queue, to the numbers that are given out and to the time. -/

theorem addBlock_eq (scheduler : Scheduler) (block : BlockId) :
    ∃ blocks, scheduler.addBlock block = { scheduler with blocks := blocks } := by
  unfold addBlock
  split
  · exact ⟨_, rfl⟩
  · exact ⟨_, rfl⟩

theorem accept_eq (scheduler : Scheduler) (job : Job) :
    ∃ blocks tally journal, scheduler.accept job =
      { scheduler with
        nextId := scheduler.nextId.next
        pending := scheduler.pending.push job
        blocks := blocks
        tally := tally
        journal := journal } := by
  obtain ⟨blocks, known⟩ := scheduler.addBlock_eq job.block
  simp only [accept, known]
  exact ⟨_, _, _, rfl⟩

theorem tally_accept (scheduler : Scheduler) (job : Job) :
    (scheduler.accept job).tally =
      scheduler.tally.observeQueueLength (scheduler.pending.push job).size := by
  obtain ⟨blocks, known⟩ := scheduler.addBlock_eq job.block
  simp only [accept, known]
  rfl

theorem setTimeScale_eq {factor : Float} (accepted : scheduler.setTimeScale factor = .ok final) :
    final = { scheduler with timeScale := factor } := by
  unfold setTimeScale at accepted
  split at accepted
  · cases accepted
    rfl
  · contradiction

/-- The job, its block and all else as they are when the job starts, which is now. -/
def opening (scheduler : Scheduler) (job : Job) : Dispatch :=
  let started := { job with startedAt := scheduler.now }
  let recorded := scheduler.record .debug "job dispatched" (Dispatch.jobFields started)
  { job := started
    occupancy := scheduler.occupancy job.block
    clock := scheduler.clock
    tally := scheduler.tally
    journal := recorded.journal }

@[simp] theorem tally_opening (scheduler : Scheduler) (job : Job) :
    (scheduler.opening job).tally = scheduler.tally := rfl

@[simp] theorem isLate_opening (scheduler : Scheduler) (job : Job) :
    (scheduler.opening job).job.isLate (scheduler.opening job).now = job.isLate scheduler.now :=
  rfl

theorem dispatch_eq (scheduler : Scheduler) (job : Job) :
    let ended := Dispatch.run scheduler.settings (scheduler.opening job)
    scheduler.dispatch job =
      ({ scheduler with
        blocks := scheduler.blocks.insert job.block.number ended.1.occupancy
        clock := ended.1.clock
        tally := ended.1.tally
        journal := ended.1.journal }, ended.1.job.view ended.1.now, ended.2) :=
  rfl

theorem isCompleted_dispatch (runs : scheduler.dispatch job = (done, view, outcome)) :
    outcome.isCompleted = !job.isLate scheduler.now := by
  cases runs
  rw [← isLate_opening]
  exact Dispatch.isCompleted_run scheduler.settings _

/-- What a dispatch leaves as it is, and what it reports. -/
structure Dispatches (scheduler : Scheduler) (job : Job) (done : Scheduler) (view : JobView)
    (outcome : Outcome) : Prop where
  settings : done.settings = scheduler.settings
  pending : done.pending = scheduler.pending
  nextId : done.nextId = scheduler.nextId
  time : scheduler.now ≤ done.now
  view : job.state = .idle → view = job.view done.now
  outcome : outcome.job = job.id

theorem dispatch_spec (runs : scheduler.dispatch job = (done, view, outcome)) :
    scheduler.Dispatches job done view outcome := by
  rw [dispatch_eq] at runs
  cases runs
  have progress := Dispatch.progress_run scheduler.settings (scheduler.opening job)
  obtain ⟨state, retries, kept⟩ := progress.job
  constructor
  case settings | pending | nextId => rfl
  case time => exact progress.time
  case view =>
    intro idle
    have ended : (Dispatch.run scheduler.settings (scheduler.opening job)).1.job.state = .idle :=
      Dispatch.state_run scheduler.settings idle
    rw [kept] at ended ⊢
    have untouched : state = job.state := ended.trans idle.symm
    rw [untouched]
    rfl
  case outcome => exact Dispatch.job_outcome_run scheduler.settings (scheduler.opening job)

theorem concerns_dispatch (runs : scheduler.dispatch job = (done, view, outcome))
    (idle : job.state = .idle) : outcome.Concerns view := by
  rw [(dispatch_spec runs).view idle]
  cases runs
  exact Dispatch.concerns_run scheduler.settings (scheduler.opening job) _

/-- The waiting jobs have arrived one after the other, none of them in time to come or under a
number that is still to be given out. -/
structure Orderly (scheduler : Scheduler) : Prop where
  arrived : scheduler.pending.jobs.Pairwise Job.ArrivedBefore
  past : ∀ job ∈ scheduler.pending.jobs, job.enqueuedAt ≤ scheduler.now
  numbered : ∀ job ∈ scheduler.pending.jobs, job.id.number < scheduler.nextId.number
  idle : ∀ job ∈ scheduler.pending.jobs, job.state = .idle

theorem orderly_of_empty (empty : scheduler.pending.jobs = []) : scheduler.Orderly := by
  refine ⟨?_, ?_, ?_, ?_⟩ <;> rw [empty]
  · exact List.Pairwise.nil
  all_goals exact fun _ member => absurd member List.not_mem_nil

theorem Orderly.distinct (orderly : scheduler.Orderly) :
    (scheduler.pending.jobs.map Job.id).Nodup :=
  Pending.distinct_of_arrived orderly.arrived

/-- As time passes and jobs leave, those that stay are still in order. -/
theorem Orderly.later (orderly : scheduler.Orderly)
    (fewer : final.pending.jobs.Sublist scheduler.pending.jobs)
    (numbers : final.nextId = scheduler.nextId) (time : scheduler.now ≤ final.now) :
    final.Orderly where
  arrived := orderly.arrived.sublist fewer
  past job member := Nat.le_trans (orderly.past job (fewer.subset member)) time
  numbered job member := numbers ▸ orderly.numbered job (fewer.subset member)
  idle job member := orderly.idle job (fewer.subset member)

theorem Orderly.accept (orderly : scheduler.Orderly) (request : Request) :
    (scheduler.accept (scheduler.newJob request)).Orderly := by
  obtain ⟨_, _, _, same⟩ := scheduler.accept_eq (scheduler.newJob request)
  rw [same]
  have present {Holds : Job → Prop} (old : ∀ job ∈ scheduler.pending.jobs, Holds job)
      (new : Holds (scheduler.newJob request)) :
      ∀ job ∈ (scheduler.pending.push (scheduler.newJob request)).jobs, Holds job := by
    intro job member
    rcases List.mem_append.mp member with earlier | last
    · exact old job earlier
    · exact List.mem_singleton.mp last ▸ new
  -- the new job has the present time, which the others may have too, but a number of its own
  refine ⟨?_, present orderly.past (Nat.le_refl _), ?_, present orderly.idle rfl⟩
  · refine List.pairwise_append.mpr ⟨orderly.arrived, List.pairwise_singleton _ _, ?_⟩
    intro earlier member last new
    rw [List.mem_singleton.mp new]
    exact ⟨orderly.past earlier member, orderly.numbered earlier member⟩
  · refine present (fun job member => ?_) (Nat.lt_succ_self _)
    exact Nat.lt_succ_of_lt (orderly.numbered job member)

theorem Step.orderly (step : Step scheduler call final reply) (orderly : scheduler.Orderly) :
    final.Orderly := by
  cases step with
  | enqueued => exact orderly.accept _
  | turnedAway => exact orderly.later (List.Sublist.refl _) rfl (Nat.le_refl _)
  | handedOut popped =>
      exact orderly.later (Pending.sublist_of_pop popped) rfl (Nat.le_refl _)
  | nothingPending => exact orderly
  | dispatched popped runs =>
      have spec := dispatch_spec runs
      refine orderly.later ?_ (spec.nextId.trans (scheduler.nextId_awaited _))
        (Nat.le_trans (scheduler.now_le_awaited _) spec.time)
      rw [spec.pending]
      exact Pending.sublist_of_pop popped
  | idled =>
      refine orderly.later ?_ (scheduler.nextId_awaited _) (scheduler.now_le_awaited _)
      rw [pending_awaited]
  | scaled accepted =>
      rw [setTimeScale_eq accepted]
      exact orderly.later (List.Sublist.refl _) rfl (Nat.le_refl _)
  | scaleRefused => exact orderly
  | reset => exact orderly_of_empty rfl

theorem Step.settings (step : Step scheduler call final reply) :
    final.settings = scheduler.settings := by
  cases step with
  | @enqueued request =>
      obtain ⟨_, _, _, same⟩ := scheduler.accept_eq (scheduler.newJob request)
      rw [same]
  | @dispatched elapsed _ _ _ _ _ _ runs =>
      exact (dispatch_spec runs).settings.trans (scheduler.settings_awaited elapsed)
  | @idled elapsed => exact scheduler.settings_awaited elapsed
  | scaled accepted => rw [setTimeScale_eq accepted]
  | turnedAway | handedOut | nothingPending | scaleRefused | reset => rfl

def after (scheduler : Scheduler) (calls : List Call) : Scheduler :=
  (scheduler.performAll calls).1

def replies (scheduler : Scheduler) (calls : List Call) : List Reply :=
  (scheduler.performAll calls).2

@[simp] theorem after_cons (scheduler : Scheduler) (call : Call) (rest : List Call) :
    scheduler.after (call :: rest) = (scheduler.perform call).1.after rest := rfl

@[simp] theorem replies_cons (scheduler : Scheduler) (call : Call) (rest : List Call) :
    scheduler.replies (call :: rest) =
      (scheduler.perform call).2 :: (scheduler.perform call).1.replies rest := rfl

theorem after_concat (scheduler : Scheduler) (calls : List Call) (last : Call) :
    scheduler.after (calls ++ [last]) = ((scheduler.after calls).perform last).1 := by
  induction calls generalizing scheduler with
  | nil => rfl
  | cons call rest ih => exact ih (scheduler.perform call).1

theorem settings_after (scheduler : Scheduler) (calls : List Call) :
    (scheduler.after calls).settings = scheduler.settings := by
  induction calls generalizing scheduler with
  | nil => rfl
  | cons call rest ih =>
      rw [after_cons, ih]
      exact (scheduler.perform_step call).settings

/-- What every step preserves holds after a run. -/
theorem after_preserves {Holds : Scheduler → Prop}
    (preserved : ∀ {scheduler call final reply}, Step scheduler call final reply →
      Holds scheduler → Holds final)
    (holds : Holds scheduler) (calls : List Call) : Holds (scheduler.after calls) := by
  induction calls generalizing scheduler with
  | nil => exact holds
  | cons call rest ih => exact ih (preserved (scheduler.perform_step call) holds)

theorem Orderly.after (orderly : scheduler.Orderly) (calls : List Call) :
    (scheduler.after calls).Orderly :=
  after_preserves Step.orderly orderly calls

/-- What an observer knows at the end of a run who notes each call, with the scheduler that it is
made to and the reply. -/
def observe {σ : Type} (note : σ → Scheduler → Call → Reply → σ) (known : σ)
    (scheduler : Scheduler) : List Call → σ
  | [] => known
  | call :: rest =>
      let (next, reply) := scheduler.perform call
      next.observe note (note known scheduler call reply) rest

theorem observe_after {σ : Type} {note : σ → Scheduler → Call → Reply → σ}
    {Agrees : σ → Scheduler → Prop}
    (kept : ∀ {known scheduler call final reply}, Step scheduler call final reply →
      Agrees known scheduler → Agrees (note known scheduler call reply) final)
    {known : σ} (agrees : Agrees known scheduler) (calls : List Call) :
    Agrees (scheduler.observe note known calls) (scheduler.after calls) := by
  induction calls generalizing scheduler known with
  | nil => exact agrees
  | cons call rest ih => exact ih (kept (scheduler.perform_step call) agrees)

theorem eq_of_ofSettings? {settings : Settings} (built : ofSettings? settings = .ok scheduler) :
    scheduler = ofSettings settings := by
  unfold ofSettings? Settings.check at built
  split at built
  · contradiction
  · cases built
    rfl

theorem positive_of_ofSettings? {settings : Settings}
    (built : ofSettings? settings = .ok scheduler) {setting : Setting}
    (checked : setting ∈ Setting.positive) : 0 < settings.get setting := by
  unfold ofSettings? Settings.check at built
  split at built
  · contradiction
  · rename_i none
    have nonzero := List.find?_eq_none.mp none setting checked
    exact Nat.pos_of_ne_zero fun zero => nonzero (beq_iff_eq.mpr zero)

theorem pending_of_ofSettings? {settings : Settings}
    (built : ofSettings? settings = .ok scheduler) : scheduler.pending = .empty := by
  rw [eq_of_ofSettings? built]
  rfl

theorem orderly_of_ofSettings? {settings : Settings}
    (built : ofSettings? settings = .ok scheduler) : scheduler.Orderly :=
  orderly_of_empty (congrArg Pending.jobs (pending_of_ofSettings? built))

end Scheduler

end NvMemory
