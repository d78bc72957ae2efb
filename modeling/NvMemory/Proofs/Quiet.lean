import NvMemory.Proofs.Archive
import NvMemory.Proofs.Scheduler

/-!
Between two calls the bus is free.

A dispatch takes its block for its job, holds it at every stage and frees it in the end, and a job that
waits has not been touched yet. Blocks become known when jobs for them are accepted and are never
forgotten, so that a job that is dispatched finds its block, and finds it free.
-/

namespace NvMemory

namespace WordMap

variable {β : Type}

theorem get?_tabulate_eq_some_iff {count key : UInt32} {value : UInt32 → β} {held : β} :
    (tabulate count value).get? key = some held ↔ key < count ∧ value key = held := by
  rw [← mem_entries_iff, tabulate, List.mem_map]
  constructor
  · rintro ⟨index, inside, same⟩
    have bounded : index < 2 ^ 32 := Nat.lt_trans (List.mem_range.mp inside) count.toNat_lt
    cases same
    refine ⟨?_, rfl⟩
    rw [UInt32.lt_iff_toNat_lt, UInt32.toNat_ofNat', Nat.mod_eq_of_lt bounded]
    exact List.mem_range.mp inside
  · rintro ⟨below, rfl⟩
    refine ⟨key.toNat, List.mem_range.mpr (UInt32.lt_iff_toNat_lt.mp below), ?_⟩
    rw [UInt32.ofNat_toNat]

theorem contains_insert (map : WordMap β) (key other : UInt32) (value : β) :
    (map.insert key value).contains other = (key == other || map.contains other) := by
  simp only [contains, get?_insert]
  by_cases same : key = other <;> simp [same]

end WordMap

namespace Occupancy

variable {occupancy : Occupancy}

structure Free (occupancy : Occupancy) : Prop where
  state : occupancy.state = .idle
  occupant : occupancy.occupant = none

theorem free_idle (block : BlockId) (depth : Nat) : (idle block depth).Free :=
  ⟨rfl, rfl⟩

theorem free_release (occupancy : Occupancy) (time : Nat) : (occupancy.release time).Free :=
  ⟨rfl, rfl⟩

theorem Free.isHeldAgainst (free : occupancy.Free) (job : JobId) :
    occupancy.isHeldAgainst job = false := by
  simp only [Occupancy.isHeldAgainst, free.occupant, Option.any_none]

end Occupancy

namespace Dispatch

variable {settings : Settings} {dispatch first second : Dispatch}

/-- The job has its block to itself, and the block is in the state that the job is in. -/
structure Holds (dispatch : Dispatch) : Prop where
  occupant : dispatch.occupancy.occupant = some dispatch.job.id
  state : dispatch.occupancy.state = dispatch.job.state

theorem holds_held (free : dispatch.occupancy.Free) (idle : dispatch.job.state = .idle) :
    dispatch.held.Holds := by
  have taken : dispatch.held.occupancy =
      { dispatch.occupancy with occupant := some dispatch.job.id } := by
    simp [held, Occupancy.occupy, free.isHeldAgainst]
  constructor
  case occupant =>
    rw [taken]
    rfl
  case state =>
    rw [taken]
    exact free.state.trans idle.symm

theorem Holds.reaches (holds : first.Holds) (reaches : first.Reaches second) : second.Holds := by
  induction reaches with
  | start => exact holds
  | enter _ _ ih => exact ⟨ih.occupant, rfl⟩
  | spend _ _ ih => exact ⟨ih.occupant, ih.state⟩
  | retry _ ih => exact ⟨ih.occupant, ih.state⟩

/-- From when it has taken its block until its execution ends, a job that was idle has it. -/
theorem Reaches.holds (reaches : dispatch.held.Reaches second) (free : dispatch.occupancy.Free)
    (idle : dispatch.job.state = .idle) :
    second.occupancy.occupant = some dispatch.job.id ∧
      second.occupancy.state = second.job.state := by
  have holds : second.Holds := (holds_held free idle).reaches reaches
  obtain ⟨state, retries, kept⟩ := reaches.progress.job
  refine ⟨holds.occupant.trans ?_, holds.state⟩
  rw [kept]
  rfl

theorem occupancy_run (settings : Settings) (inTime : dispatch.job.isLate dispatch.now = false) :
    let ended := (run settings dispatch).1
    ∃ last, dispatch.held.Reaches last ∧ last.job.state = .completing ∧
      ended.occupancy = last.occupancy.release ended.now := by
  obtain ⟨last, reaches, completing, concludes⟩ := execute_reaches settings dispatch
  rw [run_of_inTime settings inTime]
  exact ⟨last, reaches, completing, by rw [concludes.occupancy, concludes.now]⟩

theorem free_run (settings : Settings) (free : dispatch.occupancy.Free) :
    (run settings dispatch).1.occupancy.Free := by
  rcases run_cases settings dispatch with ⟨deadline, _, _, same⟩ | ⟨_, same⟩
  · rw [same]
    exact free
  · rw [same]
    exact Occupancy.free_release _ _

end Dispatch

/-- Nothing has been done about the job yet. -/
structure Job.Untouched (job : Job) : Prop where
  state : job.state = .idle
  retries : job.retries = 0
  startedAt : job.startedAt = 0

/-- What the parts of a report say agrees, and all its blocks are free. -/
structure TickReport.Coherent (report : TickReport) (now : Nat) : Prop where
  length : report.queueLength = report.queue.length
  tallied : report.tally.queueLength = report.queueLength
  time : report.time = now
  tallyTime : report.tally.time = now
  both : report.inFlight.isSome = report.outcome?.isSome
  concerns : ∀ view outcome, report.inFlight = some view → report.outcome? = some outcome →
    outcome.Concerns view
  free : ∀ number occupancy, report.blocks.get? number = some occupancy → occupancy.Free
  waiting : ∀ view ∈ report.queue, view.state = .idle ∧
    report.blocks.contains view.block.number = true

namespace Scheduler

variable {scheduler final done : Scheduler} {call : Call} {reply : Reply} {job : Job}
  {rest : Pending} {view : JobView} {outcome : Outcome} {report : TickReport}

theorem occupancy_insert (scheduler : Scheduler) (block : BlockId) (held : Occupancy)
    (other : BlockId) :
    { scheduler with blocks := scheduler.blocks.insert block.number held }.occupancy other =
      if block = other then held else scheduler.occupancy other := by
  simp only [occupancy, WordMap.get?_insert]
  by_cases same : block = other
  · rw [same, if_pos rfl, if_pos rfl, Option.getD_some]
  · have different : block.number ≠ other.number := fun equal => same (congrArg BlockId.mk equal)
    rw [if_neg different, if_neg same]

theorem occupancy_dispatch (scheduler : Scheduler) (job : Job) (other : BlockId) :
    (scheduler.dispatch job).1.occupancy other =
      if job.block = other then
        (Dispatch.run scheduler.settings (scheduler.opening job)).1.occupancy
      else scheduler.occupancy other :=
  scheduler.occupancy_insert job.block _ other

structure Quiet (scheduler : Scheduler) : Prop where
  free : ∀ number occupancy, scheduler.blocks.get? number = some occupancy → occupancy.Free
  untouched : ∀ job ∈ scheduler.pending.jobs, job.Untouched
  known : ∀ job ∈ scheduler.pending.jobs, scheduler.blocks.contains job.block.number = true

theorem quiet_ofSettings (settings : Settings) : (ofSettings settings).Quiet := by
  refine ⟨fun number occupancy held => ?_, ?_, ?_⟩
  · obtain ⟨_, rfl⟩ := WordMap.get?_tabulate_eq_some_iff.mp held
    exact Occupancy.free_idle _ _
  all_goals exact fun _ member => absurd member List.not_mem_nil

theorem Quiet.fewer (quiet : scheduler.Quiet) (blocks : final.blocks = scheduler.blocks)
    (jobs : final.pending.jobs ⊆ scheduler.pending.jobs) : final.Quiet where
  free number occupancy held := quiet.free number occupancy (blocks ▸ held)
  untouched job member := quiet.untouched job (jobs member)
  known job member := blocks ▸ quiet.known job (jobs member)

theorem Quiet.free_occupancy (quiet : scheduler.Quiet) (block : BlockId) :
    (scheduler.occupancy block).Free := by
  unfold occupancy
  cases held : scheduler.blocks.get? block.number with
  | none => exact Occupancy.free_idle _ _
  | some occupancy => exact quiet.free block.number occupancy held

theorem Quiet.get?_block (quiet : scheduler.Quiet) (waiting : job ∈ scheduler.pending.jobs) :
    scheduler.blocks.get? job.block.number = some (scheduler.occupancy job.block) := by
  obtain ⟨occupancy, held⟩ := Option.isSome_iff_exists.mp (quiet.known job waiting)
  rw [Scheduler.occupancy, held, Option.getD_some]

theorem Quiet.free_insert (quiet : scheduler.Quiet) {number : UInt32} {occupancy : Occupancy}
    (free : occupancy.Free) :
    ∀ other held, (scheduler.blocks.insert number occupancy).get? other = some held → held.Free := by
  intro other held found
  rw [WordMap.get?_insert] at found
  split at found
  · cases found
    exact free
  · exact quiet.free other held found

theorem Quiet.addBlock (quiet : scheduler.Quiet) (block : BlockId) :
    (scheduler.addBlock block).Quiet ∧
      (scheduler.addBlock block).blocks.contains block.number = true := by
  unfold Scheduler.addBlock
  split
  · rename_i known
    exact ⟨quiet, known⟩
  · refine ⟨⟨quiet.free_insert (quiet.free_occupancy block), quiet.untouched, ?_⟩, ?_⟩
    · intro job waiting
      rw [WordMap.contains_insert, quiet.known job waiting, Bool.or_true]
    · rw [WordMap.contains_insert, BEq.rfl, Bool.true_or]

theorem Quiet.accept (quiet : scheduler.Quiet) (request : Request) :
    (scheduler.accept (scheduler.newJob request)).Quiet := by
  obtain ⟨known, present⟩ := quiet.addBlock (scheduler.newJob request).block
  constructor
  case free => exact known.free
  case untouched =>
    intro job member
    rcases List.mem_append.mp member with waiting | new
    · exact known.untouched job waiting
    · rw [List.mem_singleton.mp new]
      exact ⟨rfl, rfl, rfl⟩
  case known =>
    intro job member
    rcases List.mem_append.mp member with waiting | new
    · exact known.known job waiting
    · rw [List.mem_singleton.mp new]
      exact present

theorem Quiet.awaited (quiet : scheduler.Quiet) (elapsed : Nat) :
    (scheduler.awaited elapsed).Quiet := by
  obtain ⟨_, _, _, same⟩ := scheduler.awaited_eq elapsed
  rw [same]
  exact quiet.fewer rfl (List.Subset.refl _)

theorem Quiet.handOut (quiet : scheduler.Quiet) (popped : scheduler.pending.pop = (some job, rest)) :
    (scheduler.handOut job rest).Quiet :=
  quiet.fewer rfl (Pending.sublist_of_pop popped).subset

/-- The block that was held by the dispatch has been released at its end. -/
theorem Quiet.dispatch (quiet : scheduler.Quiet)
    (runs : scheduler.dispatch job = (done, view, outcome)) : done.Quiet := by
  rw [dispatch_eq] at runs
  cases runs
  have free : (scheduler.opening job).occupancy.Free := quiet.free_occupancy job.block
  constructor
  case free =>
    -- only the block of the dispatch has another occupancy than before
    exact quiet.free_insert (Dispatch.free_run _ free)
  case untouched => exact quiet.untouched
  case known =>
    intro other member
    rw [WordMap.contains_insert, quiet.known other member, Bool.or_true]

theorem Step.quiet (step : Step scheduler call final reply) (quiet : scheduler.Quiet) :
    final.Quiet := by
  cases step with
  | enqueued => exact quiet.accept _
  | turnedAway => exact quiet.fewer rfl (List.Subset.refl _)
  | handedOut popped => exact quiet.handOut popped
  | nothingPending => exact quiet
  | @dispatched elapsed _ _ _ _ _ popped runs =>
      have same := scheduler.pending_awaited elapsed
      exact ((quiet.awaited elapsed).handOut (same ▸ popped)).dispatch runs
  | idled => exact quiet.awaited _
  | scaled accepted =>
      rw [setTimeScale_eq accepted]
      exact quiet.fewer rfl (List.Subset.refl _)
  | scaleRefused => exact quiet
  | reset => exact quiet_ofSettings _

theorem length_pendingViews (scheduler : Scheduler) :
    scheduler.pendingViews.length = scheduler.pending.size := by
  rw [pendingViews, List.length_map, scheduler.pending.ordered_perm.length_eq, Pending.size]

theorem Quiet.coherent (quiet : scheduler.Quiet) {dispatched : Option (JobView × Outcome)}
    (concerns : ∀ view outcome, dispatched = some (view, outcome) → outcome.Concerns view) :
    (scheduler.report dispatched).Coherent scheduler.now := by
  constructor
  case length => exact scheduler.length_pendingViews.symm
  case tallied | time | tallyTime => rfl
  case both => cases dispatched <;> rfl
  case concerns =>
    intro view outcome inFlight became
    cases dispatched with
    | none => cases inFlight
    | some pair =>
        cases inFlight
        cases became
        exact concerns _ _ rfl
  case free => exact quiet.free
  case waiting =>
    intro view member
    obtain ⟨job, listed, rfl⟩ := List.mem_map.mp member
    have pending := scheduler.pending.ordered_perm.mem_iff.mp listed
    exact ⟨(quiet.untouched job pending).state, quiet.known job pending⟩

theorem Step.coherent {elapsed : Nat} (quiet : scheduler.Quiet)
    (step : Step scheduler (.tick elapsed) final (.ticked report)) : report.Coherent final.now := by
  have left := step.quiet quiet
  cases step with
  | dispatched popped runs =>
      refine left.coherent fun view outcome same => ?_
      cases same
      exact concerns_dispatch runs (quiet.untouched _ (Pending.mem_of_pop popped)).state
  | idled => exact left.coherent fun _ _ none => by contradiction

theorem dequeue_eq_some (taken : scheduler.dequeue = (final, some job)) :
    ∃ rest, scheduler.pending.pop = (some job, rest) ∧ final = scheduler.handOut job rest := by
  unfold dequeue at taken
  split at taken
  · cases taken
  · rename_i popped
    cases taken
    exact ⟨_, popped, rfl⟩

theorem quiet_after {settings : Settings} (built : ofSettings? settings = .ok scheduler)
    (calls : List Call) : (scheduler.after calls).Quiet := by
  refine after_preserves Step.quiet ?_ calls
  rw [eq_of_ofSettings? built]
  exact quiet_ofSettings settings

/-- In every state that is reached, a tick that takes out a job in time gives the job its block. The block
stays with it through all stages of its execution, up to its completion, and is then released. If the job is
late, its block is left as it was. -/
theorem block_held_until_released {settings : Settings}
    (built : ofSettings? settings = .ok scheduler) (calls : List Call) :
    let reached := scheduler.after calls
    ∀ elapsed waiting job, (reached.advance elapsed).markOverdue.dequeue = (waiting, some job) →
      let held := (waiting.opening job).held
      let done := (reached.tick elapsed).1
      (job.isLate waiting.now = false →
        (∀ stage, held.Reaches stage →
          stage.occupancy.occupant = some job.id ∧ stage.occupancy.state = stage.job.state) ∧
        ∃ last, held.Reaches last ∧ last.job.state = .completing ∧
          done.occupancy job.block = last.occupancy.release done.now) ∧
      (job.isLate waiting.now = true →
        done.occupancy job.block = waiting.occupancy job.block) := by
  intro reached elapsed waiting job taken held done
  have marked := (quiet_after built calls).awaited elapsed
  obtain ⟨rest, popped, same⟩ := dequeue_eq_some taken
  have idle : job.state = .idle := (marked.untouched job (Pending.mem_of_pop popped)).state
  have quiet : waiting.Quiet := same ▸ marked.handOut popped
  have ticked : done = (waiting.dispatch job).1 := by
    simp only [done, tick, taken]
  rw [ticked, occupancy_dispatch, if_pos rfl]
  constructor
  · intro inTime
    refine ⟨fun stage reaches => reaches.holds (quiet.free_occupancy job.block) idle, ?_⟩
    exact Dispatch.occupancy_run _ inTime
  · intro late
    obtain ⟨deadline, _, abandoned⟩ :=
      Dispatch.run_of_late waiting.settings ((waiting.isLate_opening job).trans late)
    rw [abandoned]
    rfl

/-- In every state that is reached all blocks are free, and the waiting jobs are as they were accepted,
for blocks that are known. When a tick dispatches a job, its block need not be made and is not held by
another job. The report of the tick is coherent, and again all blocks are free. -/
theorem bus_free_between_calls {settings : Settings} (built : ofSettings? settings = .ok scheduler)
    (calls : List Call) :
    let reached := scheduler.after calls
    reached.Quiet ∧ ∀ elapsed,
      (∀ waiting job, (reached.advance elapsed).markOverdue.dequeue = (waiting, some job) →
        waiting.blocks.get? job.block.number = some (waiting.occupancy job.block) ∧
          (waiting.occupancy job.block).isHeldAgainst job.id = false) ∧
      (reached.tick elapsed).2.Coherent (reached.tick elapsed).1.now := by
  intro reached
  have quiet : reached.Quiet := quiet_after built calls
  refine ⟨quiet, fun elapsed => ⟨fun waiting job taken => ?_, ?_⟩⟩
  · obtain ⟨rest, popped, rfl⟩ := dequeue_eq_some taken
    have ready := quiet.awaited elapsed
    exact ⟨ready.get?_block (Pending.mem_of_pop popped),
      (ready.free_occupancy job.block).isHeldAgainst job.id⟩
  · exact (reached.perform_step (.tick elapsed)).coherent quiet

/-- Of three jobs, two for a block that is not known from the start, one is given up for its deadline and
one is completed. The third one finds the block of the first free. -/
theorem bus_free_after_missed_deadline :
    let calls : List Call := [
      .enqueue (.inTurn .write ⟨9⟩ .med (some 5)), .enqueue (.inTurn .readAll ⟨1⟩ .med none),
      .enqueue (.inTurn .write ⟨9⟩ .med none), .tick 10, .tick 0]
    let scheduler := ofSettings Settings.standard
    let reached := scheduler.after calls
    ofSettings? Settings.standard = .ok scheduler ∧ reached.tallyReport.deadlineMisses = 1 ∧
      reached.tallyReport.completed = 1 ∧ reached.Quiet ∧
      ∃ waiting job, (reached.advance 3).markOverdue.dequeue = (waiting, some job) ∧ job.id = ⟨2⟩ ∧
        waiting.blocks.get? 9 = some (waiting.occupancy ⟨9⟩) ∧
        (waiting.occupancy ⟨9⟩).isHeldAgainst ⟨2⟩ = false ∧
        (reached.tick 3).2.Coherent (reached.tick 3).1.now := by
  intro calls scheduler reached
  have built : ofSettings? Settings.standard = .ok scheduler := rfl
  have third : (reached.advance 3).markOverdue.dequeue.2.map (fun job => (job.id, job.block)) =
      some (⟨2⟩, ⟨9⟩) := by decide +kernel
  obtain ⟨quiet, next⟩ := bus_free_between_calls built calls
  obtain ⟨finds, coherent⟩ := next 3
  obtain ⟨job, taken, same⟩ := Option.map_eq_some_iff.mp third
  obtain ⟨named, block⟩ := Prod.mk.inj same
  have dequeues : (reached.advance 3).markOverdue.dequeue =
      ((reached.advance 3).markOverdue.dequeue.1, some job) := by rw [← taken]
  obtain ⟨found, held⟩ := finds _ job dequeues
  rw [block] at found held
  rw [named] at held
  refine ⟨built, by decide +kernel, by decide +kernel, quiet, _, job, dequeues, named, ?_, ?_, ?_⟩
  · exact found
  · exact held
  · exact coherent

end Scheduler

end NvMemory
