import NvMemory.Proofs.Scheduler

/-!
Ticking until a job is completed.

A tick takes the first job from the queue. If the job is late, or if there is none, no time passes beyond
what the tick itself was given, and the queue goes on with the jobs that are left (`Orderly.tick_of_late`).
The ticks therefore meet the jobs one after the other, at instants that are known beforehand, until one of
them is in time.
-/

namespace NvMemory

/-- The outcome for a job that is given up at `time`, as it can only be for its deadline. -/
def Job.givenUp (job : Job) (time : Nat) : Outcome :=
  .deadlineMissed job.id job.kind job.block (job.deadline.getD 0) time

/-- The outcomes of `count` ticks, the first of which ends at `time 1`, that each find the next of the jobs
late or no job at all. -/
def misses (jobs : List Job) (time : Nat → Nat) (count : Nat) : List (Option Outcome) :=
  (List.range count).map fun index => jobs[index]?.map (·.givenUp (time (index + 1)))

theorem misses_succ (jobs : List Job) (time : Nat → Nat) (count : Nat) :
    misses jobs time (count + 1) =
      jobs.head?.map (·.givenUp (time 1)) ::
        misses jobs.tail (fun index => time (index + 1)) count := by
  simp [misses, List.range_succ_eq_map, List.head?_eq_getElem?, Function.comp_def]

namespace Scheduler

variable {scheduler final : Scheduler} {job : Job} {rest : Pending} {elapsed : Nat}

/-- The time after some ticks that have taken no time of their own. -/
def timeAfter (scheduler : Scheduler) (elapsed count : Nat) : Nat :=
  min (scheduler.now + count * elapsed) lastInstant

theorem timeAfter_zero (scheduler : Scheduler) (elapsed : Nat) :
    scheduler.timeAfter elapsed 0 = scheduler.now := by
  have bounded := scheduler.clock.withinTime
  rw [timeAfter, Nat.zero_mul, Nat.add_zero]
  exact Nat.min_eq_left bounded

theorem timeAfter_add {passed : Nat} (reached : final.now = scheduler.timeAfter elapsed passed)
    (count : Nat) : final.timeAfter elapsed count = scheduler.timeAfter elapsed (count + passed) := by
  simp only [timeAfter, Nat.add_mul] at reached ⊢
  omega

theorem dispatch_of_late (scheduler : Scheduler) (late : job.isLate scheduler.now = true) :
    let ended := scheduler.dispatch job
    ended.2.2 = job.givenUp scheduler.now ∧ ended.1.now = scheduler.now := by
  intro ended
  have passed : (scheduler.opening job).job.isLate (scheduler.opening job).now = true := late
  obtain ⟨deadline, set, same⟩ := Dispatch.run_of_late scheduler.settings passed
  have set : job.deadline = some deadline := set
  simp only [ended, dispatch_eq, same, Job.givenUp, set]
  exact ⟨rfl, rfl⟩

theorem now_awaited_eq (scheduler : Scheduler) (elapsed : Nat) :
    (scheduler.awaited elapsed).now = scheduler.timeAfter elapsed 1 := by
  rw [now_awaited, timeAfter, Nat.one_mul]
  rfl

/-- If the next job is late, or there is none, the queue goes on with the others after a tick. -/
theorem Orderly.tick_of_late (orderly : scheduler.Orderly)
    (late : ∀ job ∈ scheduler.pending.ordered.head?,
      job.isLate (scheduler.timeAfter elapsed 1) = true) :
    let ended := scheduler.tick elapsed
    ended.2.outcome? =
        scheduler.pending.ordered.head?.map (·.givenUp (scheduler.timeAfter elapsed 1)) ∧
      ended.1.pending.ordered = scheduler.pending.ordered.tail ∧
      ended.1.now = scheduler.timeAfter elapsed 1 := by
  intro ended
  have time := scheduler.now_awaited_eq elapsed
  cases popped : scheduler.pending.pop with
  | mk head rest =>
      cases head with
      | none =>
          have missing := congrArg Prod.fst popped
          simp only [ended, tick_of_none missing, Pending.ordered_of_none missing, pending_awaited]
          exact ⟨rfl, rfl, time⟩
      | some job =>
          have listed := Pending.ordered_of_pop orderly.distinct popped
          rw [listed] at late ⊢
          let waiting := (scheduler.awaited elapsed).handOut job rest
          have start : waiting.now = scheduler.timeAfter elapsed 1 := time
          have passed : job.isLate waiting.now = true := start ▸ late job rfl
          obtain ⟨outcome, same⟩ := waiting.dispatch_of_late passed
          have taken : (waiting.dispatch job).1.pending = rest := (dispatch_spec rfl).pending
          simp only [ended, tick_of_some popped]
          refine ⟨congrArg some (outcome.trans ?_), congrArg Pending.ordered taken, same.trans start⟩
          rw [start]

theorem dispatch_of_inTime (scheduler : Scheduler) (inTime : job.isLate scheduler.now = false) :
    ∃ execution retries,
      (scheduler.dispatch job).2.2 = .completed job.id job.kind job.block execution retries := by
  have early : (scheduler.opening job).job.isLate (scheduler.opening job).now = false := inTime
  have executes := Dispatch.run_of_inTime scheduler.settings early
  obtain ⟨execution, retries, _, _, _, outcome⟩ :=
    Dispatch.execute_counts scheduler.settings (scheduler.opening job)
  exact ⟨execution, _, (congrArg Prod.snd executes).trans outcome⟩

theorem Orderly.tick_of_inTime (orderly : scheduler.Orderly)
    (next : scheduler.pending.ordered.head? = some job)
    (inTime : job.isLate (scheduler.timeAfter elapsed 1) = false) :
    let ended := scheduler.tick elapsed
    (∃ execution retries, ended.2.outcome? =
        some (.completed job.id job.kind job.block execution retries)) ∧
      ended.1.pending.ordered = scheduler.pending.ordered.tail := by
  intro ended
  have time := scheduler.now_awaited_eq elapsed
  cases popped : scheduler.pending.pop with
  | mk head rest =>
      cases head with
      | none => simp [Pending.ordered_of_none (congrArg Prod.fst popped)] at next
      | some first =>
          have listed := Pending.ordered_of_pop orderly.distinct popped
          obtain rfl : first = job := by simpa [listed] using next
          let waiting := (scheduler.awaited elapsed).handOut first rest
          have start : waiting.now = scheduler.timeAfter elapsed 1 := time
          obtain ⟨execution, retries, outcome⟩ := waiting.dispatch_of_inTime (start ▸ inTime)
          have taken : (waiting.dispatch first).1.pending = rest := (dispatch_spec rfl).pending
          simp only [ended, tick_of_some popped, listed]
          exact ⟨⟨execution, retries, congrArg some outcome⟩, congrArg Pending.ordered taken⟩

theorem sweep_of_completed (completes : (scheduler.tick elapsed).2.isCompleted = true)
    (limit : Nat) :
    scheduler.tickUntilCompleted elapsed (limit + 1) =
      ((scheduler.tick elapsed).1, [(scheduler.tick elapsed).2]) := by
  rw [tickUntilCompleted]
  exact if_pos completes

theorem sweep_of_unfinished (unfinished : (scheduler.tick elapsed).2.isCompleted = false)
    (limit : Nat) :
    let others := (scheduler.tick elapsed).1.tickUntilCompleted elapsed limit
    scheduler.tickUntilCompleted elapsed (limit + 1) =
      (others.1, (scheduler.tick elapsed).2 :: others.2) := by
  rw [tickUntilCompleted]
  exact if_neg (Bool.eq_false_iff.mp unfinished)

/-- After some ticks that each find a late job or none, the rest of the sweep is a sweep of its own. -/
theorem Orderly.sweep_late (orderly : scheduler.Orderly) {count : Nat}
    (late : ∀ index < count, ∀ job ∈ scheduler.pending.ordered[index]?,
      job.isLate (scheduler.timeAfter elapsed (index + 1)) = true) :
    ∃ middle : Scheduler, ∃ reports : List TickReport, middle.Orderly ∧
      middle.pending.ordered = scheduler.pending.ordered.drop count ∧
      middle.now = scheduler.timeAfter elapsed count ∧
      reports.map TickReport.outcome? =
        misses scheduler.pending.ordered (scheduler.timeAfter elapsed) count ∧
      ∀ limit, scheduler.tickUntilCompleted elapsed (count + limit) =
        ((middle.tickUntilCompleted elapsed limit).1,
          reports ++ (middle.tickUntilCompleted elapsed limit).2) := by
  induction count generalizing scheduler with
  | zero =>
      refine ⟨scheduler, [], orderly, rfl, (scheduler.timeAfter_zero elapsed).symm, rfl, fun limit => ?_⟩
      rw [Nat.zero_add]
      rfl
  | succ count ih =>
      have first : ∀ job ∈ scheduler.pending.ordered.head?,
          job.isLate (scheduler.timeAfter elapsed 1) = true := by
        rw [List.head?_eq_getElem?]
        exact late 0 (Nat.zero_lt_succ _)
      obtain ⟨outcome, listed, time⟩ := orderly.tick_of_late first
      have unfinished : (scheduler.tick elapsed).2.isCompleted = false := by
        rw [TickReport.isCompleted, outcome]
        cases scheduler.pending.ordered.head? <;> rfl
      have skips := sweep_of_unfinished unfinished
      have orderly : (scheduler.tick elapsed).1.Orderly :=
        (scheduler.perform_step (.tick elapsed)).orderly orderly
      generalize scheduler.tick elapsed = ended at *
      -- what is the first tick for the others is the second one from here
      have times : ended.1.timeAfter elapsed = fun index => scheduler.timeAfter elapsed (index + 1) :=
        funext (timeAfter_add time)
      have others : ∀ index < count, ∀ job ∈ ended.1.pending.ordered[index]?,
          job.isLate (ended.1.timeAfter elapsed (index + 1)) = true := by
        rw [listed, times]
        intro index inside job present
        rw [List.getElem?_tail] at present
        exact late (index + 1) (Nat.succ_lt_succ inside) job present
      obtain ⟨middle, reports, settled, jobs, now, missed, rest⟩ := ih orderly others
      rw [listed, times] at missed
      rw [listed, List.drop_tail] at jobs
      rw [times] at now
      refine ⟨middle, ended.2 :: reports, settled, jobs, now, ?_, fun limit => ?_⟩
      · rw [List.map_cons, outcome, missed, misses_succ]
      · rw [Nat.add_right_comm, skips, rest]
        rfl

/-- A sweep reports the late jobs in the order of their dispatch, each at the time of its tick, and ends with
the first job that is in time, behind which the others stay as they were. If it finds no such job, it goes on
for as many ticks as it may, also when the queue is empty, and takes no more time than they are given. -/
theorem sweep_ends_with_first_runnable_job {settings : Settings}
    (built : ofSettings? settings = .ok scheduler) (calls : List Call) (elapsed limit : Nat) :
    let reached := scheduler.after calls
    let jobs := reached.pending.ordered
    let time := fun count => min (reached.now + count * elapsed) lastInstant
    let swept := reached.tickUntilCompleted elapsed limit
    (∀ count job, count < limit → jobs[count]? = some job → job.isLate (time (count + 1)) = false →
      (∀ index < count, ∀ earlier ∈ jobs[index]?, earlier.isLate (time (index + 1)) = true) →
      (∃ execution retries, swept.2.map (·.outcome?) = misses jobs time count ++
        [some (.completed job.id job.kind job.block execution retries)]) ∧
      swept.1.pending.ordered = jobs.drop (count + 1)) ∧
    ((∀ index < limit, ∀ job ∈ jobs[index]?, job.isLate (time (index + 1)) = true) →
      swept.2.map (·.outcome?) = misses jobs time limit ∧ swept.1.now = time limit) := by
  intro reached jobs time swept
  have orderly : reached.Orderly := (orderly_of_ofSettings? built).after calls
  constructor
  · intro count job inside present inTime late
    obtain ⟨middle, reports, settled, left, now, missed, rest⟩ := orderly.sweep_late late
    obtain ⟨more, rfl⟩ : ∃ more, limit = count + (more + 1) := ⟨limit - (count + 1), by omega⟩
    have next : middle.pending.ordered.head? = some job := by
      rw [left, List.head?_drop]
      exact present
    have early : job.isLate (middle.timeAfter elapsed 1) = false := by
      rw [timeAfter_add now, Nat.add_comm]
      exact inTime
    obtain ⟨⟨execution, retries, outcome⟩, others⟩ := settled.tick_of_inTime next early
    have completes : (middle.tick elapsed).2.isCompleted = true := by
      rw [TickReport.isCompleted, outcome]
      rfl
    have ends : swept = ((middle.tick elapsed).1, reports ++ [(middle.tick elapsed).2]) := by
      simp only [swept, rest, sweep_of_completed completes]
    rw [ends]
    refine ⟨⟨execution, retries, ?_⟩, ?_⟩
    · rw [List.map_append, List.map_singleton, missed, outcome]
      rfl
    · rw [others, left, List.tail_drop]
  · intro late
    obtain ⟨middle, reports, settled, left, now, missed, rest⟩ := orderly.sweep_late late
    have ends : swept = (middle, reports) := by
      simpa [tickUntilCompleted] using rest 0
    rw [ends]
    exact ⟨missed, now⟩

/-- Of three jobs the first is late, and the second is completed in the next tick. By itself the first leaves
nothing to be done in the other ticks. -/
theorem sweep_passes_over_late_job :
    let calls : List Call := [
      .enqueue (.inTurn .write ⟨1⟩ .high (some 3)), .enqueue (.inTurn .write ⟨1⟩ .low none),
      .enqueue (.inTurn .write ⟨1⟩ .med (some 30))]
    let scheduler := ofSettings Settings.standard
    let swept := (scheduler.after calls).tickUntilCompleted 5 9
    let alone := (scheduler.after (calls.take 1)).tickUntilCompleted 5 3
    let missed := Outcome.deadlineMissed ⟨0⟩ .write ⟨1⟩ 3 5
    ofSettings? Settings.standard = .ok scheduler ∧
      (∃ execution retries, swept.2.map (·.outcome?) =
        [some missed, some (.completed ⟨2⟩ .write ⟨1⟩ execution retries)]) ∧
      swept.1.pending.ordered.map Job.id = [⟨1⟩] ∧
      alone.2.map (·.outcome?) = [some missed, none, none] ∧ alone.1.now = 15 := by
  intro calls scheduler swept alone missed
  have built : ofSettings? Settings.standard = .ok scheduler := rfl
  obtain ⟨finds, _⟩ := sweep_ends_with_first_runnable_job built calls 5 9
  obtain ⟨_, exhausts⟩ := sweep_ends_with_first_runnable_job built (calls.take 1) 5 3
  have second : (scheduler.after calls).pending.ordered[1]?.map
      (fun job => (job.id, job.kind, job.block, job.isLate 10)) =
        some (⟨2⟩, .write, ⟨1⟩, false) := by decide +kernel
  obtain ⟨job, present, same⟩ := Option.map_eq_some_iff.mp second
  simp only [Prod.mk.injEq] at same
  obtain ⟨id, kind, block, inTime⟩ := same
  obtain ⟨⟨execution, retries, outcomes⟩, left⟩ :=
    finds 1 job (by decide) present inTime (by decide +kernel)
  obtain ⟨none, now⟩ := exhausts (by decide +kernel)
  have first : misses (scheduler.after calls).pending.ordered
      (fun count => min ((scheduler.after calls).now + count * 5) lastInstant) 1 = [some missed] := by
    decide +kernel
  rw [id, kind, block, first] at outcomes
  refine ⟨built, ⟨execution, retries, outcomes⟩, ?_, none.trans ?_, now.trans ?_⟩
  · rw [left]
    decide +kernel
  · decide +kernel
  · decide +kernel

end Scheduler

end NvMemory
