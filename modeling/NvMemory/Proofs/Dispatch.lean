import NvMemory.Scheduler.Dispatch

/-!
What a dispatch leaves as it is, and what it counts.

Every part of a dispatch moves the time on and changes nothing of the job but its state and its
retries (`Dispatch.Progress`). What all its steps preserve holds at every stage that an execution comes to
(`Dispatch.Reaches`), up to the one from which it ends (`Dispatch.Concludes`). A job that was idle is idle again in the end. A late job is abandoned
and any other is completed, each of them under its own name (`Outcome.Concerns`). A completed job adds
its retries (`Dispatch.retriesDue`) and its time to the tally (`Dispatch.execute_exact`).
-/

namespace NvMemory

theorem Job.isLate_iff {job : Job} {now : Nat} :
    job.isLate now = true ↔ ∃ deadline, job.deadline = some deadline ∧ deadline < now := by
  cases set : job.deadline <;> simp [isLate, set]

theorem Job.isLate_mono {job : Job} {earlier later : Nat} (time : earlier ≤ later)
    (late : job.isLate earlier = true) : job.isLate later = true := by
  obtain ⟨deadline, set, passed⟩ := Job.isLate_iff.mp late
  exact Job.isLate_iff.mpr ⟨deadline, set, Nat.lt_of_lt_of_le passed time⟩

/-- The tally after some more retries, all of which succeeded. -/
def Tally.retried (tally : Tally) (retries : Nat) : Tally :=
  { tally with
    retries := tally.retries + retries
    recovered := tally.recovered + retries }

/-- The instant that is `latency` after `time`, unless time ends before. -/
def instantAfter (time : Nat) (latency : UInt64) : Nat :=
  min (time + latency.toNat) lastInstant

/-- The outcome tells the job, what it was to do, and the deadline that it missed as the view does. -/
inductive Outcome.Concerns (view : JobView) : Outcome → Prop
  | completed (execution retries : Nat) :
      Concerns view (.completed view.id view.kind view.block execution retries)
  | deadlineMissed {deadline : Nat} (set : view.deadline = some deadline) (time : Nat) :
      Concerns view (.deadlineMissed view.id view.kind view.block deadline time)

namespace Dispatch

variable {settings : Settings} {dispatch first second third : Dispatch}

/-- Time has not gone back, and the job is the same but for its state and its retries. -/
structure Progress (first second : Dispatch) : Prop where
  time : first.now ≤ second.now
  job : ∃ state retries, second.job = { first.job with state := state, retries := retries }

theorem Progress.refl (dispatch : Dispatch) : dispatch.Progress dispatch :=
  ⟨Nat.le_refl _, _, _, rfl⟩

theorem Progress.trans (earlier : first.Progress second) (later : second.Progress third) :
    first.Progress third := by
  obtain ⟨_, _, job⟩ := earlier.job
  obtain ⟨state, retries, last⟩ := later.job
  exact ⟨Nat.le_trans earlier.time later.time, state, retries, by rw [last, job]⟩

theorem progress_enter (dispatch : Dispatch) (state : JobState) :
    dispatch.Progress (dispatch.enter state) :=
  ⟨Nat.le_refl _, _, _, rfl⟩

theorem progress_spend (dispatch : Dispatch) (elapsed : UInt64) :
    dispatch.Progress (dispatch.spend elapsed) :=
  ⟨dispatch.clock.now_le_advance _, _, _, rfl⟩

theorem progress_retry (dispatch : Dispatch) : dispatch.Progress dispatch.retry :=
  ⟨Nat.le_refl _, _, _, rfl⟩

/-- An execution that has come to the first stage may come to the second one before it ends. -/
inductive Reaches (first : Dispatch) : Dispatch → Prop
  | start : Reaches first first
  | enter {second : Dispatch} (reaches : Reaches first second) (state : JobState) :
      Reaches first (second.enter state)
  | spend {second : Dispatch} (reaches : Reaches first second) (elapsed : UInt64) :
      Reaches first (second.spend elapsed)
  | retry {second : Dispatch} (reaches : Reaches first second) : Reaches first second.retry

theorem Reaches.progress (reaches : first.Reaches second) : first.Progress second := by
  induction reaches with
  | start => exact .refl first
  | enter _ state ih => exact ih.trans (progress_enter _ state)
  | spend _ elapsed ih => exact ih.trans (progress_spend _ elapsed)
  | retry _ ih => exact ih.trans (progress_retry _)

theorem Reaches.read (reaches : first.Reaches second) : first.Reaches (read settings second) :=
  (((reaches.enter .reading).spend _).enter .readVerify).spend _

theorem Reaches.write (reaches : first.Reaches second) : first.Reaches (write settings second) := by
  have written := (reaches.enter .writing).spend settings.writeLatency
  simp only [Dispatch.write]
  split
  · exact (written.retry.enter .writeVerify).spend _
  · exact (written.enter .writeVerify).spend _

/-- From its last stage an execution has ended: the job is idle and its block is free, and no more time has
passed. -/
structure Concludes (last ended : Dispatch) : Prop where
  job : ended.job = { last.job with state := .idle }
  occupancy : ended.occupancy = last.occupancy.release last.now
  clock : ended.clock = last.clock
  journal : ∃ level message fields,
    ended.journal = last.journal.record ⟨last.now, level, message, fields⟩

theorem concludes_finish (settings : Settings) (dispatch : Dispatch) :
    ((dispatch.enter .completing).spend settings.completionLatency).Concludes
      (finish settings dispatch).1 :=
  ⟨rfl, rfl, rfl, _, _, _, rfl⟩

theorem Concludes.now (concludes : first.Concludes second) : second.now = first.now :=
  congrArg Clock.now concludes.clock

theorem Concludes.progress (concludes : first.Concludes second) : first.Progress second :=
  ⟨Nat.le_of_eq concludes.now.symm, .idle, first.job.retries, concludes.job⟩

/-- The dispatch once the job has been given its block. -/
def held (dispatch : Dispatch) : Dispatch :=
  { dispatch with occupancy := dispatch.occupancy.occupy dispatch.job.id }

theorem execute_of_write (writes : dispatch.job.kind.isWrite = true) :
    execute settings dispatch = finish settings (write settings dispatch.held) :=
  congrArg (finish settings) (if_pos writes)

theorem execute_of_read (reads : ¬ dispatch.job.kind.isWrite = true) :
    execute settings dispatch = finish settings (read settings dispatch.held) :=
  congrArg (finish settings) (if_neg reads)

theorem progress_held (dispatch : Dispatch) : dispatch.Progress dispatch.held :=
  ⟨Nat.le_refl _, _, _, rfl⟩

/-- An execution takes the block of its job and comes to a last stage, from which it ends. -/
theorem execute_reaches (settings : Settings) (dispatch : Dispatch) :
    ∃ last, dispatch.held.Reaches last ∧ last.job.state = .completing ∧
      last.Concludes (execute settings dispatch).1 := by
  have finished {worked : Dispatch} (reaches : dispatch.held.Reaches worked) :
      ∃ last, dispatch.held.Reaches last ∧ last.job.state = .completing ∧
        last.Concludes (finish settings worked).1 :=
    ⟨_, (reaches.enter .completing).spend _, rfl, concludes_finish settings worked⟩
  by_cases writes : dispatch.job.kind.isWrite = true
  case pos =>
    rw [execute_of_write writes]
    exact finished Reaches.start.write
  case neg =>
    rw [execute_of_read writes]
    exact finished Reaches.start.read

theorem progress_execute (settings : Settings) (dispatch : Dispatch) :
    dispatch.Progress (execute settings dispatch).1 := by
  obtain ⟨last, reaches, _, concludes⟩ := execute_reaches settings dispatch
  exact (progress_held dispatch).trans (reaches.progress.trans concludes.progress)

theorem progress_run (settings : Settings) (dispatch : Dispatch) :
    dispatch.Progress (run settings dispatch).1 := by
  unfold run
  split
  · exact ⟨Nat.le_refl _, _, _, rfl⟩
  · exact progress_execute settings dispatch

theorem state_run (settings : Settings) (idle : dispatch.job.state = .idle) :
    (run settings dispatch).1.job.state = .idle := by
  unfold run
  split
  · exact idle
  · rfl

theorem job_outcome_run (settings : Settings) (dispatch : Dispatch) :
    (run settings dispatch).2.job = dispatch.job.id := by
  have named : (run settings dispatch).2.job = (run settings dispatch).1.job.id := by
    unfold run
    split <;> rfl
  obtain ⟨_, _, job⟩ := (progress_run settings dispatch).job
  rw [named, job]

/-- A late job is abandoned, and any other is executed. -/
theorem run_cases (settings : Settings) (dispatch : Dispatch) :
    (∃ deadline, dispatch.job.deadline = some deadline ∧ deadline < dispatch.now ∧
      run settings dispatch = dispatch.abandon deadline) ∨
    (dispatch.job.isLate dispatch.now = false ∧
      run settings dispatch = dispatch.execute settings) := by
  cases set : dispatch.job.deadline with
  | none => exact .inr ⟨by simp [Job.isLate, set], by simp only [run, set, Option.filter_none]⟩
  | some deadline =>
      by_cases passed : deadline < dispatch.now
      · refine .inl ⟨deadline, rfl, passed, ?_⟩
        simp only [run, set, Option.filter_some, passed, decide_true, if_true]
      · refine .inr ⟨by simp [Job.isLate, set, Nat.le_of_not_lt passed], ?_⟩
        simp only [run, set, Option.filter_some, passed, decide_false, Bool.false_eq_true, if_false]

theorem run_of_inTime (settings : Settings)
    (inTime : dispatch.job.isLate dispatch.now = false) :
    run settings dispatch = execute settings dispatch := by
  rcases run_cases settings dispatch with ⟨deadline, set, passed, _⟩ | ⟨_, same⟩
  · have late := Job.isLate_iff.mpr ⟨deadline, set, passed⟩
    rw [inTime] at late
    contradiction
  · exact same

theorem run_of_late (settings : Settings)
    (late : dispatch.job.isLate dispatch.now = true) :
    ∃ deadline, dispatch.job.deadline = some deadline ∧
      run settings dispatch = dispatch.abandon deadline := by
  rcases run_cases settings dispatch with ⟨deadline, set, _, same⟩ | ⟨inTime, _⟩
  · exact ⟨deadline, set, same⟩
  · rw [late] at inTime
    contradiction

theorem verifyFails_iff :
    verifyFails settings dispatch = true ↔
      dispatch.job.retries < dispatch.job.maxRetries ∧
        settings.retryModulus.toNat ∣ dispatch.now := by
  simp [verifyFails, Job.mayRetry, Nat.dvd_iff_mod_eq_zero]

/-- How often a write that begins at `dispatch.now` is retried. -/
def retriesDue (settings : Settings) (dispatch : Dispatch) : Nat :=
  if dispatch.job.kind.isWrite ∧ dispatch.job.retries < dispatch.job.maxRetries ∧
      settings.retryModulus.toNat ∣ instantAfter dispatch.now settings.writeLatency then 1
  else 0

theorem retriesDue_le (settings : Settings) (dispatch : Dispatch) :
    retriesDue settings dispatch ≤ 1 := by
  unfold retriesDue
  split
  · exact Nat.le_refl 1
  · exact Nat.zero_le 1

/-- Each retry is counted as one that succeeded. -/
theorem write_retries (settings : Settings) (dispatch : Dispatch)
    (writes : dispatch.job.kind.isWrite = true) :
    (write settings dispatch).tally = dispatch.tally.retried (retriesDue settings dispatch) ∧
      (write settings dispatch).job =
        { dispatch.job with
          state := .writeVerify
          retries := dispatch.job.retries + retriesDue settings dispatch } := by
  simp only [write]
  split
  · rename_i fails
    have due : retriesDue settings dispatch = 1 := if_pos ⟨writes, verifyFails_iff.mp fails⟩
    rw [due]
    exact ⟨rfl, rfl⟩
  · rename_i passes
    have due : retriesDue settings dispatch = 0 :=
      if_neg fun fails => passes (verifyFails_iff.mpr fails.2)
    rw [due]
    exact ⟨rfl, rfl⟩

theorem finish_exact (settings : Settings) (dispatch : Dispatch) :
    let ended := finish settings dispatch
    let execution := ended.1.now - dispatch.job.startedAt
    ended.1.tally = dispatch.tally.complete execution ∧
      ended.2 = .completed dispatch.job.id dispatch.job.kind dispatch.job.block execution
        dispatch.job.retries :=
  ⟨rfl, rfl⟩

theorem execute_exact (settings : Settings) (dispatch : Dispatch) :
    let ended := execute settings dispatch
    let execution := ended.1.now - dispatch.job.startedAt
    ended.1.tally = (dispatch.tally.retried (retriesDue settings dispatch)).complete execution ∧
      ended.2 = .completed dispatch.job.id dispatch.job.kind dispatch.job.block execution
        (dispatch.job.retries + retriesDue settings dispatch) := by
  intro ended execution
  by_cases writes : dispatch.job.kind.isWrite = true
  case pos =>
    obtain ⟨tally, job⟩ := write_retries settings dispatch.held writes
    have finished := finish_exact settings (write settings dispatch.held)
    rw [tally, job, ← execute_of_write writes] at finished
    exact finished
  case neg =>
    have due : retriesDue settings dispatch = 0 := if_neg fun due => writes due.1
    have finished := finish_exact settings (read settings dispatch.held)
    rw [← execute_of_read writes] at finished
    rw [due]
    exact finished

/-- An executed job is counted as completed, with the time and the retries that its outcome tells. -/
theorem execute_counts (settings : Settings) (dispatch : Dispatch) :
    ∃ execution retries, execution ≤ lastInstant ∧ retries ≤ 1 ∧
      (execute settings dispatch).1.tally =
        (dispatch.tally.retried retries).complete execution ∧
      (execute settings dispatch).2 =
        .completed dispatch.job.id dispatch.job.kind dispatch.job.block execution
          (dispatch.job.retries + retries) := by
  have within : (execute settings dispatch).1.now - dispatch.job.startedAt ≤ lastInstant :=
    Nat.le_trans (Nat.sub_le _ _) (execute settings dispatch).1.clock.withinTime
  exact ⟨_, _, within, retriesDue_le settings dispatch, execute_exact settings dispatch⟩

theorem isCompleted_run (settings : Settings) (dispatch : Dispatch) :
    (run settings dispatch).2.isCompleted = !dispatch.job.isLate dispatch.now := by
  rcases run_cases settings dispatch with ⟨deadline, set, passed, same⟩ | ⟨inTime, same⟩
  · rw [same, Job.isLate_iff.mpr ⟨deadline, set, passed⟩]
    rfl
  · rw [same, inTime]
    rfl

theorem timeouts_run (settings : Settings) (dispatch : Dispatch) :
    (run settings dispatch).1.tally.timeouts = dispatch.tally.timeouts := by
  rcases run_cases settings dispatch with ⟨deadline, _, _, same⟩ | ⟨_, same⟩
  · rw [same]
    rfl
  · rw [same]
    obtain ⟨_, _, _, _, counted, _⟩ := execute_counts settings dispatch
    rw [counted]
    rfl

theorem deadlineMisses_run (settings : Settings) (dispatch : Dispatch) :
    (run settings dispatch).1.tally.deadlineMisses =
      dispatch.tally.deadlineMisses + if dispatch.job.isLate dispatch.now then 1 else 0 := by
  rcases run_cases settings dispatch with ⟨deadline, set, passed, same⟩ | ⟨inTime, same⟩
  · rw [same, if_pos (Job.isLate_iff.mpr ⟨deadline, set, passed⟩)]
    rfl
  · rw [same, inTime]
    obtain ⟨_, _, _, _, counted, _⟩ := execute_counts settings dispatch
    rw [counted]
    rfl

theorem concerns_run (settings : Settings) (dispatch : Dispatch) (time : Nat) :
    (run settings dispatch).2.Concerns (dispatch.job.view time) := by
  rcases run_cases settings dispatch with ⟨deadline, set, _, same⟩ | ⟨_, same⟩
  · rw [same]
    exact .deadlineMissed set _
  · obtain ⟨_, _, _, _, _, outcome⟩ := execute_counts settings dispatch
    rw [same, outcome]
    exact .completed _ _

end Dispatch

end NvMemory
