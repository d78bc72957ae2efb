import NvMemory.Proofs.Scheduler

/-!
A scheduler serves one queue for each class of jobs.

`Lanes.follow` moves the lanes on as calls are accepted, without a clock and without ranks. The
scheduler keeps step with them: at any time the jobs that wait are those in the lanes, and the job
that leaves is the first of the first lane.
-/

namespace NvMemory

def Request.urgency (request : Request) : Urgency :=
  ⟨request.immediate, request.priority⟩

namespace Lanes

open Scheduler (Call Reply)

/-- The lanes after a call with this reply. -/
def follow (lanes : Lanes) : Call → Reply → Lanes
  | .enqueue request, .enqueued job => lanes.append request.urgency job
  | .dequeue, _ | .tick _, _ => lanes.take.2
  | .reset, _ => empty
  | _, _ => lanes

def followAll (lanes : Lanes) (run : List (Call × Reply)) : Lanes :=
  run.foldl (fun lanes step => lanes.follow step.1 step.2) lanes

end Lanes

namespace Scheduler

variable {scheduler final : Scheduler} {call : Call} {reply : Reply}

def lanes (scheduler : Scheduler) : Lanes :=
  .ofJobs scheduler.pending.jobs

theorem lanes_congr (same : final.pending = scheduler.pending) : final.lanes = scheduler.lanes := by
  simp only [lanes, same]

theorem Orderly.take_lanes (orderly : scheduler.Orderly) :
    scheduler.lanes.take = (scheduler.pending.pop.1, .ofJobs scheduler.pending.pop.2.jobs) :=
  Pending.pop_eq_take orderly.arrived

theorem Orderly.pendingViews (orderly : scheduler.Orderly) :
    scheduler.pendingViews = scheduler.lanes.listing.map (·.view scheduler.now) := by
  rw [Scheduler.pendingViews, Pending.ordered_eq_listing orderly.arrived, lanes]

/-- Every call moves the lanes of the scheduler on as it does lanes that have no clock. -/
theorem Step.follow (step : Step scheduler call final reply) (orderly : scheduler.Orderly) :
    scheduler.lanes.follow call reply = final.lanes := by
  have taken := orderly.take_lanes
  cases step with
  | @enqueued request =>
      obtain ⟨_, _, _, same⟩ := scheduler.accept_eq (scheduler.newJob request)
      rw [same]
      -- the class of the new job is that of the request
      exact (Lanes.ofJobs_concat scheduler.pending.jobs (scheduler.newJob request)).symm
  | handedOut popped =>
      rw [popped] at taken
      exact congrArg Prod.snd taken
  | nothingPending missing =>
      rw [Pending.pop_of_none missing] at taken
      exact congrArg Prod.snd taken
  | dispatched popped runs =>
      rw [popped] at taken
      rw [lanes_congr (dispatch_spec runs).pending]
      exact congrArg Prod.snd taken
  | idled missing =>
      rw [Pending.pop_of_none missing] at taken
      rw [lanes_congr (scheduler.pending_awaited _)]
      exact congrArg Prod.snd taken
  | scaled accepted =>
      rw [setTimeScale_eq accepted]
      rfl
  | turnedAway | scaleRefused | reset => rfl

theorem Orderly.followAll (orderly : scheduler.Orderly) (calls : List Call) :
    scheduler.lanes.followAll (calls.zip (scheduler.replies calls)) =
      (scheduler.after calls).lanes := by
  induction calls generalizing scheduler with
  | nil => rfl
  | cons call rest ih =>
      have step := scheduler.perform_step call
      rw [replies_cons, List.zip_cons_cons, Lanes.followAll, List.foldl_cons, step.follow orderly]
      exact ih (step.orderly orderly)

theorem Step.dequeued (step : Step scheduler .dequeue final reply) (orderly : scheduler.Orderly) :
    reply = .dequeued scheduler.lanes.take.1 := by
  rw [orderly.take_lanes]
  cases step with
  | handedOut popped => rw [popped]
  | nothingPending missing => rw [missing]

/-- A tick dispatches the first job of the first lane, if there is one, and reports the others in the
order of their lanes. -/
theorem Step.ticked {elapsed : Nat} (step : Step scheduler (.tick elapsed) final reply)
    (orderly : scheduler.Orderly) :
    ∃ report, reply = .ticked report ∧
      report.dispatched.map Prod.fst = scheduler.lanes.take.1.map (·.view report.time) ∧
      report.outcome?.map Outcome.job = scheduler.lanes.take.1.map Job.id ∧
      report.queue = scheduler.lanes.take.2.listing.map (·.view report.time) := by
  have followed : scheduler.lanes.take.2 = final.lanes := step.follow orderly
  have listed := (step.orderly orderly).pendingViews
  have first := congrArg Prod.fst orderly.take_lanes
  rw [← followed] at listed
  cases step with
  | dispatched popped runs =>
      have spec := dispatch_spec runs
      have idle := orderly.idle _ (Pending.mem_of_pop popped)
      rw [popped] at first
      refine ⟨_, rfl, ?_, ?_, listed⟩
      · rw [first]
        exact congrArg some (spec.view idle)
      · rw [first]
        exact congrArg some spec.outcome
  | idled missing =>
      rw [missing] at first
      refine ⟨_, rfl, ?_, ?_, listed⟩
      · rw [first]
        rfl
      · rw [first]
        rfl

/-- A scheduler with settings that it can work with does what one queue for each class of jobs does,
whatever it is called for, and also once its clock stands still: it lists the jobs that wait in
the order of the lanes, and the job that a call takes out or a tick dispatches is the first of the
first lane. -/
theorem scheduler_serves_lanes {settings : Settings} (built : ofSettings? settings = .ok scheduler)
    (calls : List Call) :
    let reached := scheduler.after calls
    let lanes := Lanes.empty.followAll (calls.zip (scheduler.replies calls))
    reached.pendingViews = lanes.listing.map (·.view reached.now) ∧
      (reached.perform .dequeue).2 = .dequeued lanes.take.1 ∧
      ∀ elapsed, ∃ report, (reached.perform (.tick elapsed)).2 = .ticked report ∧
        report.dispatched.map Prod.fst = lanes.take.1.map (·.view report.time) ∧
        report.outcome?.map Outcome.job = lanes.take.1.map Job.id ∧
        report.queue = lanes.take.2.listing.map (·.view report.time) := by
  intro reached lanes
  have empty := pending_of_ofSettings? built
  have fresh : scheduler.Orderly := orderly_of_empty (congrArg Pending.jobs empty)
  have orderly : reached.Orderly := fresh.after calls
  have same : lanes = reached.lanes := by
    have none : Lanes.empty = scheduler.lanes := by
      rw [Scheduler.lanes, empty]
      exact Lanes.ofJobs_nil.symm
    rw [← fresh.followAll calls, ← none]
  rw [same]
  refine ⟨orderly.pendingViews, ?_, fun elapsed => ?_⟩
  · exact (reached.perform_step .dequeue).dequeued orderly
  · exact (reached.perform_step (.tick elapsed)).ticked orderly

/-- Five jobs arrive, and the one with a high priority is dispatched in between. The job that is
immediate goes first although its priority is low. -/
theorem lanes_served_across_tick :
    let calls : List Call := [
      .enqueue (.inTurn .write ⟨1⟩ .low none), .enqueue (.inTurn .write ⟨1⟩ .high none), .tick 10,
      .enqueue { Request.inTurn .write ⟨1⟩ .low none with immediate := true },
      .enqueue (.inTurn .write ⟨1⟩ .med none), .enqueue (.inTurn .write ⟨1⟩ .low none)]
    let scheduler := ofSettings Settings.standard
    let reached := scheduler.after calls
    ofSettings? Settings.standard = .ok scheduler ∧
      reached.pendingViews.map JobView.id = [⟨2⟩, ⟨3⟩, ⟨0⟩, ⟨4⟩] ∧
      ∃ job, (reached.perform .dequeue).2 = .dequeued (some job) ∧ job.id = ⟨2⟩ := by
  intro calls scheduler reached
  have built : ofSettings? Settings.standard = .ok scheduler := rfl
  let lanes := Lanes.empty.followAll (calls.zip (scheduler.replies calls))
  have waiting : lanes.listing.map Job.id = [⟨2⟩, ⟨3⟩, ⟨0⟩, ⟨4⟩] := by decide +kernel
  have first : lanes.take.1.map Job.id = some ⟨2⟩ := by decide +kernel
  obtain ⟨listed, taken, _⟩ := scheduler_serves_lanes built calls
  obtain ⟨job, head, named⟩ := Option.map_eq_some_iff.mp first
  refine ⟨built, ?_, job, taken.trans (congrArg Reply.dequeued head), named⟩
  rw [listed, List.map_map]
  exact waiting

end Scheduler

end NvMemory
