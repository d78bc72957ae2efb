import NvMemory.Proofs.Untargeted

/-!
The course of events depends on urgency and timing only.

Two schedulers whose settings agree on the timing, and that are asked for jobs which differ in nothing but
their targets, keep step with each other: they accept and dispatch the same jobs at the same times, with
the same outcomes and counts. Neither their blocks nor their journals nor the time scale have a part in it.
-/

namespace NvMemory

namespace TickReport

/-- The report without its blocks, without the time scale and without the targets of its jobs. -/
def untargeted (report : TickReport) : TickReport :=
  { report with
    timeScale := 1
    queue := report.queue.map JobView.untargeted
    inFlight := report.inFlight.map JobView.untargeted
    outcome? := report.outcome?.map Outcome.untargeted
    blocks := WordMap.empty }

end TickReport

namespace Scheduler

def Reply.untargeted : Reply → Reply
  | .enqueued job => .enqueued job.untargeted
  | .dequeued job => .dequeued (job.map Job.untargeted)
  | .ticked report => .ticked report.untargeted
  | .done => .done
  | .refused error => .refused error

def Call.untargeted : Call → Call
  | .enqueue request => .enqueue request.untargeted
  | call => call

def Call.isScaling : Call → Bool
  | .setTimeScale _ => true
  | _ => false

/-- What is asked of a scheduler by these calls, but for the time scale and for the targets. -/
def schedule (calls : List Call) : List Call :=
  (calls.filter (!·.isScaling)).map Call.untargeted

/-- What can be seen of a scheduler right after a call, targets, blocks and the time scale left out. -/
structure Moment where
  reply : Reply
  time : Nat
  pending : List JobView
  tally : Tally
deriving Repr

def moment (scheduler : Scheduler) (reply : Reply) : Moment where
  reply := reply.untargeted
  time := scheduler.now
  pending := scheduler.pendingViews.map JobView.untargeted
  tally := scheduler.tally

/-- The moments after each of the calls that do not set the time scale. -/
def timeline (scheduler : Scheduler) : List Call → List Moment
  | [] => []
  | call :: rest =>
      let (next, reply) := scheduler.perform call
      if call.isScaling then next.timeline rest else next.moment reply :: next.timeline rest

/-- The schedulers differ in nothing that decides on the course of events. -/
structure Alike (first second : Scheduler) : Prop where
  settings : first.settings.SameTiming second.settings
  clock : first.clock = second.clock
  pending : first.pending.untargeted = second.pending.untargeted
  nextId : first.nextId = second.nextId
  tally : first.tally = second.tally
  overdue : first.overdue = second.overdue

variable {first second : Scheduler} {job twin : Job} {rest remaining : Pending}

theorem alike_ofSettings {settings other : Settings} (same : settings.SameTiming other) :
    (ofSettings settings).Alike (ofSettings other) :=
  ⟨same, rfl, rfl, rfl, rfl, rfl⟩

theorem Alike.now (alike : first.Alike second) : first.now = second.now :=
  congrArg Clock.now alike.clock

theorem Alike.size (alike : first.Alike second) : first.pending.size = second.pending.size := by
  rw [← first.pending.size_untargeted, alike.pending, second.pending.size_untargeted]

theorem Alike.isFull (alike : first.Alike second) : first.isFull = second.isFull := by
  simp only [Scheduler.isFull, alike.settings.queueCapacity, alike.size]

theorem untargeted_pendingViews (scheduler : Scheduler) :
    scheduler.pendingViews.map JobView.untargeted =
      scheduler.pending.untargeted.ordered.map (·.view scheduler.now) := by
  simp only [pendingViews, Pending.ordered, Pending.untargeted, Pending.inOrder_untargeted,
    List.map_map]
  rfl

theorem Alike.pendingViews (alike : first.Alike second) :
    first.pendingViews.map JobView.untargeted = second.pendingViews.map JobView.untargeted := by
  rw [untargeted_pendingViews, untargeted_pendingViews, alike.pending, alike.now]

theorem Alike.moment (alike : first.Alike second) {reply answer : Reply}
    (same : reply.untargeted = answer.untargeted) : first.moment reply = second.moment answer := by
  simp only [Scheduler.moment, same, alike.now, alike.pendingViews, alike.tally]

/-! The calls, one by one. -/

theorem Alike.newJob (alike : first.Alike second) (request : Request) :
    (first.newJob request).untargeted = (second.newJob request.untargeted).untargeted := by
  simp only [Scheduler.newJob, Job.untargeted, Request.untargeted, JobKind.plain_plain, alike.nextId,
    alike.now, alike.settings.maxRetries]

theorem Alike.accept (alike : first.Alike second) (same : job.untargeted = twin.untargeted) :
    (first.accept job).Alike (second.accept twin) := by
  have tally := (first.tally_accept job).trans (Eq.trans ?_ (second.tally_accept twin).symm)
  · obtain ⟨_, _, _, left⟩ := first.accept_eq job
    obtain ⟨_, _, _, right⟩ := second.accept_eq twin
    rw [left, right] at tally ⊢
    refine ⟨alike.settings, alike.clock, ?_, congrArg JobId.next alike.nextId, tally, alike.overdue⟩
    have arrived := congrArg Pending.jobs alike.pending
    simp only [Pending.untargeted] at arrived
    simp only [Pending.untargeted, Pending.jobs_push, List.map_append, List.map_cons, List.map_nil,
      same, arrived]
  · rw [Pending.size_push, Pending.size_push, alike.size, alike.tally]

theorem Alike.turnAway (alike : first.Alike second) (request other : Request) :
    (first.turnAway request).Alike (second.turnAway other) :=
  { alike with tally := congrArg Tally.overflow alike.tally }

theorem untargeted_newlyOverdue (scheduler : Scheduler) :
    scheduler.newlyOverdue.map Job.untargeted = scheduler.pending.untargeted.jobs.filter fun job =>
      job.isLate scheduler.now && !scheduler.overdue.contains job.id := by
  simp only [newlyOverdue, Pending.untargeted, List.filter_map]
  rfl

theorem Alike.newlyOverdue (alike : first.Alike second) :
    first.newlyOverdue.map Job.id = second.newlyOverdue.map Job.id := by
  have same : first.newlyOverdue.map Job.untargeted = second.newlyOverdue.map Job.untargeted := by
    rw [untargeted_newlyOverdue, untargeted_newlyOverdue, alike.pending, alike.now, alike.overdue]
  -- the numbers of the jobs are the same with and without their targets
  have ids := congrArg (List.map Job.id) same
  rwa [List.map_map, List.map_map] at ids

theorem Alike.advance (alike : first.Alike second) (elapsed : Nat) :
    (first.advance elapsed).Alike (second.advance elapsed) :=
  { alike with clock := congrArg (·.advance elapsed) alike.clock }

theorem Alike.awaited (alike : first.Alike second) (elapsed : Nat) :
    (first.awaited elapsed).Alike (second.awaited elapsed) := by
  have advanced := alike.advance elapsed
  have ids := advanced.newlyOverdue
  have lengths := congrArg List.length ids
  rw [List.length_map, List.length_map] at lengths
  have overdue : (first.awaited elapsed).overdue = (second.awaited elapsed).overdue := by
    simp only [Scheduler.awaited, markOverdue, overdue_foldl_noteOverdue, ids, advanced.overdue]
  have tally : (first.awaited elapsed).tally = (second.awaited elapsed).tally := by
    simp only [Scheduler.awaited, markOverdue, tally_foldl_noteOverdue, lengths, advanced.tally]
  obtain ⟨_, _, _, left⟩ := first.awaited_eq elapsed
  obtain ⟨_, _, _, right⟩ := second.awaited_eq elapsed
  rw [left, right] at overdue tally ⊢
  exact ⟨alike.settings, advanced.clock, alike.pending, alike.nextId, tally, overdue⟩

theorem Alike.handOut (alike : first.Alike second) (id : job.id = twin.id)
    (same : rest.untargeted = remaining.untargeted) :
    (first.handOut job rest).Alike (second.handOut twin remaining) where
  settings := alike.settings
  clock := alike.clock
  pending := same
  nextId := alike.nextId
  tally := alike.tally
  overdue := by simp only [Scheduler.handOut, alike.overdue, id]

theorem Alike.dispatch {done ended : Scheduler} {view seen : JobView} {outcome became : Outcome}
    (alike : first.Alike second) (same : job.untargeted = twin.untargeted)
    (runs : first.dispatch job = (done, view, outcome))
    (also : second.dispatch twin = (ended, seen, became)) :
    done.Alike ended ∧ view.untargeted = seen.untargeted ∧
      outcome.untargeted = became.untargeted := by
  rw [dispatch_eq] at runs also
  cases runs
  cases also
  have started : (first.opening job).Alike (second.opening twin) := by
    refine ⟨?_, alike.clock, alike.tally⟩
    simp only [opening, alike.now]
    exact congrArg (fun job : Job => { job with startedAt := second.now }) same
  obtain ⟨ran, outcomes⟩ := started.run alike.settings
  refine ⟨⟨alike.settings, ran.clock, alike.pending, alike.nextId, ran.tally, alike.overdue⟩, ?_,
    outcomes⟩
  rw [ran.now]
  exact congrArg
    (fun job : Job => job.view (Dispatch.run second.settings (second.opening twin)).1.now) ran.job

theorem Alike.report (alike : first.Alike second) {one two : Option (JobView × Outcome)}
    (same : one.map (Prod.map JobView.untargeted Outcome.untargeted) =
      two.map (Prod.map JobView.untargeted Outcome.untargeted)) :
    (first.report one).untargeted = (second.report two).untargeted := by
  have views := congrArg (Option.map Prod.fst) same
  have outcomes := congrArg (Option.map Prod.snd) same
  simp only [Option.map_map] at views outcomes
  simp only [TickReport.untargeted, Scheduler.report, tallyReport, alike.now, alike.size,
    alike.pendingViews, alike.tally, Option.map_map, TickReport.mk.injEq, true_and, and_true]
  exact ⟨views, outcomes⟩

theorem Alike.pop_cases (alike : first.Alike second) (orderly : first.Orderly)
    (orderlyToo : second.Orderly) :
    (first.pending.pop.1 = none ∧ second.pending.pop.1 = none) ∨
      ∃ job rest twin remaining, first.pending.pop = (some job, rest) ∧
        second.pending.pop = (some twin, remaining) ∧ job.untargeted = twin.untargeted ∧
        rest.untargeted = remaining.untargeted := by
  have left := Pending.pop_untargeted orderly.distinct
  have right := Pending.pop_untargeted orderlyToo.distinct
  rw [alike.pending, right, Prod.mk.injEq] at left
  obtain ⟨heads, others⟩ := left
  cases popped : first.pending.pop with
  | mk head rest =>
      cases also : second.pending.pop with
      | mk headToo remaining =>
          rw [popped, also] at heads others
          cases head with
          | none => exact .inl ⟨rfl, Option.map_eq_none_iff.mp heads⟩
          | some job =>
              obtain ⟨twin, rfl, same⟩ := Option.map_eq_some_iff.mp heads
              exact .inr ⟨job, rest, twin, remaining, rfl, rfl, same.symm, others.symm⟩

/-- A call and the same call without its target keep schedulers alike, and are answered alike. -/
def StaysAlike (one two : Scheduler × Reply) : Prop :=
  one.1.Alike two.1 ∧ one.2.untargeted = two.2.untargeted

theorem Alike.enqueue (alike : first.Alike second) (request : Request) :
    StaysAlike (first.perform (.enqueue request)) (second.perform (.enqueue request.untargeted)) := by
  have capacity := alike.settings.queueCapacity
  have new := alike.newJob request
  cases full : second.isFull with
  | true =>
      have also := alike.isFull.trans full
      simp only [perform, Scheduler.enqueue, full, also, if_true, capacity]
      exact ⟨alike.turnAway _ _, rfl⟩
  | false =>
      have also := alike.isFull.trans full
      simp only [perform, Scheduler.enqueue, full, also, Bool.false_eq_true, if_false]
      exact ⟨alike.accept new, congrArg Reply.enqueued new⟩

theorem Alike.dequeue (alike : first.Alike second) (orderly : first.Orderly)
    (orderlyToo : second.Orderly) :
    StaysAlike (first.perform .dequeue) (second.perform .dequeue) := by
  rcases alike.pop_cases orderly orderlyToo with
    ⟨none, noneToo⟩ | ⟨job, rest, twin, remaining, popped, also, same, others⟩
  · simp only [perform, dequeue_of_none none, dequeue_of_none noneToo]
    exact ⟨alike, rfl⟩
  · simp only [perform, dequeue_of_some popped, dequeue_of_some also]
    have id := Job.congr_untargeted Job.id (fun _ => rfl) same
    exact ⟨alike.handOut id others, congrArg (fun job => Reply.dequeued (some job)) same⟩

theorem Alike.tick (alike : first.Alike second) (orderly : first.Orderly)
    (orderlyToo : second.Orderly) (elapsed : Nat) :
    StaysAlike (first.perform (.tick elapsed)) (second.perform (.tick elapsed)) := by
  have ready := alike.awaited elapsed
  rcases alike.pop_cases orderly orderlyToo with
    ⟨none, noneToo⟩ | ⟨job, rest, twin, remaining, popped, also, same, others⟩
  · simp only [perform, tick_of_none none, tick_of_none noneToo]
    exact ⟨ready, congrArg Reply.ticked (ready.report rfl)⟩
  · have id := Job.congr_untargeted Job.id (fun _ => rfl) same
    rcases runs : ((first.awaited elapsed).handOut job rest).dispatch job with ⟨done, view, outcome⟩
    rcases runsToo : ((second.awaited elapsed).handOut twin remaining).dispatch twin with
      ⟨ended, seen, became⟩
    obtain ⟨after, views, outcomes⟩ := (ready.handOut id others).dispatch same runs runsToo
    simp only [perform, tick_of_some popped, tick_of_some also, runs, runsToo]
    refine ⟨after, congrArg Reply.ticked (after.report ?_)⟩
    simp only [Option.map_some, Prod.map, views, outcomes]

theorem Alike.perform (alike : first.Alike second) (orderly : first.Orderly)
    (orderlyToo : second.Orderly) {call : Call} (steady : call.isScaling = false) :
    StaysAlike (first.perform call) (second.perform call.untargeted) := by
  cases call with
  | enqueue request => exact alike.enqueue request
  | dequeue => exact alike.dequeue orderly orderlyToo
  | tick elapsed => exact alike.tick orderly orderlyToo elapsed
  | setTimeScale => contradiction
  | reset => exact ⟨alike_ofSettings alike.settings, rfl⟩

theorem Alike.scale (alike : first.Alike second) {call : Call} (scales : call.isScaling = true) :
    (first.perform call).1.Alike second := by
  cases call with
  | setTimeScale factor =>
      simp only [Scheduler.perform]
      cases scaled : first.setTimeScale factor with
      | ok next =>
          rw [setTimeScale_eq scaled]
          exact { alike with }
      | error => exact alike
  | enqueue | dequeue | tick | reset => contradiction

@[simp] theorem Call.isScaling_untargeted (call : Call) :
    call.untargeted.isScaling = call.isScaling := by
  cases call <;> rfl

theorem Alike.timeline (alike : first.Alike second) (orderly : first.Orderly)
    (orderlyToo : second.Orderly) (calls : List Call) :
    first.timeline calls = second.timeline (schedule calls) := by
  induction calls generalizing first second with
  | nil => rfl
  | cons call rest ih =>
      have later := (first.perform_step call).orderly orderly
      -- a call that sets the time scale is not in the schedule, and only the first scheduler makes it
      cases scales : call.isScaling with
      | true =>
          have dropped : schedule (call :: rest) = schedule rest := by
            simp only [schedule, List.filter_cons, scales, Bool.not_true, Bool.false_eq_true, if_false]
          rw [dropped, ← ih (alike.scale scales) later orderlyToo]
          simp only [Scheduler.timeline, scales, if_true]
      | false =>
          have kept : schedule (call :: rest) = call.untargeted :: schedule rest := by
            simp only [schedule, List.filter_cons, scales, Bool.not_false, if_true, List.map_cons]
          obtain ⟨next, replies⟩ := alike.perform orderly orderlyToo scales
          have laterToo := (second.perform_step call.untargeted).orderly orderlyToo
          rw [kept]
          simp only [Scheduler.timeline, Call.isScaling_untargeted, scales, Bool.false_eq_true,
            if_false, next.moment replies, ih next later laterToo]

/-- Two schedulers whose settings agree on the timing are asked for the same, but for the targets of the
jobs and for the time scale. Call by call, they then accept or refuse the same jobs under the same numbers,
give out and dispatch the same ones with the same outcomes at the same times, and have the same jobs
waiting in the same order and the same counts. -/
theorem timeline_depends_on_schedule {settings other : Settings} (same : settings.SameTiming other)
    (built : ofSettings? settings = .ok first) (builtToo : ofSettings? other = .ok second)
    {calls matching : List Call} (matched : schedule calls = schedule matching) :
    first.timeline calls = second.timeline matching := by
  have fresh {settings : Settings} : (ofSettings settings).Orderly := orderly_of_empty rfl
  rw [eq_of_ofSettings? built, eq_of_ofSettings? builtToo]
  rw [(alike_ofSettings same).timeline fresh fresh calls, matched]
  exact ((alike_ofSettings ⟨rfl, rfl, rfl, rfl, rfl, rfl, rfl⟩).timeline fresh fresh matching).symm

/-- The second scheduler remembers less, knows no block from the start and is asked for other blocks, at
changing time scales. It turns away the third job, gives up the first one for its deadline and completes
the second one when the first scheduler does. -/
theorem timeline_with_other_blocks :
    let settings : Settings := { queueCapacity := 2 }
    let other : Settings :=
      { queueCapacity := 2, historyDepth := 1, initialBlocks := 0, eventCapacity := 1 }
    let calls : List Call := [
      .enqueue (.inTurn .write ⟨1⟩ .med (some 3)), .enqueue (.inTurn .read ⟨2⟩ .med none),
      .enqueue (.inTurn .writeAll ⟨3⟩ .med none), .tick 5, .tick 0]
    let matching : List Call := [
      .enqueue (.inTurn .writeAll ⟨70⟩ .med (some 3)), .setTimeScale 2.5,
      .enqueue (.inTurn .readAll ⟨70⟩ .med none), .enqueue (.inTurn .write ⟨70⟩ .med none),
      .setTimeScale 0, .tick 5, .tick 0]
    let first := ofSettings settings
    let second := ofSettings other
    let seen := fun (moment : Moment) =>
      (moment.time, moment.pending.map (·.id.number), moment.tally.overflows,
        moment.tally.deadlineMisses, moment.tally.completed)
    settings.SameTiming other ∧ ofSettings? settings = .ok first ∧ ofSettings? other = .ok second ∧
      schedule calls = schedule matching ∧
      (second.timeline matching).map seen = [
        (0, [0], 0, 0, 0), (0, [0, 1], 0, 0, 0), (0, [0, 1], 1, 0, 0), (5, [1], 1, 1, 0),
        (20, [], 1, 1, 1)] := by
  intro settings other calls matching first second seen
  have same : settings.SameTiming other := ⟨rfl, rfl, rfl, rfl, rfl, rfl, rfl⟩
  have built : ofSettings? settings = .ok first := rfl
  have builtToo : ofSettings? other = .ok second := rfl
  have matched : schedule calls = schedule matching := rfl
  refine ⟨same, built, builtToo, matched, ?_⟩
  rw [← timeline_depends_on_schedule same built builtToo matched]
  decide +kernel

end Scheduler

end NvMemory
