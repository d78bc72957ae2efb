import NvMemory.Proofs.Scheduler

/-!
Where the accepted jobs are.

The `JobLedger` is kept beside a run of calls from the replies alone. Each job that it has as accepted
is at any time either pending, or handed out to the caller, or completed, or abandoned, and it is
shown everywhere as it was requested (`Receipt`).
-/

namespace NvMemory

open Scheduler (Call Reply)

/-- What is known of an accepted request: the number it was given and when it was made. -/
structure Receipt where
  id : JobId
  request : Request
  time : Nat
deriving DecidableEq

def Job.receipt (job : Job) : Receipt where
  id := job.id
  request := ⟨job.kind, job.block, job.priority, job.immediate, job.deadline⟩
  time := job.enqueuedAt

def JobView.receipt (view : JobView) : Receipt where
  id := view.id
  request := ⟨view.kind, view.block, view.priority, view.immediate, view.deadline⟩
  time := view.enqueuedAt

/-- The jobs accepted since the last reset, and those of them that have left the queue. -/
structure JobLedger where
  accepted : List Receipt := []
  handedOut : List JobId := []
  completed : List JobId := []
  abandoned : List JobId := []

namespace JobLedger

def left (ledger : JobLedger) : List JobId :=
  ledger.handedOut ++ ledger.completed ++ ledger.abandoned

def close (ledger : JobLedger) : Outcome → JobLedger
  | .completed job .. => { ledger with completed := ledger.completed ++ [job] }
  | .deadlineMissed job .. => { ledger with abandoned := ledger.abandoned ++ [job] }

def next (ledger : JobLedger) (scheduler : Scheduler) : Call → Reply → JobLedger
  | .enqueue request, .enqueued job =>
      { ledger with accepted := ledger.accepted ++ [⟨job.id, request, scheduler.now⟩] }
  | .dequeue, .dequeued (some job) => { ledger with handedOut := ledger.handedOut ++ [job.id] }
  | .tick _, .ticked report => report.outcome?.elim ledger ledger.close
  | .reset, _ => {}
  | _, _ => ledger

variable {ledger after : JobLedger} {scheduler final : Scheduler} {call : Call} {reply : Reply}
  {job : Job} {rest : Pending}

theorem left_close (ledger : JobLedger) (outcome : Outcome) :
    (ledger.close outcome).left.Perm (outcome.job :: ledger.left) := by
  cases outcome with
  | completed job =>
      simp only [close, left, List.append_assoc, List.singleton_append]
      rw [← List.append_assoc, ← List.append_assoc]
      exact List.perm_middle
  | deadlineMissed job =>
      simp only [close, left, ← List.append_assoc]
      exact List.perm_append_singleton job _

theorem accepted_close (ledger : JobLedger) (outcome : Outcome) :
    (ledger.close outcome).accepted = ledger.accepted := by
  cases outcome <;> rfl

/-- The accepted jobs are numbered from zero on. Each of them is either pending or has left, and
those that are pending are as they were accepted. -/
structure Covers (ledger : JobLedger) (scheduler : Scheduler) : Prop where
  numbered : ledger.accepted.map Receipt.id = (List.range ledger.accepted.length).map JobId.mk
  nextId : scheduler.nextId = ⟨ledger.accepted.length⟩
  partition : (scheduler.pending.jobs.map Job.id ++ ledger.left).Perm (ledger.accepted.map Receipt.id)
  faithful : ∀ job ∈ scheduler.pending.jobs, job.receipt ∈ ledger.accepted
  room : scheduler.pending.size ≤ scheduler.settings.queueCapacity.toNat

theorem covers_of_empty (empty : scheduler.pending = .empty) (first : scheduler.nextId = .first) :
    ({} : JobLedger).Covers scheduler := by
  refine ⟨rfl, first, ?_, ?_, ?_⟩
  · rw [empty]
    exact .refl _
  · rw [empty]
    exact fun _ member => absurd member List.not_mem_nil
  · rw [empty]
    exact Nat.zero_le _

theorem Covers.of_same (covers : ledger.Covers scheduler) (pending : final.pending = scheduler.pending)
    (numbers : final.nextId = scheduler.nextId) (settings : final.settings = scheduler.settings) :
    ledger.Covers final where
  numbered := covers.numbered
  nextId := numbers.trans covers.nextId
  partition := by
    rw [pending]
    exact covers.partition
  faithful := by
    rw [pending]
    exact covers.faithful
  room := by
    rw [pending, settings]
    exact covers.room

/-- A job that is taken out of the queue is covered as soon as it is noted as one that has left. -/
theorem Covers.leave (covers : ledger.Covers scheduler)
    (popped : scheduler.pending.pop = (some job, rest)) (pending : final.pending = rest)
    (numbers : final.nextId = scheduler.nextId) (settings : final.settings = scheduler.settings)
    (accepted : after.accepted = ledger.accepted)
    (left : after.left.Perm (job.id :: ledger.left)) : after.Covers final := by
  have perm := (Pending.perm_of_pop popped).map Job.id
  have fewer := Pending.sublist_of_pop popped
  subst pending
  constructor
  case numbered =>
    rw [accepted]
    exact covers.numbered
  case nextId =>
    rw [numbers, accepted]
    exact covers.nextId
  case partition =>
    rw [accepted]
    refine .trans ?_ covers.partition
    refine (left.append_left _).trans (List.perm_middle.trans ?_)
    exact (perm.append_right _).symm
  case faithful =>
    intro other member
    rw [accepted]
    exact covers.faithful other (fewer.subset member)
  case room =>
    rw [settings]
    exact Nat.le_trans fewer.length_le covers.room

theorem Covers.accept (covers : ledger.Covers scheduler) (request : Request)
    (room : scheduler.isFull = false) :
    JobLedger.Covers
      { ledger with
        accepted := ledger.accepted ++ [⟨scheduler.nextId, request, scheduler.now⟩] }
      (scheduler.accept (scheduler.newJob request)) := by
  obtain ⟨blocks, tally, journal, same⟩ := scheduler.accept_eq (scheduler.newJob request)
  have nextId := covers.nextId
  rw [same]
  constructor
  case numbered =>
    simp only [List.map_append, List.length_append, List.length_singleton, List.range_succ,
      covers.numbered, nextId, List.map_cons, List.map_nil]
  case nextId => simp only [nextId, JobId.next, List.length_append, List.length_singleton]
  case partition =>
    have new : ((scheduler.pending.push (scheduler.newJob request)).jobs.map Job.id ++
        ledger.left).Perm
        (scheduler.nextId :: (scheduler.pending.jobs.map Job.id ++ ledger.left)) := by
      rw [Pending.jobs_push, List.map_append, List.append_assoc]
      exact List.perm_middle
    rw [List.map_append]
    exact new.trans ((covers.partition.cons _).trans (List.perm_append_singleton _ _).symm)
  case faithful =>
    intro job member
    rcases List.mem_append.mp member with before | new
    · exact List.mem_append_left _ (covers.faithful job before)
    · rw [List.mem_singleton.mp new]
      exact List.mem_append_right _ List.mem_cons_self
  case room =>
    rw [Scheduler.isFull, decide_eq_false_iff_not, Nat.not_le] at room
    rw [Pending.size_push]
    exact room

theorem Covers.step (step : Scheduler.Step scheduler call final reply)
    (covers : ledger.Covers scheduler) : (ledger.next scheduler call reply).Covers final := by
  cases step with
  | enqueued room => exact covers.accept _ room
  | handedOut popped =>
      refine covers.leave popped rfl rfl rfl rfl ?_
      simp only [next, left, List.append_assoc, List.singleton_append]
      exact List.perm_middle
  | @dispatched elapsed job rest done view outcome popped runs =>
      have spec := Scheduler.dispatch_spec runs
      have numbers := spec.nextId.trans (scheduler.nextId_awaited elapsed)
      have settings := (Scheduler.Step.dispatched popped runs).settings
      refine covers.leave popped spec.pending numbers settings (ledger.accepted_close outcome) ?_
      rw [← spec.outcome]
      exact ledger.left_close outcome
  | @idled elapsed =>
      exact covers.of_same (scheduler.pending_awaited elapsed) (scheduler.nextId_awaited elapsed)
        (scheduler.settings_awaited elapsed)
  | scaled accepted =>
      rw [Scheduler.setTimeScale_eq accepted]
      exact covers.of_same rfl rfl rfl
  | turnedAway => exact covers.of_same rfl rfl rfl
  | nothingPending | scaleRefused => exact covers
  | reset => exact covers_of_empty rfl rfl

theorem Covers.dequeued (covers : ledger.Covers scheduler)
    (step : Scheduler.Step scheduler .dequeue final (.dequeued (some job))) :
    job.receipt ∈ ledger.accepted := by
  cases step with
  | handedOut popped => exact covers.faithful job (Pending.mem_of_pop popped)

theorem Covers.dispatched {elapsed : Nat} {report : TickReport} {view : JobView}
    {outcome : Outcome} (covers : ledger.Covers scheduler) (orderly : scheduler.Orderly)
    (step : Scheduler.Step scheduler (.tick elapsed) final (.ticked report))
    (dispatched : report.dispatched = some (view, outcome)) :
    view.receipt ∈ ledger.accepted ∧ outcome.Concerns view := by
  cases step with
  | @dispatched _ job _ done _ _ popped runs =>
      cases dispatched
      have waiting := Pending.mem_of_pop popped
      have idle := orderly.idle job waiting
      refine ⟨?_, Scheduler.concerns_dispatch runs idle⟩
      rw [(Scheduler.dispatch_spec runs).view idle]
      exact covers.faithful job waiting
  | idled => contradiction

theorem Covers.enqueue (covers : ledger.Covers scheduler) (request : Request) :
    let capacity := scheduler.settings.queueCapacity.toNat
    (scheduler.pending.size = capacity ∧ ∃ tally journal, scheduler.enqueue request =
      ({ scheduler with tally := tally, journal := journal }, .error (.queueFull capacity))) ∨
    (scheduler.pending.size < capacity ∧ ∃ next job, scheduler.enqueue request = (next, .ok job) ∧
      job.receipt = ⟨⟨ledger.accepted.length⟩, request, scheduler.now⟩) := by
  intro capacity
  cases full : scheduler.isFull with
  | true =>
      have reached : capacity ≤ scheduler.pending.size := of_decide_eq_true full
      refine .inl ⟨Nat.le_antisymm covers.room reached, ?_⟩
      simp only [Scheduler.enqueue, full, if_true]
      exact ⟨_, _, rfl⟩
  | false =>
      have free : ¬ capacity ≤ scheduler.pending.size := of_decide_eq_false full
      refine .inr ⟨Nat.lt_of_not_le free, ?_⟩
      simp only [Scheduler.enqueue, full, Bool.false_eq_true, if_false]
      exact ⟨_, _, rfl, by rw [← covers.nextId]; rfl⟩

end JobLedger

namespace Scheduler

/-- The accepted jobs are numbered in the order of the calls. In every state that is reached each
of them is either pending, or has been taken out, or has been completed, or has been abandoned, and
no two of these. Wherever a job is shown, it is as it was requested. No more jobs are pending than
the queue has room for, and a request that finds no room changes nothing but the counts and the
journal. -/
theorem jobs_accounted_for {scheduler : Scheduler} {settings : Settings}
    (built : ofSettings? settings = .ok scheduler) (calls : List Call) :
    let reached := scheduler.after calls
    let ledger := scheduler.observe JobLedger.next {} calls
    let places := reached.pendingViews.map JobView.id ++ ledger.handedOut ++ ledger.completed ++
      ledger.abandoned
    let capacity := settings.queueCapacity.toNat
    ledger.accepted.map Receipt.id = (List.range ledger.accepted.length).map JobId.mk ∧
    (places.Perm (ledger.accepted.map Receipt.id) ∧ places.Nodup) ∧
    (∀ view ∈ reached.pendingViews, view.receipt ∈ ledger.accepted) ∧
    (∀ job, reached.dequeue.2 = some job → job.receipt ∈ ledger.accepted) ∧
    (∀ elapsed view outcome, (reached.tick elapsed).2.dispatched = some (view, outcome) →
      view.receipt ∈ ledger.accepted ∧ outcome.Concerns view) ∧
    reached.pending.size ≤ capacity ∧
    ∀ request,
      (reached.pending.size = capacity ∧ ∃ tally journal, reached.enqueue request =
        ({ reached with tally := tally, journal := journal }, .error (.queueFull capacity))) ∨
      (reached.pending.size < capacity ∧ ∃ next job, reached.enqueue request = (next, .ok job) ∧
        job.receipt = ⟨⟨ledger.accepted.length⟩, request, reached.now⟩) := by
  intro reached ledger places capacity
  have same := eq_of_ofSettings? built
  have fresh : JobLedger.Covers {} scheduler := by
    rw [same]
    exact JobLedger.covers_of_empty rfl rfl
  have covers : ledger.Covers reached := observe_after JobLedger.Covers.step fresh calls
  have orderly : reached.Orderly :=
    (orderly_of_empty (congrArg Pending.jobs (pending_of_ofSettings? built))).after calls
  have settled : reached.settings = settings := by
    rw [scheduler.settings_after, same]
    rfl
  have held : capacity = reached.settings.queueCapacity.toNat := by rw [settled]
  have listed := reached.pending.ordered_perm
  have shown : (reached.pendingViews.map JobView.id).Perm (reached.pending.jobs.map Job.id) := by
    rw [pendingViews, List.map_map]
    exact listed.map Job.id
  have perm : places.Perm (ledger.accepted.map Receipt.id) := by
    refine .trans ?_ covers.partition
    simp only [places, List.append_assoc, JobLedger.left]
    exact shown.append_right _
  refine ⟨covers.numbered, ⟨perm, ?_⟩, ?_, ?_, ?_, ?_, ?_⟩
  · rw [perm.nodup_iff, covers.numbered]
    exact List.nodup_range.map fun _ _ => congrArg JobId.number
  · intro view member
    obtain ⟨job, waiting, rfl⟩ := List.mem_map.mp member
    exact covers.faithful job (listed.mem_iff.mp waiting)
  · intro job taken
    have step : Step reached .dequeue reached.dequeue.1 (.dequeued reached.dequeue.2) :=
      reached.perform_step .dequeue
    rw [taken] at step
    exact covers.dequeued step
  · exact fun elapsed view outcome =>
      covers.dispatched orderly (reached.perform_step (.tick elapsed))
  · rw [held]
    exact covers.room
  · rw [held]
    exact covers.enqueue

/-- A queue for two jobs turns a request away before the first job is dispatched and another one
after three jobs have left in three different ways. -/
theorem jobs_accounted_for_in_short_queue :
    let settings := { Settings.standard with queueCapacity := 2 }
    let calls : List Call := [
      .enqueue (.inTurn .write ⟨1⟩ .low (some 5)), .enqueue (.inTurn .write ⟨1⟩ .high none),
      .enqueue (.inTurn .write ⟨1⟩ .high none), .tick 0, .enqueue (.inTurn .write ⟨1⟩ .low none),
      .tick 0, .enqueue (.inTurn .write ⟨1⟩ .low none), .dequeue,
      .enqueue (.inTurn .write ⟨1⟩ .med none)]
    let scheduler := ofSettings settings
    let reached := scheduler.after calls
    let ledger := scheduler.observe JobLedger.next {} calls
    ofSettings? settings = .ok scheduler ∧ reached.pendingViews.map JobView.id = [⟨4⟩, ⟨3⟩] ∧
      ledger.handedOut = [⟨2⟩] ∧ ledger.completed = [⟨1⟩] ∧ ledger.abandoned = [⟨0⟩] ∧
      ledger.accepted.map Receipt.id = [⟨0⟩, ⟨1⟩, ⟨2⟩, ⟨3⟩, ⟨4⟩] ∧
      ∃ tally journal, reached.enqueue (.inTurn .write ⟨1⟩ .high none) =
        ({ reached with tally := tally, journal := journal }, .error (.queueFull 2)) := by
  intro settings calls
  dsimp only
  have built : ofSettings? settings = .ok (ofSettings settings) := rfl
  obtain ⟨numbered, _, _, _, _, _, enqueues⟩ := jobs_accounted_for built calls
  have full : ((ofSettings settings).after calls).pending.size = 2 := by decide +kernel
  have accepted : ((ofSettings settings).observe JobLedger.next {} calls).accepted.length = 5 := by
    decide +kernel
  rw [accepted] at numbered
  refine ⟨built, by decide +kernel, by decide +kernel, by decide +kernel, by decide +kernel,
    numbered, ?_⟩
  rcases enqueues (.inTurn .write ⟨1⟩ .high none) with ⟨_, refused⟩ | ⟨room, _⟩
  · exact refused
  · exact absurd full (Nat.ne_of_lt room)

end Scheduler

end NvMemory
