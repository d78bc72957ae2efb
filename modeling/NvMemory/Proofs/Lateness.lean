import Mathlib.Data.Finset.Card
import NvMemory.Proofs.Scheduler

/-!
How late jobs are counted.

A job is noted by the first tick that finds it late while it waits. It is still noted when it leaves
the queue, and then it is either abandoned by the tick or was asked for by the caller. The
`LateLedger` is kept beside a run of calls, and the counts of the scheduler agree with it.
-/

namespace NvMemory

open Scheduler (Call Reply)

theorem length_filter_ne {ids : List JobId} (distinct : ids.Nodup) (id : JobId) :
    ids.length = (ids.filter (· ≠ id)).length + if id ∈ ids then 1 else 0 := by
  rw [← distinct.count, List.count, ← List.countP_eq_length_filter, Nat.add_comm,
    List.length_eq_countP_add_countP (· == id)]
  simp

namespace Scheduler

variable {scheduler : Scheduler} {job : Job}

def late (scheduler : Scheduler) : List Job :=
  scheduler.pending.jobs.filter (·.isLate scheduler.now)

theorem mem_late :
    job ∈ scheduler.late ↔ job ∈ scheduler.pending.jobs ∧ job.isLate scheduler.now = true :=
  List.mem_filter

theorem mem_newlyOverdue :
    job ∈ scheduler.newlyOverdue ↔ job ∈ scheduler.late ∧ job.id ∉ scheduler.overdue := by
  rw [mem_late, newlyOverdue, List.mem_filter]
  simp [and_assoc]

theorem late_of_newlyOverdue (scheduler : Scheduler) (elapsed : Nat) :
    ∀ id ∈ (scheduler.advance elapsed).newlyOverdue.map Job.id, ∃ job ∈ scheduler.pending.jobs,
      job.id = id ∧ job.isLate (scheduler.awaited elapsed).now = true := by
  intro id noted
  obtain ⟨job, member, rfl⟩ := List.mem_map.mp noted
  obtain ⟨waiting, late⟩ := mem_late.mp (mem_newlyOverdue.mp member).1
  exact ⟨job, waiting, rfl, by rwa [now_awaited]⟩

end Scheduler

/-- An account of the late jobs since the last reset. -/
structure LateLedger where
  /-- The jobs that some tick found late while they were pending. -/
  sighted : Finset JobId := ∅
  /-- How many jobs left the overdue set because the caller took them out of the queue. -/
  handedOut : Nat := 0

namespace LateLedger

def next (ledger : LateLedger) (scheduler : Scheduler) : Call → Reply → LateLedger
  | .tick elapsed, _ =>
      { ledger with
        sighted := ledger.sighted ∪ ((scheduler.advance elapsed).late.map Job.id).toFinset }
  | .dequeue, .dequeued (some job) =>
      if job.id ∈ scheduler.overdue then { ledger with handedOut := ledger.handedOut + 1 }
      else ledger
  | .reset, _ => {}
  | _, _ => ledger

variable {ledger : LateLedger} {scheduler final : Scheduler} {call : Call} {reply : Reply}
  {job : Job} {rest : Pending}

/-- The overdue set has the waiting jobs that have been sighted, and all that have been sighted are
counted. -/
structure Accounts (ledger : LateLedger) (scheduler : Scheduler) : Prop where
  orderly : scheduler.Orderly
  distinct : scheduler.overdue.Nodup
  late : ∀ id ∈ scheduler.overdue,
    ∃ job ∈ scheduler.pending.jobs, job.id = id ∧ job.isLate scheduler.now = true
  overdue : ∀ job ∈ scheduler.pending.jobs, job.id ∈ scheduler.overdue ↔ job.id ∈ ledger.sighted
  given : ∀ id ∈ ledger.sighted, id.number < scheduler.nextId.number
  counted : scheduler.tally.timeouts = ledger.sighted.card
  balanced : scheduler.tally.timeouts =
    scheduler.tally.deadlineMisses + scheduler.overdue.length + ledger.handedOut

theorem accounts_of_empty (empty : scheduler.pending.jobs = []) (none : scheduler.overdue = [])
    (zero : scheduler.tally = {}) : ({} : LateLedger).Accounts scheduler := by
  refine ⟨Scheduler.orderly_of_empty empty, ?_, ?_, ?_, ?_, ?_, ?_⟩
  · simp [none]
  · simp [none]
  · simp [empty]
  · simp
  · simp [zero]
  · simp [zero, none]

theorem Accounts.unique (accounts : ledger.Accounts scheduler) {first second : Job}
    (left : first ∈ scheduler.pending.jobs) (right : second ∈ scheduler.pending.jobs)
    (same : first.id = second.id) : first = second :=
  List.inj_on_of_nodup_map accounts.orderly.distinct left right same

theorem Accounts.handOut (accounts : ledger.Accounts scheduler)
    (popped : scheduler.pending.pop = (some job, rest)) :
    LateLedger.Accounts
      { ledger with
        handedOut := ledger.handedOut + if job.id ∈ scheduler.overdue then 1 else 0 }
      (scheduler.handOut job rest) := by
  have perm := Pending.perm_of_pop popped
  have fewer := Pending.sublist_of_pop popped
  have distinct : ((job :: rest.jobs).map Job.id).Nodup :=
    (perm.map Job.id).nodup_iff.mp accounts.orderly.distinct
  have others : ∀ other ∈ rest.jobs, other.id ≠ job.id := by
    intro other member same
    exact (List.nodup_cons.mp distinct).1 (List.mem_map.mpr ⟨other, member, same⟩)
  have split := length_filter_ne accounts.distinct job.id
  constructor
  case orderly => exact accounts.orderly.later fewer rfl (Nat.le_refl _)
  case distinct => exact accounts.distinct.filter _
  case late =>
    intro id member
    obtain ⟨noted, different⟩ := List.mem_filter.mp member
    obtain ⟨other, waiting, named, late⟩ := accounts.late id noted
    -- the job that is taken out has just been struck from the set, so the noted one is another
    have still : other ∈ rest.jobs := by
      rcases List.mem_cons.mp (perm.mem_iff.mp waiting) with rfl | still
      · simp [named] at different
      · exact still
    exact ⟨other, still, named, late⟩
  case overdue =>
    intro other member
    rw [← accounts.overdue other (fewer.subset member)]
    simp [Scheduler.handOut, others other member]
  case given => exact accounts.given
  case counted => exact accounts.counted
  case balanced =>
    have balanced := accounts.balanced
    simp only [Scheduler.handOut]
    omega

theorem Accounts.sighted_union (accounts : ledger.Accounts scheduler) (elapsed : Nat) :
    let noted := (scheduler.advance elapsed).newlyOverdue.map Job.id
    noted.Nodup ∧ (∀ id ∈ noted, id ∉ scheduler.overdue ∧ id ∉ ledger.sighted) ∧
      ledger.sighted ∪ ((scheduler.advance elapsed).late.map Job.id).toFinset =
        ledger.sighted ∪ noted.toFinset := by
  intro noted
  have distinct := accounts.orderly.distinct
  refine ⟨distinct.sublist (List.filter_sublist.map _), ?_, ?_⟩
  · intro id member
    obtain ⟨job, found, rfl⟩ := List.mem_map.mp member
    obtain ⟨late, unnoted⟩ := Scheduler.mem_newlyOverdue.mp found
    have waiting : job ∈ scheduler.pending.jobs := (Scheduler.mem_late.mp late).1
    exact ⟨unnoted, fun sighted => unnoted ((accounts.overdue job waiting).mpr sighted)⟩
  · ext id
    simp only [Finset.mem_union, List.mem_toFinset, List.mem_map, noted,
      Scheduler.mem_newlyOverdue]
    constructor
    · rintro (sighted | ⟨job, late, rfl⟩)
      · exact .inl sighted
      · have waiting : job ∈ scheduler.pending.jobs := (Scheduler.mem_late.mp late).1
        by_cases before : job.id ∈ scheduler.overdue
        · exact .inl ((accounts.overdue job waiting).mp before)
        · exact .inr ⟨job, ⟨late, before⟩, rfl⟩
    · rintro (sighted | ⟨job, ⟨late, _⟩, rfl⟩)
      · exact .inl sighted
      · exact .inr ⟨job, late, rfl⟩

theorem Accounts.awaited (accounts : ledger.Accounts scheduler) (elapsed : Nat) :
    LateLedger.Accounts
      { ledger with
        sighted := ledger.sighted ∪ ((scheduler.advance elapsed).late.map Job.id).toFinset }
      (scheduler.awaited elapsed) := by
  obtain ⟨distinct, fresh, sighted⟩ := accounts.sighted_union elapsed
  have overdue : (scheduler.awaited elapsed).overdue = _ := Scheduler.overdue_foldl_noteOverdue _ _
  have tally : (scheduler.awaited elapsed).tally = _ := Scheduler.tally_foldl_noteOverdue _ _
  have pending := scheduler.pending_awaited elapsed
  have time := scheduler.now_le_awaited elapsed
  have found := scheduler.late_of_newlyOverdue elapsed
  rw [← List.length_map Job.id] at tally
  rw [sighted]
  generalize (scheduler.advance elapsed).newlyOverdue.map Job.id = noted at *
  constructor
  case orderly =>
    refine accounts.orderly.later ?_ (scheduler.nextId_awaited elapsed) time
    rw [pending]
  case distinct =>
    rw [overdue]
    refine List.nodup_append.mpr ⟨List.nodup_reverse.mpr distinct, accounts.distinct, ?_⟩
    rintro id member other before rfl
    exact (fresh id (List.mem_reverse.mp member)).1 before
  case late =>
    intro id member
    rw [overdue, List.mem_append, List.mem_reverse] at member
    rw [pending]
    rcases member with new | before
    · exact found id new
    · obtain ⟨job, waiting, named, late⟩ := accounts.late id before
      exact ⟨job, waiting, named, Job.isLate_mono time late⟩
  case overdue =>
    intro job waiting
    rw [pending] at waiting
    rw [overdue, List.mem_append, List.mem_reverse, Finset.mem_union, List.mem_toFinset, or_comm]
    exact or_congr_left (accounts.overdue job waiting)
  case given =>
    intro id member
    rw [Finset.mem_union, List.mem_toFinset] at member
    rw [scheduler.nextId_awaited]
    rcases member with before | new
    · exact accounts.given id before
    · obtain ⟨job, waiting, rfl, _⟩ := found id new
      exact accounts.orderly.numbered job waiting
  case counted =>
    have apart : Disjoint ledger.sighted noted.toFinset := by
      refine Finset.disjoint_right.mpr fun id member => ?_
      exact (fresh id (List.mem_toFinset.mp member)).2
    rw [tally, Finset.card_union_of_disjoint apart, List.toFinset_card_of_nodup distinct,
      ← accounts.counted]
    rfl
  case balanced =>
    have balanced := accounts.balanced
    rw [overdue, tally, List.length_append, List.length_reverse]
    simp only [Scheduler.advance]
    omega

theorem Accounts.overdue_awaited_iff (accounts : ledger.Accounts scheduler) {elapsed : Nat}
    (waiting : job ∈ scheduler.pending.jobs) :
    job.id ∈ (scheduler.awaited elapsed).overdue ↔
      job.isLate (scheduler.awaited elapsed).now = true := by
  have noted := accounts.awaited elapsed
  have pending := scheduler.pending_awaited elapsed
  constructor
  · intro member
    obtain ⟨other, found, named, late⟩ := noted.late job.id member
    rw [noted.unique (pending ▸ waiting) found named.symm]
    exact late
  · intro late
    refine (noted.overdue job (pending ▸ waiting)).mpr ?_
    rw [Scheduler.now_awaited] at late
    exact Finset.mem_union_right _ (List.mem_toFinset.mpr (List.mem_map_of_mem
      (Scheduler.mem_late.mpr ⟨waiting, late⟩)))

/-- A dispatch counts the missed deadline of a late job, which has just left the overdue set. -/
theorem Accounts.dispatch {missed : Nat} {done : Scheduler} {view : JobView} {outcome : Outcome}
    (accounts : LateLedger.Accounts { ledger with handedOut := ledger.handedOut + missed } scheduler)
    (counts : (if job.isLate scheduler.now then 1 else 0) = missed)
    (runs : scheduler.dispatch job = (done, view, outcome)) : ledger.Accounts done := by
  have time := (Scheduler.dispatch_spec runs).time
  rw [Scheduler.dispatch_eq] at runs
  cases runs
  have timeouts := Dispatch.timeouts_run scheduler.settings (scheduler.opening job)
  have misses := Dispatch.deadlineMisses_run scheduler.settings (scheduler.opening job)
  rw [Scheduler.isLate_opening, counts] at misses
  rw [Scheduler.tally_opening] at timeouts misses
  refine ⟨accounts.orderly.later (List.Sublist.refl _) rfl time, accounts.distinct, ?_,
    accounts.overdue, accounts.given, timeouts.trans accounts.counted, ?_⟩
  · intro id member
    obtain ⟨other, waiting, named, passed⟩ := accounts.late id member
    exact ⟨other, waiting, named, Job.isLate_mono time passed⟩
  · have balanced := accounts.balanced
    simp only at balanced ⊢
    omega

theorem Accounts.accept (accounts : ledger.Accounts scheduler) (request : Request) :
    ledger.Accounts (scheduler.accept (scheduler.newJob request)) := by
  have orderly := accounts.orderly.accept request
  have tally := scheduler.tally_accept (scheduler.newJob request)
  obtain ⟨blocks, counts, journal, same⟩ := scheduler.accept_eq (scheduler.newJob request)
  rw [same] at orderly tally ⊢
  have counts : counts = _ := tally
  subst counts
  -- the number of the new job is above those of all jobs that were noted before
  have unsighted : scheduler.nextId ∉ ledger.sighted := fun member =>
    Nat.lt_irrefl _ (accounts.given _ member)
  have unnoted : scheduler.nextId ∉ scheduler.overdue := by
    intro member
    obtain ⟨job, waiting, named, _⟩ := accounts.late _ member
    exact Nat.lt_irrefl _ (named ▸ accounts.orderly.numbered job waiting)
  refine ⟨orderly, accounts.distinct, ?_, ?_, ?_, accounts.counted, accounts.balanced⟩
  · intro id member
    obtain ⟨job, waiting, late⟩ := accounts.late id member
    exact ⟨job, List.mem_append_left _ waiting, late⟩
  · intro job member
    rcases List.mem_append.mp member with before | new
    · exact accounts.overdue job before
    · rw [List.mem_singleton.mp new]
      exact iff_of_false unnoted unsighted
  · exact fun id member => Nat.lt_succ_of_lt (accounts.given id member)

theorem Accounts.step (step : Scheduler.Step scheduler call final reply)
    (accounts : ledger.Accounts scheduler) :
    (ledger.next scheduler call reply).Accounts final := by
  cases step with
  | enqueued => exact accounts.accept _
  | turnedAway =>
      exact { accounts with orderly := accounts.orderly.later (.refl _) rfl (Nat.le_refl _) }
  | @handedOut job rest popped =>
      have left := accounts.handOut popped
      simp only [next]
      split at left <;> rename_i noted
      · rwa [if_pos noted]
      · rwa [if_neg noted]
  | nothingPending => exact accounts
  | @dispatched elapsed job rest done view outcome popped runs =>
      have waiting := Pending.mem_of_pop popped
      have same := scheduler.pending_awaited elapsed
      have left := (accounts.awaited elapsed).handOut (same ▸ popped)
      refine left.dispatch ?_ runs
      exact if_congr (accounts.overdue_awaited_iff waiting).symm rfl rfl
  | idled => exact accounts.awaited _
  | scaled accepted =>
      rw [Scheduler.setTimeScale_eq accepted]
      exact { accounts with orderly := accounts.orderly.later (.refl _) rfl (Nat.le_refl _) }
  | scaleRefused => exact accounts
  | reset => exact accounts_of_empty rfl rfl rfl

theorem accounts_after {settings : Settings}
    (built : Scheduler.ofSettings? settings = .ok scheduler) (calls : List Call) :
    (scheduler.observe next {} calls).Accounts (scheduler.after calls) := by
  refine Scheduler.observe_after Accounts.step ?_ calls
  rw [Scheduler.eq_of_ofSettings? built]
  exact accounts_of_empty rfl rfl rfl

theorem Accounts.abandoned_iff {elapsed : Nat} {report : TickReport} {view : JobView}
    {outcome : Outcome} (accounts : ledger.Accounts scheduler)
    (step : Scheduler.Step scheduler (.tick elapsed) final (.ticked report))
    (dispatched : report.dispatched = some (view, outcome)) :
    let marked := scheduler.awaited elapsed
    (outcome.isCompleted = false ↔ view.id ∈ marked.overdue) ∧
      (outcome.isCompleted = false ↔
        ∃ deadline, view.deadline = some deadline ∧ deadline < marked.now) := by
  intro marked
  cases step with
  | @dispatched _ job rest _ view outcome popped runs =>
      cases dispatched
      have waiting := Pending.mem_of_pop popped
      have outcome := Scheduler.isCompleted_dispatch runs
      rw [(Scheduler.dispatch_spec runs).view (accounts.orderly.idle job waiting), outcome,
        Bool.not_eq_false_eq_eq_true]
      exact ⟨(accounts.overdue_awaited_iff waiting).symm, Job.isLate_iff⟩
  | idled => contradiction

end LateLedger

namespace Scheduler

/-- In every state that is reached, the overdue set has pending jobs only, whose deadlines have
passed. Each job that a tick found late while it was pending has been counted once: it has either
been abandoned, or is still in the overdue set, or was taken out of it by the caller. A tick
abandons a job if it is in the overdue set once the late jobs have been noted, which is so if its
deadline has passed. -/
theorem late_jobs_counted_once {scheduler : Scheduler} {settings : Settings}
    (built : ofSettings? settings = .ok scheduler) (calls : List Call) :
    let reached := scheduler.after calls
    let ledger := scheduler.observe LateLedger.next {} calls
    let counts := reached.tallyReport
    (reached.overdue.Nodup ∧ ∀ id ∈ reached.overdue, ∃ view ∈ reached.pendingViews,
      view.id = id ∧ ∃ deadline, view.deadline = some deadline ∧ deadline < reached.now) ∧
    counts.timeouts = counts.deadlineMisses + reached.overdue.length + ledger.handedOut ∧
    counts.timeouts = ledger.sighted.card ∧
    ∀ elapsed view outcome, (reached.tick elapsed).2.dispatched = some (view, outcome) →
      let marked := (reached.advance elapsed).markOverdue
      (outcome.isCompleted = false ↔ view.id ∈ marked.overdue) ∧
        (outcome.isCompleted = false ↔
          ∃ deadline, view.deadline = some deadline ∧ deadline < marked.now) := by
  intro reached ledger counts
  have accounts : ledger.Accounts reached := LateLedger.accounts_after built calls
  refine ⟨⟨accounts.distinct, fun id member => ?_⟩, accounts.balanced, accounts.counted, ?_⟩
  · obtain ⟨job, waiting, named, late⟩ := accounts.late id member
    have listed : job ∈ reached.pending.ordered :=
      reached.pending.ordered_perm.mem_iff.mpr waiting
    exact ⟨job.view reached.now, List.mem_map_of_mem listed, named, Job.isLate_iff.mp late⟩
  · intro elapsed view outcome dispatched
    exact accounts.abandoned_iff (reached.perform_step (.tick elapsed)) dispatched

/-- Three jobs are found late while a job of high priority is dispatched, and again by the tick that
abandons one of them. Another one is then taken out of the queue. -/
theorem late_jobs_counted_across_calls :
    let calls : List Call := [
      .enqueue (.inTurn .write ⟨1⟩ .low (some 5)), .enqueue (.inTurn .write ⟨1⟩ .low (some 8)),
      .enqueue (.inTurn .write ⟨1⟩ .high none), .enqueue (.inTurn .write ⟨1⟩ .low (some 9)),
      .tick 10, .tick 1, .dequeue]
    let scheduler := ofSettings Settings.standard
    let reached := scheduler.after calls
    let ledger := scheduler.observe LateLedger.next {} calls
    ofSettings? Settings.standard = .ok scheduler ∧
      ledger.sighted = {⟨0⟩, ⟨1⟩, ⟨3⟩} ∧ ledger.handedOut = 1 ∧ reached.overdue = [⟨3⟩] ∧
      reached.tallyReport.timeouts = 3 ∧ reached.tallyReport.deadlineMisses = 1 ∧
      ∃ view outcome, (reached.tick 0).2.dispatched = some (view, outcome) ∧
        outcome.isCompleted = false := by
  intro calls
  dsimp only
  have built : ofSettings? Settings.standard = .ok (ofSettings Settings.standard) := rfl
  obtain ⟨_, _, counted, abandons⟩ := late_jobs_counted_once built calls
  have sighted : ((ofSettings Settings.standard).observe LateLedger.next {} calls).sighted =
      {⟨0⟩, ⟨1⟩, ⟨3⟩} := by decide +kernel
  have first : (((ofSettings Settings.standard).after calls).tick 0).2.dispatched.map (·.1.id) =
      some ⟨3⟩ := by decide +kernel
  have marked : ⟨3⟩ ∈ (((ofSettings Settings.standard).after calls).advance 0).markOverdue.overdue := by
    decide +kernel
  obtain ⟨⟨view, outcome⟩, dispatched, named⟩ := Option.map_eq_some_iff.mp first
  have abandoned := (abandons 0 view outcome dispatched).1
  have named : view.id = ⟨3⟩ := named
  rw [sighted] at counted
  refine ⟨built, sighted, by decide +kernel, by decide +kernel, counted, by decide +kernel,
    view, outcome, dispatched, ?_⟩
  rw [abandoned, named]
  exact marked

end Scheduler

end NvMemory
