import Mathlib.Order.Defs.Unbundled
import NvMemory.Proofs.Pending

/-!
The waiting jobs as a priority queue.

`Job.Precedes` is the order of dispatch in words, without ranks. Whatever is pushed and popped, the jobs
that wait are those that have been pushed and not popped, and each pop takes the one that precedes all
others. So a list of the waiting jobs and the jobs that are popped one after the other are the same.
-/

namespace NvMemory

namespace Job

variable {first second third : Job}

/-- An immediate job precedes the others. Jobs that are alike in this go by their priority, then by
their time, and then by their number. -/
inductive Precedes (first second : Job) : Prop
  | immediate (now : first.immediate = true) (later : second.immediate = false)
  | priority (immediate : first.immediate = second.immediate)
      (higher : second.priority.level < first.priority.level)
  | time (immediate : first.immediate = second.immediate) (priority : first.priority = second.priority)
      (earlier : first.enqueuedAt < second.enqueuedAt)
  | number (immediate : first.immediate = second.immediate)
      (priority : first.priority = second.priority) (time : first.enqueuedAt = second.enqueuedAt)
      (lower : first.id.number < second.id.number)

theorem before_iff_precedes : first.Before second ↔ first.Precedes second := by
  have sooner (one two : Bool) :
      (if one then 0 else 1) < (if two then 0 else 1) ↔ one = true ∧ two = false := by
    cases one <;> cases two <;> decide
  have alike (one two : Bool) : (if one then 0 else 1) = (if two then 0 else 1) ↔ one = two := by
    cases one <;> cases two <;> decide
  have higher (one two : Priority) : 2 - one.level < 2 - two.level ↔ two.level < one.level := by
    cases one <;> cases two <;> decide
  have level (one two : Priority) : 2 - one.level = 2 - two.level ↔ one = two := by
    cases one <;> cases two <;> decide
  simp only [Before, rank, List.cons_lt_cons_iff, List.not_lt_nil, and_false, or_false, sooner, alike,
    higher, level]
  constructor
  · rintro (⟨now, later⟩ | ⟨immediate, prior | ⟨priority, earlier | ⟨time, lower⟩⟩⟩)
    · exact .immediate now later
    · exact .priority immediate prior
    · exact .time immediate priority earlier
    · exact .number immediate priority time lower
  · intro precedes
    cases precedes with
    | immediate now later => exact .inl ⟨now, later⟩
    | priority immediate prior => exact .inr ⟨immediate, .inl prior⟩
    | time immediate priority earlier => exact .inr ⟨immediate, .inr ⟨priority, .inl earlier⟩⟩
    | number immediate priority time lower =>
        exact .inr ⟨immediate, .inr ⟨priority, .inr ⟨time, lower⟩⟩⟩

instance (first second : Job) : Decidable (first.Precedes second) :=
  decidable_of_iff _ before_iff_precedes

theorem Precedes.trans (earlier : first.Precedes second) (later : second.Precedes third) :
    first.Precedes third := by
  rw [← before_iff_precedes] at earlier later ⊢
  exact List.lt_trans earlier later

theorem not_precedes_self (job : Job) : ¬ job.Precedes job := by
  rw [← before_iff_precedes]
  exact job.not_before_self

theorem noLater_iff : first.NoLater second ↔ ¬ second.Precedes first := by
  rw [NoLater, before_iff_precedes]

end Job

namespace Pending

variable {pending : Pending} {job : Job}

theorem precedes_total (distinct : (pending.jobs.map Job.id).Nodup) :
    IsStrictTotalOrder {job // job ∈ pending.jobs} fun first second =>
      first.val.Precedes second.val where
  irrefl job := job.val.not_precedes_self
  trans _ _ _ earlier later := earlier.trans later
  trichotomous first second notBefore notAfter := by
    have same := eq_of_noLater distinct first.property second.property
      (Job.noLater_iff.mpr notAfter) (Job.noLater_iff.mpr notBefore)
    exact Subtype.ext same

theorem peek?_eq_none_iff : pending.peek? = none ↔ pending.jobs = [] := by
  unfold peek?
  split <;> simp_all

theorem peek?_noLater (found : pending.peek? = some job) :
    ∀ other ∈ pending.jobs, job.NoLater other := by
  unfold peek? at found
  split at found
  · cases found
  · rename_i first rest jobs
    cases found
    rw [jobs]
    exact foremost_noLater first rest

theorem peek?_eq_some_iff (distinct : (pending.jobs.map Job.id).Nodup) :
    pending.peek? = some job ↔
      job ∈ pending.jobs ∧ ∀ other ∈ pending.jobs, other ≠ job → job.Precedes other := by
  constructor
  · intro found
    have member := peek?_mem found
    refine ⟨member, fun other present different => ?_⟩
    by_contra late
    have noLater := peek?_noLater found other present
    apply different
    exact eq_of_noLater distinct present member (Job.noLater_iff.mpr late) noLater
  · rintro ⟨member, precedes⟩
    cases found : pending.peek? with
    | none =>
        rw [peek?_eq_none_iff.mp found] at member
        contradiction
    | some top =>
        by_contra different
        have first := precedes top (peek?_mem found) fun same => different (congrArg some same)
        exact Job.noLater_iff.mp (peek?_noLater found job member) first

theorem fst_pop (pending : Pending) : pending.pop.1 = pending.peek? := by
  unfold pop
  split <;> simp_all

theorem perm_pop (pending : Pending) :
    (pending.pop.1.toList ++ pending.pop.2.jobs).Perm pending.jobs := by
  cases popped : pending.pop with
  | mk taken remaining =>
      cases taken with
      | none =>
          have same := pop_of_none (congrArg Prod.fst popped)
          rw [popped] at same
          cases same
          exact List.Perm.refl _
      | some job => exact (perm_of_pop popped).symm

inductive Operation where
  | push (job : Job)
  | pop
deriving Repr, DecidableEq

def Operation.pushed? : Operation → Option Job
  | .push job => some job
  | .pop => none

def pushed (operations : List Operation) : List Job :=
  operations.filterMap Operation.pushed?

/-- The queue after some operations, and the jobs that were popped, in order. -/
def performAll (pending : Pending) : List Operation → Pending × List Job
  | [] => (pending, [])
  | .push job :: rest => (pending.push job).performAll rest
  | .pop :: rest =>
      let (job, remaining) := pending.pop
      let (final, popped) := remaining.performAll rest
      (final, job.toList ++ popped)

theorem performAll_pop (pending : Pending) (rest : List Operation) :
    pending.performAll (.pop :: rest) =
      ((pending.pop.2.performAll rest).1,
        pending.pop.1.toList ++ (pending.pop.2.performAll rest).2) := rfl

/-- No job is lost, and none is popped twice. -/
theorem performAll_perm (pending : Pending) (operations : List Operation) :
    ((pending.performAll operations).2 ++ (pending.performAll operations).1.jobs).Perm
      (pending.jobs ++ pushed operations) := by
  induction operations generalizing pending with
  | nil => simp [performAll, pushed]
  | cons operation rest ih =>
      cases operation with
      | push job =>
          have later := ih (pending.push job)
          rw [jobs_push, List.append_assoc] at later
          exact later
      | pop =>
          have later := (ih pending.pop.2).append_left pending.pop.1.toList
          have taken := pending.perm_pop.append_right (pushed rest)
          rw [performAll_pop, List.append_assoc]
          rw [List.append_assoc] at taken
          exact later.trans taken

theorem performAll_drain (pending : Pending) :
    pending.performAll (List.replicate pending.size .pop) = (empty, pending.drain) := by
  fun_induction drain pending with
  | case1 pending remaining popped =>
      have nothing : pending.jobs = [] := by
        rw [← peek?_eq_none_iff, ← fst_pop, popped]
      cases pending
      cases nothing
      rfl
  | case2 pending job rest popped ih =>
      rw [← size_pop popped, List.replicate_succ, performAll_pop, popped, ih]
      rfl

theorem drain_eq_ordered (distinct : (pending.jobs.map Job.id).Nodup) :
    pending.drain = pending.ordered := by
  fun_induction drain pending with
  | case1 pending remaining popped => exact (ordered_of_none (congrArg Prod.fst popped)).symm
  | case2 pending job rest popped ih =>
      have fewer := distinct.sublist ((sublist_of_pop popped).map Job.id)
      rw [ordered_of_pop distinct popped, ih fewer]

/-- However pushes and pops of jobs with different numbers are mixed, whatever else the jobs have in common
and in whatever order they come: the jobs in the queue are those that were pushed and not popped, and of
any two of them one precedes the other. The one that precedes all others is on top and is popped next. The
jobs are listed as they would be popped until none is left. -/
theorem queue_follows_precedence (operations : List Operation)
    (distinct : ((pushed operations).map Job.id).Nodup) :
    let reached := (empty.performAll operations).1
    let popped := (empty.performAll operations).2
    (popped ++ reached.jobs).Perm (pushed operations) ∧
      IsStrictTotalOrder {job // job ∈ reached.jobs} (fun first second =>
        first.val.Precedes second.val) ∧
      (reached.peek? = none ↔ reached.jobs = []) ∧
      (∀ job, reached.peek? = some job ↔
        job ∈ reached.jobs ∧ ∀ other ∈ reached.jobs, other ≠ job → job.Precedes other) ∧
      reached.pop.1 = reached.peek? ∧
      (reached.pop.1.toList ++ reached.pop.2.jobs).Perm reached.jobs ∧
      reached.drain = reached.ordered ∧
      reached.performAll (List.replicate reached.size .pop) = (empty, reached.ordered) := by
  intro reached popped
  have kept : (popped ++ reached.jobs).Perm (pushed operations) := empty.performAll_perm operations
  have waiting : (reached.jobs.map Job.id).Nodup := by
    have all := (kept.map Job.id).nodup_iff.mpr distinct
    rw [List.map_append] at all
    exact all.of_append_right
  refine ⟨kept, precedes_total waiting, peek?_eq_none_iff, fun job => peek?_eq_some_iff waiting,
    fst_pop reached, perm_pop reached, drain_eq_ordered waiting, ?_⟩
  rw [performAll_drain, drain_eq_ordered waiting]

/-- Six jobs whose times do not grow with their numbers, the second one popped before the others have
come. -/
theorem queue_of_mixed_jobs :
    let job := fun (number : Nat) (priority : Priority) (immediate : Bool) (time : Nat) =>
      Job.mk ⟨number⟩ .read ⟨0⟩ priority immediate time 0 none .idle 0 3
    let operations : List Operation := [
      .push (job 4 .low false 0), .push (job 7 .high false 20), .pop, .push (job 1 .med false 9),
      .push (job 8 .med false 3), .push (job 0 .med false 9), .push (job 3 .low true 50)]
    let reached := (empty.performAll operations).1
    ((pushed operations).map Job.id).Nodup ∧
      reached.peek? = some (job 3 .low true 50) ∧
      reached.drain.map (·.id.number) = [3, 8, 0, 1, 4] := by
  intro job operations reached
  have distinct : ((pushed operations).map Job.id).Nodup := by decide
  have listed : reached.ordered.map (·.id.number) = [3, 8, 0, 1, 4] := by decide +kernel
  obtain ⟨_, _, _, top, _, _, drained, _⟩ := queue_follows_precedence operations distinct
  exact ⟨distinct, (top _).mpr (by decide +kernel), drained ▸ listed⟩

end Pending

end NvMemory
