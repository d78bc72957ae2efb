import Mathlib.Data.List.Nodup
import NvMemory.Job.Pending

/-!
The order in which waiting jobs are dispatched.

`Pending` looks for its next job and lists its jobs in two different ways. Both follow the ranks of
the jobs, and since the number of a job is part of its rank, jobs with different numbers can stand
in one order only (`Pending.ordered_eq_of_noLater`). That order begins with the job that is taken out next
(`Pending.peek?_eq_head?`).
-/

namespace NvMemory

namespace Job

variable {first second third : Job}

theorem not_before_self (job : Job) : ¬ job.Before job :=
  List.lt_irrefl job.rank

/-- The job `first` is not dispatched after `second`. -/
def NoLater (first second : Job) : Prop :=
  ¬ second.Before first

theorem NoLater.refl (job : Job) : job.NoLater job :=
  job.not_before_self

theorem NoLater.trans (earlier : first.NoLater second) (later : second.NoLater third) :
    first.NoLater third :=
  List.not_lt.mpr (List.le_trans (List.not_lt.mp earlier) (List.not_lt.mp later))

theorem Before.noLater (before : first.Before second) : first.NoLater second :=
  List.lt_asymm before

/-- Of two jobs one is dispatched first, unless they have the same number. -/
theorem NoLater.id_eq (earlier : first.NoLater second) (later : second.NoLater first) :
    first.id = second.id := by
  have same : first.rank = second.rank :=
    List.le_antisymm (List.not_lt.mp earlier) (List.not_lt.mp later)
  simp only [rank, List.cons.injEq, and_true] at same
  obtain ⟨_, _, _, number⟩ := same
  exact congrArg JobId.mk number

end Job

namespace Pending

variable {pending rest : Pending} {jobs listed : List Job} {job : Job}

theorem peek?_of_pop (popped : pending.pop = (some job, rest)) : pending.peek? = some job := by
  unfold pop at popped
  split at popped
  · cases popped
  · rename_i found
    cases popped
    exact found

theorem mem_of_pop (popped : pending.pop = (some job, rest)) : job ∈ pending.jobs :=
  peek?_mem (peek?_of_pop popped)

theorem sublist_of_pop (popped : pending.pop = (some job, rest)) :
    rest.jobs.Sublist pending.jobs := by
  unfold pop at popped
  split at popped
  · cases popped
  · cases popped
    exact List.erase_sublist

theorem perm_of_pop (popped : pending.pop = (some job, rest)) :
    pending.jobs.Perm (job :: rest.jobs) := by
  have member := mem_of_pop popped
  unfold pop at popped
  split at popped
  · cases popped
  · cases popped
    exact List.perm_cons_erase member

theorem pop_of_none (missing : pending.pop.1 = none) : pending.pop = (none, pending) := by
  unfold pop at missing ⊢
  split
  · rfl
  · rename_i found
    simp [found] at missing

theorem eq_of_noLater (distinct : (jobs.map Job.id).Nodup) {first second : Job}
    (left : first ∈ jobs) (right : second ∈ jobs) (earlier : first.NoLater second)
    (later : second.NoLater first) : first = second :=
  List.inj_on_of_nodup_map distinct left right (earlier.id_eq later)

theorem place_sorted (job : Job) (sorted : jobs.Pairwise Job.NoLater) :
    (place job jobs).Pairwise Job.NoLater := by
  induction jobs with
  | nil => exact List.pairwise_singleton _ _
  | cons head rest ih =>
      obtain ⟨above, restSorted⟩ := List.pairwise_cons.mp sorted
      unfold place
      split
      · rename_i before
        refine List.pairwise_cons.mpr ⟨fun other member => ?_, ih restSorted⟩
        rcases List.mem_cons.mp ((place_perm job rest).mem_iff.mp member) with rfl | found
        · exact before.noLater
        · exact above other found
      · rename_i notBefore
        have first : job.NoLater head := notBefore
        refine List.pairwise_cons.mpr ⟨fun other member => ?_, sorted⟩
        rcases List.mem_cons.mp member with rfl | found
        · exact first
        · exact first.trans (above other found)

theorem inOrder_sorted (jobs : List Job) : (inOrder jobs).Pairwise Job.NoLater := by
  induction jobs with
  | nil => exact List.Pairwise.nil
  | cons job rest ih => exact place_sorted job ih

theorem ordered_perm (pending : Pending) : pending.ordered.Perm pending.jobs :=
  inOrder_perm pending.jobs

theorem ordered_sorted (pending : Pending) : pending.ordered.Pairwise Job.NoLater :=
  inOrder_sorted pending.jobs

/-- Jobs with different numbers can stand in one order only. -/
theorem ordered_eq_of_noLater (distinct : (pending.jobs.map Job.id).Nodup)
    (same : listed.Perm pending.jobs) (sorted : listed.Pairwise Job.NoLater) :
    pending.ordered = listed := by
  have perm : pending.ordered.Perm listed := pending.ordered_perm.trans same.symm
  refine perm.eq_of_pairwise ?_ pending.ordered_sorted sorted
  intro first second left right before after
  refine eq_of_noLater distinct ?_ (same.mem_iff.mp right) before after
  exact pending.ordered_perm.mem_iff.mp left

/-- Jobs with different numbers that are listed by rank are listed as they will be dispatched. -/
theorem ordered_eq (distinct : (pending.jobs.map Job.id).Nodup)
    (same : listed.Perm pending.jobs) (sorted : listed.Pairwise Job.Before) :
    pending.ordered = listed :=
  ordered_eq_of_noLater distinct same (sorted.imp Job.Before.noLater)

theorem foremost_noLater (first : Job) (rest : List Job) :
    ∀ job ∈ first :: rest, (foremost first rest).NoLater job := by
  induction rest generalizing first with
  | nil =>
      intro job member
      rw [List.mem_singleton.mp member]
      exact Job.NoLater.refl first
  | cons second rest ih =>
      intro job member
      unfold foremost
      split
      · rename_i before
        have least := ih second
        rcases List.mem_cons.mp member with rfl | later
        · exact (least second List.mem_cons_self).trans before.noLater
        · exact least job later
      · rename_i notBefore
        have least := ih first
        rcases List.mem_cons.mp member with rfl | later
        · exact least job List.mem_cons_self
        · rcases List.mem_cons.mp later with rfl | found
          · exact (least first List.mem_cons_self).trans notBefore
          · exact least job (List.mem_cons_of_mem _ found)

theorem peek?_eq_head? (distinct : (pending.jobs.map Job.id).Nodup) :
    pending.peek? = pending.ordered.head? := by
  have perm := pending.ordered_perm
  have sorted := pending.ordered_sorted
  cases arrived : pending.jobs with
  | nil =>
      rw [arrived] at perm
      rw [List.Perm.eq_nil perm]
      simp only [peek?, arrived, List.head?_nil]
  | cons first rest =>
      obtain ⟨head, tail, listed⟩ : ∃ head tail, pending.ordered = head :: tail := by
        refine List.exists_cons_of_ne_nil fun none => ?_
        rw [none, arrived] at perm
        exact List.cons_ne_nil _ _ perm.symm.eq_nil
      rw [listed] at perm sorted
      have headMember : head ∈ pending.jobs := perm.mem_iff.mp List.mem_cons_self
      have member : foremost first rest ∈ pending.jobs := arrived ▸ foremost_mem first rest
      have least := foremost_noLater first rest head (arrived ▸ headMember)
      have greatest : head.NoLater (foremost first rest) := by
        rcases List.mem_cons.mp (perm.mem_iff.mpr member) with same | later
        · rw [same]
          exact Job.NoLater.refl head
        · exact (List.pairwise_cons.mp sorted).1 _ later
      simp only [peek?, arrived, listed, List.head?_cons]
      rw [eq_of_noLater distinct member headMember least greatest]

/-- The order of the jobs that stay is not changed when the first one is taken out. -/
theorem ordered_of_pop (distinct : (pending.jobs.map Job.id).Nodup)
    (popped : pending.pop = (some job, rest)) : pending.ordered = job :: rest.ordered := by
  have first : pending.ordered.head? = some job :=
    (peek?_eq_head? distinct).symm.trans (peek?_of_pop popped)
  obtain ⟨others, listed⟩ := List.head?_eq_some_iff.mp first
  have perm : (job :: others).Perm (job :: rest.jobs) :=
    listed ▸ pending.ordered_perm.trans (perm_of_pop popped)
  have sorted : (job :: others).Pairwise Job.NoLater := listed ▸ pending.ordered_sorted
  have fewer : (rest.jobs.map Job.id).Nodup := distinct.sublist ((sublist_of_pop popped).map _)
  rw [listed, ordered_eq_of_noLater fewer perm.cons_inv sorted.of_cons]

theorem ordered_of_none (missing : pending.pop.1 = none) : pending.ordered = [] := by
  unfold pop peek? at missing
  split at missing
  · rename_i none
    unfold ordered
    split at none
    · rename_i empty
      rw [empty]
      rfl
    · contradiction
  · contradiction

end Pending

end NvMemory
