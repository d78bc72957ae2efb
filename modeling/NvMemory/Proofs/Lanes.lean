import NvMemory.Proofs.Pending

/-!
One queue for each class of jobs.

`Lanes` keeps the waiting jobs of each class in a queue of their own and goes through the classes
in the order of dispatch. Jobs that have arrived with growing numbers, and never earlier than the
one before, are dispatched in the order of their lanes, whatever their classes
(`Pending.ordered_eq_listing`).
-/

namespace NvMemory

/-- What decides on the dispatch of a job before its time of arrival does. -/
structure Urgency where
  immediate : Bool
  priority : Priority
deriving Repr, DecidableEq

namespace Urgency

def all : List Urgency := [
  ⟨true, .high⟩, ⟨true, .med⟩, ⟨true, .low⟩,
  ⟨false, .high⟩, ⟨false, .med⟩, ⟨false, .low⟩]

def rank (urgency : Urgency) : List Nat :=
  [if urgency.immediate then 0 else 1, 2 - urgency.priority.level]

theorem mem_all (urgency : Urgency) : urgency ∈ all := by
  obtain ⟨immediate, priority⟩ := urgency
  cases immediate <;> cases priority <;> decide

theorem all_sorted : all.Pairwise (·.rank < ·.rank) := by
  decide

end Urgency

namespace Job

variable {first second : Job}

def urgency (job : Job) : Urgency :=
  ⟨job.immediate, job.priority⟩

/-- The second job has a greater number and did not arrive earlier. -/
structure ArrivedBefore (first second : Job) : Prop where
  time : first.enqueuedAt ≤ second.enqueuedAt
  number : first.id.number < second.id.number

theorem before_of_rank_lt (urgent : first.urgency.rank < second.urgency.rank) :
    first.Before second := by
  simp only [Urgency.rank, urgency, List.cons_lt_cons_iff] at urgent
  simp only [Before, rank, List.cons_lt_cons_iff]
  rcases urgent with lower | ⟨same, lower | ⟨_, none⟩⟩
  · exact .inl lower
  · exact .inr ⟨same, .inl lower⟩
  · exact absurd none (List.lt_irrefl _)

theorem ArrivedBefore.before (arrived : first.ArrivedBefore second)
    (same : first.urgency = second.urgency) : first.Before second := by
  obtain ⟨immediate, priority⟩ := Urgency.mk.inj same
  simp only [Before, rank, List.cons_lt_cons_iff, immediate, priority, true_and]
  have time := arrived.time
  have number := arrived.number
  by_cases equal : first.enqueuedAt = second.enqueuedAt
  · exact .inr (.inr (.inr ⟨equal, .inl number⟩))
  · exact .inr (.inr (.inl (by omega)))

end Job

/-- The waiting jobs of each class, in the order of their arrival. -/
structure Lanes where
  jobs : Urgency → List Job

namespace Lanes

variable {jobs : List Job} {job : Job}

def empty : Lanes :=
  ⟨fun _ => []⟩

def set (lanes : Lanes) (urgency : Urgency) (jobs : List Job) : Lanes :=
  ⟨fun other => if other = urgency then jobs else lanes.jobs other⟩

def append (lanes : Lanes) (urgency : Urgency) (job : Job) : Lanes :=
  lanes.set urgency (lanes.jobs urgency ++ [job])

/-- Takes the first job out of the first lane that has one. -/
def takeFrom (lanes : Lanes) : List Urgency → Option Job × Lanes
  | [] => (none, lanes)
  | urgency :: others =>
      match lanes.jobs urgency with
      | [] => lanes.takeFrom others
      | job :: rest => (some job, lanes.set urgency rest)

def take (lanes : Lanes) : Option Job × Lanes :=
  lanes.takeFrom Urgency.all

def listing (lanes : Lanes) : List Job :=
  Urgency.all.flatMap lanes.jobs

/-- The lanes in which `jobs` wait if they arrived in this order. -/
def ofJobs (jobs : List Job) : Lanes :=
  ⟨fun urgency => jobs.filter (·.urgency = urgency)⟩

theorem ofJobs_nil : ofJobs [] = empty := rfl

theorem mem_listing_ofJobs : job ∈ (ofJobs jobs).listing ↔ job ∈ jobs := by
  simp [listing, ofJobs, List.mem_flatMap, Urgency.mem_all]

theorem ofJobs_concat (jobs : List Job) (job : Job) :
    ofJobs (jobs ++ [job]) = (ofJobs jobs).append job.urgency job := by
  simp only [ofJobs, append, set, mk.injEq]
  funext urgency
  by_cases same : urgency = job.urgency
  · simp [same]
  · simp [same, Ne.symm same]

/-- Within a lane the jobs have arrived one after the other, and jobs of different lanes are
dispatched in the order of their lanes. -/
theorem listing_sorted (arrived : jobs.Pairwise Job.ArrivedBefore) :
    (ofJobs jobs).listing.Pairwise Job.Before := by
  refine List.pairwise_flatMap.mpr ⟨fun urgency _ => ?_, ?_⟩
  · refine List.pairwise_filter.mpr (arrived.imp ?_)
    intro first second earlier left right
    simp only [decide_eq_true_eq] at left right
    exact earlier.before (left.trans right.symm)
  · refine Urgency.all_sorted.imp fun {first second} urgent left inFirst right inSecond => ?_
    simp only [ofJobs, List.mem_filter, decide_eq_true_eq] at inFirst inSecond
    refine Job.before_of_rank_lt ?_
    rwa [inFirst.2, inSecond.2]

/-- The first job of a lane leaves the other lanes alone. -/
theorem ofJobs_erase {urgency : Urgency} {rest : List Job}
    (waiting : (ofJobs jobs).jobs urgency = job :: rest) :
    ofJobs (jobs.erase job) = (ofJobs jobs).set urgency rest := by
  have lane : jobs.filter (·.urgency = urgency) = job :: rest := waiting
  have classed : job.urgency = urgency := by
    have member : job ∈ jobs.filter (·.urgency = urgency) := lane ▸ List.mem_cons_self
    simpa using (List.mem_filter.mp member).2
  simp only [ofJobs, set, mk.injEq]
  funext other
  rw [← List.erase_filter]
  by_cases same : other = urgency
  · rw [if_pos same, same, lane, List.erase_cons_head]
  · rw [if_neg same]
    refine List.erase_of_not_mem fun member => same ?_
    simpa [classed, eq_comm] using (List.mem_filter.mp member).2

theorem takeFrom_ofJobs (jobs : List Job) (urgencies : List Urgency) :
    (ofJobs jobs).takeFrom urgencies =
      match (urgencies.flatMap (ofJobs jobs).jobs).head? with
      | none => (none, ofJobs jobs)
      | some job => (some job, ofJobs (jobs.erase job)) := by
  induction urgencies with
  | nil => rfl
  | cons urgency others ih =>
      cases waiting : (ofJobs jobs).jobs urgency with
      | nil => simp [takeFrom, waiting, ih]
      | cons job rest =>
          simp only [takeFrom, waiting, List.flatMap_cons, List.cons_append, List.head?_cons]
          rw [ofJobs_erase waiting]

end Lanes

namespace Pending

variable {pending : Pending}

theorem distinct_of_arrived {jobs : List Job} (arrived : jobs.Pairwise Job.ArrivedBefore) :
    (jobs.map Job.id).Nodup := by
  refine List.pairwise_map.mpr (arrived.imp fun earlier same => ?_)
  have number := earlier.number
  rw [same] at number
  exact Nat.lt_irrefl _ number

theorem ordered_eq_listing (arrived : pending.jobs.Pairwise Job.ArrivedBefore) :
    pending.ordered = (Lanes.ofJobs pending.jobs).listing := by
  have distinct := distinct_of_arrived arrived
  have sorted := Lanes.listing_sorted arrived
  have apart : (Lanes.ofJobs pending.jobs).listing.Nodup := by
    refine List.Pairwise.imp (fun before same => ?_) sorted
    rw [same] at before
    exact Job.not_before_self _ before
  refine ordered_eq distinct ?_ sorted
  refine (List.perm_ext_iff_of_nodup apart (List.Nodup.of_map _ distinct)).mpr ?_
  exact fun _ => Lanes.mem_listing_ofJobs

theorem pop_eq_take (arrived : pending.jobs.Pairwise Job.ArrivedBefore) :
    (Lanes.ofJobs pending.jobs).take = (pending.pop.1, Lanes.ofJobs pending.pop.2.jobs) := by
  have first : pending.peek? = (Lanes.ofJobs pending.jobs).listing.head? := by
    rw [peek?_eq_head? (distinct_of_arrived arrived), ordered_eq_listing arrived]
  have taken := Lanes.takeFrom_ofJobs pending.jobs Urgency.all
  rw [← Lanes.listing, ← first] at taken
  rw [Lanes.take, taken, pop]
  cases pending.peek? <;> rfl

end Pending

end NvMemory
