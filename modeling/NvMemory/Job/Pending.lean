import NvMemory.Job

/-!
The jobs that wait for dispatch.

The list `jobs` is the semantic model: the waiting jobs in the order of their arrival.
`pop` takes out the job that precedes all others, wherever it stands, and `ordered` lists
all jobs in the order of dispatch, which is the order in which `drain` gives them out.
-/

namespace NvMemory

structure Pending where
  jobs : List Job
deriving Repr, DecidableEq, Inhabited

namespace Pending

/-- The job that goes before all others; of equals, the one that arrived first. -/
def foremost (first : Job) : List Job → Job
  | [] => first
  | job :: rest => foremost (if job.Before first then job else first) rest

/-- Puts a job in front of the first one that does not precede it. -/
def place (job : Job) : List Job → List Job
  | [] => [job]
  | head :: rest => if head.Before job then head :: place job rest else job :: head :: rest

/-- The jobs in the order of dispatch; equals keep the order of their arrival. -/
def inOrder : List Job → List Job
  | [] => []
  | job :: rest => place job (inOrder rest)

def empty : Pending :=
  ⟨[]⟩

def size (pending : Pending) : Nat :=
  pending.jobs.length

def isEmpty (pending : Pending) : Bool :=
  pending.jobs.isEmpty

def push (pending : Pending) (job : Job) : Pending :=
  ⟨pending.jobs ++ [job]⟩

def peek? (pending : Pending) : Option Job :=
  match pending.jobs with
  | [] => none
  | first :: rest => some (foremost first rest)

def pop (pending : Pending) : Option Job × Pending :=
  match pending.peek? with
  | none => (none, pending)
  | some job => (some job, ⟨pending.jobs.erase job⟩)

def ordered (pending : Pending) : List Job :=
  inOrder pending.jobs

@[simp] theorem jobs_push (pending : Pending) (job : Job) :
    (pending.push job).jobs = pending.jobs ++ [job] := rfl

@[simp] theorem size_push (pending : Pending) (job : Job) :
    (pending.push job).size = pending.size + 1 := by
  simp [size]

theorem foremost_mem (first : Job) (rest : List Job) : foremost first rest ∈ first :: rest := by
  induction rest generalizing first with
  | nil => exact List.mem_cons_self
  | cons job rest ih =>
      unfold foremost
      rcases List.mem_cons.mp (ih (if job.Before first then job else first)) with same | member
      · rw [same]
        split <;> simp
      · exact List.mem_cons_of_mem _ (List.mem_cons_of_mem _ member)

theorem peek?_mem {pending : Pending} {job : Job} (found : pending.peek? = some job) :
    job ∈ pending.jobs := by
  unfold peek? at found
  split at found
  · cases found
  · rename_i first rest jobs
    cases found
    rw [jobs]
    exact foremost_mem first rest

theorem size_pop {pending rest : Pending} {job : Job} (popped : pending.pop = (some job, rest)) :
    rest.size + 1 = pending.size := by
  unfold pop at popped
  split at popped
  · cases popped
  · rename_i head found
    cases popped
    have member := peek?_mem found
    have nonempty := List.length_pos_of_mem member
    simp only [size, List.length_erase_of_mem member]
    omega

/-- The jobs in the order in which `pop` gives them out. -/
def drain (pending : Pending) : List Job :=
  match _popped : pending.pop with
  | (none, _) => []
  | (some job, rest) => job :: drain rest
termination_by pending.size
decreasing_by
  have := size_pop (by assumption)
  omega

theorem place_perm (job : Job) (jobs : List Job) : (place job jobs).Perm (job :: jobs) := by
  induction jobs with
  | nil => exact List.Perm.refl _
  | cons head rest ih =>
      unfold place
      split
      · exact (ih.cons head).trans (List.Perm.swap job head rest)
      · exact List.Perm.refl _

theorem inOrder_perm (jobs : List Job) : (inOrder jobs).Perm jobs := by
  induction jobs with
  | nil => exact List.Perm.refl _
  | cons job rest ih => exact (place_perm job (inOrder rest)).trans (ih.cons job)

end Pending

end NvMemory
