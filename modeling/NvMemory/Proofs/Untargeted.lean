import NvMemory.Proofs.Scheduler

/-!
What a job is once its target is taken from it: the block, and whether all blocks are meant.

The queue orders jobs by urgency and arrival alone, and a dispatch asks only whether a job writes. So
both do the same with jobs that differ in their targets, and the order in which they do it is the same.
-/

namespace NvMemory

/-- The kinds that write count as one, and so do the kinds that read. -/
def JobKind.plain (kind : JobKind) : JobKind :=
  if kind.isWrite then .write else .read

@[simp] theorem JobKind.isWrite_plain (kind : JobKind) : kind.plain.isWrite = kind.isWrite := by
  cases kind <;> rfl

@[simp] theorem JobKind.plain_plain (kind : JobKind) : kind.plain.plain = kind.plain := by
  cases kind <;> rfl

/-! Every target is replaced by the block with the number zero. -/

def Request.untargeted (request : Request) : Request :=
  { request with kind := request.kind.plain, block := ⟨0⟩ }

def Job.untargeted (job : Job) : Job :=
  { job with kind := job.kind.plain, block := ⟨0⟩ }

/-- What does not depend on the targets is the same of jobs that differ in their targets only. -/
theorem Job.congr_untargeted {τ : Type} {first second : Job} (read : Job → τ)
    (blind : ∀ job : Job, read job.untargeted = read job)
    (same : first.untargeted = second.untargeted) : read first = read second := by
  rw [← blind first, same, blind second]

def JobView.untargeted (view : JobView) : JobView :=
  { view with kind := view.kind.plain, block := ⟨0⟩ }

def Outcome.untargeted : Outcome → Outcome
  | .completed job kind _ execution retries => .completed job kind.plain ⟨0⟩ execution retries
  | .deadlineMissed job kind _ deadline time => .deadlineMissed job kind.plain ⟨0⟩ deadline time

namespace Pending

variable {pending : Pending} {jobs : List Job}

def untargeted (pending : Pending) : Pending :=
  ⟨pending.jobs.map Job.untargeted⟩

theorem size_untargeted (pending : Pending) : pending.untargeted.size = pending.size :=
  List.length_map _

theorem foremost_untargeted (first : Job) (rest : List Job) :
    foremost first.untargeted (rest.map Job.untargeted) = (foremost first rest).untargeted := by
  induction rest generalizing first with
  | nil => rfl
  | cons job rest ih =>
      -- the rank of a job does not depend on its target
      have same : job.untargeted.Before first.untargeted ↔ job.Before first := Iff.rfl
      simp only [List.map_cons, foremost, same]
      split
      · exact ih job
      · exact ih first

theorem place_untargeted (job : Job) (jobs : List Job) :
    place job.untargeted (jobs.map Job.untargeted) = (place job jobs).map Job.untargeted := by
  induction jobs with
  | nil => rfl
  | cons head rest ih =>
      have same : head.untargeted.Before job.untargeted ↔ head.Before job := Iff.rfl
      simp only [List.map_cons, place, same]
      split
      · rw [ih, List.map_cons]
      · rfl

theorem inOrder_untargeted (jobs : List Job) :
    inOrder (jobs.map Job.untargeted) = (inOrder jobs).map Job.untargeted := by
  induction jobs with
  | nil => rfl
  | cons job rest ih => rw [List.map_cons, inOrder, ih, place_untargeted, inOrder]

theorem peek?_untargeted (pending : Pending) :
    pending.untargeted.peek? = pending.peek?.map Job.untargeted := by
  obtain ⟨jobs⟩ := pending
  cases jobs with
  | nil => rfl
  | cons first rest => exact congrArg some (foremost_untargeted first rest)

/-- Jobs with different numbers stay different without their targets. -/
theorem erase_untargeted (distinct : (jobs.map Job.id).Nodup) {job : Job} (member : job ∈ jobs) :
    (jobs.map Job.untargeted).erase job.untargeted = (jobs.erase job).map Job.untargeted := by
  induction jobs with
  | nil => cases member
  | cons head rest ih =>
      obtain ⟨fresh, distinctRest⟩ := List.nodup_cons.mp distinct
      by_cases same : head = job
      · subst same
        rw [List.map_cons, List.erase_cons_head, List.erase_cons_head]
      · have later : job ∈ rest := List.mem_of_ne_of_mem (Ne.symm same) member
        have apart : head.untargeted ≠ job.untargeted := by
          intro equal
          have numbers := Job.congr_untargeted Job.id (fun _ => rfl) equal
          exact fresh (List.mem_map.mpr ⟨job, later, numbers.symm⟩)
        rw [List.map_cons, List.erase_cons_tail (by simpa using apart),
          List.erase_cons_tail (by simpa using same), List.map_cons, ih distinctRest later]

theorem pop_untargeted (distinct : (pending.jobs.map Job.id).Nodup) :
    pending.untargeted.pop =
      (pending.pop.1.map Job.untargeted, pending.pop.2.untargeted) := by
  unfold pop
  rw [peek?_untargeted]
  cases found : pending.peek? with
  | none => rfl
  | some job =>
      simp only [Option.map_some, untargeted, Prod.mk.injEq, mk.injEq, true_and]
      exact erase_untargeted distinct (peek?_mem found)

end Pending

/-- The settings agree in all that decides on the course of events. -/
structure Settings.SameTiming (first second : Settings) : Prop where
  readLatency : first.readLatency = second.readLatency
  writeLatency : first.writeLatency = second.writeLatency
  verifyLatency : first.verifyLatency = second.verifyLatency
  completionLatency : first.completionLatency = second.completionLatency
  retryModulus : first.retryModulus = second.retryModulus
  maxRetries : first.maxRetries = second.maxRetries
  queueCapacity : first.queueCapacity = second.queueCapacity

namespace Dispatch

variable {first second : Dispatch} {settings other : Settings}

/-- The dispatches differ in the targets of their jobs, in their blocks and in their journals only. -/
structure Alike (first second : Dispatch) : Prop where
  job : first.job.untargeted = second.job.untargeted
  clock : first.clock = second.clock
  tally : first.tally = second.tally

theorem Alike.now (alike : first.Alike second) : first.now = second.now :=
  congrArg Clock.now alike.clock

theorem Alike.enter (alike : first.Alike second) (state : JobState) :
    (first.enter state).Alike (second.enter state) where
  job := congrArg (fun job : Job => { job with state := state }) alike.job
  clock := alike.clock
  tally := alike.tally

theorem Alike.spend (alike : first.Alike second) (elapsed : UInt64) :
    (first.spend elapsed).Alike (second.spend elapsed) where
  job := alike.job
  clock := congrArg (·.advance elapsed.toNat) alike.clock
  tally := alike.tally

theorem Alike.retry (alike : first.Alike second) : first.retry.Alike second.retry where
  job := congrArg (fun job : Job => { job with retries := job.retries + 1 }) alike.job
  clock := alike.clock
  tally := congrArg (·.retry true) alike.tally

theorem Alike.read (alike : first.Alike second) (same : settings.SameTiming other) :
    (read settings first).Alike (read other second) := by
  simp only [Dispatch.read, same.readLatency, same.verifyLatency]
  exact (((alike.enter _).spend _).enter _).spend _

theorem Alike.verifyFails (alike : first.Alike second) (same : settings.SameTiming other) :
    verifyFails settings first = verifyFails other second := by
  have retries := Job.congr_untargeted Job.mayRetry (fun _ => rfl) alike.job
  simp only [Dispatch.verifyFails, retries, alike.now, same.retryModulus]

theorem Alike.write (alike : first.Alike second) (same : settings.SameTiming other) :
    (write settings first).Alike (write other second) := by
  simp only [Dispatch.write, same.writeLatency, same.verifyLatency]
  have written := (alike.enter .writing).spend other.writeLatency
  rw [written.verifyFails same]
  split
  · exact (written.retry.enter _).spend _
  · exact (written.enter _).spend _

theorem Alike.finish (alike : first.Alike second) (same : settings.SameTiming other) :
    (finish settings first).1.Alike (finish other second).1 ∧
      (finish settings first).2.untargeted = (finish other second).2.untargeted := by
  simp only [Dispatch.finish, same.completionLatency]
  have spent := (alike.enter .completing).spend other.completionLatency
  generalize (first.enter .completing).spend other.completionLatency = one at spent
  generalize (second.enter .completing).spend other.completionLatency = two at spent
  have started := Job.congr_untargeted Job.startedAt (fun _ => rfl) spent.job
  have execution : one.clock.since one.job.startedAt = two.clock.since two.job.startedAt := by
    rw [spent.clock, started]
  refine ⟨⟨?_, spent.clock, ?_⟩, ?_⟩
  · exact congrArg (fun job : Job => { job with state := .idle }) spent.job
  · simp only [record, execution, spent.tally]
  · simp only [execution]
    exact congrArg (fun job : Job => Outcome.completed job.id job.kind job.block _ job.retries) spent.job

theorem Alike.execute (alike : first.Alike second) (same : settings.SameTiming other) :
    (execute settings first).1.Alike (execute other second).1 ∧
      (execute settings first).2.untargeted = (execute other second).2.untargeted := by
  have writes := Job.congr_untargeted (·.kind.isWrite) (fun job => job.kind.isWrite_plain) alike.job
  simp only [Dispatch.execute, writes]
  split
  · exact Alike.finish (Alike.write ⟨alike.job, alike.clock, alike.tally⟩ same) same
  · exact Alike.finish (Alike.read ⟨alike.job, alike.clock, alike.tally⟩ same) same

theorem Alike.abandon (alike : first.Alike second) (deadline : Nat) :
    (first.abandon deadline).1.Alike (second.abandon deadline).1 ∧
      (first.abandon deadline).2.untargeted = (second.abandon deadline).2.untargeted := by
  refine ⟨⟨alike.job, alike.clock, congrArg Tally.missDeadline alike.tally⟩, ?_⟩
  simp only [Dispatch.abandon, alike.now]
  exact congrArg (fun job : Job => Outcome.deadlineMissed job.id job.kind job.block deadline _) alike.job

theorem Alike.run (alike : first.Alike second) (same : settings.SameTiming other) :
    (run settings first).1.Alike (run other second).1 ∧
      (run settings first).2.untargeted = (run other second).2.untargeted := by
  have deadline := Job.congr_untargeted Job.deadline (fun _ => rfl) alike.job
  simp only [Dispatch.run, deadline, alike.now]
  split
  · exact alike.abandon _
  · exact alike.execute same

end Dispatch

end NvMemory
