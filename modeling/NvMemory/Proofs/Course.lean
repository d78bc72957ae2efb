import NvMemory.Proofs.Dispatch

/-!
The course that a job takes through its block.

A dispatch has its block enter one state after the other, and announces all of them but the last.
`Dispatch.Passes` says which ones it enters and which ones it announces between two of its stages. It holds
of each part of a dispatch and of parts that follow each other, so that what a whole dispatch enters is
found along its definition.
-/

namespace NvMemory

/-- The instants are in order, none before `first` or after `last`. -/
structure Spans (first last : Nat) (instants : List Nat) : Prop where
  ordered : instants.Pairwise (· ≤ ·)
  within : ∀ instant ∈ instants, first ≤ instant ∧ instant ≤ last

namespace Spans

variable {first middle last : Nat} {instants earlier later : List Nat}

theorem nil : Spans first last [] :=
  ⟨List.Pairwise.nil, fun _ member => absurd member List.not_mem_nil⟩

theorem singleton (instant : Nat) : Spans instant instant [instant] := by
  refine ⟨List.pairwise_singleton _ _, fun other member => ?_⟩
  rw [List.mem_singleton.mp member]
  exact ⟨Nat.le_refl _, Nat.le_refl _⟩

theorem widen (spans : Spans first last instants) {start stop : Nat} (before : start ≤ first)
    (after : last ≤ stop) : Spans start stop instants := by
  refine ⟨spans.ordered, fun instant member => ?_⟩
  obtain ⟨low, high⟩ := spans.within instant member
  exact ⟨Nat.le_trans before low, Nat.le_trans high after⟩

theorem append (before : Spans first middle earlier) (after : Spans middle last later)
    (start : first ≤ middle) (stop : middle ≤ last) : Spans first last (earlier ++ later) := by
  constructor
  case ordered =>
    refine List.pairwise_append.mpr ⟨before.ordered, after.ordered, fun one left two right => ?_⟩
    exact Nat.le_trans (before.within one left).2 (after.within two right).1
  case within =>
    intro instant member
    rcases List.mem_append.mp member with left | right
    · exact (before.widen (Nat.le_refl _) stop).within instant left
    · exact (after.widen start (Nat.le_refl _)).within instant right

theorem sublist (spans : Spans first last instants) {fewer : List Nat}
    (kept : fewer.Sublist instants) : Spans first last fewer :=
  ⟨spans.ordered.sublist kept, fun instant member => spans.within instant (kept.subset member)⟩

end Spans

namespace Journal

/-- Every change of the state of a block that has been announced. -/
def transitions (journal : Journal) : List TraceEvent :=
  journal.trace.filter (·.message == "transition")

theorem transitions_record (journal : Journal) {entry : Entry}
    (other : (entry.message == "transition") = false) :
    (journal.record entry).transitions = journal.transitions := by
  simp [transitions, record, Entry.announced, other]

theorem transitions_announce (journal : Journal) {event : TraceEvent}
    (transition : (event.message == "transition") = true) :
    (journal.announce event).transitions = journal.transitions ++ [event] := by
  simp [transitions, announce, transition]

end Journal

/-- The states of a block during a job that starts at `start`, with the time at which it enters each. A
retry takes no time. -/
def course (settings : Settings) (kind : JobKind) (start : Nat) : List Transition :=
  let worked := instantAfter start (if kind.isWrite then settings.writeLatency else settings.readLatency)
  let verified := instantAfter worked settings.verifyLatency
  [⟨if kind.isWrite then .writing else .reading, start⟩,
    ⟨if kind.isWrite then .writeVerify else .readVerify, worked⟩,
    ⟨.completing, verified⟩,
    ⟨.idle, instantAfter verified settings.completionLatency⟩]

namespace Dispatch

variable {first second third : Dispatch} {entered announced : List Transition}

/-- From the first stage to the second one, the block has entered some states, and some have been
announced. -/
structure Passes (first second : Dispatch) (entered announced : List Transition) : Prop
    extends Progress first second where
  history : second.occupancy.history = first.occupancy.history.pushAll entered
  transitions : second.journal.transitions = first.journal.transitions ++
    announced.map fun move => transitionEvent first.job move.state move.time
  spans : Spans first.now second.now (entered.map Transition.time)

theorem Passes.trans {entered' announced' : List Transition}
    (earlier : first.Passes second entered announced)
    (later : second.Passes third entered' announced') :
    first.Passes third (entered ++ entered') (announced ++ announced') := by
  obtain ⟨state, retries, job⟩ := earlier.job
  refine ⟨earlier.toProgress.trans later.toProgress, ?_, ?_, ?_⟩
  · rw [later.history, earlier.history, Window.pushAll_append]
  · rw [later.transitions, earlier.transitions, job, List.map_append, List.append_assoc]
    rfl
  · rw [List.map_append]
    exact earlier.spans.append later.spans earlier.time later.time

theorem Progress.passes (progress : first.Progress second)
    (history : second.occupancy.history = first.occupancy.history)
    (transitions : second.journal.transitions = first.journal.transitions) :
    first.Passes second [] [] :=
  ⟨progress, history, transitions.trans (List.append_nil _).symm, .nil⟩

theorem passes_enter (dispatch : Dispatch) (state : JobState) :
    dispatch.Passes (dispatch.enter state) [⟨state, dispatch.now⟩] [⟨state, dispatch.now⟩] :=
  ⟨progress_enter _ _, rfl, dispatch.journal.transitions_announce rfl, .singleton _⟩

theorem passes_spend (dispatch : Dispatch) (elapsed : UInt64) :
    dispatch.Passes (dispatch.spend elapsed) [] [] :=
  (progress_spend _ _).passes rfl rfl

theorem passes_retry (dispatch : Dispatch) : dispatch.Passes dispatch.retry [] [] :=
  (progress_retry _).passes rfl (dispatch.journal.transitions_record rfl)

theorem passes_stage (dispatch : Dispatch) (state : JobState) (elapsed : UInt64) :
    dispatch.Passes ((dispatch.enter state).spend elapsed) [⟨state, dispatch.now⟩]
      [⟨state, dispatch.now⟩] :=
  (dispatch.passes_enter state).trans (passes_spend _ elapsed)

theorem passes_read (settings : Settings) (dispatch : Dispatch) :
    let worked := instantAfter dispatch.now settings.readLatency
    dispatch.Passes (read settings dispatch) [⟨.reading, dispatch.now⟩, ⟨.readVerify, worked⟩]
      [⟨.reading, dispatch.now⟩, ⟨.readVerify, worked⟩] :=
  (dispatch.passes_stage .reading settings.readLatency).trans (passes_stage _ _ _)

theorem passes_write (settings : Settings) (dispatch : Dispatch) :
    let worked := instantAfter dispatch.now settings.writeLatency
    dispatch.Passes (write settings dispatch) [⟨.writing, dispatch.now⟩, ⟨.writeVerify, worked⟩]
      [⟨.writing, dispatch.now⟩, ⟨.writeVerify, worked⟩] := by
  have written := dispatch.passes_stage .writing settings.writeLatency
  simp only [write]
  split
  · exact (written.trans (passes_retry _)).trans (passes_stage _ _ _)
  · exact written.trans (passes_stage _ _ _)

/-- Whether or not there is a retry, a write takes the same time. -/
theorem now_write (settings : Settings) (dispatch : Dispatch) :
    (write settings dispatch).now =
      instantAfter (instantAfter dispatch.now settings.writeLatency) settings.verifyLatency := by
  simp only [write]
  split <;> rfl

theorem passes_finish (settings : Settings) (dispatch : Dispatch) :
    dispatch.Passes (finish settings dispatch).1
      [⟨.completing, dispatch.now⟩, ⟨.idle, instantAfter dispatch.now settings.completionLatency⟩]
      [⟨.completing, dispatch.now⟩] := by
  have spent := dispatch.passes_stage .completing settings.completionLatency
  refine spent.trans ⟨⟨Nat.le_refl _, _, _, rfl⟩, rfl, ?_, .singleton _⟩
  exact (Journal.transitions_record _ rfl).trans (List.append_nil _).symm

theorem passes_held (dispatch : Dispatch) : dispatch.Passes dispatch.held [] [] := by
  apply dispatch.progress_held.passes
  · simp only [held, Occupancy.occupy]
    split <;> rfl
  · rfl

theorem passes_execute (settings : Settings) (dispatch : Dispatch) :
    let passed := course settings dispatch.job.kind dispatch.now
    dispatch.Passes (execute settings dispatch).1 passed (passed.take 3) := by
  have held := dispatch.passes_held
  by_cases writes : dispatch.job.kind.isWrite = true
  case pos =>
    have finished := passes_finish settings (write settings dispatch.held)
    rw [now_write] at finished
    simp only [execute_of_write writes, course, writes, if_true]
    exact held.trans ((passes_write settings _).trans finished)
  case neg =>
    simp only [execute_of_read writes, course, writes]
    exact held.trans ((passes_read settings _).trans (passes_finish settings _))

/-- A job that is late enters no state, and any other takes its course. -/
theorem passes_run (settings : Settings) (dispatch : Dispatch) :
    let ended := run settings dispatch
    let passed := course settings dispatch.job.kind dispatch.now
    (ended.2.isCompleted = false ∧ dispatch.Passes ended.1 [] []) ∨
    ∃ execution retries,
      ended.2 = .completed dispatch.job.id dispatch.job.kind dispatch.job.block execution retries ∧
        dispatch.Passes ended.1 passed (passed.take 3) := by
  intro ended passed
  have progress := progress_run settings dispatch
  rcases run_cases settings dispatch with ⟨deadline, _, _, same⟩ | ⟨_, same⟩
  · rw [same] at progress
    simp only [ended, same]
    exact .inl ⟨rfl, progress.passes rfl (dispatch.journal.transitions_record rfl)⟩
  · obtain ⟨execution, retries, _, _, _, outcome⟩ := execute_counts settings dispatch
    simp only [ended, same]
    exact .inr ⟨execution, _, outcome, passes_execute settings dispatch⟩

end Dispatch

end NvMemory
