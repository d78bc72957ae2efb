import Mathlib.Data.List.Flatten
import NvMemory.Proofs.Course
import NvMemory.Proofs.Quiet

/-!
What blocks remember of the jobs that were completed on them.

A caller who keeps the completed jobs, with the time at which each was dispatched, knows what every block
has gone through, and what was announced of it. `Scheduler.Passes` says so of the visits between two states
of a scheduler. It holds of each part of a call, and the state after a run is related in the same way to the
scheduler that was new at the last reset.
-/

namespace NvMemory

open Scheduler (Call Reply)

/-- A job that was completed, and when it was dispatched. -/
structure Visit where
  job : JobId
  kind : JobKind
  block : BlockId
  start : Nat

namespace Visit

def course (settings : Settings) (visit : Visit) : List Transition :=
  NvMemory.course settings visit.kind visit.start

/-- All but the last transition of a visit are announced. -/
def announced (settings : Settings) (visit : Visit) : List TraceEvent :=
  ((visit.course settings).take 3).map fun move =>
    { level := .debug
      message := "transition"
      fields := [("job", visit.job.label), ("block", visit.block.label),
        ("state", move.state.label), ("t", toString move.time)] }

def movesOf (settings : Settings) (visits : List Visit) (block : BlockId) : List Transition :=
  (visits.filter (·.block = block)).flatMap (course settings)

theorem movesOf_append (settings : Settings) (earlier later : List Visit) (block : BlockId) :
    movesOf settings (earlier ++ later) block =
      movesOf settings earlier block ++ movesOf settings later block := by
  rw [movesOf, List.filter_append, List.flatMap_append, movesOf, movesOf]

theorem movesOf_singleton (settings : Settings) (visit : Visit) (block : BlockId) :
    movesOf settings [visit] block = if visit.block = block then visit.course settings else [] := by
  rw [movesOf, List.filter_singleton]
  by_cases same : visit.block = block <;> simp [same]

def ofOutcome (start : Nat) : Outcome → List Visit
  | .completed job kind block _ _ => [⟨job, kind, block, start⟩]
  | .deadlineMissed .. => []

theorem ofOutcome_of_missed {outcome : Outcome} (missed : outcome.isCompleted = false) (start : Nat) :
    ofOutcome start outcome = [] := by
  cases outcome with
  | completed => contradiction
  | deadlineMissed => rfl

/-- The visit of which the reply to a call tells. -/
def told (scheduler : Scheduler) (call : Call) (reply : Reply) : List Visit :=
  match call, reply with
  | .tick elapsed, .ticked report =>
      report.outcome?.elim [] (ofOutcome (scheduler.advance elapsed).now)
  | _, _ => []

/-- A reset is the beginning of a new list. -/
def note (visits : List Visit) (scheduler : Scheduler) (call : Call) (reply : Reply) : List Visit :=
  match call with
  | .reset => []
  | _ => visits ++ told scheduler call reply

end Visit

namespace Scheduler

def visits (scheduler : Scheduler) (calls : List Call) : List Visit :=
  scheduler.observe Visit.note [] calls

variable {scheduler middle final done : Scheduler} {seen : List Visit} {call : Call}
  {reply : Reply} {job : Job} {rest : Pending} {view : JobView} {outcome : Outcome}

theorem occupancy_ofSettings (settings : Settings) (block : BlockId) :
    (ofSettings settings).occupancy block = Occupancy.idle block settings.historyDepth.toNat := by
  rw [occupancy]
  cases held : (ofSettings settings).blocks.get? block.number with
  | none => rfl
  | some occupancy =>
      obtain ⟨_, rfl⟩ := WordMap.get?_tabulate_eq_some_iff.mp held
      rfl

/-- A block that becomes known is as it would have been found. -/
theorem occupancy_addBlock (scheduler : Scheduler) (block other : BlockId) :
    (scheduler.addBlock block).occupancy other = scheduler.occupancy other := by
  unfold addBlock
  split
  · rfl
  · rw [occupancy_insert]
    split
    · rename_i same
      rw [same]
    · rfl

/-- The visits have taken place from one state to the other, and each block has gone through those
that concern it. -/
structure Passes (scheduler : Scheduler) (seen : List Visit) (final : Scheduler) : Prop where
  settings : final.settings = scheduler.settings
  time : scheduler.now ≤ final.now
  history : ∀ block, (final.occupancy block).history =
    (scheduler.occupancy block).history.pushAll (Visit.movesOf scheduler.settings seen block)
  transitions : final.journal.transitions = scheduler.journal.transitions ++
    seen.flatMap (Visit.announced scheduler.settings)
  spans : Spans scheduler.now final.now
    ((seen.flatMap (Visit.course scheduler.settings)).map Transition.time)

theorem Passes.trans {seen' : List Visit} (earlier : scheduler.Passes seen middle)
    (later : middle.Passes seen' final) : scheduler.Passes (seen ++ seen') final := by
  obtain ⟨settings, time, history, transitions, spans⟩ := later
  rw [earlier.settings] at settings history transitions spans
  refine ⟨settings, Nat.le_trans earlier.time time, fun block => ?_, ?_, ?_⟩
  · rw [history, earlier.history, ← Window.pushAll_append, Visit.movesOf_append]
  · rw [transitions, earlier.transitions, List.flatMap_append, List.append_assoc]
  · rw [List.flatMap_append, List.map_append]
    exact earlier.spans.append spans earlier.time time

theorem passes_none (settings : final.settings = scheduler.settings)
    (time : scheduler.now ≤ final.now)
    (occupancy : ∀ block, final.occupancy block = scheduler.occupancy block)
    (transitions : final.journal.transitions = scheduler.journal.transitions) :
    scheduler.Passes [] final :=
  ⟨settings, time, fun block => congrArg Occupancy.history (occupancy block),
    transitions.trans (List.append_nil _).symm, .nil⟩

theorem Passes.refl (scheduler : Scheduler) : scheduler.Passes [] scheduler :=
  passes_none rfl (Nat.le_refl _) (fun _ => rfl) rfl

theorem passes_accept (scheduler : Scheduler) (job : Job) :
    scheduler.Passes [] (scheduler.accept job) := by
  obtain ⟨blocks, known⟩ := scheduler.addBlock_eq job.block
  have occupancy := scheduler.occupancy_addBlock job.block
  simp only [accept, known] at occupancy ⊢
  exact passes_none rfl (Nat.le_refl _) occupancy (Journal.transitions_record _ rfl)

theorem transitions_foldl_noteOverdue (late : List Job) (scheduler : Scheduler) :
    (late.foldl noteOverdue scheduler).journal.transitions = scheduler.journal.transitions := by
  induction late generalizing scheduler with
  | nil => rfl
  | cons job rest ih =>
      rw [List.foldl_cons, ih]
      exact Journal.transitions_record _ rfl

theorem passes_awaited (scheduler : Scheduler) (elapsed : Nat) :
    scheduler.Passes [] (scheduler.awaited elapsed) := by
  refine passes_none (scheduler.settings_awaited elapsed) (scheduler.now_le_awaited elapsed) ?_
    (transitions_foldl_noteOverdue _ _)
  obtain ⟨_, _, _, same⟩ := scheduler.awaited_eq elapsed
  rw [same]
  exact fun _ => rfl

/-- Visits that enter and announce the same states as the dispatch of a job are all that it does. -/
theorem passes_of_run {entered announced : List Transition}
    (passes : (scheduler.opening job).Passes
      (Dispatch.run scheduler.settings (scheduler.opening job)).1 entered announced)
    (all : seen.flatMap (Visit.course scheduler.settings) = entered)
    (moved : ∀ other, Visit.movesOf scheduler.settings seen other =
      if job.block = other then entered else [])
    (told : seen.flatMap (Visit.announced scheduler.settings) = announced.map fun move =>
      Dispatch.transitionEvent (scheduler.opening job).job move.state move.time) :
    scheduler.Passes seen (scheduler.dispatch job).1 := by
  have begun : (scheduler.opening job).journal.transitions = scheduler.journal.transitions :=
    Journal.transitions_record _ rfl
  constructor
  case settings => rfl
  case time => exact passes.time
  case history =>
    intro other
    rw [occupancy_dispatch, moved]
    split
    · rename_i same
      rw [passes.history, ← same]
      rfl
    · rfl
  case transitions =>
    rw [told, ← begun]
    exact passes.transitions
  case spans =>
    rw [all]
    exact passes.spans

/-- A dispatch is a visit to the block of its job, unless the job is late. -/
theorem passes_dispatch (scheduler : Scheduler) (job : Job) :
    let ended := scheduler.dispatch job
    scheduler.Passes (Visit.ofOutcome scheduler.now ended.2.2) ended.1 := by
  have outcome : (scheduler.dispatch job).2.2 =
      (Dispatch.run scheduler.settings (scheduler.opening job)).2 := rfl
  rcases Dispatch.passes_run scheduler.settings (scheduler.opening job) with
    ⟨missed, passes⟩ | ⟨execution, retries, completed, passes⟩
  · simp only [outcome, Visit.ofOutcome_of_missed missed]
    exact passes_of_run passes rfl (fun _ => (ite_self _).symm) rfl
  · simp only [outcome, completed, Visit.ofOutcome]
    exact passes_of_run passes (List.flatMap_singleton ..) (Visit.movesOf_singleton _ _)
      (List.flatMap_singleton ..)

/-- A call other than a reset has the visits take place that its reply tells. -/
theorem Step.passes (step : Step scheduler call final reply) (runs : call ≠ .reset) :
    scheduler.Passes (Visit.told scheduler call reply) final := by
  cases step with
  | enqueued => exact scheduler.passes_accept _
  | turnedAway =>
      exact passes_none rfl (Nat.le_refl _) (fun _ => rfl) (Journal.transitions_record _ rfl)
  | handedOut => exact passes_none rfl (Nat.le_refl _) (fun _ => rfl) rfl
  | nothingPending => exact .refl _
  | @dispatched elapsed job rest done view outcome popped runs =>
      have waited := scheduler.passes_awaited elapsed
      have handed : (scheduler.awaited elapsed).Passes []
          ((scheduler.awaited elapsed).handOut job rest) :=
        passes_none rfl (Nat.le_refl _) (fun _ => rfl) rfl
      have dispatched := ((scheduler.awaited elapsed).handOut job rest).passes_dispatch job
      have start : ((scheduler.awaited elapsed).handOut job rest).now =
          (scheduler.advance elapsed).now := scheduler.now_awaited elapsed
      rw [runs, start] at dispatched
      exact waited.trans (handed.trans dispatched)
  | idled => exact scheduler.passes_awaited _
  | scaled accepted =>
      rw [setTimeScale_eq accepted]
      exact passes_none rfl (Nat.le_refl _) (fun _ => rfl) rfl
  | scaleRefused => exact .refl _
  | reset => contradiction

theorem passes_note {settings : Settings} (step : Step scheduler call final reply)
    (passes : (ofSettings settings).Passes seen scheduler) :
    (ofSettings settings).Passes (Visit.note seen scheduler call reply) final := by
  cases call with
  | reset =>
      cases step
      have same : scheduler.settings = settings := passes.settings
      rw [Scheduler.reset, same]
      exact .refl _
  | enqueue | dequeue | tick | setTimeScale => exact passes.trans (step.passes nofun)

/-- After any run each block remembers the end of what it has gone through since the last reset, which is
the course of every job that was completed on it, one after the other, and nothing else. Its times are in
order. All but the last state of every course have been announced, in the order of the visits; and a tick
announces no more than those of the job that it completes. -/
theorem history_shows_visits {scheduler : Scheduler} {settings : Settings}
    (built : ofSettings? settings = .ok scheduler) (calls : List Call) :
    let reached := scheduler.after calls
    let visits := scheduler.visits calls
    let moves := Visit.movesOf settings visits
    (∀ block,
      (reached.occupancy block).history.items =
          (moves block).drop ((moves block).length - settings.historyDepth.toNat) ∧
        (reached.occupancy block).history.items.Pairwise (·.time ≤ ·.time)) ∧
    reached.journal.transitions = visits.flatMap (Visit.announced settings) ∧
    ∀ elapsed, (reached.tick elapsed).1.journal.transitions =
      reached.journal.transitions ++
        ((reached.tick elapsed).2.outcome?.elim []
          (Visit.ofOutcome (reached.advance elapsed).now)).flatMap (Visit.announced settings) := by
  intro reached visits moves
  obtain rfl := eq_of_ofSettings? built
  have passes : (ofSettings settings).Passes visits reached :=
    observe_after passes_note (Passes.refl _) calls
  have positive : 0 < settings.get .historyDepth := positive_of_ofSettings? built (by decide)
  have depth : max settings.historyDepth.toNat 1 = settings.historyDepth.toNat :=
    Nat.max_eq_left positive
  refine ⟨fun block => ?_, passes.transitions, fun elapsed => ?_⟩
  · have shown : (reached.occupancy block).history.items =
        (moves block).drop ((moves block).length - settings.historyDepth.toNat) := by
      rw [passes.history, occupancy_ofSettings, Occupancy.idle, Window.items_pushAll_ofCapacity,
        depth]
      rfl
    have few : (moves block).Sublist (visits.flatMap (Visit.course settings)) :=
      List.Sublist.flatMap List.filter_sublist _
    have ordered : (moves block).Pairwise (·.time ≤ ·.time) :=
      (List.pairwise_map.mp passes.spans.ordered).sublist few
    refine ⟨shown, ?_⟩
    rw [shown]
    exact ordered.drop
  · have same : reached.settings = settings := passes.settings
    have ticked := ((reached.perform_step (.tick elapsed)).passes nofun).transitions
    rwa [same] at ticked

/-- A block that remembers six transitions was written, with a retry, and then read, so that the beginning
of the write is forgotten. In between a job for it was late, another one was taken out of the queue, and a
third one was turned away. A block that was read on the way remembers nothing but that. -/
theorem history_shows_end_of_write :
    let settings : Settings := { historyDepth := 6, retryModulus := 3, queueCapacity := 4 }
    let calls : List Call := [
      .enqueue (.inTurn .write ⟨1⟩ .med none), .enqueue (.inTurn .writeAll ⟨1⟩ .med (some 4)),
      .enqueue (.inTurn .read ⟨9⟩ .med none), .enqueue (.inTurn .readAll ⟨1⟩ .med none),
      .enqueue (.inTurn .write ⟨1⟩ .med none), .tick 2, .tick 0, .tick 1, .tick 7,
      .enqueue (.inTurn .read ⟨1⟩ .med none), .dequeue]
    let scheduler := ofSettings settings
    let reached := scheduler.after calls
    ofSettings? settings = .ok scheduler ∧ reached.tally.retries = 1 ∧ reached.tally.deadlineMisses = 1 ∧
      reached.tally.overflows = 1 ∧
      (reached.occupancy ⟨1⟩).history.items = [⟨.completing, 17⟩, ⟨.idle, 22⟩, ⟨.reading, 45⟩,
        ⟨.readVerify, 50⟩, ⟨.completing, 55⟩, ⟨.idle, 60⟩] ∧
      (reached.occupancy ⟨9⟩).history.items = [⟨.reading, 23⟩, ⟨.readVerify, 28⟩, ⟨.completing, 33⟩,
        ⟨.idle, 38⟩] ∧
      (reached.occupancy ⟨7⟩).history.items = [] ∧
      reached.journal.transitions.length = 9 := by
  intro settings calls scheduler reached
  have built : ofSettings? settings = .ok scheduler := rfl
  obtain ⟨remembers, announced, _⟩ := history_shows_visits built calls
  obtain ⟨written, _⟩ := remembers ⟨1⟩
  obtain ⟨read, _⟩ := remembers ⟨9⟩
  obtain ⟨unvisited, _⟩ := remembers ⟨7⟩
  refine ⟨built, by decide +kernel, by decide +kernel, by decide +kernel, ?_, ?_, ?_, ?_⟩
  · rw [written]
    decide +kernel
  · rw [read]
    decide +kernel
  · rw [unvisited]
    decide +kernel
  · rw [announced]
    decide +kernel

end Scheduler

end NvMemory
