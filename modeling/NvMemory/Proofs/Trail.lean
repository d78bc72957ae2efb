import NvMemory.Proofs.Course
import NvMemory.Proofs.Device
import NvMemory.Proofs.Journal
import NvMemory.Proofs.Scheduler

/-!
The times of the entries in the journals.

A journal takes an entry with any time, so the order of its entries is the work of those who record. The
write cycle and the memory have their clock move on with each entry (`Journal.Counts`), and so every entry
has an instant of its own until time ends. The scheduler records at the present time, which never goes
back (`Journal.UpTo`), and some of its entries may share an instant.
-/

namespace NvMemory

namespace Journal

variable {journal : Journal} {clock : Clock} {entry : Entry} {entries : List Entry}
  {event : TraceEvent} {room now : Nat}

/-- What was announced because it was recorded. Such an event names the component of the journal. -/
def recorded (journal : Journal) : List TraceEvent :=
  journal.trace.filter (·.fields.lookup "component" == some journal.component)

theorem recorded_record (journal : Journal) (entry : Entry) :
    (journal.record entry).recorded = journal.recorded ++ [entry.announced journal.component] := by
  simp [recorded, record, Entry.announced]

theorem recorded_announce (journal : Journal) (unnamed : event.fields.lookup "component" = none) :
    (journal.announce event).recorded = journal.recorded := by
  simp [recorded, announce, unnamed]

/-- The journal was given `entries`, each of them at the instant to which the clock had moved for it. -/
structure Counts (journal : Journal) (clock : Clock) (room : Nat) (entries : List Entry) : Prop where
  window : journal.window = (Window.ofCapacity room).pushAll entries
  recorded : journal.recorded = entries.map (·.announced journal.component)
  times : entries.map Entry.time = (List.range' 1 entries.length).map (min · lastInstant)
  present : clock.now = min entries.length lastInstant

theorem counts_ofCapacity (component : String) (room : Nat) :
    (ofCapacity component room).Counts .zero room [] :=
  ⟨rfl, rfl, rfl, rfl⟩

theorem Counts.record (counts : journal.Counts clock room entries)
    (time : entry.time = clock.tick.now) :
    (journal.record entry).Counts clock.tick room (entries ++ [entry]) := by
  have next : clock.tick.now = min (entries.length + 1) lastInstant := by
    rw [Clock.tick, Clock.now_advance, counts.present]
    omega
  constructor
  case window =>
    rw [Window.pushAll_append, ← counts.window]
    rfl
  case recorded =>
    rw [recorded_record, counts.recorded, List.map_append]
    rfl
  case times =>
    rw [List.length_append, List.length_singleton, List.range'_1_concat, List.map_append,
      List.map_append, counts.times, List.map_singleton, time, next, Nat.add_comm]
    rfl
  case present => rw [next, List.length_append, List.length_singleton]

theorem Counts.announce (counts : journal.Counts clock room entries)
    (unnamed : event.fields.lookup "component" = none) :
    (journal.announce event).Counts clock room entries :=
  { counts with recorded := (journal.recorded_announce unnamed).trans counts.recorded }

/-- The trail of `entries` in a journal: the first one has the time 1, and each of the others is one later
than the one before, up to the present. The newest ones can still be looked up. -/
structure Trail (journal : Journal) (clock : Clock) (room : Nat) (entries : List Entry) : Prop where
  recorded : journal.recorded = entries.map (·.announced journal.component)
  times : entries.map Entry.time = List.range' 1 entries.length
  present : clock.now = entries.length
  kept : journal.entries = entries.rtake (min clock.now room)
  keptTimes : journal.entries.map Entry.time =
    List.range' (clock.now - min clock.now room + 1) (min clock.now room)

theorem Counts.trail (counts : journal.Counts clock room entries) (some : 0 < room)
    (inTime : journal.recorded.length ≤ lastInstant) : journal.Trail clock room entries := by
  rw [counts.recorded, List.length_map] at inTime
  have present : clock.now = entries.length := counts.present.trans (Nat.min_eq_left inTime)
  have times : entries.map Entry.time = List.range' 1 entries.length := by
    have early : ∀ time ∈ List.range' 1 entries.length, min time lastInstant = id time := by
      intro time member
      have before := (List.mem_range'_1.mp member).2
      exact Nat.min_eq_left (by omega)
    rw [counts.times, List.map_congr_left early, List.map_id]
  have kept : journal.entries = entries.rtake (min clock.now room) := by
    rw [Journal.entries, counts.window, Window.items_pushAll_eq_rtake, present,
      Window.rtake_min_length, Nat.max_eq_left some]
  refine ⟨counts.recorded, times, present, kept, ?_⟩
  rw [kept, List.rtake, List.map_drop, times, List.drop_range', present]
  congr 1 <;> omega

theorem Trail.recent (trail : journal.Trail clock room entries) {count : Nat} (few : count ≤ room) :
    journal.recent count = entries.rtake (min clock.now count) := by
  change journal.entries.rtake count = _
  rw [trail.kept, Window.rtake_rtake]
  congr 1
  omega

/-- The entries that are kept are in the order of their times, none of them later than `now`. -/
def UpTo (journal : Journal) (now : Nat) : Prop :=
  Spans 0 now (journal.entries.map Entry.time)

theorem upTo_ofCapacity (component : String) (room : Nat) : (ofCapacity component room).UpTo 0 :=
  .nil

theorem UpTo.later (upTo : journal.UpTo now) {late : Nat} (time : now ≤ late) : journal.UpTo late :=
  upTo.widen (Nat.le_refl _) time

theorem UpTo.record (upTo : journal.UpTo entry.time) : (journal.record entry).UpTo entry.time := by
  have pushed := (journal.window.sublist_push entry).map Entry.time
  rw [List.map_append] at pushed
  have last : Spans entry.time entry.time ([entry].map Entry.time) := .singleton _
  exact (upTo.append last (Nat.zero_le _) (Nat.le_refl _)).sublist pushed

end Journal

namespace Device

variable {device next : Device} {operation : Operation} {answer : Answer}

structure Counts (device : Device) (written faults : List Entry) : Prop where
  cycle : device.cycle.journal.Counts device.cycle.clock WriteCycle.journalCapacity written
  memory : device.memory.faults.Counts device.memory.clock Memory.journalCapacity faults

theorem counts_ofMemory (store : BlockStore) : (ofMemory (.ofStore store)).Counts [] [] :=
  ⟨Journal.counts_ofCapacity _ _, Journal.counts_ofCapacity _ _⟩

theorem Step.counts {written faults : List Entry} (step : Step device operation next answer)
    (counts : device.Counts written faults) : ∃ written faults, next.Counts written faults := by
  obtain ⟨cycle, memory⟩ := counts
  cases step with
  | started | snapshotTaken | foundDirty | copied | verified | mismatched | lossRefused =>
      exact ⟨_, faults, cycle.record rfl, memory⟩
  -- a snapshot is announced before and after it is persisted, and a loss before it is assessed
  | persisted | powerLost => exact ⟨_, faults, (cycle.record rfl).record rfl, memory⟩
  | cycleReset => exact ⟨[], faults, Journal.counts_ofCapacity _ _, memory⟩
  | injected => exact ⟨written, _, cycle, memory.record rfl⟩
  | recovered | versionWritten => exact ⟨written, faults, cycle, memory.announce rfl⟩
  | cycleRefused | memoryRefused => exact ⟨written, faults, cycle, memory⟩

/-- What may happen to a device. Between the operations its owner may do to the blocks what they like,
and may have the memory start again. -/
inductive Move where
  | operate (operation : Operation)
  | tend (store : BlockStore)
  | resetMemory
deriving Repr, DecidableEq

def move (device : Device) : Move → Device
  | .operate operation => (device.perform operation).1
  | .tend store => device.withStore store
  | .resetMemory => device.withMemory Memory.seeded

def moved (device : Device) (moves : List Move) : Device :=
  moves.foldl move device

theorem Counts.move {written faults : List Entry} (counts : device.Counts written faults)
    (move : Move) : ∃ written faults, (device.move move).Counts written faults := by
  cases move with
  | operate operation => exact (device.perform_step operation).counts counts
  | tend store => exact ⟨written, faults, counts.cycle, counts.memory⟩
  | resetMemory => exact ⟨written, [], counts.cycle, Journal.counts_ofCapacity _ _⟩

theorem Counts.moved {written faults : List Entry} (counts : device.Counts written faults)
    (moves : List Move) : ∃ written faults, (device.moved moves).Counts written faults := by
  induction moves generalizing device written faults with
  | nil => exact ⟨written, faults, counts⟩
  | cons move rest ih =>
      obtain ⟨_, _, next⟩ := counts.move move
      exact ih next

end Device

namespace Dispatch

variable {settings : Settings} {dispatch later : Dispatch}

def UpToDate (dispatch : Dispatch) : Prop :=
  dispatch.journal.UpTo dispatch.now

theorem UpToDate.reaches (upToDate : dispatch.UpToDate) (reaches : dispatch.Reaches later) :
    later.UpToDate := by
  induction reaches with
  | start => exact upToDate
  | enter _ _ ih => exact ih
  | @spend second _ elapsed ih => exact Journal.UpTo.later ih (second.clock.now_le_advance _)
  | retry _ ih => exact Journal.UpTo.record ih

theorem UpToDate.run (upToDate : dispatch.UpToDate) : (run settings dispatch).1.UpToDate := by
  rcases run_cases settings dispatch with ⟨deadline, _, _, same⟩ | ⟨_, same⟩ <;> rw [same]
  · exact Journal.UpTo.record upToDate
  · obtain ⟨last, reaches, _, concludes⟩ := execute_reaches settings dispatch
    obtain ⟨level, message, fields, journal⟩ := concludes.journal
    have held : dispatch.held.UpToDate := upToDate
    have spent : last.UpToDate := held.reaches reaches
    rw [UpToDate, journal, concludes.now]
    exact Journal.UpTo.record spent

end Dispatch

namespace Scheduler

variable {scheduler final : Scheduler} {call : Call} {reply : Reply}

def UpToDate (scheduler : Scheduler) : Prop :=
  scheduler.journal.UpTo scheduler.now

theorem journal_accept (scheduler : Scheduler) (job : Job) :
    ∃ level message fields, (scheduler.accept job).journal =
      scheduler.journal.record ⟨scheduler.now, level, message, fields⟩ := by
  obtain ⟨blocks, known⟩ := scheduler.addBlock_eq job.block
  simp only [accept, known]
  exact ⟨_, _, _, rfl⟩

theorem UpToDate.accept (upToDate : scheduler.UpToDate) (job : Job) :
    (scheduler.accept job).UpToDate := by
  obtain ⟨level, message, fields, journal⟩ := scheduler.journal_accept job
  obtain ⟨_, _, _, same⟩ := scheduler.accept_eq job
  have now : (scheduler.accept job).now = scheduler.now := by
    rw [same]
    rfl
  rw [UpToDate, journal, now]
  exact Journal.UpTo.record upToDate

theorem UpToDate.noteAll (upToDate : scheduler.UpToDate) (late : List Job) :
    (late.foldl noteOverdue scheduler).UpToDate := by
  induction late generalizing scheduler with
  | nil => exact upToDate
  | cons job rest ih => exact ih (Journal.UpTo.record upToDate)

theorem UpToDate.awaited (upToDate : scheduler.UpToDate) (elapsed : Nat) :
    (scheduler.awaited elapsed).UpToDate := by
  have advanced : (scheduler.advance elapsed).UpToDate :=
    Journal.UpTo.later upToDate (scheduler.clock.now_le_advance elapsed)
  exact advanced.noteAll _

theorem Step.upToDate (step : Step scheduler call final reply) (upToDate : scheduler.UpToDate) :
    final.UpToDate := by
  cases step with
  | enqueued => exact upToDate.accept _
  | turnedAway => exact Journal.UpTo.record upToDate
  | @dispatched elapsed job rest _ _ _ popped runs =>
      have opened : (((scheduler.awaited elapsed).handOut job rest).opening job).UpToDate :=
        Journal.UpTo.record (upToDate.awaited elapsed)
      rw [dispatch_eq] at runs
      cases runs
      exact opened.run
  | idled => exact upToDate.awaited _
  | scaled accepted =>
      rw [setTimeScale_eq accepted]
      exact upToDate
  | reset => exact Journal.upTo_ofCapacity _ _
  | handedOut | nothingPending | scaleRefused => exact upToDate

end Scheduler

/-- Whatever happens to a device and whatever is done to its blocks meanwhile: as long as time has not
ended, the entries recorded by its cycle since it started have the times 1, 2, 3 and so on up to the
present. The newest 64 are kept, and the newest 10 are shown. The same holds of the faults of its memory, of
which 5 are shown. A scheduler keeps its entries in the order of their times, and none of them is ahead of
time. -/
theorem trails_are_chronological :
    (∀ (store : BlockStore) (moves : List Device.Move),
      let device := (Device.ofMemory (.ofStore store)).moved moves
      let cycle := device.cycle
      let memory := device.memory
      (cycle.journal.recorded.length < lastInstant →
        ∃ entries, cycle.journal.Trail cycle.clock 64 entries ∧
          cycle.status.events = entries.rtake (min cycle.clock.now 10)) ∧
      (memory.faults.recorded.length < lastInstant →
        ∃ entries, memory.faults.Trail memory.clock 64 entries ∧
          memory.status.faults = entries.rtake (min memory.clock.now 5))) ∧
    ∀ (settings : Settings) (scheduler : Scheduler) (calls : List Scheduler.Call),
      Scheduler.ofSettings? settings = .ok scheduler →
        let reached := scheduler.after calls
        (reached.journal.entries.map Entry.time).Pairwise (· ≤ ·) ∧
          ∀ entry ∈ reached.journal.entries, entry.time ≤ reached.now := by
  constructor
  · intro store moves device cycle memory
    obtain ⟨written, faults, counts⟩ := (Device.counts_ofMemory store).moved moves
    refine ⟨fun inTime => ⟨written, ?_⟩, fun inTime => ⟨faults, ?_⟩⟩
    · have trail : cycle.journal.Trail cycle.clock 64 written :=
        counts.cycle.trail (by decide) (Nat.le_of_lt inTime)
      exact ⟨trail, trail.recent (by decide)⟩
    · have trail : memory.faults.Trail memory.clock 64 faults :=
        counts.memory.trail (by decide) (Nat.le_of_lt inTime)
      exact ⟨trail, trail.recent (by decide)⟩
  · intro settings scheduler calls built reached
    have fresh : scheduler.UpToDate := by
      rw [Scheduler.eq_of_ofSettings? built]
      exact Journal.upTo_ofCapacity _ _
    have upToDate : reached.UpToDate := Scheduler.after_preserves Scheduler.Step.upToDate fresh calls
    refine ⟨upToDate.ordered, fun entry member => ?_⟩
    exact (upToDate.within _ (List.mem_map_of_mem member)).2

/-- Seventy power losses that are refused, seven faults, and late jobs. -/
theorem trails_of_losses_and_faults :
    let losses := List.replicate 70 (Device.Move.operate (.losePower .duringPhase2))
    let faults := [0, 1, 2, 0, 1, 2, 0].map fun number =>
      Device.Move.operate (.inject ⟨number⟩ .bitFlip)
    let device := (Device.ofMemory (.ofStore BlockStore.seeded)).moved (losses ++ faults)
    let request : Request := .inTurn .write ⟨1⟩ .med (some 3)
    let scheduler := Scheduler.ofSettings .standard
    let reached := scheduler.after
      [.enqueue request, .enqueue request, .tick 2, .enqueue request, .tick 9, .tick 9]
    device.cycle.journal.recorded.length = 70 ∧ device.memory.faults.recorded.length = 7 ∧
      device.cycle.journal.entries.map Entry.time = List.range' 7 64 ∧
      device.cycle.status.events.map Entry.time = List.range' 61 10 ∧
      device.memory.status.faults.map Entry.time = [3, 4, 5, 6, 7] ∧
      Scheduler.ofSettings? .standard = .ok scheduler ∧
      (reached.journal.entries.map Entry.time).Pairwise (· ≤ ·) ∧
      reached.journal.entries.map Entry.time = [0, 0, 2, 22, 22, 31, 31, 31, 31, 40, 40] := by
  intro losses faults device request scheduler reached
  have written : device.cycle.journal.recorded.length = 70 := by decide +kernel
  have damaged : device.memory.faults.recorded.length = 7 := by decide +kernel
  have built : Scheduler.ofSettings? .standard = .ok scheduler := rfl
  obtain ⟨devices, schedulers⟩ := trails_are_chronological
  obtain ⟨cycle, memory⟩ := devices BlockStore.seeded (losses ++ faults)
  obtain ⟨entries, trail, shown⟩ := cycle (by rw [written]; decide)
  obtain ⟨others, trail', shown'⟩ := memory (by rw [damaged]; decide)
  have all : entries.length = 70 := by
    rw [← written, trail.recorded, List.length_map]
  have all' : others.length = 7 := by
    rw [← damaged, trail'.recorded, List.length_map]
  refine ⟨written, damaged, ?_, ?_, ?_, built, (schedulers _ _ _ built).1, ?_⟩
  · rw [trail.keptTimes, trail.present, all]
    rfl
  · rw [shown, trail.present, List.rtake, List.map_drop, trail.times, all]
    rfl
  · rw [shown', trail'.present, List.rtake, List.map_drop, trail'.times, all']
    rfl
  · decide +kernel

end NvMemory
