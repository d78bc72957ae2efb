import NvMemory.Proofs.Backup
import NvMemory.Proofs.Footprint

/-!
What the phase of a cycle says about its other fields.

The phase, the target, the snapshot, the dirty flag and the power loss are kept apart and are set by
different operations, refused ones among them. `WriteCycle.Fits` is the table of what may be set in
which phase. A `Logbook` tells from the answers alone what the cycle that was started last has been
through, and the fields of the cycle agree with it (`Device.Coherent`), as long as nobody takes a block
out of the store.
-/

namespace NvMemory

/-- The table of the phases. Once a cycle has come to an end, its leftovers may be of any kind. -/
def WriteCycle.Fits (cycle : WriteCycle) : Prop :=
  match cycle.phase with
  | .snapshot => cycle.target.isSome = true ∧ cycle.snapshot = none ∧ cycle.dirty = false ∧
      cycle.lossPoint = none
  | .persist | .verify => cycle.target.isSome = true ∧ cycle.snapshot.isSome = true ∧
      cycle.dirty = false ∧ cycle.lossPoint = none
  | .copy => cycle.target.isSome = true ∧ cycle.snapshot.isSome = true ∧ cycle.lossPoint = none
  | .idle | .completed | .failed => True

namespace WriteCycle

variable {cycle : WriteCycle} {store : BlockStore} {id : BlockId}

theorem fits_of_ended (ended : cycle.phase.isUnderWay = false) : cycle.Fits := by
  unfold Fits
  cases phase : cycle.phase <;> simp [phase, Phase.isUnderWay] at ended ⊢

theorem Fits.target (fits : cycle.Fits) (underWay : cycle.phase.isUnderWay = true) :
    cycle.target.isSome = true := by
  unfold Fits at fits
  cases phase : cycle.phase with
  | snapshot | persist | copy | verify =>
      rw [phase] at fits
      exact fits.1
  | idle | completed | failed => simp [phase, Phase.isUnderWay] at underWay

theorem Fits.noSnapshot (fits : cycle.Fits) (phase : cycle.phase = .snapshot) :
    cycle.snapshot = none := by
  rw [Fits, phase] at fits
  exact fits.2.1

theorem Fits.snapshot (fits : cycle.Fits) (past : cycle.phase ∈ [.persist, .copy, .verify]) :
    cycle.snapshot.isSome = true := by
  unfold Fits at fits
  cases phase : cycle.phase with
  | persist | copy | verify =>
      rw [phase] at fits
      exact fits.2.1
  | idle | snapshot | completed | failed => simp [phase] at past

theorem Fits.dirty (fits : cycle.Fits) (dirty : cycle.dirty = true) :
    cycle.phase ∈ [.copy, .idle, .completed, .failed] := by
  unfold Fits at fits
  cases phase : cycle.phase with
  | snapshot | persist | verify => simp [phase, dirty] at fits
  | idle | copy | completed | failed => simp

theorem Fits.lossPoint (fits : cycle.Fits) (lost : cycle.lossPoint.isSome = true) :
    cycle.phase ∈ [.idle, .completed, .failed] := by
  unfold Fits at fits
  cases phase : cycle.phase with
  | snapshot | persist | copy | verify =>
      simp only [phase] at fits
      simp [fits] at lost
  | idle | completed | failed => simp

theorem Aftermath.ends {point : LossPoint} {consequence : Consequence}
    (aftermath : cycle.Aftermath store point consequence) :
    consequence.phase.isUnderWay = false := by
  cases aftermath <;> rfl

end WriteCycle

namespace Device

variable {device next : Device} {operation : Operation} {answer : Answer} {id : BlockId}

/-- What has come of the cycle that was started last. -/
structure Logbook where
  block : BlockId
  /-- The block as it was in the store when the snapshot was taken. -/
  captured : Option Block
  foundDirty : Bool

/-- The entries follow from the answers and from the store, whatever the cycle keeps. -/
def follow (log : Option Logbook) (device : Device) (_operation : Operation) :
    Answer → Option Logbook
  | .started report => some { block := report.block, captured := none, foundDirty := false }
  | .snapshotTaken _ => log.map fun book =>
      { book with captured := device.store.get? book.block }
  | .copied report => log.map fun book =>
      { book with foundDirty := book.foundDirty || report.dirty }
  | .cycleReset => none
  | _ => log

/-- The devices that a fresh cycle can lead to, each with the log of what led there. Between the
operations others may do to the store what they like, but every block stays in it. -/
inductive Reached : Option Logbook → Device → Prop
  | fresh (memory : Memory) : Reached none (ofMemory memory)
  | performed {log : Option Logbook} {device next : Device} {operation : Operation} {answer : Answer}
      (reached : Reached log device) (step : Step device operation next answer) :
      Reached (follow log device operation answer) next
  | tended {log : Option Logbook} {device : Device} {store : BlockStore}
      (reached : Reached log device)
      (kept : ∀ id, (device.store.get? id).isSome = true → (store.get? id).isSome = true) :
      Reached log (device.withStore store)

/-- The cycle keeps what the log says, its block is in the store, and its fields fit its phase. -/
structure Coherent (log : Option Logbook) (device : Device) : Prop where
  target : device.cycle.target = log.map Logbook.block
  snapshot : ∃ time, device.cycle.snapshot =
    (log.bind Logbook.captured).map (Snapshot.ofBlock · time)
  dirty : device.cycle.dirty = log.any Logbook.foundDirty
  present : ∀ id, device.cycle.target = some id → (device.store.get? id).isSome = true
  fits : device.cycle.Fits

variable {log : Option Logbook}

theorem coherent_ofMemory (memory : Memory) : Coherent none (ofMemory memory) where
  target := rfl
  snapshot := ⟨0, rfl⟩
  dirty := rfl
  present _ target := by contradiction
  fits := trivial

theorem Coherent.logged {phase : Phase} (coherent : Coherent log device)
    (atStep : device.cycle.AtStep phase id) : ∃ book, log = some book ∧ book.block = id :=
  Option.map_eq_some_iff.mp (coherent.target.symm.trans atStep.target)

/-- A power loss is refused only if there is no cycle, and then no phase is under way. -/
theorem Coherent.fits_of_lossRefused {point : LossPoint} {error : WriteError}
    (coherent : Coherent log device)
    (refused : (device.cycle.lost point).consequence device.store point = .error error) :
    (device.cycle.lost point).Fits := by
  apply WriteCycle.fits_of_ended
  by_contra underWay
  have targeted := coherent.fits.target ((Bool.not_eq_false _).mp underWay)
  obtain ⟨id, target⟩ := Option.isSome_iff_exists.mp targeted
  obtain ⟨block, found⟩ := Option.isSome_iff_exists.mp (coherent.present id target)
  have same : (device.cycle.lost point).target = some id := target
  obtain ⟨consequence, aftermath⟩ := WriteCycle.exists_aftermath same found point
  rw [WriteCycle.consequence_eq_ok_iff.mpr aftermath] at refused
  contradiction

theorem Step.coherent (step : Step device operation next answer) (coherent : Coherent log device) :
    Coherent (follow log device operation answer) next := by
  have ⟨target, ⟨time, snapshot⟩, dirty, present, fits⟩ := coherent
  have kept (id : BlockId) (target : device.cycle.target = some id) :
      (next.store.get? id).isSome = true :=
    (step.isSome_get? id).trans (present id target)
  -- What is set goes by the phase that the operation is for, so each case opens its row of the table.
  cases step with
  | @started id bytes block found =>
      have held (other : BlockId) (same : some id = some other) :
          (device.store.get? other).isSome = true := by
        rw [← Option.some.inj same, found]
        rfl
      exact ⟨rfl, ⟨0, rfl⟩, rfl, held, rfl, rfl, rfl, rfl⟩
  | @snapshotTaken id block snapshot atStep found taken =>
      obtain ⟨book, rfl, rfl⟩ := coherent.logged atStep
      rw [WriteCycle.Fits, atStep.phase] at fits
      obtain ⟨targeted, _, clean, unharmed⟩ := fits
      refine ⟨target, ⟨device.cycle.clock.tick.now, ?_⟩, dirty, kept, targeted, rfl, clean, unharmed⟩
      simp only [follow, Option.map_some, Option.bind_some, found, ← taken]
      rfl
  | persisted atStep =>
      rw [WriteCycle.Fits, atStep.phase] at fits
      obtain ⟨targeted, held, _, unharmed⟩ := fits
      exact ⟨target, ⟨time, snapshot⟩, dirty, kept, targeted, held, unharmed⟩
  | foundDirty atStep clean =>
      obtain ⟨book, rfl, _⟩ := coherent.logged atStep
      rw [WriteCycle.Fits, atStep.phase] at fits
      refine ⟨target, ⟨time, snapshot⟩, ?_, kept, ?_⟩
      · simp [follow, withCycle, WriteCycle.foundDirty]
      · rw [WriteCycle.Fits]
        simpa [withCycle, WriteCycle.foundDirty, WriteCycle.record, atStep.phase] using fits
  | copied atStep clean =>
      obtain ⟨book, rfl, _⟩ := coherent.logged atStep
      rw [WriteCycle.Fits, atStep.phase] at fits
      obtain ⟨targeted, held, unharmed⟩ := fits
      refine ⟨target, ⟨time, snapshot⟩, ?_, kept, targeted, held, clean, unharmed⟩
      simpa [follow, withCycle, WriteCycle.copied, WriteCycle.record] using dirty
  | verified | mismatched => exact ⟨target, ⟨time, snapshot⟩, dirty, kept, trivial⟩
  | powerLost aftermath =>
      exact ⟨target, ⟨time, snapshot⟩, dirty, kept, WriteCycle.fits_of_ended aftermath.ends⟩
  | lossRefused refused =>
      -- The loss is noted although the phase stays.
      exact ⟨target, ⟨time, snapshot⟩, dirty, kept, coherent.fits_of_lossRefused refused⟩
  | cycleReset => exact coherent_ofMemory device.memory
  | injected | recovered | versionWritten | cycleRefused | memoryRefused =>
      exact ⟨target, ⟨time, snapshot⟩, dirty, kept, fits⟩

theorem Reached.coherent (reached : Reached log device) : Coherent log device := by
  induction reached with
  | fresh memory => exact coherent_ofMemory memory
  | performed _ step ih => exact step.coherent ih
  | tended _ kept ih =>
      exact ⟨ih.target, ih.snapshot, ih.dirty, fun id target => kept id (ih.present id target), ih.fits⟩

theorem reached_after (memory : Memory) (operations : List Operation) :
    Reached ((ofMemory memory).observe follow none operations)
      ((ofMemory memory).after operations) :=
  observe_after Reached (fun _ => True) (fun step _ reached => reached.performed step)
    (fun _ _ => trivial) (.fresh memory)

/-- A step that the cycle is not at, or one for another block, is refused on these grounds. So a step
of a phase that is under way never finds the cycle without a target. -/
theorem Coherent.checkStep {phase : Phase} (coherent : Coherent log device)
    (underWay : phase.isUnderWay = true) (id : BlockId) :
    device.cycle.checkStep phase id ≠ .error .noActiveCycle := by
  intro refused
  unfold WriteCycle.checkStep at refused
  split at refused
  · simp at refused
  · rename_i same
    have targeted := coherent.fits.target (by rwa [← not_ne_iff.mp same] at underWay)
    obtain ⟨target, started⟩ := Option.isSome_iff_exists.mp targeted
    rw [started] at refused
    simp only at refused
    split at refused <;> simp at refused

/-- The answer to an operation of the cycle is no other refusal than the one that the cycle gave. -/
theorem answer_ne_refusal {κ ρ : Type} {report : ρ → Answer} {error : WriteError}
    {result : Except WriteError κ} {finish : Except WriteError κ → Device × Except WriteError ρ}
    (refuses : ∀ other, finish (.error other) = (device, .error other))
    (accepts : ∀ value, (answerCycle report (finish (.ok value))).2 ≠ .cycleRefused error)
    (passes : result ≠ .error error) :
    (answerCycle report (finish result)).2 ≠ .cycleRefused error := by
  cases result with
  | error other =>
      rw [refuses other]
      simpa [answerCycle] using passes
  | ok value => exact accepts value

theorem lookup_ne_noActiveCycle (store : BlockStore) (id : BlockId) :
    WriteCycle.lookup store id ≠ .error .noActiveCycle := by
  unfold WriteCycle.lookup
  cases store.get? id <;> simp

theorem Coherent.takeSnapshot (coherent : Coherent log device) (id : BlockId) :
    (device.perform (.takeSnapshot id)).2 ≠ .cycleRefused .noActiveCycle := by
  refine answer_ne_refusal (fun _ => rfl) (fun _ => by simp [cycleStep, answerCycle]) ?_
  refine bind_ne_error (coherent.checkStep rfl id) fun _ => ?_
  exact bind_ne_error (lookup_ne_noActiveCycle _ id) fun block => by simp [pure, Except.pure]

theorem Coherent.persist (coherent : Coherent log device) (id : BlockId) :
    (device.perform (.persist id)).2 ≠ .cycleRefused .noActiveCycle := by
  refine answer_ne_refusal (fun _ => rfl) (fun _ => by simp [cycleStep, answerCycle]) ?_
  exact bind_ne_error (coherent.checkStep rfl id) fun _ => by simp [pure, Except.pure]

theorem Coherent.copy (coherent : Coherent log device) (id : BlockId) (bytes : List UInt8)
    (dirty : Bool) :
    (device.perform (.copy id bytes dirty)).2 ≠ .cycleRefused .noActiveCycle := by
  have clean : device.cycle.checkClean ≠ .error .noActiveCycle := by
    unfold WriteCycle.checkClean
    split <;> simp
  refine answer_ne_refusal (fun _ => rfl) (fun _ => by simp [storeStep, answerCycle]) ?_
  refine bind_ne_error (coherent.checkStep rfl id) fun _ => bind_ne_error clean fun _ => ?_
  refine bind_ne_error (lookup_ne_noActiveCycle _ id) fun block => ?_
  split <;> simp [pure, Except.pure]

theorem Coherent.verify (coherent : Coherent log device) (id : BlockId) :
    (device.perform (.verify id)).2 ≠ .cycleRefused .noActiveCycle := by
  refine answer_ne_refusal (fun _ => rfl) (fun _ => by simp [storeStep, answerCycle]) ?_
  refine bind_ne_error (coherent.checkStep rfl id) fun _ => ?_
  refine bind_ne_error (lookup_ne_noActiveCycle _ id) fun block => ?_
  split <;> simp [pure, Except.pure]

/-- A snapshot that is held is of the block of the cycle, as it was after the start. -/
theorem Coherent.held (coherent : Coherent log device)
    (held : device.cycle.snapshot.isSome = true) :
    ∃ book block time, log = some book ∧ device.cycle.target = some book.block ∧
      book.captured = some block ∧ device.cycle.snapshot = some (Snapshot.ofBlock block time) := by
  obtain ⟨time, snapshot⟩ := coherent.snapshot
  rw [snapshot, Option.isSome_map] at held
  obtain ⟨block, bound⟩ := Option.isSome_iff_exists.mp held
  obtain ⟨book, rfl, captured⟩ := Option.bind_eq_some_iff.mp bound
  exact ⟨book, block, time, rfl, coherent.target, captured, by rw [snapshot, bound]; rfl⟩

/-- A copy that is not refused has found the cycle clean and in the phase of the copy. -/
theorem copy_cases (device : Device) (id : BlockId) (bytes : List UInt8) (dirty : Bool) :
    (device.perform (.copy id bytes dirty)).1 = device ∨
      device.cycle.dirty = false ∧ device.cycle.AtStep .copy id := by
  have step := device.perform_step (.copy id bytes dirty)
  generalize device.perform (.copy id bytes dirty) = result at step ⊢
  obtain ⟨next, answer⟩ := result
  cases step with
  | foundDirty atStep clean | copied atStep clean => exact .inr ⟨clean, atStep⟩
  | cycleRefused | memoryRefused => exact .inl rfl

theorem Coherent.held_of_copied (coherent : Coherent log device)
    (atStep : device.cycle.AtStep .copy id) :
    ∃ book block time, log = some book ∧ book.block = id ∧ book.captured = some block ∧
      device.cycle.snapshot = some (Snapshot.ofBlock block time) := by
  have past : device.cycle.phase ∈ [.persist, .copy, .verify] := by simp [atStep.phase]
  obtain ⟨book, block, time, log, target, captured, snapshot⟩ :=
    coherent.held (coherent.fits.snapshot past)
  have named : book.block = id := Option.some.inj (target.symm.trans atStep.target)
  exact ⟨book, block, time, log, named, captured, snapshot⟩

/-- Whatever a fresh cycle has been asked to do, on a store that never loses a block: in every phase
that is under way the cycle has a target; it has no snapshot before the snapshot is due, and from then
on it holds one, of the target as it was after the latest start. Dirty data is known of only in the
phase of the copy or after the end, and once it was found a copy does nothing until the next start or
reset. A power loss is known of only after the end. So a copy does nothing to a block of which no
snapshot is held, and no step of the two phases is ever refused because there is no cycle. -/
theorem phases_hold_what_they_need (reached : Reached log device) :
    (device.cycle.phase.isUnderWay = true → device.cycle.target.isSome = true) ∧
    (device.cycle.phase = .snapshot → device.cycle.snapshot = none) ∧
    (device.cycle.phase ∈ [.persist, .copy, .verify] → ∃ book block time, log = some book ∧
      device.cycle.target = some book.block ∧ book.captured = some block ∧
      device.cycle.snapshot = some (Snapshot.ofBlock block time)) ∧
    (device.cycle.dirty = true → device.cycle.phase ∈ [.copy, .idle, .completed, .failed]) ∧
    (log.any Logbook.foundDirty = true → ∀ id bytes dirty,
      (device.perform (.copy id bytes dirty)).1 = device) ∧
    (device.cycle.lossPoint.isSome = true →
      device.cycle.phase ∈ [.idle, .completed, .failed]) ∧
    (∀ id bytes dirty, (device.perform (.copy id bytes dirty)).1 = device ∨
      ∃ book block time, log = some book ∧ book.block = id ∧ book.captured = some block ∧
        device.cycle.snapshot = some (Snapshot.ofBlock block time)) ∧
    ∀ id bytes dirty, ∀ operation ∈ [.takeSnapshot id, .persist id, .copy id bytes dirty, .verify id],
      (device.perform operation).2 ≠ .cycleRefused .noActiveCycle := by
  have coherent := reached.coherent
  refine ⟨coherent.fits.target, coherent.fits.noSnapshot,
    fun past => coherent.held (coherent.fits.snapshot past), coherent.fits.dirty, ?_,
    coherent.fits.lossPoint, ?_, ?_⟩
  · intro found id bytes dirty
    rw [← coherent.dirty] at found
    refine (copy_cases device id bytes dirty).resolve_right fun accepted => ?_
    rw [found] at accepted
    exact absurd accepted.1 (by decide)
  · intro id bytes dirty
    refine (copy_cases device id bytes dirty).imp_right fun accepted => ?_
    exact coherent.held_of_copied accepted.2
  · intro id bytes dirty operation member
    simp only [List.mem_cons, List.not_mem_nil, or_false] at member
    rcases member with rfl | rfl | rfl | rfl
    · exact coherent.takeSnapshot id
    · exact coherent.persist id
    · exact coherent.copy id bytes dirty
    · exact coherent.verify id

/-- A cycle whose copy found dirty data, while others have put another block in the place of its
target. It still holds the snapshot of the block that was there when the cycle was started. -/
theorem dirty_cycle_holds_first_block :
    let operations := [.start ⟨1⟩ [5], .takeSnapshot ⟨1⟩, .persist ⟨1⟩, .copy ⟨1⟩ [5] true]
    let used := (ofMemory Memory.seeded).after operations
    let tended := used.withStore (used.store.set ⟨1⟩ (Block.native ⟨1⟩ [9]))
    ∃ log, Reached log tended ∧ tended.cycle.phase = .copy ∧ log.any Logbook.foundDirty = true ∧
      (∃ block time, Memory.seeded.store.get? ⟨1⟩ = some block ∧
        tended.cycle.snapshot = some (Snapshot.ofBlock block time)) ∧
      ∀ id bytes dirty, (tended.perform (.copy id bytes dirty)).1 = tended := by
  intro operations used tended
  let log := (ofMemory Memory.seeded).observe follow none operations
  have kept (id : BlockId) (present : (used.store.get? id).isSome = true) :
      ((used.store.set ⟨1⟩ (Block.native ⟨1⟩ [9])).get? id).isSome = true :=
    BlockStore.isSome_get?_set present _ _
  have reached : Reached log tended := (reached_after Memory.seeded operations).tended kept
  have phase : tended.cycle.phase = .copy := by decide +kernel
  have foundDirty : log.any Logbook.foundDirty = true := by decide +kernel
  have first : log.bind Logbook.captured = Memory.seeded.store.get? ⟨1⟩ := by decide +kernel
  obtain ⟨_, _, held, _, unwritten, _⟩ := phases_hold_what_they_need reached
  obtain ⟨book, block, time, same, _, captured, snapshot⟩ := held (by rw [phase]; decide)
  rw [same, Option.bind_some, captured] at first
  exact ⟨log, reached, phase, foundDirty, ⟨block, time, first.symm, snapshot⟩, unwritten foundDirty⟩

end Device

end NvMemory
