import NvMemory.Proofs.Block
import NvMemory.Proofs.Device

/-!
A power loss after the first phase takes the block of the cycle back to its snapshot, whatever
has happened since the snapshot was taken.

Nothing but a start, a snapshot or a reset touches the snapshot or the target of a cycle, and
once the phase of the snapshot is over no operation leads back to it. So a cycle has exactly
one snapshot (`Device.Holding`).
-/

namespace NvMemory.Device

variable {device next : Device} {operation : Operation} {answer : Answer} {id : BlockId}
  {snapshot : Snapshot}

/-- The answer is that of an operation which begins another cycle or forgets this one. -/
def Answer.endsCycle : Answer → Bool
  | .started _ | .cycleReset => true
  | _ => false

/-- The cycle was started for block `id`, and `snapshot` is the one it took. -/
structure Holding (device : Device) (id : BlockId) (snapshot : Snapshot) : Prop where
  target : device.cycle.target = some id
  held : device.cycle.snapshot = some snapshot
  past : device.cycle.phase ≠ .snapshot
  present : (device.store.get? id).isSome = true

theorem Holding.aftermath {point : LossPoint} {consequence : WriteCycle.Consequence}
    (holding : device.Holding id snapshot)
    (aftermath : (device.cycle.lost point).Aftermath device.store point consequence) :
    consequence.phase ≠ .snapshot ∧ (consequence.store.get? id).isSome = true := by
  cases aftermath with
  | unaffected | noSnapshot | durable => exact ⟨by simp, holding.present⟩
  | restored | torn => exact ⟨by simp, BlockStore.isSome_get?_set holding.present _ _⟩

theorem Step.holding (step : Step device operation next answer)
    (sameCycle : answer.endsCycle = false) (holding : device.Holding id snapshot) :
    next.Holding id snapshot := by
  have target := holding.target
  have held := holding.held
  have past := holding.past
  have present := holding.present
  have stored (other : BlockId) (block : Block) := BlockStore.isSome_get?_set present other block
  cases step with
  | started | cycleReset => contradiction
  | snapshotTaken atStep => exact absurd atStep.phase past
  | persisted => exact ⟨target, held, by simp [withCycle, WriteCycle.persisted], present⟩
  | foundDirty => exact ⟨target, held, past, present⟩
  | copied => exact ⟨target, held, by simp [withCycle, WriteCycle.copied], stored _ _⟩
  | verified => exact ⟨target, held, by simp [withCycle, WriteCycle.completed], stored _ _⟩
  | mismatched => exact ⟨target, held, by simp [withCycle, WriteCycle.failed], stored _ _⟩
  | powerLost aftermath =>
      obtain ⟨phase, kept⟩ := holding.aftermath aftermath
      exact ⟨target, held, phase, kept⟩
  | lossRefused => exact ⟨target, held, past, present⟩
  | injected | recovered | versionWritten => exact ⟨target, held, past, stored _ _⟩
  | cycleRefused | memoryRefused => exact holding

theorem holding_of_takeSnapshot {report : SnapshotReport}
    (taken : device.perform (.takeSnapshot id) = (next, .snapshotTaken report)) :
    next.Holding id report.snapshot := by
  have step := step_iff.mpr taken
  cases step with
  | snapshotTaken atStep found =>
      exact ⟨atStep.target, rfl, by simp [withCycle, WriteCycle.snapshotTaken],
        Option.isSome_iff_exists.mpr ⟨_, found⟩⟩

def rewound (device : Device) (id : BlockId) (snapshot : Snapshot) : Device :=
  let consequence : WriteCycle.Consequence := {
    phase := .completed
    store := device.store.set id snapshot.restored
    assessment := .restoredFromSnapshot
    checksum := snapshot.knownChecksum? }
  (device.withStore consequence.store).withCycle
    ((device.cycle.lost .afterPhase1).assessed consequence)

theorem Holding.losePower (holding : device.Holding id snapshot) :
    device.perform (.losePower .afterPhase1) = (device.rewound id snapshot,
      .powerLost { point := .afterPhase1, assessment := .restoredFromSnapshot,
                   phase := .completed, checksum := snapshot.knownChecksum? }) := by
  obtain ⟨block, found⟩ := Option.isSome_iff_exists.mp holding.present
  exact (Step.powerLost (.restored holding.held holding.target found)).perform_eq

theorem get?_rewound (device : Device) (id : BlockId) (snapshot : Snapshot) :
    (device.rewound id snapshot).store.get? id = some snapshot.restored :=
  BlockStore.get?_set_same _ _ _

theorem get?_rewound_other {other : BlockId} (different : id ≠ other) :
    (device.rewound id snapshot).store.get? other = device.store.get? other :=
  BlockStore.get?_set_other _ different _

theorem store_rewound_twice (device : Device) (id : BlockId) (snapshot : Snapshot) :
    ((device.rewound id snapshot).rewound id snapshot).store =
      (device.rewound id snapshot).store :=
  BlockStore.set_set _ _ _ _

theorem Holding.rewound (holding : device.Holding id snapshot) :
    (device.rewound id snapshot).Holding id snapshot := by
  have step := step_iff.mpr holding.losePower
  exact step.holding rfl holding

/-- Once a snapshot of a block is taken, the cycle may go on in any way that does not begin
another cycle, and the blocks may have any faults, repairs and writes: losing power after the
first phase gives back the block as it was, flagged good if it was sound, and leaves all other
blocks alone. Losing power there once more changes nothing.

A snapshot is only taken by a cycle that was started for the block, so that no start has to be
assumed. -/
theorem power_loss_rewinds_to_snapshot {taken : Device} {report : SnapshotReport}
    {original : Block} {operations : List Operation}
    (found : device.store.get? id = some original)
    (snapshot : device.perform (.takeSnapshot id) = (taken, .snapshotTaken report))
    (sameCycle : ∀ answer ∈ taken.answers operations, answer.endsCycle = false) :
    let before := taken.after operations
    let good := original.valid && original.isIntact
    ∃ final loss, before.perform (.losePower .afterPhase1) = (final, .powerLost loss) ∧
      loss.assessment = .restoredFromSnapshot ∧ loss.phase = .completed ∧
      final.cycle.phase = .completed ∧
      final.store.get? id = some { original with valid := good } ∧
      (∀ other, other ≠ id → final.store.get? other = before.store.get? other) ∧
      loss.checksum = (if good then some original.checksum else none) ∧
      (final.perform (.losePower .afterPhase1)).1.store = final.store := by
  intro before good
  have holding : before.Holding id report.snapshot :=
    after_preserves (fun answer => answer.endsCycle = false) Step.holding sameCycle
      (holding_of_takeSnapshot snapshot)
  have copy : report.snapshot = Snapshot.ofBlock original device.cycle.clock.tick.now := by
    cases step_iff.mpr snapshot with
    | snapshotTaken _ stored same =>
        rw [found] at stored
        cases stored
        exact same
  refine ⟨_, _, holding.losePower, rfl, rfl, rfl, ?_, ?_, ?_, ?_⟩
  · rw [get?_rewound, copy]
    rfl
  · intro other different
    exact get?_rewound_other different.symm
  · rw [copy]
    rfl
  · rw [holding.rewound.losePower]
    exact store_rewound_twice _ _ _

/-- The snapshot is of a redundant block with a damaged byte. A verified write, which renews the
backup, tears, repairs, an earlier restore and a refused start come in between. -/
theorem power_loss_rewinds_damaged_block :
    let sound := Block.redundant ⟨1⟩ (BlockStore.pattern 0xAA 0xBB 0xCC 0xDD)
    let original := { sound with content := sound.content.flipFirst, valid := false }
    let device := (ofMemory Memory.seeded).after
      [.inject ⟨1⟩ .bitFlip, .writeVersion ⟨2⟩ [7], .start ⟨1⟩ [1, 2, 3]]
    let taken := (device.perform (.takeSnapshot ⟨1⟩)).1
    let operations : List Operation := [
      .persist ⟨1⟩, .start ⟨9⟩ [], .copy ⟨1⟩ [1, 2, 3] false, .verify ⟨1⟩, .inject ⟨1⟩ .bitFlip,
      .losePower .duringPhase2, .recover ⟨1⟩, .losePower .afterPhase1, .recover ⟨1⟩,
      .inject ⟨1⟩ .backupCorruption, .writeVersion ⟨2⟩ [8]]
    device.store.get? ⟨1⟩ = some original ∧
      (∃ report, device.perform (.takeSnapshot ⟨1⟩) = (taken, .snapshotTaken report)) ∧
      (∀ answer ∈ taken.answers operations, answer.endsCycle = false) ∧
      ∃ final loss,
        (taken.after operations).perform (.losePower .afterPhase1) = (final, .powerLost loss) ∧
        loss.checksum = none ∧ final.store.get? ⟨1⟩ = some original := by
  intro sound original device taken operations
  have found : device.store.get? ⟨1⟩ = some original := by decide +kernel
  have snapshot : device.perform (.takeSnapshot ⟨1⟩) = (taken, .snapshotTaken {
      phase := .persist, snapshot := Snapshot.ofBlock original 2 }) := by decide +kernel
  have sameCycle : ∀ answer ∈ taken.answers operations, answer.endsCycle = false := by
    decide +kernel
  obtain ⟨final, loss, performed, _, _, _, restored, _, checksum, _⟩ :=
    power_loss_rewinds_to_snapshot found snapshot sameCycle
  exact ⟨found, ⟨_, snapshot⟩, sameCycle, final, loss, performed, checksum, restored⟩

end NvMemory.Device
