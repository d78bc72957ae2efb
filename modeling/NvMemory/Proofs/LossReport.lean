import NvMemory.Proofs.Integrity
import NvMemory.Proofs.Lasting

/-!
Whether the checksum that a power loss reports is that of good content.

A restore from a snapshot reports a checksum only if the snapshot is sound. A power loss after the
second phase reports the recorded checksum of the block, whatever its flag says. The flag is known
from the answers of a run (`Device.followFlag`).
-/

namespace NvMemory

namespace Block

theorem valid_repair (block : Block) :
    block.repair.1.valid = (block.valid || block.repair.2.succeeded) := by
  cases protects : block.protection with
  | native =>
      simp only [repair, protects]
      cases sound : block.isSound with
      | true => simp [(Bool.and_eq_true_iff.mp sound).1]
      | false => simp [Repair.succeeded]
  | redundant backup =>
      simp only [repair, protects]
      split <;> simp [restoreContent, Repair.succeeded]
  | dataset archive =>
      simp only [repair, protects]
      cases sound : block.isSound with
      | true => simp [(Bool.and_eq_true_iff.mp sound).1]
      | false => cases archive.newestIntact? <;> simp [restoreContent, Repair.succeeded]

end Block

theorem Snapshot.knownChecksum?_eq_some_iff {snapshot : Snapshot} {checksum : Checksum} :
    snapshot.knownChecksum? = some checksum ↔
      snapshot.sound = true ∧ snapshot.block.checksum = checksum := by
  unfold knownChecksum?
  cases snapshot.sound <;> simp

theorem Snapshot.isSome_knownChecksum? (snapshot : Snapshot) :
    snapshot.knownChecksum?.isSome = snapshot.sound := by
  unfold knownChecksum?
  cases snapshot.sound <;> rfl

namespace Device

variable {device next : Device} {operation : Operation} {answer : Answer} {id : BlockId}
  {good : Bool}

/-- The block that the operation may write to. -/
def Operation.subject? (device : Device) : Operation → Option BlockId
  | .copy id _ _ | .verify id | .inject id _ | .recover id | .writeVersion id _ => some id
  | .losePower _ => device.cycle.target
  | .start .. | .takeSnapshot _ | .persist _ | .resetCycle => none

/-- What the answer says about the flag of the block that was written to. -/
def Answer.flag (good : Bool) : Answer → Bool
  | .copied report => good || !report.dirty
  | .verified report => good && report.valid
  | .powerLost report =>
      match report.assessment with
      | .restoredFromSnapshot => report.checksum.isSome
      | .corrupted => false
      | .unaffected | .noSnapshot | .durable => good
  | .injected report => good && !report.fault.hitsContent
  | .recovered report => good || report.succeeded
  | .versionWritten _ => true
  | .started _ | .snapshotTaken _ | .persisted _ | .cycleReset => good
  | .cycleRefused _ | .memoryRefused _ => good

/-- Whether block `id` is flagged good after the operation, if `good` tells it from before. -/
def followFlag (id : BlockId) (good : Bool) (device : Device) (operation : Operation)
    (answer : Answer) : Bool :=
  if operation.subject? device = some id then answer.flag good else good

theorem followFlag_of_same (same : answer.flag good = good) :
    followFlag id good device operation answer = good := by
  rw [followFlag, same, ite_self]

/-- The flag is as the answers say, also of a block that has just been written to. -/
theorem meets_followFlag {target : BlockId} {block placed : Block}
    (flagged : device.store.Meets id (·.valid = good))
    (subject : operation.subject? device = some target)
    (found : device.store.get? target = some block)
    (told : placed.valid = answer.flag block.valid) :
    (device.store.set target placed).Meets id
      (·.valid = followFlag id good device operation answer) := by
  by_cases same : target = id
  · subst same
    refine BlockStore.meets_set_same ?_
    rw [told, flagged block found, followFlag, if_pos subject]
  · have other : followFlag id good device operation answer = good := by
      rw [followFlag, subject, if_neg fun hit => same (Option.some.inj hit)]
    rw [other]
    exact flagged.set found fun hit => absurd hit same

theorem Step.flagged (step : Step device operation next answer)
    (flagged : device.store.Meets id (·.valid = good)) :
    next.store.Meets id (·.valid = followFlag id good device operation answer) := by
  cases step with
  | copied atStep clean found =>
      exact meets_followFlag flagged rfl found (by simp [Answer.flag, Block.commit])
  | verified atStep found =>
      exact meets_followFlag flagged rfl found (by simp [Answer.flag, Block.refreshBackup])
  | mismatched atStep found =>
      exact meets_followFlag flagged rfl found (by simp [Answer.flag, Block.invalidate])
  | powerLost aftermath =>
      cases aftermath with
      | restored held target found =>
          exact meets_followFlag flagged target found (Snapshot.isSome_knownChecksum? _).symm
      | torn target found => exact meets_followFlag flagged target found rfl
      | unaffected | noSnapshot | durable =>
          rw [followFlag_of_same rfl]
          exact flagged
  | injected found suffers => exact meets_followFlag flagged rfl found (Block.suffer?_valid suffers)
  | recovered found => exact meets_followFlag flagged rfl found (Block.valid_repair _)
  | versionWritten found => exact meets_followFlag flagged rfl found rfl
  | started | snapshotTaken | persisted | lossRefused | cycleReset | cycleRefused | memoryRefused =>
      rw [followFlag_of_same rfl]
      exact flagged
  | foundDirty =>
      rw [followFlag_of_same (by simp [Answer.flag])]
      exact flagged

theorem meets_flagOf (memory : Memory) (id : BlockId) :
    (ofMemory memory).store.Meets id (·.valid = (memory.store.get? id).any Block.valid) := by
  intro block found
  have stored : memory.store.get? id = some block := found
  rw [stored, Option.any_some]

theorem flagged_after (flagged : device.store.Meets id (·.valid = good))
    (operations : List Operation) :
    (device.after operations).store.Meets id
      (·.valid = device.observe (followFlag id) good operations) :=
  observe_after (fun good device => device.store.Meets id (·.valid = good)) (fun _ => True)
    (fun step _ => step.flagged) (fun _ _ => trivial) flagged

/-- A checksum that a power loss reports is the one recorded for the block of the cycle. After a
restore it is always that of good content. After the second phase, when the block is left alone,
it is so exactly if the block is flagged good, as the answers of the run tell: no tear, no fault
of its content and no failed verification has hit it since a copy, a new version, a repair or a
restore has set the flag. -/
theorem reported_checksum_good_iff_flagged {memory : Memory} (honest : memory.store.Honest)
    {operations : List Operation} {point : LossPoint} {final : Device} {report : LossReport}
    {checksum : Checksum}
    (lost : ((ofMemory memory).after operations).perform (.losePower point) =
      (final, .powerLost report))
    (reported : report.checksum = some checksum) :
    let reached := (ofMemory memory).after operations
    ∃ id block, reached.cycle.target = some id ∧ final.store.get? id = some block ∧
      block.checksum = checksum ∧
      let flagged := (ofMemory memory).observe (followFlag id)
        ((memory.store.get? id).any Block.valid) operations
      (report.assessment = .restoredFromSnapshot ∧
        block.valid = true ∧ crc16 block.bytes = checksum) ∨
      (report.assessment = .durable ∧ final.store = reached.store ∧
        (block.valid = true ∧ crc16 block.bytes = checksum ↔ flagged = true)) := by
  intro reached
  have trustworthy : reached.Trustworthy := (Trustworthy.ofMemory honest).after operations
  cases step_iff.mpr lost with
  | powerLost aftermath =>
      cases aftermath with
      | @restored id snapshot block held target found =>
          obtain ⟨sound, recorded⟩ := Snapshot.knownChecksum?_eq_some_iff.mp reported
          have honest := trustworthy.snapshot snapshot held sound
          exact ⟨id, snapshot.restored, target, BlockStore.get?_set_same _ _ _, recorded,
            .inl ⟨rfl, sound, honest.symm.trans recorded⟩⟩
      | durable =>
          obtain ⟨block, stored, recorded⟩ := Option.map_eq_some_iff.mp reported
          obtain ⟨id, target, found⟩ := Option.bind_eq_some_iff.mp stored
          have flag := flagged_after (meets_flagOf memory id) operations block found
          refine ⟨id, block, target, found, recorded, .inr ⟨rfl, rfl, ?_⟩⟩
          rw [← flag, ← recorded]
          exact and_iff_left_of_imp fun valid => (trustworthy.blocks id block found valid).symm
      | unaffected | noSnapshot | torn => contradiction

/-- A bit of the copied bytes is flipped before power is lost. The checksum of the copy is reported
all the same. -/
theorem checksum_reported_of_damaged_copy :
    let operations : List Operation := [
      .start ⟨0⟩ [1, 2, 3], .takeSnapshot ⟨0⟩, .persist ⟨0⟩, .copy ⟨0⟩ [1, 2, 3] false,
      .inject ⟨0⟩ .bitFlip]
    let reached := (ofMemory Memory.seeded).after operations
    Memory.seeded.store.Honest ∧ ∃ final report block,
      reached.perform (.losePower .afterPhase2) = (final, .powerLost report) ∧
      report.checksum = some (crc16 [1, 2, 3]) ∧ final.store.get? ⟨0⟩ = some block ∧
      block.bytes = [0xFE, 2, 3] ∧ ¬ (block.valid = true ∧ crc16 block.bytes = crc16 [1, 2, 3]) := by
  intro operations reached
  have honest := BlockStore.honest_seeded
  let report : LossReport := {
    point := .afterPhase2
    assessment := .durable
    phase := .completed
    checksum := some (crc16 [1, 2, 3]) }
  obtain ⟨final, lost⟩ : ∃ final,
      reached.perform (.losePower .afterPhase2) = (final, .powerLost report) := by
    refine ⟨(reached.perform (.losePower .afterPhase2)).1, ?_⟩
    decide +kernel
  obtain ⟨id, block, target, found, recorded, ⟨restored, _⟩ | ⟨_, same, good⟩⟩ :=
    reported_checksum_good_iff_flagged honest lost rfl
  · contradiction
  · have targeted : reached.cycle.target = some ⟨0⟩ := by decide +kernel
    have damaged : reached.store.bytes ⟨0⟩ = [0xFE, 2, 3] := by decide +kernel
    have bad : (ofMemory Memory.seeded).observe (followFlag ⟨0⟩)
        ((Memory.seeded.store.get? ⟨0⟩).any Block.valid) operations = false := by decide +kernel
    cases target.symm.trans targeted
    rw [← same, BlockStore.bytes_of_get? found] at damaged
    rw [bad] at good
    exact ⟨honest, final, report, block, lost, rfl, found, damaged, fun sound =>
      Bool.false_ne_true (good.mp sound)⟩

end Device

end NvMemory
