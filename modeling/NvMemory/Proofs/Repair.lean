import NvMemory.Proofs.Memory
import NvMemory.Proofs.Protection

/-!
What a repair makes of a block, and that it is made once and for all.

`Block.Mended` has a rule for each way in which a repair can end. A repair that succeeds leaves a
sound block, and one that fails leaves the block alone, so that another repair finds nothing to do.
-/

namespace NvMemory

theorem BlockStore.set_self {store : BlockStore} {id : BlockId} {block : Block}
    (found : store.get? id = some block) : store.set id block = store := by
  rw [set, WordMap.insert_self found]

namespace Block

variable {block after : Block} {outcome : Repair} {archive : Archive}

inductive Mended (block : Block) : Block → Repair → Prop
  | intact (native : block.protection = .native) (sound : block.isSound = true) :
      Mended block block .intact
  | beyondRepair (native : block.protection = .native) (unsound : block.isSound = false) :
      Mended block block .beyondRepair
  | restoredFromBackup {backup : Sealed} (redundant : block.protection = .redundant backup)
      (intact : backup.isIntact = true) :
      Mended block (block.restoreContent backup) .restoredFromBackup
  | backupCorrupted {backup : Sealed} (redundant : block.protection = .redundant backup)
      (damaged : backup.isIntact = false) : Mended block block .backupCorrupted
  | notNeeded {archive : Archive} (versions : block.protection = .dataset archive)
      (sound : block.isSound = true) : Mended block block .notNeeded
  | rolledBack {archive : Archive} {version : UInt32} {record : Sealed}
      (versions : block.protection = .dataset archive) (unsound : block.isSound = false)
      (newest : archive.NewestIntact version record) :
      Mended block { block.restoreContent record with
        protection := .dataset { archive with version := version } } (.rolledBack version)
  | archiveCorrupted {archive : Archive} (versions : block.protection = .dataset archive)
      (unsound : block.isSound = false) (missing : archive.newestIntact? = none) :
      Mended block block .archiveCorrupted

theorem repair_mended (block : Block) : block.Mended block.repair.1 block.repair.2 := by
  cases protects : block.protection with
  | native =>
      cases sound : block.isSound with
      | true =>
          simp only [repair, protects, sound, if_true]
          exact .intact protects sound
      | false =>
          simp only [repair, protects, sound, Bool.false_eq_true, if_false]
          exact .beyondRepair protects sound
  | redundant backup =>
      cases intact : backup.isIntact with
      | true =>
          rw [repair_redundant protects intact]
          exact .restoredFromBackup protects intact
      | false =>
          simp only [repair, protects, intact, Bool.false_eq_true, if_false]
          exact .backupCorrupted protects intact
  | dataset archive =>
      cases sound : block.isSound with
      | true =>
          simp only [repair, protects, sound, if_true]
          exact .notNeeded protects sound
      | false =>
          cases newest : archive.newestIntact? with
          | none =>
              rw [repair_without_version protects sound newest]
              exact .archiveCorrupted protects sound newest
          | some entry =>
              have intact := Archive.newestIntact?_eq_some_iff.mp newest
              rw [repair_rollback protects sound intact]
              exact .rolledBack protects sound intact

theorem Mended.sound (mended : block.Mended after outcome)
    (succeeded : outcome.succeeded = true) : after.isSound = true := by
  cases mended with
  | intact _ sound => exact sound
  | restoredFromBackup _ intact => exact intact
  | notNeeded _ sound => exact sound
  | rolledBack _ _ newest => exact newest.intact
  | beyondRepair | backupCorrupted | archiveCorrupted => contradiction

theorem Mended.eq_of_failed (mended : block.Mended after outcome)
    (failed : outcome.succeeded = false) : after = block := by
  cases mended with
  | beyondRepair | backupCorrupted | archiveCorrupted => rfl
  | intact | restoredFromBackup | notNeeded | rolledBack => contradiction

theorem Mended.backup?_eq (mended : block.Mended after outcome) :
    after.protection.backup? = block.protection.backup? := by
  cases mended with
  | rolledBack versions =>
      rw [versions]
      rfl
  | intact | beyondRepair | restoredFromBackup | backupCorrupted | notNeeded | archiveCorrupted => rfl

/-- A rollback changes the number of the live version and no version that is archived. -/
theorem Mended.records_eq (mended : block.Mended after outcome) :
    after.protection.archive?.map Archive.records =
      block.protection.archive?.map Archive.records := by
  cases mended with
  | rolledBack versions =>
      rw [versions]
      rfl
  | intact | beyondRepair | restoredFromBackup | backupCorrupted | notNeeded | archiveCorrupted => rfl

theorem Mended.newestIntact (mended : block.Mended after outcome)
    (versions : block.protection = .dataset archive) (unsound : block.isSound = false)
    (succeeded : outcome.succeeded = true) :
    ∃ version record, archive.NewestIntact version record ∧ outcome.version? = some version ∧
      after.protection = .dataset { archive with version := version } ∧
      after.content = record := by
  cases mended with
  | @rolledBack kept version record same _ newest =>
      cases versions.symm.trans same
      exact ⟨version, record, newest, rfl, rfl, rfl⟩
  | intact _ sound | notNeeded _ sound =>
      rw [sound] at unsound
      contradiction
  | restoredFromBackup redundant =>
      cases versions.symm.trans redundant
  | beyondRepair | backupCorrupted | archiveCorrupted => contradiction

theorem Mended.eq_of_idle (mended : block.Mended after outcome)
    (idle : block.kind = .native ∨ block.kind = .dataset ∧ block.isSound = true) :
    after = block := by
  cases mended with
  | intact | beyondRepair | backupCorrupted | notNeeded | archiveCorrupted => rfl
  | restoredFromBackup redundant =>
      simp [kind, redundant, Protection.kind] at idle
  | rolledBack versions unsound =>
      simp [kind, versions, Protection.kind, unsound] at idle

/-- A repaired block is repaired to itself, and a block that could not be repaired still cannot. -/
theorem Mended.again (mended : block.Mended after outcome) :
    after.repair.1 = after ∧ after.repair.2.succeeded = outcome.succeeded := by
  cases mended with
  | intact protects sound | notNeeded protects sound =>
      simp [repair, protects, sound, Repair.succeeded]
  | beyondRepair native unsound => simp [repair, native, unsound]
  | @restoredFromBackup backup redundant intact =>
      have kept : (block.restoreContent backup).protection = .redundant backup := redundant
      rw [repair_redundant kept intact]
      exact ⟨rfl, rfl⟩
  | backupCorrupted redundant damaged => simp [repair, redundant, damaged]
  | @rolledBack archive version record versions unsound newest =>
      -- the record is intact, so that the block is sound now and not rolled back again
      have sound : (block.restoreContent record).isSound = true := newest.intact
      simp only [isSound, isIntact] at sound
      simp [repair, isSound, isIntact, sound, Repair.succeeded]
  | archiveCorrupted versions unsound missing =>
      rw [repair_without_version versions unsound missing]
      exact ⟨rfl, rfl⟩

end Block

namespace Memory

variable {memory : Memory} {id : BlockId} {block : Block}

/-- A recovery that reports success leaves a good block, and one that reports failure leaves the whole
store as it was. Backups and archived versions stay as they are. A dataset block that is not sound is
brought back exactly if something intact is archived, to the newest that is. Native blocks and sound
dataset blocks are left alone, and a second recovery always leaves things as the first one did. -/
theorem recovery_sound_minimal_idempotent (found : memory.store.get? id = some block) :
    ∃ recovered report after, memory.recover id = .ok (recovered, report) ∧
      recovered.store.get? id = some after ∧
      (∀ other, other ≠ id → recovered.store.get? other = memory.store.get? other) ∧
      (report.succeeded = true → after.valid = true ∧ after.checksum = crc16 after.bytes) ∧
      (report.succeeded = false → recovered.store = memory.store) ∧
      after.protection.backup? = block.protection.backup? ∧
      after.protection.archive?.map Archive.records =
        block.protection.archive?.map Archive.records ∧
      (∀ archive, block.protection = .dataset archive → block.isSound = false →
        (report.succeeded = true ↔
          ∃ version record, archive.records.get? version = some record ∧
            record.isIntact = true) ∧
        (report.succeeded = true →
          ∃ version record, archive.NewestIntact version record ∧
            report.repair.version? = some version ∧
            after.protection = .dataset { archive with version := version } ∧
            after.content = record)) ∧
      (block.kind = .native ∨ block.kind = .dataset ∧ block.isSound = true →
        recovered.store = memory.store) ∧
      ∃ again second, recovered.recover id = .ok (again, second) ∧
        again.store = recovered.store ∧ second.succeeded = report.succeeded := by
  have mended := block.repair_mended
  let recovered := (memory.set id block.repair.1).announce (repairEvent id block.repair.2)
  have recovers : memory.recover id = .ok (recovered, _) :=
    recover_eq_ok_iff.mpr ⟨block, found, rfl⟩
  have placed : recovered.store.get? id = some block.repair.1 :=
    memory.store.get?_set_same id block.repair.1
  have recoversAgain : recovered.recover id = .ok _ :=
    recover_eq_ok_iff.mpr ⟨block.repair.1, placed, rfl⟩
  have unchanged (same : block.repair.1 = block) :
      memory.store.set id block.repair.1 = memory.store := by
    rw [same, BlockStore.set_self found]
  obtain ⟨settled, repeated⟩ := mended.again
  refine ⟨recovered, _, _, recovers, placed, ?_, ?_, ?_, mended.backup?_eq, mended.records_eq, ?_, ?_,
    _, _, recoversAgain, ?_, repeated⟩
  · intro other different
    exact memory.store.get?_set_other different.symm block.repair.1
  · intro succeeded
    obtain ⟨valid, intact⟩ := Bool.and_eq_true_iff.mp (mended.sound succeeded)
    exact ⟨valid, (Sealed.isIntact_iff _).mp intact⟩
  · intro failed
    exact unchanged (mended.eq_of_failed failed)
  · intro archive versions unsound
    exact ⟨Block.repair_succeeds_iff versions unsound, mended.newestIntact versions unsound⟩
  · intro idle
    exact unchanged (mended.eq_of_idle idle)
  · change (memory.store.set id block.repair.1).set id block.repair.1.repair.1 = _
    rw [settled, BlockStore.set_set]
    rfl

/-- A torn block whose archive has gaps and whose newest version is damaged goes back to the version
before, and stays there. -/
theorem recovery_passes_over_damaged_version :
    let archive : Archive := {
      version := 9
      records := WordMap.ofList [(1, Sealed.ofBytes [1]), (4, Sealed.ofBytes [4, 5]),
        (8, (Sealed.ofBytes [8]).flipFirst)] }
    let block := ({ Block.native ⟨2⟩ [9] with protection := .dataset archive }).tear [1, 2, 3]
    let memory := Memory.ofStore (BlockStore.ofList [Block.native ⟨0⟩ [7], block])
    memory.store.get? ⟨2⟩ = some block ∧ block.isSound = false ∧
      ∃ recovered report, memory.recover ⟨2⟩ = .ok (recovered, report) ∧
        report.succeeded = true ∧ report.repair.version? = some 4 ∧
        recovered.store.bytes ⟨2⟩ = [4, 5] ∧
        ∃ again second, recovered.recover ⟨2⟩ = .ok (again, second) ∧
          again.store = recovered.store ∧ second.succeeded = true := by
  intro archive block memory
  have found : memory.store.get? ⟨2⟩ = some block := by decide +kernel
  have unsound : block.isSound = false := rfl
  obtain ⟨recovered, report, after, recovers, placed, _, _, _, _, _, rollsBack, _,
    again, second, recoversAgain, settled, repeated⟩ := recovery_sound_minimal_idempotent found
  obtain ⟨succeeds, restores⟩ := rollsBack archive rfl unsound
  have succeeded : report.succeeded = true :=
    succeeds.mpr ⟨1, Sealed.ofBytes [1], by decide +kernel, by decide +kernel⟩
  obtain ⟨version, record, newest, named, _, content⟩ := restores succeeded
  have fourth : archive.newestIntact? = some (4, Sealed.ofBytes [4, 5]) := by decide +kernel
  have same := (Archive.newestIntact?_eq_some_iff.mpr newest).symm.trans fourth
  cases same
  refine ⟨found, unsound, recovered, report, recovers, succeeded, named, ?_,
    again, second, recoversAgain, settled, repeated.trans succeeded⟩
  rw [BlockStore.bytes_of_get? placed, Block.bytes, content]
  rfl

end Memory

end NvMemory
