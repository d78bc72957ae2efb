import NvMemory.Proofs.TornWrite

/-!
Writes that are carried out as a whole, interrupted or not.

They are refused at their start or not at all, and the cycle may be in any state before them. One that is
not interrupted is a single commit, after which a redundant block has its backup renewed.
-/

namespace NvMemory

namespace Block

variable {block : Block} {archive : Archive} {backup : Sealed}

def written (block : Block) (bytes : List UInt8) : Block :=
  (block.commit bytes).refreshBackup

theorem written_redundant (redundant : block.protection = .redundant backup) (bytes : List UInt8) :
    (block.written bytes).protection = .redundant (Sealed.ofBytes bytes) := by
  have kept : (block.commit bytes).protection = .redundant backup :=
    commit_redundant_iff.mpr redundant
  simp only [written, refreshBackup, kept]
  rfl

theorem written_dataset (versions : block.protection = .dataset archive) (bytes : List UInt8) :
    block.written bytes = block.commit bytes :=
  refreshBackup_dataset (protection_commit_dataset versions bytes)

theorem written_kind (block : Block) (bytes : List UInt8) :
    (block.written bytes).kind = block.kind := by
  simp [written]

end Block

namespace Device

variable {device : Device} {id : BlockId} {block : Block}

theorem start_of_missing (missing : device.store.get? id = none) (bytes : List UInt8) :
    device.start id bytes = (device, .error (.unknownBlock id)) := by
  have refused : WriteCycle.lookup device.store id = .error (.unknownBlock id) := by
    rw [WriteCycle.lookup, missing]
  rw [start, WriteCycle.start, refused]
  rfl

theorem runFirstPhase_of_missing (missing : device.store.get? id = none) (bytes : List UInt8) :
    device.runFirstPhase id bytes = (device, .error (.unknownBlock id)) := by
  rw [runFirstPhase, start_of_missing missing]
  rfl

theorem runFirstPhase_of_found (found : device.store.get? id = some block) (bytes : List UInt8) :
    ∃ report, device.runFirstPhase id bytes = (device.after (firstPhase id bytes), .ok report) := by
  let begun := device.withCycle (device.cycle.started id bytes)
  let snapshot := Snapshot.ofBlock block begun.cycle.clock.tick.now
  let kept := begun.withCycle (begun.cycle.snapshotTaken id snapshot)
  have starts : device.start id bytes = (begun, .ok _) :=
    congrArg device.cycleStep (WriteCycle.start_eq_ok_iff.mpr ⟨block, found, rfl⟩)
  have takes : begun.takeSnapshot id = (kept, .ok _) :=
    congrArg begun.cycleStep
      (WriteCycle.takeSnapshot_eq_ok_iff.mpr ⟨⟨rfl, rfl⟩, block, found, rfl⟩)
  have persists : kept.persist id = (kept.withCycle (kept.cycle.persisted id), .ok _) :=
    congrArg kept.cycleStep (WriteCycle.persist_eq_ok_iff.mpr ⟨⟨rfl, rfl⟩, rfl⟩)
  refine ⟨{ phase := .copy }, ?_⟩
  simp only [runFirstPhase, starts, andThen, takes, persists, firstPhase, after_cons, after_nil,
    perform, answerCycle]

/-- Once the first phase is over, the power loss finds all that it needs. -/
theorem interruptWrite_of_found (found : device.store.get? id = some block) (bytes : List UInt8)
    (point : LossPoint) :
    ∃ final report, device.interruptWrite id bytes point = (final, .ok report) := by
  obtain ⟨report, ran⟩ := runFirstPhase_of_found found bytes
  obtain ⟨store, atStep, _, _⟩ := after_firstPhase found bytes
  rw [interruptWrite, ran]
  generalize device.after (firstPhase id bytes) = ready at store atStep ⊢
  have held : ready.store.get? id = some block := by rw [store, found]
  have target : (ready.cycle.lost point).target = some id := atStep.target
  obtain ⟨consequence, aftermath⟩ := WriteCycle.exists_aftermath target held point
  have drawn := WriteCycle.consequence_eq_ok_iff.mpr aftermath
  simp only [andThen, losePower, WriteCycle.losePower, drawn, Prod.mk.injEq, Except.ok.injEq]
  exact ⟨_, _, rfl, rfl⟩

/-- A write that is not interrupted commits the bytes, verifies them, and is done. -/
theorem completeWrite_eq (found : device.store.get? id = some block) (bytes : List UInt8) :
    device.completeWrite id bytes =
      ((device.withStore (device.store.set id (block.written bytes))).withCycle
        (((armed device.cycle id block bytes).copied id block bytes).completed id
          (block.commit bytes)),
        .ok { phase := .completed, valid := true, checksum := crc16 bytes }) := by
  let ready := device.withCycle (armed device.cycle id block bytes)
  have begun : device.after (firstPhase id bytes) = ready := after_firstPhase_eq found bytes
  obtain ⟨report, ran⟩ := runFirstPhase_of_found found bytes
  rw [begun] at ran
  let filled := (ready.withStore (ready.store.set id (block.commit bytes))).withCycle
    (ready.cycle.copied id block bytes)
  have copies : ready.copy id bytes false = (filled, .ok _) :=
    congrArg ready.storeStep
      (WriteCycle.copy_eq_ok_iff.mpr ⟨⟨rfl, rfl⟩, rfl, block, found, rfl⟩)
  have placed : filled.store.get? id = some (block.commit bytes) := BlockStore.get?_set_same _ _ _
  have passes : filled.cycle.verifyResult filled.store id (block.commit bytes) =
      (filled.cycle.completed id (block.commit bytes),
        filled.store.set id (block.written bytes),
        { phase := .completed, valid := true, checksum := crc16 bytes }) := by
    rw [WriteCycle.verifyResult, if_pos (Block.isIntact_commit block bytes)]
    rfl
  have verifies : filled.verify id = filled.storeStep (.ok _) :=
    congrArg filled.storeStep
      (WriteCycle.verify_eq_ok_iff.mpr ⟨⟨rfl, rfl⟩, _, placed, passes⟩)
  -- the block is put into the store by the copy and once more by the verification
  have twice : filled.store.set id (block.written bytes) =
      device.store.set id (block.written bytes) :=
    BlockStore.set_set device.store id _ _
  simp only [completeWrite, ran, andThen, copies, verifies, twice, storeStep]
  rfl

theorem completeWrite_commits (found : device.store.get? id = some block) (bytes : List UInt8) :
    ∃ final, device.completeWrite id bytes =
        (final, .ok { phase := .completed, valid := true, checksum := crc16 bytes }) ∧
      final.store.get? id = some (block.written bytes) :=
  ⟨_, completeWrite_eq found bytes, BlockStore.get?_set_same _ _ _⟩

theorem completeWrite_of_found (found : device.store.get? id = some block) (bytes : List UInt8) :
    ∃ final report, device.completeWrite id bytes = (final, .ok report) := by
  obtain ⟨final, completes, _⟩ := completeWrite_commits found bytes
  exact ⟨final, _, completes⟩

/-- Whatever an earlier cycle has left behind, and in whatever state the block is, a whole write is
accepted and verified. The cycle is completed, with a snapshot of the block from before and no trace of
dirty data or a power loss. The block has the new bytes, and so has its backup; of a dataset block the
content from before is archived under the number that it had, and nothing else in the archive changes. No
other block does. -/
theorem whole_write_commits_once (found : device.store.get? id = some block)
    (bytes : List UInt8) :
    ∃ final report placed, device.completeWrite id bytes = (final, .ok report) ∧
      report.valid = true ∧
      (final.cycle.phase = .completed ∧ final.cycle.target = some id ∧
        final.cycle.dirty = false ∧ final.cycle.lossPoint = none ∧
        final.cycle.snapshot.map Snapshot.block = some block) ∧
      final.store.get? id = some placed ∧
      (placed.bytes = bytes ∧ placed.checksum = crc16 bytes ∧ placed.valid = true ∧
        placed.id = block.id ∧ placed.kind = block.kind) ∧
      (∀ backup, block.protection = .redundant backup →
        placed.protection = .redundant ⟨bytes, crc16 bytes⟩) ∧
      (∀ archive, block.protection = .dataset archive →
        ∃ later, placed.protection = .dataset later ∧
          later.version.toNat = min (archive.version.toNat + 1) 0xFFFFFFFF ∧
          later.records.get? archive.version = some ⟨block.bytes, block.checksum⟩ ∧
          ∀ number, number ≠ archive.version →
            later.records.get? number = archive.records.get? number) ∧
      ∀ other, other ≠ id → final.store.get? other = device.store.get? other := by
  refine ⟨_, _, block.written bytes, completeWrite_eq found bytes, rfl, ⟨rfl, rfl, rfl, rfl, rfl⟩,
    BlockStore.get?_set_same _ _ _, ⟨rfl, rfl, rfl, rfl, block.written_kind bytes⟩, ?_, ?_, ?_⟩
  · intro backup redundant
    exact Block.written_redundant redundant bytes
  · intro archive versions
    refine ⟨archive.supersede block.content, ?_, Archive.toNat_nextVersion archive.version, ?_, ?_⟩
    · rw [Block.written_dataset versions, Block.protection_commit_dataset versions]
    · rw [Archive.get?_supersede, if_pos rfl]
      rfl
    · intro number different
      rw [Archive.get?_supersede, if_neg different.symm]
  · intro other different
    exact BlockStore.get?_set_other _ different.symm _

/-- The cycle has found dirty data and lost power over another block, and the dataset block that is then
written is damaged. It is at the last version, so that its number stays and the damaged bytes take the
place of what was archived under it. -/
theorem whole_write_after_torn_dirty_cycle :
    let stale := Block.dataset ⟨2⟩ [1, 2] 0xFFFFFFFF [(7, [4]), (0xFFFFFFFF, [9])]
    let used := (ofMemory (Memory.ofStore (BlockStore.ofList [Block.native ⟨0⟩ [5], stale]))).after [
      .start ⟨0⟩ [6, 7], .takeSnapshot ⟨0⟩, .persist ⟨0⟩, .copy ⟨0⟩ [6] true,
      .losePower .duringPhase2, .inject ⟨2⟩ .bitFlip]
    let damaged := { stale with content := stale.content.flipFirst, valid := false }
    (used.cycle.phase = .failed ∧ used.cycle.dirty = true ∧
      used.cycle.lossPoint = some .duringPhase2) ∧
    used.store.get? ⟨2⟩ = some damaged ∧
      ∃ final report placed later, used.completeWrite ⟨2⟩ [3] = (final, .ok report) ∧
        report.valid = true ∧ final.cycle.dirty = false ∧ final.cycle.lossPoint = none ∧
        final.cycle.snapshot.map Snapshot.block = some damaged ∧
        final.store.get? ⟨2⟩ = some placed ∧ placed.bytes = [3] ∧ placed.valid = true ∧
        placed.protection = .dataset later ∧ later.version.toNat = 0xFFFFFFFF ∧
        later.records.get? 0xFFFFFFFF = some ⟨[0xFE, 2], crc16 [1, 2]⟩ ∧
        later.records.get? 7 = some (Sealed.ofBytes [4]) ∧
        final.store.get? ⟨0⟩ = used.store.get? ⟨0⟩ := by
  intro stale used damaged
  have found : used.store.get? ⟨2⟩ = some damaged := by decide +kernel
  obtain ⟨final, report, placed, completes, valid, ⟨_, _, clean, unlost, kept⟩, there,
    ⟨bytes, _, good, _, _⟩, _, archives, others⟩ := whole_write_commits_once found [3]
  obtain ⟨later, protects, version, replaced, spared⟩ := archives _ rfl
  refine ⟨by decide +kernel, found, final, report, placed, later, completes, valid, clean, unlost,
    kept, there, bytes, good, protects, version, replaced, ?_, others ⟨0⟩ (by decide)⟩
  exact (spared 7 (by decide)).trans (by decide +kernel)

end Device

end NvMemory
