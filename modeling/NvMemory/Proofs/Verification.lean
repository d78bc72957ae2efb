import NvMemory.Proofs.Provenance

/-!
What a completed verification shows, and what it does not.

Verification compares the live bytes with the checksum that is recorded beside them. It does
not compare them with what the cycle copied, and it does not look at the flag of the block.
-/

namespace NvMemory

namespace Block

variable {block : Block}

theorem refreshBackup_refreshBackup (block : Block) :
    block.refreshBackup.refreshBackup = block.refreshBackup := by
  obtain ⟨id, content, valid, protection⟩ := block
  cases protection <;> rfl

/-- A repair succeeds and leaves intact bytes alone exactly when the flag is set, or when what it
puts in their place happens to be the same. -/
theorem repair_keeps_iff (intact : block.isIntact = true) (fresh : block.refreshBackup = block) :
    (block.repair.2.succeeded = true ∧ block.repair.1.bytes = block.bytes) ↔
      block.valid = true ∨ block.kind = .redundant ∨
        ∃ archive version record, block.protection = .dataset archive ∧
          archive.newestIntact? = some (version, record) ∧ record.bytes = block.bytes := by
  have sound : block.isSound = block.valid := by rw [isSound, intact, Bool.and_true]
  cases protects : block.protection with
  | native =>
      simp only [repair, kind, protects, sound, Protection.kind]
      cases block.valid <;> simp [Repair.succeeded]
  | redundant backup =>
      have renewed : Sealed.ofBytes block.bytes = backup := by
        have protection := congrArg protection fresh
        simpa only [refreshBackup, protects, Protection.redundant.injEq] using protection
      have restored : block.repair = (block.restoreContent backup, .restoredFromBackup) := by
        simp only [repair, protects, ← renewed, Sealed.isIntact_ofBytes, if_true]
      have same : (block.restoreContent backup).bytes = block.bytes := by
        rw [← renewed]
        rfl
      have redundant : block.kind = .redundant := by rw [kind, protects, Protection.kind]
      rw [restored]
      exact iff_of_true ⟨rfl, same⟩ (.inr (.inl redundant))
  | dataset archive =>
      simp only [repair, kind, protects, sound, Protection.kind]
      cases block.valid with
      | true => simp [Repair.succeeded]
      | false =>
          cases newest : archive.newestIntact? with
          | none => simp [newest, Repair.succeeded]
          | some found =>
              obtain ⟨version, record⟩ := found
              simp [newest, Repair.succeeded, restoreContent, bytes]

end Block

namespace Device

variable {device next : Device} {id : BlockId} {report : VerifyReport}

/-- A verification completes on intact bytes only, and leaves them with a fresh backup. -/
theorem intact_of_completed
    (verified : device.perform (.verify id) = (next, .verified report))
    (completed : report.phase = .completed) :
    device.cycle.AtStep .verify id ∧ ∃ block, device.store.get? id = some block ∧
      block.isIntact = true ∧ next.store.get? id = some block.refreshBackup := by
  cases step_iff.mpr verified with
  | verified atStep found intact =>
      exact ⟨atStep, _, found, intact, BlockStore.get?_set_same _ _ _⟩
  | mismatched => contradiction

theorem completed_of_valid (verified : device.perform (.verify id) = (next, .verified report))
    (valid : report.valid = true) : report.phase = .completed := by
  cases step_iff.mpr verified with
  | verified => rfl
  | mismatched => contradiction

/-- Behind a completed verification there is a copy, and what became of it is known. -/
theorem explained_of_completed (fresh : device.cycle.phase ≠ .verify)
    {operations : List Operation}
    (verified : (device.after operations).perform (.verify id) = (next, .verified report))
    (completed : report.phase = .completed) :
    ∃ bytes before between block, device.LastCopy operations id bytes before between ∧
      next.store.get? id = some block ∧
      (device.provenanceSince id bytes before between).Explains block ∧
      block.isIntact = true ∧ block.refreshBackup = block := by
  obtain ⟨atStep, block, found, intact, left⟩ := intact_of_completed verified completed
  obtain ⟨target, bytes, before, between, copy, awaiting⟩ :=
    awaiting_of_verify fresh atStep.phase
  have same : target = id := Option.some.inj (awaiting.atStep.target.symm.trans atStep.target)
  subst same
  obtain ⟨held, stored, explains⟩ := awaiting.block
  rw [found] at stored
  cases stored
  exact ⟨bytes, before, between, block.refreshBackup, copy, left, explains.refreshBackup, intact,
    Block.refreshBackup_refreshBackup _⟩

/-- When a verification completes, the live bytes are those that were last written as a whole: by
the one copy that it was waiting for, or by a repair or a new version since. If the block was zeroed
after that, they only have the same checksum. -/
theorem completed_verify_shows_last_write {memory : Memory} {operations : List Operation}
    (verified : ((ofMemory memory).after operations).perform (.verify id) =
      (next, .verified report))
    (completed : report.phase = .completed) :
    ∃ bytes before between block,
      (ofMemory memory).LastCopy operations id bytes before between ∧
      (∀ {id' bytes' before' between'},
        (ofMemory memory).LastCopy operations id' bytes' before' between' →
          id' = id ∧ bytes' = bytes ∧ before' = before ∧ between' = between) ∧
      next.store.get? id = some block ∧
      let provenance := (ofMemory memory).provenanceSince id bytes before between
      block.content = provenance.content ∧
      crc16 block.bytes = crc16 provenance.written ∧
      (.completeCorruption ∉ provenance.faults → block.bytes = provenance.written) ∧
      ((∀ operation ∈ between, operation.overwrites id = false) →
        provenance.written = bytes) := by
  have fresh : (ofMemory memory).cycle.phase ≠ .verify := fun waits => by cases waits
  obtain ⟨bytes, before, between, block, copy, found, explains, intact, _⟩ :=
    explained_of_completed fresh verified completed
  refine ⟨bytes, before, between, block, copy, fun other => other.unique copy, found,
    explains.content, ?_, ?_, ?_⟩
  · have recorded : block.checksum = crc16 block.bytes := (Sealed.isIntact_iff _).mp intact
    rw [← recorded, Block.checksum, explains.content, Provenance.checksum_content]
  · intro unzeroed
    rw [Block.isIntact, explains.content] at intact
    rw [Block.bytes, explains.content]
    exact Provenance.bytes_of_isIntact unzeroed intact
  · intro kept
    exact Provenance.written_through kept _ _

/-- The bytes of a copy are flipped and flipped back, and then superseded by a new version, which
is flipped and flipped back in its turn. -/
theorem completed_verify_shows_new_version :
    let operations : List Operation := [
      .start ⟨2⟩ [1, 2, 3], .takeSnapshot ⟨2⟩, .persist ⟨2⟩, .copy ⟨2⟩ [1, 2, 3] false,
      .inject ⟨2⟩ .bitFlip, .inject ⟨2⟩ .bitFlip, .writeVersion ⟨2⟩ [4, 5],
      .inject ⟨2⟩ .bitFlip, .inject ⟨2⟩ .bitFlip]
    let ended := ((ofMemory Memory.seeded).after operations).perform (.verify ⟨2⟩)
    ended.2 = .verified { phase := .completed, valid := true, checksum := crc16 [4, 5] } ∧
      ∃ bytes before between block,
        (ofMemory Memory.seeded).LastCopy operations ⟨2⟩ bytes before between ∧
        ended.1.store.get? ⟨2⟩ = some block ∧
        crc16 block.bytes =
          crc16 ((ofMemory Memory.seeded).provenanceSince ⟨2⟩ bytes before between).written := by
  intro operations ended
  have verified : ended = (ended.1, .verified {
      phase := .completed, valid := true, checksum := crc16 [4, 5] }) := by decide +kernel
  obtain ⟨bytes, before, between, block, copy, _, found, _, same, _⟩ :=
    completed_verify_shows_last_write verified rfl
  exact ⟨congrArg Prod.snd verified, bytes, before, between, block, copy, found, same⟩

/-- Demonstration block `id` gets a copy of `bytes`, but after `between` its verification
completes with `shown` in their place. -/
def HidesCopy (id : BlockId) (bytes : List UInt8) (between : List Operation)
    (shown : List UInt8) : Prop :=
  let before : List Operation := [.start id bytes, .takeSnapshot id, .persist id]
  let operations := before ++ .copy id bytes false :: between
  let ended := ((ofMemory Memory.seeded).after operations).perform (.verify id)
  (ofMemory Memory.seeded).LastCopy operations id bytes before between ∧
    ended.2 = .verified { phase := .completed, valid := true, checksum := crc16 shown } ∧
    ended.1.store.bytes id = shown ∧ shown ≠ bytes

/-- A backup, a new version, an older version and zeros with the same checksum all pass for the
bytes of the copy. -/
theorem completed_verify_may_hide_copy :
    HidesCopy ⟨1⟩ [1, 2, 3] [.recover ⟨1⟩] (BlockStore.pattern 0xAA 0xBB 0xCC 0xDD) ∧
      HidesCopy ⟨2⟩ [1, 2, 3] [.writeVersion ⟨2⟩ [4, 5]] [4, 5] ∧
      HidesCopy ⟨2⟩ [1, 2, 3] [.inject ⟨2⟩ .bitFlip, .recover ⟨2⟩]
        (BlockStore.pattern 0x12 0x34 0x56 0x78) ∧
      HidesCopy ⟨0⟩ [0x01, 0x10, 0x21] [.inject ⟨0⟩ .completeCorruption] [0, 0, 0] := by
  refine ⟨?_, ?_, ?_, ?_⟩ <;>
    exact ⟨⟨rfl, by decide +kernel, by decide +kernel⟩, by decide +kernel, by decide +kernel,
      by decide +kernel⟩

/-- A verification that finds the block good has found its checksum right, and no more: the flag
of the block is set only if no fault has hit the content since it was last written as a whole. If
none has, a repair that follows succeeds and leaves the bytes alone. If one has, that is so only
for a block with a backup, or if the archive has the same bytes. -/
theorem verified_block_valid_iff_unharmed {memory : Memory} {operations : List Operation}
    (verified : ((ofMemory memory).after operations).perform (.verify id) =
      (next, .verified report))
    (valid : report.valid = true) :
    ∃ bytes before between block repaired outcome,
      (ofMemory memory).LastCopy operations id bytes before between ∧
      next.store.get? id = some block ∧
      next.perform (.recover id) = (repaired, .recovered outcome) ∧
      let unharmed := ((ofMemory memory).provenanceSince id bytes before between).faults = []
      block.checksum = crc16 block.bytes ∧
      (block.valid = true ↔ unharmed) ∧
      ((outcome.succeeded = true ∧ repaired.store.bytes id = block.bytes) ↔
        unharmed ∨ block.kind = .redundant ∨
          ∃ archive version record, block.protection = .dataset archive ∧
            archive.newestIntact? = some (version, record) ∧ record.bytes = block.bytes) := by
  have fresh : (ofMemory memory).cycle.phase ≠ .verify := fun waits => by cases waits
  obtain ⟨bytes, before, between, block, copy, found, explains, intact, backup⟩ :=
    explained_of_completed fresh verified (completed_of_valid verified valid)
  obtain ⟨repaired, outcome, recovers, same, placed⟩ := recover_of_found found
  refine ⟨bytes, before, between, block, repaired, outcome, copy, found, recovers, ?_,
    explains.valid, ?_⟩
  · exact (Sealed.isIntact_iff _).mp intact
  · rw [← explains.valid, ← Block.repair_keeps_iff intact backup, RepairReport.succeeded, same,
      BlockStore.bytes_of_get? placed]

/-- The first byte of a native block is flipped and flipped back before the verification. It
completes, but the block stays flagged bad, and the repair that follows gives it up. -/
theorem verified_block_flagged_bad_after_flips :
    let operations : List Operation := [
      .start ⟨0⟩ [1, 2, 3], .takeSnapshot ⟨0⟩, .persist ⟨0⟩, .copy ⟨0⟩ [1, 2, 3] false,
      .inject ⟨0⟩ .bitFlip, .inject ⟨0⟩ .bitFlip]
    let ended := ((ofMemory Memory.seeded).after operations).perform (.verify ⟨0⟩)
    let left : Block := { Block.native ⟨0⟩ [1, 2, 3] with valid := false }
    ended.2 = .verified { phase := .completed, valid := true, checksum := crc16 [1, 2, 3] } ∧
      ended.1.store.get? ⟨0⟩ = some left ∧
      (ended.1.perform (.recover ⟨0⟩)).2 =
        .recovered { block := ⟨0⟩, kind := .native, repair := .beyondRepair } ∧
      ∃ bytes before between,
        (ofMemory Memory.seeded).LastCopy operations ⟨0⟩ bytes before between ∧
        ((ofMemory Memory.seeded).provenanceSince ⟨0⟩ bytes before between).faults ≠ [] := by
  intro operations ended left
  have verified : ended = (ended.1, .verified {
      phase := .completed, valid := true, checksum := crc16 [1, 2, 3] }) := by decide +kernel
  have flagged : ended.1.store.get? ⟨0⟩ = some left := by decide +kernel
  obtain ⟨bytes, before, between, block, _, _, copy, found, _, _, unharmed, _⟩ :=
    verified_block_valid_iff_unharmed verified rfl
  rw [flagged] at found
  cases found
  refine ⟨congrArg Prod.snd verified, flagged, by decide +kernel, bytes, before, between, copy, ?_⟩
  exact fun none => Bool.false_ne_true (unharmed.mpr none)

end Device

end NvMemory
