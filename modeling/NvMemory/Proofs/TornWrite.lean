import NvMemory.Proofs.Device
import NvMemory.Proofs.Protection

/-!
What is left of a dataset block whose write was torn, and what a repair makes of it.

A tear destroys the live content. What the block held before the write is in its archive only
once the copy has put it there, so a write that is torn before it has copied anything goes back
to the newest version that was archived earlier, if there is one.
-/

namespace NvMemory

namespace Device

variable {device : Device} {id : BlockId} {block : Block} {archive : Archive}

/-- The first phase of a write, which keeps the old content safe. -/
def firstPhase (id : BlockId) (bytes : List UInt8) : List Operation :=
  [.start id bytes, .takeSnapshot id, .persist id]

/-- A write of `bytes` that loses power in its second phase, after the content in `copied` has
been copied, if any has. -/
def tornWrite (id : BlockId) (bytes : List UInt8) (copied : Option (List UInt8)) :
    List Operation :=
  firstPhase id bytes ++ (copied.map fun content => .copy id content false).toList ++
    [.losePower .duringPhase2]

/-- The cycle at the end of the first phase, which has forgotten all that was before its start. -/
def armed (cycle : WriteCycle) (id : BlockId) (block : Block) (bytes : List UInt8) : WriteCycle :=
  let begun := cycle.started id bytes
  (begun.snapshotTaken id (Snapshot.ofBlock block begun.clock.tick.now)).persisted id

theorem after_firstPhase_eq (found : device.store.get? id = some block) (bytes : List UInt8) :
    device.after (firstPhase id bytes) =
      device.withCycle (armed device.cycle id block bytes) := by
  let begun := device.withCycle (device.cycle.started id bytes)
  let snapshot := Snapshot.ofBlock block begun.cycle.clock.tick.now
  let kept := begun.withCycle (begun.cycle.snapshotTaken id snapshot)
  have starts : device.perform (.start id bytes) = _ := (Step.started found).perform_eq
  have begunAt : begun.cycle.AtStep .snapshot id := ⟨rfl, rfl⟩
  have stored : begun.store.get? id = some block := found
  have takes := (Step.snapshotTaken begunAt stored rfl).perform_eq
  have keptAt : kept.cycle.AtStep .persist id := ⟨rfl, rfl⟩
  have persists := (Step.persisted keptAt).perform_eq
  simp only [firstPhase, after_cons, after_nil, starts, begun, kept, snapshot, takes, persists]
  rfl

theorem after_firstPhase (found : device.store.get? id = some block) (bytes : List UInt8) :
    let ready := device.after (firstPhase id bytes)
    ready.store = device.store ∧ ready.cycle.AtStep .copy id ∧ ready.cycle.dirty = false ∧
      ready.cycle.pending = bytes := by
  rw [after_firstPhase_eq found bytes]
  exact ⟨rfl, ⟨rfl, rfl⟩, rfl, rfl⟩

theorem tear_of_found (target : device.cycle.target = some id)
    (found : device.store.get? id = some block) :
    ∃ torn loss, device.perform (.losePower .duringPhase2) = (torn, .powerLost loss) ∧
      loss.assessment = .corrupted ∧
      torn.store.get? id = some (block.tear device.cycle.pending) :=
  ⟨_, _, (Step.powerLost (.torn target found)).perform_eq, rfl, BlockStore.get?_set_same _ _ _⟩

/-- The tear hits the committed block if the copy has run, and the old block if it has not. -/
theorem get?_after_tornWrite (found : device.store.get? id = some block) (bytes : List UInt8)
    (copied : Option (List UInt8)) :
    (device.after (tornWrite id bytes copied)).store.get? id =
      some ((copied.elim block block.commit).tear (copied.getD bytes)) := by
  obtain ⟨store, atStep, clean, pending⟩ := after_firstPhase found bytes
  have held := (congrArg (BlockStore.get? · id) store).trans found
  simp only [tornWrite, after_append, after_cons, after_nil]
  generalize device.after (firstPhase id bytes) = ready at *
  cases copied with
  | none =>
      obtain ⟨torn, loss, lost, _, left⟩ := tear_of_found atStep.target held
      simp only [Option.map_none, Option.toList_none, after_nil, lost]
      rw [left, pending]
      rfl
  | some content =>
      let filled := (ready.withStore (ready.store.set id (block.commit content))).withCycle
        (ready.cycle.copied id block content)
      have copies : ready.perform (.copy id content false) = (filled, _) :=
        (Step.copied atStep clean held).perform_eq
      have placed : filled.store.get? id = some (block.commit content) :=
        BlockStore.get?_set_same _ _ _
      have target : filled.cycle.target = some id := atStep.target
      simp only [Option.map_some, Option.toList_some, after_cons, after_nil, copies]
      obtain ⟨torn, loss, lost, _, left⟩ := tear_of_found target placed
      rw [lost, left]
      rfl

/-- A sound dataset block is written and the write is torn. If the copy has run, the repair that
follows gives back the content from before the write. If it has not, the repair knows only what
was archived earlier: it succeeds exactly if some of that is intact, and rolls back to the newest
version that is. -/
theorem torn_dataset_write_rolls_back (found : device.store.get? id = some block)
    (versions : block.protection = .dataset archive) (sound : block.isSound = true)
    (bounded : ∀ entry ∈ archive.records.entries, entry.1 ≤ archive.version)
    (bytes : List UInt8) (copied : Option (List UInt8)) :
    let torn := device.after (tornWrite id bytes copied)
    ∃ final report, torn.perform (.recover id) = (final, .recovered report) ∧
      (copied.isSome = true →
        report.repair = .rolledBack archive.version ∧ final.store.bytes id = block.bytes) ∧
      (copied = none →
        (report.succeeded = true ↔
          ∃ version record, archive.records.get? version = some record ∧
            record.isIntact = true) ∧
        ∀ version record, archive.NewestIntact version record →
          report.repair = .rolledBack version ∧ final.store.bytes id = record.bytes) := by
  intro torn
  obtain ⟨final, report, recovers, outcome, placed⟩ :=
    recover_of_found (get?_after_tornWrite found bytes copied)
  refine ⟨final, report, recovers, ?_, ?_⟩
  · intro copies
    obtain ⟨content, rfl⟩ := Option.isSome_iff_exists.mp copies
    have intact : block.isIntact = true := (Bool.and_eq_true_iff.mp sound).2
    have newest : (archive.supersede block.content).NewestIntact archive.version block.content :=
      Archive.newestIntact_supersede intact fun version record stored _ =>
        bounded _ (WordMap.mem_entries_iff.mpr stored)
    have written : ((block.commit content).tear content).protection =
        .dataset (archive.supersede block.content) :=
      Block.protection_commit_dataset versions content
    have rolled := Block.repair_rollback written (Block.isSound_tear _ _) newest
    rw [Option.elim_some, Option.getD_some, rolled] at outcome placed
    have shown := BlockStore.bytes_of_get? placed
    exact ⟨outcome, shown⟩
  · rintro rfl
    have unsound := block.isSound_tear bytes
    have kept : (block.tear bytes).protection = .dataset archive := versions
    rw [Option.elim_none, Option.getD_none] at outcome placed
    refine ⟨?_, fun version record newest => ?_⟩
    · rw [RepairReport.succeeded, outcome]
      exact Block.repair_succeeds_iff kept unsound
    · rw [Block.repair_rollback kept unsound newest] at outcome placed
      exact ⟨outcome, BlockStore.bytes_of_get? placed⟩

/-- The dataset block for demonstration once a third version of it has been written. -/
def thirdVersion : Block :=
  (Block.dataset ⟨2⟩ (BlockStore.pattern 0x12 0x34 0x56 0x78) 2
    [(1, BlockStore.pattern 0x11 0x22 0x33 0x44),
      (2, BlockStore.pattern 0x12 0x34 0x56 0x78)]).commit [0xEE, 0xEF]

def holdingThirdVersion : Device :=
  (ofMemory Memory.seeded).after [.writeVersion ⟨2⟩ [0xEE, 0xEF]]

theorem get?_holdingThirdVersion : holdingThirdVersion.store.get? ⟨2⟩ = some thirdVersion := by
  decide +kernel

/-- The third version is torn after a copy and comes back. -/
theorem torn_dataset_write_gives_back_third_version :
    let torn := holdingThirdVersion.after (tornWrite ⟨2⟩ [1, 2, 3] (some [4, 5]))
    thirdVersion.isSound = true ∧ torn.store.bytes ⟨2⟩ = [4, 0xFF] ∧
      ∃ final report, torn.perform (.recover ⟨2⟩) = (final, .recovered report) ∧
        report.repair = .rolledBack 3 ∧ final.store.bytes ⟨2⟩ = [0xEE, 0xEF] := by
  intro torn
  have sound : thirdVersion.isSound = true := by decide +kernel
  obtain ⟨final, report, recovers, afterCopy, _⟩ :=
    torn_dataset_write_rolls_back get?_holdingThirdVersion rfl sound (by decide +kernel)
      [1, 2, 3] (some [4, 5])
  exact ⟨sound, by decide +kernel, final, report, recovers, afterCopy rfl⟩

/-- Before the copy has run, the content of the third version is nowhere but in the block, and a
tear loses it: the repair goes back to the second version. A block without any archived version
is lost for good. -/
theorem torn_write_loses_unarchived_content :
    let torn := holdingThirdVersion.after (tornWrite ⟨2⟩ [1, 2, 3] none)
    let only := Block.dataset ⟨2⟩ [1, 2] 1 []
    let holdingOnly := ofMemory (Memory.ofStore (BlockStore.ofList [only]))
    let tornOnly := holdingOnly.after (tornWrite ⟨2⟩ [1, 2, 3] none)
    (holdingThirdVersion.store.get? ⟨2⟩ = some thirdVersion ∧ thirdVersion.isSound = true ∧
      thirdVersion.bytes = [0xEE, 0xEF] ∧
      (torn.perform (.recover ⟨2⟩)).2 =
        .recovered { block := ⟨2⟩, kind := .dataset, repair := .rolledBack 2 } ∧
      (torn.perform (.recover ⟨2⟩)).1.store.bytes ⟨2⟩ =
        BlockStore.pattern 0x12 0x34 0x56 0x78) ∧
    (holdingOnly.store.get? ⟨2⟩ = some only ∧ only.isSound = true ∧
      (tornOnly.perform (.recover ⟨2⟩)).2 =
        .recovered { block := ⟨2⟩, kind := .dataset, repair := .archiveCorrupted } ∧
      (tornOnly.perform (.recover ⟨2⟩)).1.store.bytes ⟨2⟩ = [1, 0xFF, 0xFF]) := by
  decide +kernel

end Device

end NvMemory
