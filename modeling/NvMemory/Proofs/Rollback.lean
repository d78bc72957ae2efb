import NvMemory.Proofs.Versions

/-!
A rollback never takes a dataset block to a later version.

Not all that a rollback leaves in the archive has a lower number: content that was damaged when it was
archived stays behind beyond the version that the block goes back to. None of it is intact, however,
and that is what every operation preserves (`Block.lasting_bounded`).
-/

namespace NvMemory

theorem Block.rolledBack_of_repair {block : Block} {version : UInt32}
    (rolled : block.repair.2 = .rolledBack version) :
    ∃ archive, block.protection = .dataset archive ∧
      (∃ record, archive.NewestIntact version record) ∧
      block.repair.1.protection = .dataset { archive with version := version } := by
  cases protects : block.protection with
  | native =>
      simp only [Block.repair, protects] at rolled
      split at rolled <;> contradiction
  | redundant backup =>
      simp only [Block.repair, protects] at rolled
      split at rolled <;> contradiction
  | dataset archive =>
      rcases repair_dataset_cases protects with ⟨_, none⟩ | ⟨newest, record, intact, back⟩
      · exact absurd rolled (none version)
      · rw [back] at rolled
        cases rolled
        refine ⟨archive, rfl, ⟨record, intact⟩, ?_⟩
        rw [back]

namespace Device

/-- In no dataset block of the memory is anything intact archived beyond the live version. Whatever a
fresh cycle and the memory are then asked to do, faults included that do not hit an archived version,
that stays so, damaged leftovers apart. So each rollback makes a version the live one that is not
beyond the version before. -/
theorem rollback_goes_backwards {memory : Memory}
    (bounded : ∀ id, memory.store.Meets id Block.Bounded) {operations : List Operation}
    (spared : ∀ id, .inject id .versionCorruption ∉ operations) :
    let reached := (ofMemory memory).after operations
    (∀ id, reached.store.Meets id Block.Bounded) ∧
      ∀ id repaired report version, reached.perform (.recover id) = (repaired, .recovered report) →
        report.repair = .rolledBack version →
        ∃ block archive placed later, reached.store.get? id = some block ∧
          block.protection = .dataset archive ∧ repaired.store.get? id = some placed ∧
          placed.protection = .dataset later ∧ later.version = version ∧
          version ≤ archive.version := by
  intro reached
  have kept (id : BlockId) : reached.store.Meets id Block.Bounded := by
    refine (upholds_after Block.lasting_bounded (fun fault hit same => spared id ?_)
      (upholds_ofMemory (bounded id))).block
    exact same ▸ hit
  refine ⟨kept, fun id repaired report version recovers rolled => ?_⟩
  cases step_iff.mpr recovers with
  | @recovered _ block found =>
      obtain ⟨archive, versions, ⟨record, newest⟩, placed⟩ := Block.rolledBack_of_repair rolled
      have below := kept id block found archive versions version record newest.archived newest.intact
      exact ⟨block, archive, _, _, found, versions, BlockStore.get?_set_same _ _ _, placed, rfl, below⟩

/-- The second version is archived with a damaged byte, so that a rollback goes to the first one and
leaves it behind. A write that is rewound by a power loss comes after that, and another rollback. -/
theorem rollback_leaves_damaged_version_behind :
    let damaged := (Sealed.ofBytes (BlockStore.pattern 0x12 0x34 0x56 0x78)).flipFirst
    let archive : Archive := {
      version := 1
      records := WordMap.ofList [
        (1, Sealed.ofBytes (BlockStore.pattern 0x11 0x22 0x33 0x44)), (2, damaged)] }
    let operations := [
      .inject ⟨2⟩ .bitFlip, .writeVersion ⟨2⟩ [1], .inject ⟨2⟩ .bitFlip, .recover ⟨2⟩,
      .start ⟨2⟩ [7], .takeSnapshot ⟨2⟩, .persist ⟨2⟩, .copy ⟨2⟩ [7] false, .losePower .afterPhase1,
      .inject ⟨2⟩ .completeCorruption]
    let reached := (ofMemory Memory.seeded).after operations
    (∀ id, Memory.seeded.store.Meets id Block.Bounded) ∧ damaged.isIntact = false ∧
      (reached.store.get? ⟨2⟩).map Block.protection = some (.dataset archive) ∧
      (∀ id, reached.store.Meets id Block.Bounded) ∧
      ∃ repaired report placed later, reached.perform (.recover ⟨2⟩) = (repaired, .recovered report) ∧
        report.repair = .rolledBack 1 ∧ repaired.store.get? ⟨2⟩ = some placed ∧
        placed.protection = .dataset later ∧ later.version = 1 ∧ 1 ≤ archive.version := by
  intro damaged archive operations reached
  have bounded (id : BlockId) : Memory.seeded.store.Meets id Block.Bounded := by
    refine BlockStore.meets_ofList (fun block member => ?_) id
    simp only [List.mem_cons, List.not_mem_nil, or_false] at member
    rcases member with rfl | rfl | rfl
    · exact Block.bounded_of_no_archive fun _ versions => by contradiction
    · exact Block.bounded_of_no_archive fun _ versions => by contradiction
    · exact filed_doublyKept.bounded
  have spared (id : BlockId) : .inject id .versionCorruption ∉ operations := by
    simp [operations]
  have leftover : (reached.store.get? ⟨2⟩).map Block.protection = some (.dataset archive) := by
    decide +kernel
  have answered : (reached.perform (.recover ⟨2⟩)).2 =
      .recovered { block := ⟨2⟩, kind := .dataset, repair := .rolledBack 1 } := by
    decide +kernel
  have recovers : reached.perform (.recover ⟨2⟩) = ((reached.perform (.recover ⟨2⟩)).1,
      .recovered { block := ⟨2⟩, kind := .dataset, repair := .rolledBack 1 }) := by
    rw [← answered]
  obtain ⟨kept, backwards⟩ := rollback_goes_backwards bounded spared
  obtain ⟨block, before, placed, later, found, versions, put, protects, back, below⟩ :=
    backwards ⟨2⟩ _ _ 1 recovers rfl
  have same : before = archive := by
    rw [found, Option.map_some, versions] at leftover
    exact Protection.dataset.inj (Option.some.inj leftover)
  exact ⟨bounded, by decide +kernel, leftover, kept,
    _, _, placed, later, recovers, rfl, put, protects, back, same ▸ below⟩

end Device

end NvMemory
