import NvMemory.Proofs.Lasting
import NvMemory.Proofs.Protection

/-!
Which archived versions of a dataset block a write keeps.

A write archives what the block holds under the number of its live version, and whatever the
archive had under that number is gone. Archived content can be lost that way whenever it differs
from the live content, as it may after a fault. In a block that is filed properly it differs only
while the block is not sound, or once the numbers have run out (`Block.Filed`).
-/

namespace NvMemory

namespace WordMap

variable {β : Type} {map : WordMap β} {key : UInt32} {value : β}

theorem get?_of_get?_dropFirst (held : map.dropFirst.get? key = some value) :
    map.get? key = some value := by
  have member := mem_entries_iff.mpr held
  exact mem_entries_iff.mp (List.mem_of_mem_drop member)

end WordMap

namespace Archive

variable {archive : Archive} {version : UInt32} {record content : Sealed}

theorem le_nextVersion (version : UInt32) : version ≤ nextVersion version := by
  have bounded := version.toNat_lt
  rw [UInt32.le_iff_toNat_le, toNat_nextVersion]
  omega

theorem lt_nextVersion {version : UInt32} (room : nextVersion version ≠ lastVersion) :
    version < nextVersion version := by
  have bounded := version.toNat_lt
  have last : (nextVersion version).toNat ≠ 0xFFFFFFFF := fun same =>
    room (UInt32.toNat_inj.mp same)
  rw [toNat_nextVersion] at last
  rw [UInt32.lt_iff_toNat_lt, toNat_nextVersion]
  omega

/-- A write replaces the archived content under the number of the live version and no other. -/
theorem supersede_keeps_iff (archived : archive.records.get? version = some record) :
    (archive.supersede content).records.get? version = some record ↔
      version ≠ archive.version ∨ record = content := by
  rw [get?_supersede]
  by_cases same : archive.version = version
  · simp [same, eq_comm]
  · simp [same, archived, Ne.symm same]

theorem get?_of_get?_dropOldest (held : archive.dropOldest.1.records.get? version = some record) :
    archive.records.get? version = some record := by
  unfold dropOldest at held
  split at held
  · exact held
  · exact WordMap.get?_of_get?_dropFirst held

theorem version_dropOldest (archive : Archive) : archive.dropOldest.1.version = archive.version := by
  unfold dropOldest
  split <;> rfl

/-- The archive has no intact content under a number beyond the live version. -/
def Bounded (archive : Archive) : Prop :=
  ∀ version record, archive.records.get? version = some record → record.isIntact = true →
    version ≤ archive.version

/-- Intact content under the number of the live version is what `content` is. -/
def Duplicates (archive : Archive) (content : Sealed) : Prop :=
  ∀ record, archive.records.get? archive.version = some record → record.isIntact = true →
    record = content

theorem bounded_of_entries (bounded : ∀ entry ∈ archive.records.entries, entry.1 ≤ archive.version) :
    archive.Bounded :=
  fun _ _ held _ => bounded _ (WordMap.mem_entries_iff.mpr held)

theorem Bounded.supersede (bounded : archive.Bounded) (content : Sealed) :
    (archive.supersede content).Bounded := by
  intro version record held intact
  rw [get?_supersede] at held
  split at held
  · rename_i same
    exact same ▸ le_nextVersion _
  · exact UInt32.le_trans (bounded version record held intact) (le_nextVersion _)

theorem duplicates_supersede (bounded : archive.Bounded)
    (room : (archive.supersede content).version ≠ lastVersion) (written : Sealed) :
    (archive.supersede content).Duplicates written := by
  -- the number is a new one, so that nothing intact is archived under it
  intro record held intact
  have fresh : archive.version < (archive.supersede content).version := lt_nextVersion room
  rw [get?_supersede, if_neg (UInt32.ne_of_lt fresh)] at held
  have known := bounded _ record held intact
  exact absurd fresh (UInt32.not_lt.mpr known)

theorem NewestIntact.bounded (newest : archive.NewestIntact version record) :
    ({ archive with version := version } : Archive).Bounded :=
  newest.greatest

theorem NewestIntact.duplicates (newest : archive.NewestIntact version record) :
    ({ archive with version := version } : Archive).Duplicates record := by
  intro other held _
  exact Option.some.inj (held.symm.trans newest.archived)

theorem Bounded.dropOldest (bounded : archive.Bounded) : archive.dropOldest.1.Bounded := by
  intro version record held intact
  rw [version_dropOldest]
  exact bounded version record (get?_of_get?_dropOldest held) intact

theorem Duplicates.dropOldest (duplicates : archive.Duplicates content) :
    archive.dropOldest.1.Duplicates content := by
  intro record held intact
  rw [version_dropOldest] at held
  exact duplicates record (get?_of_get?_dropOldest held) intact

end Archive

namespace Block

variable {block damaged : Block} {fault : Fault} {damage : Damage} {archive : Archive}

/-- The archive of a dataset block is bounded. Other blocks have none. -/
def Bounded (block : Block) : Prop :=
  ∀ archive, block.protection = .dataset archive → archive.Bounded

theorem bounded_of_protection (bounded : block.Bounded)
    (same : damaged.protection = block.protection) : damaged.Bounded :=
  fun archive versions => bounded archive (same ▸ versions)

theorem bounded_of_no_archive (bare : ∀ archive, block.protection ≠ .dataset archive) :
    block.Bounded :=
  fun archive versions => absurd versions (bare archive)

theorem Bounded.commit (bounded : block.Bounded) (bytes : List UInt8) :
    (block.commit bytes).Bounded := by
  cases protects : block.protection with
  | native | redundant => exact bounded_of_no_archive (by simp [Block.commit, protects])
  | dataset archive =>
      intro later versions
      cases (protection_commit_dataset protects bytes).symm.trans versions
      exact (bounded archive protects).supersede _

theorem Bounded.refreshBackup (bounded : block.Bounded) : block.refreshBackup.Bounded := by
  cases protects : block.protection with
  | native | redundant => exact bounded_of_no_archive (by simp [Block.refreshBackup, protects])
  | dataset => rwa [refreshBackup_dataset protects]

/-- A rollback goes to the greatest number that has intact content. What is left beyond it is not
intact. -/
theorem Bounded.repair (bounded : block.Bounded) : block.repair.1.Bounded := by
  cases protects : block.protection with
  | native => exact bounded_of_protection bounded (by simp only [Block.repair, protects])
  | redundant backup =>
      refine bounded_of_no_archive fun archive versions => ?_
      rw [repair_redundant_iff.mpr protects] at versions
      contradiction
  | dataset archive =>
      rcases repair_dataset_cases protects with ⟨same, _⟩ | ⟨version, record, newest, rolled⟩
      · rw [same]
        exact bounded
      · rw [rolled]
        intro later versions
        cases versions
        exact newest.bounded

theorem Bounded.suffer (bounded : block.Bounded)
    (suffers : block.suffer? fault = some (damaged, damage)) (spared : fault ≠ .versionCorruption) :
    damaged.Bounded := by
  unfold suffer? at suffers
  split at suffers <;> cases suffers
  · exact bounded
  · exact bounded
  · exact bounded_of_no_archive fun archive versions => by contradiction
  · rename_i archive protects
    intro later versions
    cases versions
    exact (bounded archive protects).dropOldest
  · contradiction

theorem lasting_bounded : Lasting Bounded (· ≠ .versionCorruption) where
  commit := Bounded.commit
  refreshBackup := Bounded.refreshBackup
  invalidate bounded := bounded
  tear bounded _ := bounded
  repair := Bounded.repair
  suffer := Bounded.suffer
  restored bounded _ := bounded

/-- No intact content is archived under a number beyond the live version, and under its number
only what a sound block holds as well, as long as the numbers have not run out. -/
structure Filed (block : Block) : Prop where
  bounded : ∀ archive, block.protection = .dataset archive → archive.Bounded
  duplicates : ∀ archive, block.protection = .dataset archive → block.isSound = true →
    archive.version ≠ Archive.lastVersion → archive.Duplicates block.content

theorem filed_of_unsound (unsound : block.isSound = false)
    (bounded : ∀ archive, block.protection = .dataset archive → archive.Bounded) : block.Filed := by
  refine ⟨bounded, fun archive _ sound => ?_⟩
  rw [unsound] at sound
  contradiction

theorem filed_of_no_archive (bare : ∀ archive, block.protection ≠ .dataset archive) :
    block.Filed :=
  ⟨fun archive versions => absurd versions (bare archive),
    fun archive versions => absurd versions (bare archive)⟩

theorem Filed.commit (filed : block.Filed) (bytes : List UInt8) : (block.commit bytes).Filed := by
  refine ⟨Bounded.commit filed.bounded bytes, fun later versions _ room => ?_⟩
  cases protects : block.protection with
  | native | redundant => simp [Block.commit, protects] at versions
  | dataset archive =>
      cases (protection_commit_dataset protects bytes).symm.trans versions
      exact Archive.duplicates_supersede (filed.bounded archive protects) room _

theorem Filed.refreshBackup (filed : block.Filed) : block.refreshBackup.Filed := by
  cases protects : block.protection with
  | native | redundant => exact filed_of_no_archive (by simp [Block.refreshBackup, protects])
  | dataset => rwa [refreshBackup_dataset protects]

theorem Filed.repair (filed : block.Filed) : block.repair.1.Filed := by
  cases protects : block.protection with
  | native =>
      have unchanged : block.repair.1 = block := by simp only [Block.repair, protects]
      rw [unchanged]
      exact filed
  | redundant backup =>
      refine filed_of_no_archive fun archive versions => ?_
      rw [repair_redundant_iff.mpr protects] at versions
      contradiction
  | dataset archive =>
      refine ⟨Bounded.repair filed.bounded, ?_⟩
      rcases repair_dataset_cases protects with ⟨same, _⟩ | ⟨version, record, newest, rolled⟩
      · rw [same]
        exact filed.duplicates
      · rw [rolled]
        intro later versions _ _
        cases versions
        exact newest.duplicates

theorem Filed.suffer (filed : block.Filed) (suffers : block.suffer? fault = some (damaged, damage))
    (spared : fault ≠ .versionCorruption) : damaged.Filed := by
  refine ⟨Bounded.suffer filed.bounded suffers spared, ?_⟩
  unfold suffer? at suffers
  split at suffers <;> cases suffers
  · exact fun _ _ sound => by contradiction
  · exact fun _ _ sound => by contradiction
  · exact fun _ versions => by contradiction
  · rename_i archive protects
    intro later versions sound room
    cases versions
    have room : archive.version ≠ Archive.lastVersion := archive.version_dropOldest ▸ room
    exact (filed.duplicates archive protects sound room).dropOldest
  · contradiction

theorem Filed.restored (filed : block.Filed) (time : Nat) :
    (Snapshot.ofBlock block time).restored.Filed := by
  refine ⟨filed.bounded, fun archive versions sound room => ?_⟩
  have flagged : block.isSound = true := (Bool.and_eq_true_iff.mp sound).1
  exact filed.duplicates archive versions flagged room

theorem lasting_filed : Lasting Filed (· ≠ .versionCorruption) where
  commit := Filed.commit
  refreshBackup := Filed.refreshBackup
  invalidate filed := filed_of_unsound rfl filed.bounded
  tear filed _ := filed_of_unsound rfl filed.bounded
  repair := Filed.repair
  suffer := Filed.suffer
  restored := Filed.restored

end Block

namespace Device

variable {device next : Device} {operation : Operation} {answer : Answer} {id : BlockId}

/-- The block that an operation with this answer has given new content. -/
def Operation.written? : Operation → Answer → Option BlockId
  | .copy id _ false, .copied _ => some id
  | .writeVersion id _, .versionWritten _ => some id
  | _, _ => none

theorem Step.commit_of_written (step : Step device operation next answer)
    (written : operation.written? answer = some id) :
    ∃ block bytes, device.store.get? id = some block ∧
      next.store.get? id = some (block.commit bytes) := by
  cases step with
  | copied atStep clean found =>
      cases written
      exact ⟨_, _, found, BlockStore.get?_set_same _ _ _⟩
  | versionWritten found =>
      cases written
      exact ⟨_, _, found, BlockStore.get?_set_same _ _ _⟩
  | cycleRefused | memoryRefused | lossRefused =>
      unfold Operation.written? at written
      split at written <;> contradiction
  | _ => contradiction

/-- A write on either way keeps an archived version exactly if it has another number than the live
version or the same content as the block. In a run that began with a block filed properly, and in
which no fault has hit an archived version, a sound block therefore loses no intact version as long
as its numbers have not run out. A block that is not sound may lose one. -/
theorem write_keeps_version_iff {memory : Memory} {operations : List Operation} {block : Block}
    {archive : Archive}
    (found : ((ofMemory memory).after operations).store.get? id = some block)
    (versions : block.protection = .dataset archive)
    (written : operation.written? (((ofMemory memory).after operations).perform operation).2 =
      some id) :
    let next := (((ofMemory memory).after operations).perform operation).1
    ∃ placed later, next.store.get? id = some placed ∧ placed.protection = .dataset later ∧
      (∀ version record, archive.records.get? version = some record →
        (later.records.get? version = some record ↔
          version ≠ archive.version ∨ record = block.content)) ∧
      (memory.store.Meets id Block.Filed → .inject id .versionCorruption ∉ operations →
        block.isSound = true → archive.version ≠ Archive.lastVersion →
        ∀ version record, archive.records.get? version = some record → record.isIntact = true →
          later.records.get? version = some record) := by
  intro next
  have step := ((ofMemory memory).after operations).perform_step operation
  obtain ⟨old, bytes, stored, placed⟩ := step.commit_of_written written
  cases found.symm.trans stored
  refine ⟨_, _, placed, Block.protection_commit_dataset versions bytes, ?_, ?_⟩
  · intro version record archived
    exact Archive.supersede_keeps_iff archived
  · intro begun spared sound room version record archived intact
    have upholds : ((ofMemory memory).after operations).Upholds id Block.Filed := by
      refine upholds_after Block.lasting_filed (fun fault member hit => spared ?_)
        (upholds_ofMemory begun)
      rwa [hit] at member
    have filed := upholds.block block found
    refine (Archive.supersede_keeps_iff archived).mpr ?_
    by_cases live : version = archive.version
    · subst live
      exact .inr (filed.duplicates archive versions sound room record archived intact)
    · exact .inl live

/-- The dataset block for demonstration, which has its live content archived as well. -/
def doublyKept : Block :=
  Block.dataset ⟨2⟩ (BlockStore.pattern 0x12 0x34 0x56 0x78) 2
    [(1, BlockStore.pattern 0x11 0x22 0x33 0x44), (2, BlockStore.pattern 0x12 0x34 0x56 0x78)]

theorem filed_doublyKept : doublyKept.Filed := by
  refine ⟨fun archive versions => ?_, fun archive versions _ _ record held _ => ?_⟩
  · cases versions
    exact Archive.bounded_of_entries (by decide +kernel)
  · cases versions
    exact (Option.some.inj held).symm

/-- A byte of the live content is damaged, and the write puts the damage in the place of the intact
second version. A rollback before the write saves it. -/
theorem write_loses_version_of_damaged_block :
    let second := Sealed.ofBytes (BlockStore.pattern 0x12 0x34 0x56 0x78)
    let archive : Archive := {
      version := 2
      records := WordMap.ofList [
        (1, Sealed.ofBytes (BlockStore.pattern 0x11 0x22 0x33 0x44)), (2, second)] }
    let flipped : Block := { doublyKept with content := second.flipFirst, valid := false }
    let damaged := (ofMemory Memory.seeded).after [.inject ⟨2⟩ .bitFlip]
    let rolledBack := (ofMemory Memory.seeded).after [
      .writeVersion ⟨2⟩ [1], .inject ⟨2⟩ .bitFlip, .recover ⟨2⟩, .start ⟨2⟩ [5],
      .takeSnapshot ⟨2⟩, .persist ⟨2⟩]
    (second.isIntact = true ∧ archive.records.get? 2 = some second ∧
      flipped.protection = .dataset archive ∧ damaged.store.get? ⟨2⟩ = some flipped ∧
      ∃ placed later, (damaged.perform (.writeVersion ⟨2⟩ [1, 2, 3])).1.store.get? ⟨2⟩ =
          some placed ∧ placed.protection = .dataset later ∧
        later.records.get? 2 ≠ some second) ∧
      (∃ placed later, (rolledBack.perform (.copy ⟨2⟩ [5] false)).1.store.get? ⟨2⟩ =
          some placed ∧ placed.protection = .dataset later ∧
        later.records.get? 2 = some second) := by
  intro second archive flipped damaged rolledBack
  have archived : archive.records.get? 2 = some second := by decide +kernel
  have intact : second.isIntact = true := Sealed.isIntact_ofBytes _
  constructor
  · have hit : damaged.store.get? ⟨2⟩ = some flipped := by decide +kernel
    have versions : flipped.protection = .dataset archive := by decide +kernel
    have written : Operation.written? (.writeVersion ⟨2⟩ [1, 2, 3])
        (damaged.perform (.writeVersion ⟨2⟩ [1, 2, 3])).2 = some ⟨2⟩ := by decide +kernel
    have differs : second ≠ second.flipFirst := by decide +kernel
    obtain ⟨placed, later, put, protects, keeps, _⟩ :=
      write_keeps_version_iff hit versions written
    refine ⟨intact, archived, versions, hit, placed, later, put, protects, fun kept => ?_⟩
    rcases (keeps 2 second archived).mp kept with other | same
    · exact other rfl
    · exact differs same
  · have back : rolledBack.store.get? ⟨2⟩ = some doublyKept := by decide +kernel
    have versions : doublyKept.protection = .dataset archive := by decide +kernel
    have written : Operation.written? (.copy ⟨2⟩ [5] false)
        (rolledBack.perform (.copy ⟨2⟩ [5] false)).2 = some ⟨2⟩ := by decide +kernel
    have filed : Memory.seeded.store.Meets ⟨2⟩ Block.Filed := by
      intro first found
      have seeded : Memory.seeded.store.get? ⟨2⟩ = some doublyKept := by decide +kernel
      cases seeded.symm.trans found
      exact filed_doublyKept
    have sound : doublyKept.isSound = true := by decide +kernel
    obtain ⟨placed, later, put, protects, _, keeps⟩ :=
      write_keeps_version_iff back versions written
    exact ⟨placed, later, put, protects,
      keeps filed (by decide) sound (by decide) 2 second archived intact⟩

end Device

end NvMemory
