import NvMemory.Proofs.Archive
import NvMemory.Proofs.Block

/-!
What each change of a block does to what the block keeps besides its content: its backup, or its
archived versions.
-/

namespace NvMemory.Block

variable {block damaged : Block} {fault : Fault} {damage : Damage} {bytes : List UInt8}
  {backup record : Sealed} {archive : Archive} {version : UInt32}

theorem suffer?_id (suffers : block.suffer? fault = some (damaged, damage)) :
    damaged.id = block.id := by
  unfold suffer? at suffers
  split at suffers <;> cases suffers <;> rfl

theorem repair_id (block : Block) : block.repair.1.id = block.id := by
  unfold repair
  split
  · rfl
  · split <;> rfl
  · split
    · rfl
    · split <;> rfl

@[simp] theorem isSound_tear (block : Block) (pending : List UInt8) :
    (block.tear pending).isSound = false := rfl

/-! A backup is neither made nor changed by a commit, by a repair, or by a fault that is not one
of the backup itself. -/

theorem commit_redundant_iff :
    (block.commit bytes).protection = .redundant backup ↔
      block.protection = .redundant backup := by
  cases protects : block.protection <;> simp [commit, protects]

theorem repair_redundant_iff :
    block.repair.1.protection = .redundant backup ↔ block.protection = .redundant backup := by
  cases protects : block.protection with
  | native => simp [repair, protects]
  | redundant kept => simp only [repair, protects]; split <;> simp [protects, restoreContent]
  | dataset archive =>
      simp only [repair, protects]
      split
      · simp [protects]
      · split <;> simp [protects]

theorem suffer?_redundant_iff (suffers : block.suffer? fault = some (damaged, damage))
    (spared : fault ≠ .backupCorruption) :
    damaged.protection = .redundant backup ↔ block.protection = .redundant backup := by
  unfold suffer? at suffers
  split at suffers <;> cases suffers
  · rfl
  · rfl
  · contradiction
  · simp_all
  · simp_all

theorem repair_redundant (redundant : block.protection = .redundant backup)
    (intact : backup.isIntact = true) :
    block.repair = (block.restoreContent backup, .restoredFromBackup) := by
  simp only [repair, redundant, intact, if_true]

/-! A commit archives the live content of a dataset block, and a repair that is needed goes back to
the newest intact version. -/

theorem protection_commit_dataset (versions : block.protection = .dataset archive)
    (bytes : List UInt8) :
    (block.commit bytes).protection = .dataset (archive.supersede block.content) := by
  simp only [commit, versions]

/-- A dataset block has no backup that could be renewed. -/
theorem refreshBackup_dataset (versions : block.protection = .dataset archive) :
    block.refreshBackup = block := by
  obtain ⟨id, content, valid, protection⟩ := block
  cases versions
  rfl

theorem repair_rollback (versions : block.protection = .dataset archive)
    (unsound : block.isSound = false) (newest : archive.NewestIntact version record) :
    block.repair = ({ block.restoreContent record with
      protection := .dataset { archive with version := version } }, .rolledBack version) := by
  have found := Archive.newestIntact?_eq_some_iff.mpr newest
  simp only [repair, versions, unsound, found, Bool.false_eq_true, if_false]

theorem repair_without_version (versions : block.protection = .dataset archive)
    (unsound : block.isSound = false) (missing : archive.newestIntact? = none) :
    block.repair = (block, .archiveCorrupted) := by
  simp only [repair, versions, unsound, missing, Bool.false_eq_true, if_false]

/-- The repair of a dataset block leaves it alone, or rolls it back to its newest intact version. -/
theorem repair_dataset_cases (versions : block.protection = .dataset archive) :
    (block.repair.1 = block ∧ ∀ version, block.repair.2 ≠ .rolledBack version) ∨
      ∃ version record, archive.NewestIntact version record ∧
        block.repair = ({ block.restoreContent record with
          protection := .dataset { archive with version := version } }, .rolledBack version) := by
  cases sound : block.isSound with
  | true =>
      left
      simp [repair, versions, sound]
  | false =>
      cases found : archive.newestIntact? with
      | none =>
          left
          simp [repair_without_version versions sound found]
      | some entry =>
          have newest := Archive.newestIntact?_eq_some_iff.mp found
          exact .inr ⟨_, _, newest, repair_rollback versions sound newest⟩

/-- An unsound dataset block is repaired exactly if its archive has an intact version. -/
theorem repair_succeeds_iff (versions : block.protection = .dataset archive)
    (unsound : block.isSound = false) :
    block.repair.2.succeeded = true ↔
      ∃ version record, archive.records.get? version = some record ∧ record.isIntact = true := by
  cases newest : archive.newestIntact? with
  | none =>
      have damaged := Archive.newestIntact?_eq_none_iff.mp newest
      rw [repair_without_version versions unsound newest]
      refine iff_of_false Bool.false_ne_true ?_
      rintro ⟨version, record, stored, intact⟩
      rw [damaged version record stored] at intact
      contradiction
  | some entry =>
      obtain ⟨version, record⟩ := entry
      have intact := Archive.newestIntact?_eq_some_iff.mp newest
      rw [repair_rollback versions unsound intact]
      exact iff_of_true rfl ⟨version, record, intact.archived, intact.intact⟩

end NvMemory.Block
