import NvMemory.Block

/-!
The repair of a block with what its kind keeps.

A native block can only be checked. A redundant block is restored from its backup, if that is
intact. A dataset block that is not sound is rolled back to its newest intact version.
-/

namespace NvMemory

/-- How a repair went about it and how it ended. -/
inductive Repair where
  | intact
  | beyondRepair
  | restoredFromBackup
  | backupCorrupted
  | notNeeded
  | rolledBack (version : UInt32)
  | archiveCorrupted
deriving Repr, DecidableEq

namespace Repair

def succeeded : Repair → Bool
  | .intact | .restoredFromBackup | .notNeeded | .rolledBack _ => true
  | .beyondRepair | .backupCorrupted | .archiveCorrupted => false

def method : Repair → String
  | .intact | .beyondRepair => "NoRecoveryMechanism"
  | .restoredFromBackup | .backupCorrupted => "BackupRestore"
  | .notNeeded => "NotNeeded"
  | .rolledBack _ | .archiveCorrupted => "VersionRollback"

def describe : Repair → String
  | .intact => "checksum matches, data intact"
  | .beyondRepair => "native block has no backup, corrupted data cannot be recovered"
  | .restoredFromBackup => "restored from backup"
  | .backupCorrupted => "primary and backup both corrupted, cannot recover"
  | .notNeeded => "data valid"
  | .rolledBack version => "rolled back to version " ++ toString version.toNat
  | .archiveCorrupted => "every archived version is corrupted"

def version? : Repair → Option UInt32
  | .rolledBack version => some version
  | _ => none

end Repair

namespace Block

/-- The block with `content` in the place of its live content, flagged good. -/
def restoreContent (block : Block) (content : Sealed) : Block :=
  { block with content := content, valid := true }

def repair (block : Block) : Block × Repair :=
  match block.protection with
  | .native => (block, if block.isSound then .intact else .beyondRepair)
  | .redundant backup =>
      if backup.isIntact then (block.restoreContent backup, .restoredFromBackup)
      else (block, .backupCorrupted)
  | .dataset archive =>
      if block.isSound then (block, .notNeeded)
      else
        match archive.newestIntact? with
        | none => (block, .archiveCorrupted)
        | some (version, record) =>
            ({ block.restoreContent record with
              protection := .dataset { archive with version := version } }, .rolledBack version)

end Block

end NvMemory
