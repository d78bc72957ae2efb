import NvMemory.Block

/-!
Faults, and the damage that they do to a block.

Faults of the live content flag the block bad. Faults of a backup or of archived versions
leave the flag as it is. No fault changes a recorded checksum.
-/

namespace NvMemory

inductive Fault where
  /-- Every bit of the first byte is flipped. -/
  | bitFlip
  /-- The whole block is zeroed. -/
  | completeCorruption
  /-- The first byte of the backup is flipped. -/
  | backupCorruption
  /-- The oldest archived version is lost. -/
  | versionLoss
  /-- The first byte of the newest archived version is flipped. -/
  | versionCorruption
deriving Repr, DecidableEq

namespace Fault

def all : List Fault :=
  [.bitFlip, .completeCorruption, .backupCorruption, .versionLoss, .versionCorruption]

def name : Fault → String
  | .bitFlip => "bit_flip"
  | .completeCorruption => "complete_corruption"
  | .backupCorruption => "backup_corruption"
  | .versionLoss => "version_loss"
  | .versionCorruption => "version_corruption"

def ofName? (name : String) : Option Fault :=
  all.find? (·.name == name)

def toJson (fault : Fault) : Json.Value :=
  .text fault.name

end Fault

/-- What a fault did. -/
inductive Damage where
  | firstByteFlipped
  | zeroed
  | backupCorrupted
  | versionLost (version : UInt32)
  | versionCorrupted (version : UInt32)
  | nothingArchived
deriving Repr, DecidableEq

namespace Damage

def describe (damage : Damage) (id : BlockId) : String :=
  match damage with
  | .firstByteFlipped => id.label ++ " first byte flipped"
  | .zeroed => id.label ++ " zeroed"
  | .backupCorrupted => id.label ++ " backup corrupted"
  | .versionLost version => id.label ++ " lost version " ++ toString version.toNat
  | .versionCorrupted version => id.label ++ " version " ++ toString version.toNat ++ " corrupted"
  | .nothingArchived => id.label ++ " has no archived versions"

end Damage

namespace Block

/-- The block after a fault, and the damage; `none` if blocks of its kind do not have that
fault. -/
def suffer? (block : Block) (fault : Fault) : Option (Block × Damage) :=
  match fault, block.protection with
  | .bitFlip, _ =>
      some ({ block with content := block.content.flipFirst, valid := false }, .firstByteFlipped)
  | .completeCorruption, _ =>
      some ({ block with content := block.content.zeroed, valid := false }, .zeroed)
  | .backupCorruption, .redundant backup =>
      some ({ block with protection := .redundant backup.flipFirst }, .backupCorrupted)
  | .versionLoss, .dataset archive =>
      let (remaining, lost) := archive.dropOldest
      some ({ block with protection := .dataset remaining },
        (lost.map Damage.versionLost).getD .nothingArchived)
  | .versionCorruption, .dataset archive =>
      let (damaged, hit) := archive.corruptNewest
      some ({ block with protection := .dataset damaged },
        (hit.map Damage.versionCorrupted).getD .nothingArchived)
  | _, _ => none

end Block

end NvMemory
