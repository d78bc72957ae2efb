import NvMemory.Block.Archive
import NvMemory.Ident

/-!
Blocks of non-volatile memory.

Every block has live content and a flag that says whether that content is known to be good.
Beyond that a native block has nothing, a redundant block has a backup copy, and a dataset
block has its earlier versions.
-/

namespace NvMemory

inductive BlockKind where
  | native
  | redundant
  | dataset
deriving Repr, DecidableEq, Inhabited

namespace BlockKind

def name : BlockKind → String
  | .native => "Native"
  | .redundant => "Redundant"
  | .dataset => "Dataset"

def toJson (kind : BlockKind) : Json.Value :=
  .text kind.name

end BlockKind

/-- What a block keeps besides its live content. -/
inductive Protection where
  | native
  | redundant (backup : Sealed)
  | dataset (archive : Archive)
deriving Repr, DecidableEq, Inhabited

namespace Protection

def kind : Protection → BlockKind
  | .native => .native
  | .redundant _ => .redundant
  | .dataset _ => .dataset

def backup? : Protection → Option Sealed
  | .redundant backup => some backup
  | _ => none

def archive? : Protection → Option Archive
  | .dataset archive => some archive
  | _ => none

def toJson : Protection → Json.Value
  | .native => .object [("type", .text "Native")]
  | .redundant backup =>
      .object [
        ("type", .text "Redundant"),
        ("backup", .hex backup.bytes),
        ("backup_checksum", backup.checksum.toJson)]
  | .dataset archive =>
      .object [
        ("type", .text "Dataset"),
        ("version", .natural archive.version.toNat),
        ("history", .object (archive.records.entries.map fun (version, record) =>
          (toString version.toNat, record.toJson)))]

end Protection

structure BlockSummary where
  block : BlockId
  kind : BlockKind
  version : Nat
  versions : Nat
  hasBackup : Bool
  valid : Bool
  checksum : Checksum
deriving Repr, DecidableEq

namespace BlockSummary

def toJson (summary : BlockSummary) : Json.Value :=
  .object [
    ("block_id", summary.block.toJson),
    ("block_type", summary.kind.toJson),
    ("version", .natural summary.version),
    ("num_versions", .natural summary.versions),
    ("has_backup", .bool summary.hasBackup),
    ("is_valid", .bool summary.valid),
    ("checksum", summary.checksum.toJson)]

end BlockSummary

structure Block where
  id : BlockId
  content : Sealed
  valid : Bool
  protection : Protection
deriving Repr, DecidableEq, Inhabited

namespace Block

def native (id : BlockId) (bytes : List UInt8) : Block where
  id := id
  content := Sealed.ofBytes bytes
  valid := true
  protection := .native

/-- A redundant block whose backup equals its live content. -/
def redundant (id : BlockId) (bytes : List UInt8) : Block where
  id := id
  content := Sealed.ofBytes bytes
  valid := true
  protection := .redundant (Sealed.ofBytes bytes)

/-- A dataset block at `version`. Of two archived contents under one number the later stays. -/
def dataset (id : BlockId) (bytes : List UInt8) (version : UInt32)
    (archived : List (UInt32 × List UInt8)) : Block where
  id := id
  content := Sealed.ofBytes bytes
  valid := true
  protection := .dataset {
    version := version
    records := WordMap.ofList (archived.map fun (number, bytes) => (number, Sealed.ofBytes bytes)) }

def kind (block : Block) : BlockKind :=
  block.protection.kind

def bytes (block : Block) : List UInt8 :=
  block.content.bytes

def checksum (block : Block) : Checksum :=
  block.content.checksum

/-- The live bytes have the recorded checksum. -/
def isIntact (block : Block) : Bool :=
  block.content.isIntact

/-- The block is flagged good, and its live bytes bear that out. -/
def isSound (block : Block) : Bool :=
  block.valid && block.isIntact

/-- A block that claims to be good is good. -/
def Honest (block : Block) : Prop :=
  block.valid = true → block.checksum = crc16 block.bytes

/-- Makes `bytes` the live content. A dataset block archives what it held, as it was recorded;
a backup is left alone. -/
def commit (block : Block) (bytes : List UInt8) : Block :=
  { block with
    content := Sealed.ofBytes bytes
    valid := true
    protection :=
      match block.protection with
      | .dataset archive => .dataset (archive.supersede block.content)
      | other => other }

/-- The version numbers before and after the next commit of a dataset block. -/
def versionStep? (block : Block) : Option VersionStep :=
  block.protection.archive?.map (·.versionStep)

/-- Makes the backup of a redundant block a copy of the live bytes. -/
def refreshBackup (block : Block) : Block :=
  { block with
    protection :=
      match block.protection with
      | .redundant _ => .redundant (Sealed.ofBytes block.bytes)
      | other => other }

def invalidate (block : Block) : Block :=
  { block with valid := false }

/-- Leaves the block as an interrupted write of `pending` does: the first half has landed and
the rest of the region is erased. -/
def tear (block : Block) (pending : List UInt8) : Block :=
  let region := if pending.isEmpty then block.bytes.length else pending.length
  let landed := pending.take (pending.length / 2)
  { block with
    content := { block.content with
      bytes := landed ++ List.replicate (region - landed.length) 0xFF }
    valid := false }

def summary (block : Block) : BlockSummary where
  block := block.id
  kind := block.kind
  version := (block.protection.archive?.map (·.version.toNat)).getD 1
  versions := (block.protection.archive?.map (·.records.size)).getD 1
  hasBackup := block.protection.backup?.isSome
  valid := block.valid
  checksum := block.checksum

def toJson (block : Block) : Json.Value :=
  .object [
    ("block_id", block.id.toJson),
    ("data", .hex block.bytes),
    ("checksum", block.checksum.toJson),
    ("is_valid", .bool block.valid),
    ("variant", block.protection.toJson)]

theorem isIntact_commit (block : Block) (bytes : List UInt8) :
    (block.commit bytes).isIntact = true :=
  Sealed.isIntact_ofBytes bytes

@[simp] theorem kind_commit (block : Block) (bytes : List UInt8) :
    (block.commit bytes).kind = block.kind := by
  unfold commit kind; cases block.protection <;> rfl

@[simp] theorem kind_refreshBackup (block : Block) : block.refreshBackup.kind = block.kind := by
  unfold refreshBackup kind; cases block.protection <;> rfl

end Block

end NvMemory
