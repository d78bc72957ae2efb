import NvMemory.Block.Sealed
import NvMemory.Data.WordMap

/-!
The versions of a dataset block: the number of the live version, and earlier content under
the number that it had. Version numbers stop at the greatest word.
-/

namespace NvMemory

structure VersionStep where
  previous : UInt32
  next : UInt32
deriving Repr, DecidableEq

namespace VersionStep

def toJson (step : VersionStep) : Json.Value :=
  .object [
    ("previous_version", .natural step.previous.toNat),
    ("new_version", .natural step.next.toNat)]

end VersionStep

structure Archive where
  version : UInt32
  records : WordMap Sealed
deriving Repr, DecidableEq, Inhabited

namespace Archive

def lastVersion : UInt32 :=
  0xFFFFFFFF

def nextVersion (version : UInt32) : UInt32 :=
  if version = lastVersion then lastVersion else version + 1

/-- The numbers of the live version now and after the next write. -/
def versionStep (archive : Archive) : VersionStep where
  previous := archive.version
  next := nextVersion archive.version

/-- Archives the content of the live version under its number and moves on to the next. -/
def supersede (archive : Archive) (content : Sealed) : Archive where
  version := nextVersion archive.version
  records := archive.records.insert archive.version content

/-- The newest archived version that is intact. -/
def newestIntact? (archive : Archive) : Option (UInt32 × Sealed) :=
  archive.records.findLast? (·.isIntact)

/-- Loses the oldest archived version, and tells which it was. -/
def dropOldest (archive : Archive) : Archive × Option UInt32 :=
  match archive.records.first? with
  | none => (archive, none)
  | some (version, _) => ({ archive with records := archive.records.dropFirst }, some version)

/-- Damages the first byte of the newest archived version, and tells which it was. -/
def corruptNewest (archive : Archive) : Archive × Option UInt32 :=
  match archive.records.last? with
  | none => (archive, none)
  | some (version, record) =>
      ({ archive with records := archive.records.insert version record.flipFirst }, some version)

theorem toNat_nextVersion (version : UInt32) :
    (nextVersion version).toNat = min (version.toNat + 1) 0xFFFFFFFF := by
  have bounded := version.toNat_lt
  unfold nextVersion
  split
  · rename_i last
    subst last
    rfl
  · rename_i different
    have below : version.toNat ≠ lastVersion.toNat := fun same =>
      different (UInt32.toNat_inj.mp same)
    simp only [lastVersion, UInt32.reduceToNat] at below
    simp only [UInt32.toNat_add, UInt32.reduceToNat]
    omega

end Archive

end NvMemory
