import NvMemory.Checksum

/-!
Bytes together with the checksum that was recorded for them.

Live content, backups and archived versions are all kept in this form. Damage changes the
bytes and leaves the checksum, so that it stays detectable.
-/

namespace NvMemory

structure Sealed where
  bytes : List UInt8
  checksum : Checksum
deriving Repr, DecidableEq, Inhabited

namespace Sealed

/-- Records the checksum of the bytes. -/
def ofBytes (bytes : List UInt8) : Sealed where
  bytes := bytes
  checksum := crc16 bytes

/-- The bytes still have the recorded checksum. -/
def isIntact (content : Sealed) : Bool :=
  content.checksum.accepts content.bytes

/-- Flips every bit of the first byte, if there is one. -/
def flipFirst (content : Sealed) : Sealed :=
  match content.bytes with
  | [] => content
  | first :: rest => { content with bytes := (first ^^^ 0xFF) :: rest }

def zeroed (content : Sealed) : Sealed :=
  { content with bytes := content.bytes.map fun _ => 0 }

def toJson (content : Sealed) : Json.Value :=
  .object [("data", .hex content.bytes), ("checksum", content.checksum.toJson)]

theorem isIntact_iff (content : Sealed) :
    content.isIntact = true ↔ content.checksum = crc16 content.bytes := by
  rw [isIntact, Checksum.accepts, beq_iff_eq, eq_comm]

@[simp] theorem isIntact_ofBytes (bytes : List UInt8) : (ofBytes bytes).isIntact = true :=
  (isIntact_iff _).mpr rfl

@[simp] theorem flipFirst_checksum (content : Sealed) :
    content.flipFirst.checksum = content.checksum := by
  unfold flipFirst; split <;> rfl

end Sealed

end NvMemory
