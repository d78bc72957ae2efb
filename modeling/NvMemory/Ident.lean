import NvMemory.Json.Document
import NvMemory.Json.Value

/-!
Names of blocks and jobs. A block is named by a 32-bit word. Jobs are numbered in the order
in which they are accepted, and no number is used twice.
-/

namespace NvMemory

structure BlockId where
  number : UInt32
deriving Repr, DecidableEq, Inhabited

namespace BlockId

def label (id : BlockId) : String :=
  s!"block:{id.number.toNat}"

def toJson (id : BlockId) : Json.Value :=
  .natural id.number.toNat

def ofDocument? (document : Json.Document) : Option BlockId :=
  (document.upTo? 0xFFFFFFFF).map fun number => ⟨UInt32.ofNat number⟩

end BlockId

structure JobId where
  number : Nat
deriving Repr, DecidableEq, Inhabited

namespace JobId

def first : JobId :=
  ⟨0⟩

def next (id : JobId) : JobId :=
  ⟨id.number + 1⟩

def label (id : JobId) : String :=
  s!"job:{id.number}"

def toJson (id : JobId) : Json.Value :=
  .natural id.number

def ofDocument? (document : Json.Document) : Option JobId :=
  (document.upTo? 0xFFFFFFFFFFFFFFFF).map fun number => ⟨number⟩

end JobId

end NvMemory
