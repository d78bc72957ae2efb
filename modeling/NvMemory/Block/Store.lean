import NvMemory.Block

/-!
All blocks, each under the number of its name.
-/

namespace NvMemory

structure BlockStore where
  blocks : WordMap Block
deriving Repr, DecidableEq, Inhabited

namespace BlockStore

def empty : BlockStore :=
  ⟨WordMap.empty⟩

def get? (store : BlockStore) (id : BlockId) : Option Block :=
  store.blocks.get? id.number

def set (store : BlockStore) (id : BlockId) (block : Block) : BlockStore :=
  ⟨store.blocks.insert id.number block⟩

/-- Adds a block under its own name, in the place of any block that had it. -/
def insert (store : BlockStore) (block : Block) : BlockStore :=
  store.set block.id block

def ofList (blocks : List Block) : BlockStore :=
  blocks.foldl insert empty

def toList (store : BlockStore) : List Block :=
  store.blocks.values

def size (store : BlockStore) : Nat :=
  store.blocks.size

def isEmpty (store : BlockStore) : Bool :=
  store.blocks.isEmpty

def summaries (store : BlockStore) : List BlockSummary :=
  store.toList.map Block.summary

/-- The live bytes of a block; none for a name without a block. -/
def bytes (store : BlockStore) (id : BlockId) : List UInt8 :=
  ((store.get? id).map Block.bytes).getD []

/-- Sixteen bytes, the same four of them four times. -/
def pattern (first second third fourth : UInt8) : List UInt8 :=
  (List.replicate 4 [first, second, third, fourth]).flatten

/-- One block of each kind, for demonstration. -/
def seeded : BlockStore :=
  ofList [
    Block.native ⟨0⟩ (pattern 0x11 0x22 0x33 0x44),
    Block.redundant ⟨1⟩ (pattern 0xAA 0xBB 0xCC 0xDD),
    Block.dataset ⟨2⟩ (pattern 0x12 0x34 0x56 0x78) 2
      [(1, pattern 0x11 0x22 0x33 0x44), (2, pattern 0x12 0x34 0x56 0x78)]]

def toJson (store : BlockStore) : Json.Value :=
  .object [("blocks", .object (store.blocks.entries.map fun (number, block) =>
    (toString number.toNat, block.toJson)))]

/-- Every block is kept under its own name. -/
def Keyed (store : BlockStore) : Prop :=
  ∀ id block, store.get? id = some block → block.id = id

/-- No block claims to be good when it is not. -/
def Honest (store : BlockStore) : Prop :=
  ∀ id block, store.get? id = some block → block.Honest

@[simp] theorem get?_set_same (store : BlockStore) (id : BlockId) (block : Block) :
    (store.set id block).get? id = some block :=
  store.blocks.get?_insert_same id.number block

theorem get?_set_other {id other : BlockId} (store : BlockStore) (different : id ≠ other)
    (block : Block) : (store.set id block).get? other = store.get? other :=
  store.blocks.get?_insert_other (fun same => different (by cases id; cases other; simp_all)) block

end BlockStore

end NvMemory
