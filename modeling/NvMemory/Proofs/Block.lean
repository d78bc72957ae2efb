import NvMemory.Block.Store
import NvMemory.Memory.Fault
import NvMemory.Memory.Repair
import NvMemory.WriteCycle.Report

/-!
What each change of a block does to its live content and to the flag beside it.

A fault changes content and flag as `Fault.onContent` and `Fault.hitsContent` say. A repair
either leaves the block alone or puts intact content into it (`Block.replacement?`).
-/

namespace NvMemory

namespace WordMap

variable {β : Type}

theorem place_place (key : UInt32) (first second : β) (entries : List (UInt32 × β)) :
    place key second (place key first entries) = place key second entries := by
  induction entries with
  | nil => simp [place]
  | cons head rest ih =>
      obtain ⟨stored, value⟩ := head
      by_cases before : key < stored
      · simp [place, before]
      · by_cases same : stored = key
        · simp [place, same]
        · simp [place, before, same, ih]

theorem insert_insert (map : WordMap β) (key : UInt32) (first second : β) :
    (map.insert key first).insert key second = map.insert key second := by
  unfold insert
  simp only [place_place]

end WordMap

/-- What a fault makes of the live content. Faults elsewhere leave it alone. -/
def Fault.onContent : Fault → Sealed → Sealed
  | .bitFlip, content => content.flipFirst
  | .completeCorruption, content => content.zeroed
  | _, content => content

@[simp] theorem Fault.onContent_checksum (fault : Fault) (content : Sealed) :
    (fault.onContent content).checksum = content.checksum := by
  cases fault with
  | bitFlip => exact Sealed.flipFirst_checksum content
  | completeCorruption | backupCorruption | versionLoss | versionCorruption => rfl

def Fault.hitsContent : Fault → Bool
  | .bitFlip | .completeCorruption => true
  | _ => false

theorem Fault.onContent_of_not_hits {fault : Fault} (misses : fault.hitsContent = false)
    (content : Sealed) : fault.onContent content = content := by
  cases fault with
  | bitFlip | completeCorruption => contradiction
  | backupCorruption | versionLoss | versionCorruption => rfl

theorem Archive.newestIntact?_isIntact {archive : Archive} {version : UInt32} {record : Sealed}
    (newest : archive.newestIntact? = some (version, record)) : record.isIntact = true := by
  unfold newestIntact? WordMap.findLast? at newest
  exact List.find?_some (p := fun entry : UInt32 × Sealed => entry.2.isIntact) newest

namespace Block

variable {block damaged : Block} {fault : Fault} {damage : Damage}

/-- The content that a repair puts in the place of the live content, if it does. -/
def replacement? (block : Block) : Option Sealed :=
  match block.protection with
  | .native => none
  | .redundant backup => if backup.isIntact then some backup else none
  | .dataset archive => if block.isSound then none else archive.newestIntact?.map Prod.snd

theorem honest_iff : block.Honest ↔ (block.valid = true → block.isIntact = true) := by
  unfold Honest isIntact
  rw [Sealed.isIntact_iff]
  rfl

theorem honest_of_isIntact (intact : block.isIntact = true) : block.Honest :=
  honest_iff.mpr fun _ => intact

theorem honest_of_invalid (invalid : block.valid = false) : block.Honest := by
  intro valid
  rw [invalid] at valid
  contradiction

theorem honest_native (id : BlockId) (bytes : List UInt8) : (native id bytes).Honest :=
  honest_of_isIntact (Sealed.isIntact_ofBytes bytes)

theorem honest_redundant (id : BlockId) (bytes : List UInt8) : (redundant id bytes).Honest :=
  honest_of_isIntact (Sealed.isIntact_ofBytes bytes)

theorem honest_dataset (id : BlockId) (bytes : List UInt8) (version : UInt32)
    (archived : List (UInt32 × List UInt8)) : (dataset id bytes version archived).Honest :=
  honest_of_isIntact (Sealed.isIntact_ofBytes bytes)

theorem suffer?_content (suffers : block.suffer? fault = some (damaged, damage)) :
    damaged.content = fault.onContent block.content := by
  unfold suffer? at suffers
  split at suffers <;> cases suffers <;> rfl

theorem suffer?_valid (suffers : block.suffer? fault = some (damaged, damage)) :
    damaged.valid = (block.valid && !fault.hitsContent) := by
  unfold suffer? at suffers
  split at suffers <;> cases suffers <;> simp [Fault.hitsContent]

/-- A repair leaves the block alone, or puts an intact replacement in and flags it good. -/
theorem repair_cases (block : Block) :
    (block.replacement? = none ∧ block.repair.1 = block) ∨
      ∃ content, block.replacement? = some content ∧ content.isIntact = true ∧
        block.repair.1.content = content ∧ block.repair.1.valid = true := by
  cases protects : block.protection with
  | native =>
      left
      simp only [replacement?, repair, protects, and_self]
  | redundant backup =>
      simp only [replacement?, repair, protects]
      cases intact : backup.isIntact with
      | false => exact .inl ⟨rfl, rfl⟩
      | true => exact .inr ⟨backup, rfl, intact, rfl, rfl⟩
  | dataset archive =>
      simp only [replacement?, repair, protects]
      cases block.isSound with
      | true => exact .inl ⟨rfl, rfl⟩
      | false =>
          cases newest : archive.newestIntact? with
          | none => exact .inl ⟨rfl, rfl⟩
          | some found =>
              exact .inr ⟨found.2, rfl, Archive.newestIntact?_isIntact newest, rfl, rfl⟩

theorem honest_commit (block : Block) (bytes : List UInt8) : (block.commit bytes).Honest :=
  honest_of_isIntact (block.isIntact_commit bytes)

theorem Honest.refreshBackup (honest : block.Honest) : block.refreshBackup.Honest := honest

theorem Honest.repair (honest : block.Honest) : block.repair.1.Honest := by
  rcases block.repair_cases with ⟨_, unchanged⟩ | ⟨content, _, intact, placed, _⟩
  · rw [unchanged]
    exact honest
  · rw [← placed] at intact
    exact honest_of_isIntact intact

theorem Honest.suffer? (honest : block.Honest)
    (suffers : block.suffer? fault = some (damaged, damage)) : damaged.Honest := by
  have content := suffer?_content suffers
  have valid := suffer?_valid suffers
  cases hits : fault.hitsContent with
  | true => exact honest_of_invalid (by simpa [hits] using valid)
  | false =>
      rw [Fault.onContent_of_not_hits hits] at content
      rw [hits, Bool.not_false, Bool.and_true] at valid
      unfold Honest checksum bytes at honest ⊢
      rwa [content, valid]

end Block

theorem Snapshot.honest_restored (block : Block) (time : Nat) :
    (Snapshot.ofBlock block time).restored.Honest := by
  refine Block.honest_iff.mpr fun sound => ?_
  have both : (block.valid && block.isIntact) = true := sound
  exact (Bool.and_eq_true_iff.mp both).2

namespace BlockStore

variable {store : BlockStore} {block : Block}

theorem get?_set (store : BlockStore) (id other : BlockId) (block : Block) :
    (store.set id block).get? other = if id = other then some block else store.get? other := by
  by_cases same : id = other
  · rw [if_pos same, same, get?_set_same]
  · rw [if_neg same, get?_set_other store same]

theorem bytes_of_get? {id : BlockId} (found : store.get? id = some block) :
    store.bytes id = block.bytes := by
  simp only [bytes, found, Option.map_some, Option.getD_some]

theorem honest_empty : empty.Honest := by
  intro id block found
  contradiction

theorem Honest.set (honest : store.Honest) (id : BlockId) (good : block.Honest) :
    (store.set id block).Honest := by
  intro other found held
  rw [get?_set] at held
  split at held
  · cases held
    exact good
  · exact honest other found held

theorem honest_ofList {blocks : List Block} (good : ∀ block ∈ blocks, block.Honest) :
    (ofList blocks).Honest :=
  List.foldlRecOn blocks insert honest_empty fun _ honest block member =>
    honest.set block.id (good block member)

theorem honest_seeded : seeded.Honest := by
  refine honest_ofList fun block member => ?_
  simp only [List.mem_cons, List.not_mem_nil, or_false] at member
  rcases member with rfl | rfl | rfl
  · exact Block.honest_native _ _
  · exact Block.honest_redundant _ _
  · exact Block.honest_dataset _ _ _ _

theorem isSome_get?_set {id : BlockId} (present : (store.get? id).isSome = true)
    (other : BlockId) (block : Block) : ((store.set other block).get? id).isSome = true := by
  rw [get?_set]
  split
  · rfl
  · exact present

@[simp] theorem set_set (store : BlockStore) (id : BlockId) (first second : Block) :
    (store.set id first).set id second = store.set id second := by
  unfold set
  rw [WordMap.insert_insert]

end BlockStore

end NvMemory
