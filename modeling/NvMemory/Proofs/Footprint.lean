import NvMemory.Proofs.LossReport
import NvMemory.Proofs.Protection

/-!
How far one operation reaches.

An operation puts at most one block into the store, in the place of a block that the store has
(`Device.Step.store_cases`). So all other blocks stay as they are, and no name is gained or lost. A
restore puts back a whole block that was read earlier in the run; it has the name and the kind of the
block it replaces, since these last through every run (`Block.lasting_labelled`).
-/

namespace NvMemory

namespace Block

variable {block damaged : Block} {fault : Fault} {damage : Damage}

theorem suffer?_kind (suffers : block.suffer? fault = some (damaged, damage)) :
    damaged.kind = block.kind := by
  unfold suffer? at suffers
  split at suffers <;> cases suffers
  · rfl
  · rfl
  all_goals
    rename_i protects
    simp only [kind, protects, Protection.kind]

theorem repair_kind (block : Block) : block.repair.1.kind = block.kind := by
  cases protects : block.protection with
  | native => simp only [repair, kind, protects]
  | redundant backup =>
      simp only [repair, kind, protects]
      split <;> simp only [restoreContent, protects]
  | dataset archive =>
      simp only [repair, kind, protects]
      split
      · simp only [protects]
      · split <;> simp only [protects, Protection.kind]

/-- The block is called `id` and is of this kind. -/
structure Labelled (id : BlockId) (kind : BlockKind) (block : Block) : Prop where
  named : block.id = id
  sort : block.kind = kind

theorem lasting_labelled (id : BlockId) (kind : BlockKind) :
    Lasting (Labelled id kind) fun _ => True where
  commit labelled bytes := ⟨labelled.named, (kind_commit _ bytes).trans labelled.sort⟩
  refreshBackup labelled := ⟨labelled.named, (kind_refreshBackup _).trans labelled.sort⟩
  invalidate labelled := ⟨labelled.named, labelled.sort⟩
  tear labelled _ := ⟨labelled.named, labelled.sort⟩
  repair labelled := ⟨(repair_id _).trans labelled.named, (repair_kind _).trans labelled.sort⟩
  suffer labelled suffers _ :=
    ⟨(suffer?_id suffers).trans labelled.named, (suffer?_kind suffers).trans labelled.sort⟩
  restored labelled _ := ⟨labelled.named, labelled.sort⟩

end Block

namespace BlockStore

variable {store : BlockStore} {id : BlockId} {block : Block}

theorem keyed_empty : empty.Keyed := by
  intro id block found
  contradiction

theorem Keyed.insert (keyed : store.Keyed) (block : Block) : (store.insert block).Keyed := by
  intro id held found
  rw [BlockStore.insert, get?_set] at found
  split at found
  · rename_i same
    cases found
    exact same
  · exact keyed id held found

theorem keyed_ofList (blocks : List Block) : (ofList blocks).Keyed :=
  List.foldlRecOn blocks BlockStore.insert keyed_empty fun _ keyed block _ => keyed.insert block

/-- To replace a block is neither to add nor to remove one. -/
theorem isSome_get?_replace (found : store.get? id = some block) (placed : Block)
    (other : BlockId) :
    ((store.set id placed).get? other).isSome = (store.get? other).isSome := by
  rw [get?_set]
  split
  · rename_i same
    rw [← same, found]
    rfl
  · rfl

end BlockStore

namespace Device

variable {device next : Device} {operation : Operation} {answer : Answer} {id : BlockId}

/-- An operation leaves the store alone, or replaces the block that it works on. -/
theorem Step.store_cases (step : Step device operation next answer) :
    next.store = device.store ∨ ∃ id block placed, operation.subject? device = some id ∧
      device.store.get? id = some block ∧ next.store = device.store.set id placed := by
  cases step with
  | started | snapshotTaken | persisted | foundDirty | lossRefused | cycleReset | cycleRefused
  | memoryRefused => exact .inl rfl
  | copied atStep clean found => exact .inr ⟨_, _, _, rfl, found, rfl⟩
  | verified atStep found => exact .inr ⟨_, _, _, rfl, found, rfl⟩
  | mismatched atStep found => exact .inr ⟨_, _, _, rfl, found, rfl⟩
  | powerLost aftermath =>
      cases aftermath with
      | unaffected | noSnapshot | durable => exact .inl rfl
      | restored held target found => exact .inr ⟨_, _, _, target, found, rfl⟩
      | torn target found => exact .inr ⟨_, _, _, target, found, rfl⟩
  | injected found => exact .inr ⟨_, _, _, rfl, found, rfl⟩
  | recovered found => exact .inr ⟨_, _, _, rfl, found, rfl⟩
  | versionWritten found => exact .inr ⟨_, _, _, rfl, found, rfl⟩

theorem Step.get?_of_spared (step : Step device operation next answer)
    (spared : operation.subject? device ≠ some id) :
    next.store.get? id = device.store.get? id := by
  rcases step.store_cases with same | ⟨target, block, placed, subject, found, replaced⟩
  · rw [same]
  · have different : target ≠ id := fun hit => spared (hit ▸ subject)
    rw [replaced, BlockStore.get?_set_other _ different]

theorem Step.isSome_get? (step : Step device operation next answer) (id : BlockId) :
    (next.store.get? id).isSome = (device.store.get? id).isSome := by
  rcases step.store_cases with same | ⟨target, block, placed, _, found, replaced⟩
  · rw [same]
  · rw [replaced, BlockStore.isSome_get?_replace found]

theorem isSome_get?_after (device : Device) (operations : List Operation) (id : BlockId) :
    ((device.after operations).store.get? id).isSome = (device.store.get? id).isSome := by
  induction operations generalizing device with
  | nil => rfl
  | cons operation rest ih => exact (ih _).trans ((device.perform_step operation).isSome_get? id)

/-- The block that is now under a name was preceded by one with the same label. -/
theorem labelled_of_get?_after {memory : Memory} {operations : List Operation} {block : Block}
    (found : ((ofMemory memory).after operations).store.get? id = some block) :
    ∃ original, memory.store.get? id = some original ∧
      block.Labelled original.id original.kind := by
  have kept := isSome_get?_after (ofMemory memory) operations id
  rw [found] at kept
  obtain ⟨original, stored⟩ := Option.isSome_iff_exists.mp kept.symm
  have begun : memory.store.Meets id (Block.Labelled original.id original.kind) := by
    intro held same
    cases stored.symm.trans same
    exact ⟨rfl, rfl⟩
  have lasts := Block.lasting_labelled original.id original.kind
  have upholds : ((ofMemory memory).after operations).Upholds id _ :=
    upholds_after lasts (fun _ _ => trivial) (upholds_ofMemory begun)
  exact ⟨original, stored, upholds.block block found⟩

/-- Whatever a fresh cycle and its memory have been asked to do, the next operation changes no block
but the one that it names, or for a power loss the one that the cycle was started for. The store has
blocks under the same names as at the beginning, each of them still called by the name it is kept
under and of the kind that it was. -/
theorem operation_changes_subject_alone {memory : Memory} (keyed : memory.store.Keyed)
    (operations : List Operation) (operation : Operation) :
    let reached := (ofMemory memory).after operations
    let next := (reached.perform operation).1
    (∀ id, operation.subject? reached ≠ some id → next.store.get? id = reached.store.get? id) ∧
    (∀ id, (reached.store.get? id).isSome = (memory.store.get? id).isSome) ∧
    reached.store.Keyed ∧
    ∀ id original block, memory.store.get? id = some original →
      reached.store.get? id = some block → block.kind = original.kind := by
  intro reached next
  refine ⟨?_, ?_, ?_, ?_⟩
  · intro id spared
    exact (reached.perform_step operation).get?_of_spared spared
  · exact isSome_get?_after (ofMemory memory) operations
  · intro id block found
    obtain ⟨original, stored, labelled⟩ := labelled_of_get?_after found
    rw [labelled.named]
    exact keyed id original stored
  · intro id original block stored found
    obtain ⟨first, held, labelled⟩ := labelled_of_get?_after found
    cases stored.symm.trans held
    exact labelled.sort

/-- A restore of a redundant block, after which its content is another one, while a dataset block has
got a new version in between. -/
theorem restore_changes_target_alone :
    let reached := (ofMemory Memory.seeded).after [
      .inject ⟨1⟩ .bitFlip, .start ⟨1⟩ [1, 2, 3], .takeSnapshot ⟨1⟩, .persist ⟨1⟩,
      .copy ⟨1⟩ [1, 2, 3] false, .writeVersion ⟨2⟩ [4], .start ⟨9⟩ []]
    let restored := (reached.perform (.losePower .afterPhase1)).1
    Memory.seeded.store.Keyed ∧ restored.store.bytes ⟨1⟩ ≠ reached.store.bytes ⟨1⟩ ∧
      (∀ id, id ≠ ⟨1⟩ → restored.store.get? id = reached.store.get? id) ∧ reached.store.Keyed := by
  intro reached restored
  have keyed : Memory.seeded.store.Keyed := BlockStore.keyed_ofList _
  have subject : Operation.subject? reached (.losePower .afterPhase1) = some ⟨1⟩ := by
    decide +kernel
  obtain ⟨alone, _, named, _⟩ :=
    operation_changes_subject_alone keyed _ (.losePower .afterPhase1)
  refine ⟨keyed, by decide +kernel, fun id other => alone id ?_, named⟩
  rw [subject]
  exact fun same => other (Option.some.inj same).symm

end Device

end NvMemory
