import NvMemory.Proofs.Block
import NvMemory.Proofs.Device

/-!
Properties of a block that last through every run.

A property that holds of a block after each change of it need not hold after a run, since a power
loss may write an old snapshot back. It does if a snapshot keeps it too (`Block.Lasting`), and then
`Device.upholds_after` carries it through any run that spares the block certain faults.
-/

namespace NvMemory

/-- No change of a block ends the property, unless it is a fault that `Stands` leaves out. -/
structure Block.Lasting (Holds : Block → Prop) (Stands : Fault → Prop) : Prop where
  commit {block : Block} (holds : Holds block) (bytes : List UInt8) : Holds (block.commit bytes)
  refreshBackup {block : Block} (holds : Holds block) : Holds block.refreshBackup
  invalidate {block : Block} (holds : Holds block) : Holds block.invalidate
  tear {block : Block} (holds : Holds block) (pending : List UInt8) : Holds (block.tear pending)
  repair {block : Block} (holds : Holds block) : Holds block.repair.1
  suffer {block damaged : Block} {fault : Fault} {damage : Damage} (holds : Holds block)
    (suffers : block.suffer? fault = some (damaged, damage)) (stands : Stands fault) : Holds damaged
  restored {block : Block} (holds : Holds block) (time : Nat) :
    Holds (Snapshot.ofBlock block time).restored

namespace BlockStore

variable {store : BlockStore} {id other : BlockId} {old placed : Block} {Holds : Block → Prop}

/-- The block named `id`, if the store has it, has the property. -/
def Meets (store : BlockStore) (id : BlockId) (Holds : Block → Prop) : Prop :=
  ∀ block, store.get? id = some block → Holds block

theorem meets_set_same (holds : Holds placed) : (store.set id placed).Meets id Holds := by
  intro block held
  rw [get?_set_same] at held
  cases held
  exact holds

theorem Meets.set (meets : store.Meets id Holds) (found : store.get? other = some old)
    (kept : other = id → Holds old → Holds placed) : (store.set other placed).Meets id Holds := by
  by_cases same : other = id
  · subst same
    exact meets_set_same (kept rfl (meets old found))
  · intro block held
    rw [get?_set_other store same] at held
    exact meets block held

theorem meets_ofList {blocks : List Block} (good : ∀ block ∈ blocks, Holds block) (id : BlockId) :
    (ofList blocks).Meets id Holds := by
  have begun : empty.Meets id Holds := fun _ found => by contradiction
  refine List.foldlRecOn (motive := (·.Meets id Holds)) blocks insert begun ?_
  intro store meets block member found held
  rw [insert, get?_set] at held
  split at held
  · cases held
    exact good block member
  · exact meets found held

end BlockStore

namespace Device

variable {device next : Device} {operation : Operation} {answer : Answer} {id : BlockId}
  {Holds : Block → Prop} {Stands : Fault → Prop}

/-- Block `id` has the property, and will have it if the snapshot of it is written back. -/
structure Upholds (device : Device) (id : BlockId) (Holds : Block → Prop) : Prop where
  block : device.store.Meets id Holds
  snapshot : ∀ snapshot, device.cycle.snapshot = some snapshot →
    device.cycle.target = some id → Holds snapshot.restored

theorem upholds_ofMemory {memory : Memory}
    (holds : memory.store.Meets id Holds) :
    (ofMemory memory).Upholds id Holds :=
  ⟨holds, fun _ held => by contradiction⟩

theorem Upholds.aftermath {point : LossPoint} {consequence : WriteCycle.Consequence}
    (lasting : Block.Lasting Holds Stands) (upholds : device.Upholds id Holds)
    (aftermath : (device.cycle.lost point).Aftermath device.store point consequence) :
    consequence.store.Meets id Holds := by
  cases aftermath with
  | unaffected | noSnapshot | durable => exact upholds.block
  | @restored target snapshot block held targeted found =>
      refine upholds.block.set found fun same _ => ?_
      exact upholds.snapshot snapshot held (same ▸ targeted)
  | torn target found => exact upholds.block.set found fun _ holds => lasting.tear holds _

theorem Step.upholds (step : Step device operation next answer)
    (lasting : Block.Lasting Holds Stands)
    (stands : ∀ fault, operation = .inject id fault → Stands fault)
    (upholds : device.Upholds id Holds) : next.Upholds id Holds := by
  have snapshot := upholds.snapshot
  cases step with
  | started | cycleReset => exact ⟨upholds.block, fun _ held => by contradiction⟩
  | @snapshotTaken target block taken atStep found copy =>
      refine ⟨upholds.block, fun other held targeted => ?_⟩
      have same : target = id := Option.some.inj (atStep.target.symm.trans targeted)
      subst same
      cases held
      rw [copy]
      exact lasting.restored (upholds.block block found) _
  | persisted | foundDirty | lossRefused => exact ⟨upholds.block, snapshot⟩
  | copied atStep clean found =>
      exact ⟨upholds.block.set found fun _ holds => lasting.commit holds _, snapshot⟩
  | verified atStep found => exact ⟨upholds.block.set found fun _ => lasting.refreshBackup, snapshot⟩
  | mismatched atStep found => exact ⟨upholds.block.set found fun _ => lasting.invalidate, snapshot⟩
  | powerLost aftermath => exact ⟨upholds.aftermath lasting aftermath, snapshot⟩
  | @injected target fault block damaged damage found suffers =>
      refine ⟨upholds.block.set found fun same holds => ?_, snapshot⟩
      exact lasting.suffer holds suffers (stands fault (by rw [same]))
  | recovered found => exact ⟨upholds.block.set found fun _ => lasting.repair, snapshot⟩
  | versionWritten found =>
      exact ⟨upholds.block.set found fun _ holds => lasting.commit holds _, snapshot⟩
  | cycleRefused | memoryRefused => exact upholds

theorem upholds_after {operations : List Operation} (lasting : Block.Lasting Holds Stands)
    (stands : ∀ fault, .inject id fault ∈ operations → Stands fault)
    (upholds : device.Upholds id Holds) : (device.after operations).Upholds id Holds := by
  induction operations generalizing device with
  | nil => exact upholds
  | cons operation rest ih =>
      have step := device.perform_step operation
      refine ih (fun fault member => stands fault (List.mem_cons_of_mem _ member)) ?_
      exact step.upholds lasting (fun fault same => stands fault (same ▸ List.mem_cons_self)) upholds

end Device

end NvMemory
