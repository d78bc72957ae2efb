import NvMemory.Proofs.Block
import NvMemory.Proofs.Device

/-!
No silent corruption: a block that is flagged good bears it out after every run.

The blocks of the store are not enough for an invariant, since a power loss may write an old
snapshot back at any later time. The snapshot that the cycle holds has to be one that can be
restored honestly, and it is, because the flag it is restored with was computed when it was
taken.
-/

namespace NvMemory.Device

variable {device next : Device} {operation : Operation} {answer : Answer}

/-- No block claims to be good when it is not, and none will after a restore. -/
structure Trustworthy (device : Device) : Prop where
  blocks : device.store.Honest
  snapshot : ∀ snapshot, device.cycle.snapshot = some snapshot → snapshot.restored.Honest

theorem Trustworthy.ofMemory {memory : Memory} (honest : memory.store.Honest) :
    (ofMemory memory).Trustworthy :=
  ⟨honest, fun _ held => by contradiction⟩

theorem Trustworthy.aftermath {point : LossPoint} {consequence : WriteCycle.Consequence}
    (trustworthy : device.Trustworthy)
    (aftermath : (device.cycle.lost point).Aftermath device.store point consequence) :
    consequence.store.Honest := by
  cases aftermath with
  | unaffected | noSnapshot | durable => exact trustworthy.blocks
  | restored held target found =>
      exact trustworthy.blocks.set _ (trustworthy.snapshot _ held)
  | torn target found => exact trustworthy.blocks.set _ (Block.honest_of_invalid rfl)

theorem Step.trustworthy (step : Step device operation next answer)
    (trustworthy : device.Trustworthy) : next.Trustworthy := by
  have blocks := trustworthy.blocks
  have snapshot := trustworthy.snapshot
  cases step with
  | started found => exact ⟨blocks, fun _ held => by contradiction⟩
  | snapshotTaken atStep found taken =>
      refine ⟨blocks, fun other held => ?_⟩
      cases held
      rw [taken]
      exact Snapshot.honest_restored _ _
  | persisted | foundDirty => exact ⟨blocks, snapshot⟩
  | copied atStep clean found => exact ⟨blocks.set _ (Block.honest_commit _ _), snapshot⟩
  | verified atStep found intact =>
      exact ⟨blocks.set _ (blocks _ _ found).refreshBackup, snapshot⟩
  | mismatched => exact ⟨blocks.set _ (Block.honest_of_invalid rfl), snapshot⟩
  | powerLost aftermath => exact ⟨trustworthy.aftermath aftermath, snapshot⟩
  | lossRefused => exact ⟨blocks, snapshot⟩
  | cycleReset => exact ⟨blocks, fun _ held => by contradiction⟩
  | injected found suffers => exact ⟨blocks.set _ ((blocks _ _ found).suffer? suffers), snapshot⟩
  | recovered found => exact ⟨blocks.set _ (blocks _ _ found).repair, snapshot⟩
  | versionWritten => exact ⟨blocks.set _ (Block.honest_commit _ _), snapshot⟩
  | cycleRefused | memoryRefused => exact trustworthy

theorem Trustworthy.after (trustworthy : device.Trustworthy) (operations : List Operation) :
    (device.after operations).Trustworthy :=
  after_preserves (fun _ => True) (fun step _ => step.trustworthy) (fun _ _ => trivial) trustworthy

/-- Whatever a fresh cycle and its memory are asked to do, in any order and with any outcome,
a block that is flagged good has its recorded checksum. -/
theorem no_silent_corruption {memory : Memory} (honest : memory.store.Honest)
    (operations : List Operation) : ((ofMemory memory).after operations).store.Honest :=
  ((Trustworthy.ofMemory honest).after operations).blocks

/-- A block is damaged, written back from a snapshot of the damage, and repaired; another one is
torn and rolled back. -/
theorem no_silent_corruption_after_faults :
    Memory.seeded.store.Honest ∧
      ((ofMemory Memory.seeded).after [
        .inject ⟨1⟩ .bitFlip, .start ⟨1⟩ [1, 2, 3], .takeSnapshot ⟨1⟩, .persist ⟨1⟩,
        .copy ⟨1⟩ [1, 2, 3] false, .inject ⟨1⟩ .completeCorruption, .verify ⟨1⟩,
        .losePower .afterPhase1, .inject ⟨1⟩ .backupCorruption, .recover ⟨1⟩,
        .start ⟨2⟩ [4, 5], .losePower .duringPhase2, .recover ⟨2⟩, .writeVersion ⟨2⟩ [6],
        .losePower .afterPhase1, .resetCycle]).store.Honest :=
  ⟨BlockStore.honest_seeded, no_silent_corruption BlockStore.honest_seeded _⟩

end NvMemory.Device
