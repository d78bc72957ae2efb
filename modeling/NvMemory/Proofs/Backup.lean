import NvMemory.Proofs.Checksum
import NvMemory.Proofs.Lasting
import NvMemory.Proofs.Rewind
import NvMemory.Proofs.TornWrite

/-!
What the backup of a redundant block holds.

Only a verification that completes and a restore from a snapshot renew a backup, and only a
fault of the backup itself damages it. A `BackupLedger` follows a run and notes the bytes that
the backup of one block must hold; the run bears it out as long as no backup is damaged, so that
a repair can always fall back on those bytes.
-/

namespace NvMemory

/-- A cycle in this phase has begun and not come to an end. -/
def Phase.isUnderWay : Phase → Bool
  | .snapshot | .persist | .copy | .verify => true
  | .idle | .completed | .failed => false

namespace Block

variable {block damaged original : Block} {fault : Fault} {damage : Damage} {bytes : List UInt8}
  {backup : Sealed}

/-- If the block has a backup, that is intact and holds `bytes`. -/
def BacksUp (block : Block) (bytes : List UInt8) : Prop :=
  ∀ backup, block.protection = .redundant backup → backup = Sealed.ofBytes bytes

theorem BacksUp.commit (backsUp : block.BacksUp bytes) (content : List UInt8) :
    (block.commit content).BacksUp bytes :=
  fun backup redundant => backsUp backup (commit_redundant_iff.mp redundant)

theorem BacksUp.repair (backsUp : block.BacksUp bytes) : block.repair.1.BacksUp bytes :=
  fun backup redundant => backsUp backup (repair_redundant_iff.mp redundant)

theorem BacksUp.suffer? (backsUp : block.BacksUp bytes)
    (suffers : block.suffer? fault = some (damaged, damage))
    (spared : fault ≠ .backupCorruption) : damaged.BacksUp bytes :=
  fun backup redundant => backsUp backup ((suffer?_redundant_iff suffers spared).mp redundant)

theorem BacksUp.invalidate (backsUp : block.BacksUp bytes) : block.invalidate.BacksUp bytes :=
  backsUp

theorem BacksUp.tear (backsUp : block.BacksUp bytes) (pending : List UInt8) :
    (block.tear pending).BacksUp bytes :=
  backsUp

theorem backsUp_refreshBackup (block : Block) : block.refreshBackup.BacksUp block.bytes := by
  intro backup redundant
  cases protects : block.protection with
  | native | dataset => simp [refreshBackup, protects] at redundant
  | redundant kept =>
      simp only [refreshBackup, protects, Protection.redundant.injEq] at redundant
      exact redundant.symm

/-- The block differs from `original`, which is redundant with this backup, in its live content
and in the flag beside it at most. -/
structure ShellOf (block original : Block) (backup : Sealed) : Prop where
  id : block.id = original.id
  held : block.protection = .redundant backup
  heldBefore : original.protection = .redundant backup

theorem ShellOf.commit (shell : block.ShellOf original backup) (content : List UInt8) :
    (block.commit content).ShellOf original backup :=
  ⟨shell.id, commit_redundant_iff.mpr shell.held, shell.heldBefore⟩

theorem ShellOf.repair (shell : block.ShellOf original backup) :
    block.repair.1.ShellOf original backup :=
  ⟨block.repair_id.trans shell.id, repair_redundant_iff.mpr shell.held, shell.heldBefore⟩

theorem ShellOf.suffer? (shell : block.ShellOf original backup)
    (suffers : block.suffer? fault = some (damaged, damage))
    (spared : fault ≠ .backupCorruption) : damaged.ShellOf original backup :=
  ⟨(suffer?_id suffers).trans shell.id, (suffer?_redundant_iff suffers spared).mpr shell.held,
    shell.heldBefore⟩

theorem ShellOf.tear (shell : block.ShellOf original backup) (pending : List UInt8) :
    (block.tear pending).ShellOf original backup :=
  ⟨shell.id, shell.held, shell.heldBefore⟩

/-- Put into the shell of a good block, a backup with the bytes of that block gives it back. -/
theorem ShellOf.restoreContent (shell : block.ShellOf original backup)
    (sound : original.isSound = true) (same : original.content = backup) :
    block.restoreContent backup = original := by
  have valid : original.valid = true := (Bool.and_eq_true_iff.mp sound).1
  have protection : block.protection = original.protection :=
    shell.held.trans shell.heldBefore.symm
  rw [Block.restoreContent, shell.id, protection, ← same, ← valid]

end Block

theorem BlockStore.exists_get?_set {store : BlockStore} {id other : BlockId} {old placed : Block}
    {Holds : Block → Prop} (held : ∃ block, store.get? id = some block ∧ Holds block)
    (found : store.get? other = some old) (kept : other = id → Holds old → Holds placed) :
    ∃ block, (store.set other placed).get? id = some block ∧ Holds block := by
  obtain ⟨block, stored, holds⟩ := held
  rw [get?_set]
  by_cases same : other = id
  · subst same
    cases stored.symm.trans found
    exact ⟨placed, if_pos rfl, kept rfl holds⟩
  · exact ⟨block, (if_neg same).trans stored, holds⟩

structure BackupLedger where
  /-- The bytes that the backup holds. -/
  held : List UInt8
  /-- The bytes that it held when the last snapshot of the block was taken. -/
  saved : List UInt8
deriving DecidableEq

namespace BackupLedger

variable {ledger : BackupLedger} {id : BlockId} {device : Device}

/-- The ledger of a block before anything has happened to it. -/
def ofStore (store : BlockStore) (id : BlockId) : BackupLedger :=
  let bytes := ((store.get? id).bind (·.protection.backup?)).elim [] Sealed.bytes
  { held := bytes, saved := bytes }

/-- The ledger after an operation of `device` with this answer. -/
def next (ledger : BackupLedger) (id : BlockId) (device : Device) :
    Device.Operation → Device.Answer → BackupLedger
  | .takeSnapshot target, .snapshotTaken _ =>
      if target = id then { ledger with saved := ledger.held } else ledger
  | .verify target, .verified report =>
      if target = id ∧ report.valid = true then { ledger with held := device.store.bytes id }
      else ledger
  | .losePower _, .powerLost report =>
      if report.assessment = .restoredFromSnapshot ∧ device.cycle.target = some id then
        { ledger with held := ledger.saved }
      else ledger
  | _, _ => ledger

def through (ledger : BackupLedger) (id : BlockId) (device : Device) :
    List Device.Operation → BackupLedger
  | [] => ledger
  | operation :: rest =>
      let (after, answer) := device.perform operation
      (ledger.next id device operation answer).through id after rest

theorem next_cycleRefused (ledger : BackupLedger) (id : BlockId) (device : Device)
    (operation : Device.Operation) (error : WriteError) :
    ledger.next id device operation (.cycleRefused error) = ledger := by
  cases operation <;> rfl

theorem next_memoryRefused (ledger : BackupLedger) (id : BlockId) (device : Device)
    (operation : Device.Operation) (error : MemoryError) :
    ledger.next id device operation (.memoryRefused error) = ledger := by
  cases operation <;> rfl

/-- The backup of block `id` is as the ledger has it, and so is the one in the snapshot that may
still be written back. -/
structure Tracks (ledger : BackupLedger) (id : BlockId) (device : Device) : Prop where
  backup : device.store.Meets id (·.BacksUp ledger.held)
  snapshot : ∀ snapshot, device.cycle.snapshot = some snapshot →
    device.cycle.target = some id → snapshot.block.BacksUp ledger.saved

theorem tracks_ofMemory {memory : Memory}
    (intact : ∀ block backup, memory.store.get? id = some block →
      block.protection = .redundant backup → backup.isIntact = true) :
    (ofStore memory.store id).Tracks id (Device.ofMemory memory) := by
  refine ⟨fun block found backup redundant => ?_, fun _ held => by contradiction⟩
  have stored : memory.store.get? id = some block := found
  have noted : (ofStore memory.store id).held = backup.bytes := by
    simp only [ofStore, stored, Option.bind_some, redundant, Protection.backup?, Option.elim_some]
  rw [noted, Sealed.ofBytes_bytes_of_isIntact (intact block backup stored redundant)]

theorem Tracks.aftermath {point : LossPoint} {consequence : WriteCycle.Consequence}
    (tracks : ledger.Tracks id device)
    (aftermath : (device.cycle.lost point).Aftermath device.store point consequence) :
    consequence.store.Meets id (·.BacksUp
      (ledger.next id device (.losePower point) (.powerLost (consequence.report point))).held) ∧
    (ledger.next id device (.losePower point) (.powerLost (consequence.report point))).saved =
      ledger.saved := by
  cases aftermath with
  | unaffected | noSnapshot | durable => exact ⟨tracks.backup, rfl⟩
  | @restored target snapshot block held targeted found =>
      have targeted : device.cycle.target = some target := targeted
      by_cases same : target = id
      · subst same
        simp only [next, WriteCycle.Consequence.report, targeted, and_self, if_true]
        exact ⟨BlockStore.meets_set_same (tracks.snapshot snapshot held targeted), trivial⟩
      · simp only [next, WriteCycle.Consequence.report, targeted, Option.some.injEq, same,
          and_false, if_false]
        exact ⟨tracks.backup.set found fun hit => absurd hit same, trivial⟩
  | torn target found => exact ⟨tracks.backup.set found fun _ backsUp => backsUp.tear _, rfl⟩

end BackupLedger

namespace Device

variable {device next : Device} {operation : Operation} {answer : Answer} {id : BlockId}
  {ledger : BackupLedger} {original : Block} {backup : Sealed}

theorem Step.tracks (step : Step device operation next answer)
    (spared : operation ≠ .inject id .backupCorruption) (tracks : ledger.Tracks id device) :
    (ledger.next id device operation answer).Tracks id next := by
  have backup := tracks.backup
  have snapshot := tracks.snapshot
  cases step with
  | started | cycleReset => exact ⟨backup, fun _ held => by contradiction⟩
  | @snapshotTaken target block taken atStep found copy =>
      subst copy
      by_cases same : target = id
      · subst same
        simp only [BackupLedger.next, if_true]
        refine ⟨backup, fun other held _ => ?_⟩
        cases held
        exact backup block found
      · simp only [BackupLedger.next, same, if_false]
        refine ⟨backup, fun _ _ targeted => ?_⟩
        exact absurd (Option.some.inj (atStep.target.symm.trans targeted)) same
  | persisted | foundDirty | lossRefused => exact ⟨backup, snapshot⟩
  | copied atStep clean found =>
      exact ⟨backup.set found fun _ backsUp => backsUp.commit _, snapshot⟩
  | @verified target block atStep found intact =>
      by_cases same : target = id
      · subst same
        have shown := BlockStore.bytes_of_get? found
        simp only [BackupLedger.next, and_self, if_true, shown]
        exact ⟨BlockStore.meets_set_same block.backsUp_refreshBackup, snapshot⟩
      · simp only [BackupLedger.next, same, false_and, if_false]
        exact ⟨backup.set found fun hit => absurd hit same, snapshot⟩
  | mismatched atStep found damaged =>
      simp only [BackupLedger.next, Bool.false_eq_true, and_false, if_false]
      exact ⟨backup.set found fun _ backsUp => backsUp.invalidate, snapshot⟩
  | powerLost aftermath =>
      obtain ⟨held, saved⟩ := tracks.aftermath aftermath
      exact ⟨held, saved ▸ snapshot⟩
  | @injected target fault block damaged damage found suffers =>
      refine ⟨backup.set found fun same backsUp => ?_, snapshot⟩
      exact backsUp.suffer? suffers fun hit => spared (by rw [same, hit])
  | recovered found =>
      exact ⟨backup.set found fun _ backsUp => backsUp.repair, snapshot⟩
  | versionWritten found =>
      exact ⟨backup.set found fun _ backsUp => backsUp.commit _, snapshot⟩
  | cycleRefused =>
      rw [BackupLedger.next_cycleRefused]
      exact tracks
  | memoryRefused =>
      rw [BackupLedger.next_memoryRefused]
      exact tracks

theorem tracks_after {operations : List Operation}
    (spared : .inject id .backupCorruption ∉ operations) (tracks : ledger.Tracks id device) :
    (ledger.through id device operations).Tracks id (device.after operations) := by
  induction operations generalizing ledger device with
  | nil => exact tracks
  | cons operation rest ih =>
      rw [List.mem_cons, not_or] at spared
      have step := device.perform_step operation
      exact ih spared.2 (step.tracks (fun same => spared.1 same.symm) tracks)

/-- The cycle was started for block `id`. While it is under way, the block is the original up to
its content, so that the backup is the one from before the cycle. -/
structure Writing (device : Device) (id : BlockId) (original : Block) (backup : Sealed) : Prop where
  target : device.cycle.target = some id
  shell : device.cycle.phase.isUnderWay = true →
    ∃ block, device.store.get? id = some block ∧ block.ShellOf original backup

theorem Step.writing (step : Step device operation next answer)
    (sameCycle : answer.endsCycle = false) (spared : operation ≠ .inject id .backupCorruption)
    (writing : device.Writing id original backup) : next.Writing id original backup := by
  -- the block only changes under way by a copy and by the operations of the memory
  have target := writing.target
  have shell := writing.shell
  cases step with
  | started | cycleReset => contradiction
  | snapshotTaken atStep => exact ⟨target, fun _ => shell (by rw [atStep.phase]; rfl)⟩
  | persisted atStep => exact ⟨target, fun _ => shell (by rw [atStep.phase]; rfl)⟩
  | copied atStep clean found =>
      have written := shell (by rw [atStep.phase]; rfl)
      exact ⟨target, fun _ => BlockStore.exists_get?_set written found fun _ same => same.commit _⟩
  | verified | mismatched => exact ⟨target, fun underWay => by contradiction⟩
  | powerLost aftermath => exact ⟨target, fun underWay => by cases aftermath <;> contradiction⟩
  | foundDirty | lossRefused => exact ⟨target, shell⟩
  | injected found suffers =>
      refine ⟨target, fun underWay =>
        BlockStore.exists_get?_set (shell underWay) found fun hit same => ?_⟩
      exact same.suffer? suffers fun spoilt => spared (by rw [hit, spoilt])
  | recovered found =>
      exact ⟨target, fun underWay =>
        BlockStore.exists_get?_set (shell underWay) found fun _ same => same.repair⟩
  | versionWritten found =>
      exact ⟨target, fun underWay =>
        BlockStore.exists_get?_set (shell underWay) found fun _ same => same.commit _⟩
  | cycleRefused | memoryRefused => exact writing

theorem writing_after {operations : List Operation}
    (sameCycle : ∀ answer ∈ device.answers operations, answer.endsCycle = false)
    (spared : .inject id .backupCorruption ∉ operations)
    (writing : device.Writing id original backup) :
    (device.after operations).Writing id original backup := by
  induction operations generalizing device with
  | nil => exact writing
  | cons operation rest ih =>
      rw [answers_cons, List.forall_mem_cons] at sameCycle
      rw [List.mem_cons, not_or] at spared
      have step := device.perform_step operation
      exact ih sameCycle.2 spared.2
        (step.writing sameCycle.1 (fun same => spared.1 same.symm) writing)

theorem start_of_found (found : device.store.get? id = some original) (bytes : List UInt8) :
    ∃ report, device.perform (.start id bytes) =
      ((device.perform (.start id bytes)).1, .started report) := by
  have starts : device.perform (.start id bytes) = _ := (Step.started found).perform_eq
  rw [starts]
  exact ⟨_, rfl⟩

theorem writing_of_start {bytes : List UInt8} {report : StartReport}
    (found : device.store.get? id = some original)
    (redundant : original.protection = .redundant backup)
    (starts : device.perform (.start id bytes) = (next, .started report)) :
    next.Writing id original backup := by
  cases step_iff.mpr starts with
  | started stored => exact ⟨rfl, fun _ => ⟨original, found, rfl, redundant, redundant⟩⟩

theorem recover_of_redundant {block : Block} (found : device.store.get? id = some block)
    (redundant : block.protection = .redundant backup) (intact : backup.isIntact = true) :
    ∃ repaired outcome, device.perform (.recover id) = (repaired, .recovered outcome) ∧
      outcome.succeeded = true ∧
      repaired.store.get? id = some (block.restoreContent backup) := by
  obtain ⟨repaired, outcome, recovers, repair, placed⟩ := recover_of_found found
  rw [Block.repair_redundant redundant intact] at repair placed
  refine ⟨repaired, outcome, recovers, ?_, placed⟩
  rw [RepairReport.succeeded, repair]
  rfl

/-- A torn write of a good block that had a copy of itself as its backup leaves nothing behind
once the block has been repaired. -/
theorem Writing.recover_tear (writing : device.Writing id original backup)
    (underWay : device.cycle.phase.isUnderWay = true) (sound : original.isSound = true)
    (same : original.content = backup) :
    ∃ torn loss final outcome,
      device.perform (.losePower .duringPhase2) = (torn, .powerLost loss) ∧
      loss.assessment = .corrupted ∧
      torn.perform (.recover id) = (final, .recovered outcome) ∧ outcome.succeeded = true ∧
      final.store.get? id = some original := by
  obtain ⟨block, found, shell⟩ := writing.shell underWay
  obtain ⟨torn, loss, lost, corrupted, left⟩ := tear_of_found writing.target found
  have intact : backup.isIntact = true := same ▸ (Bool.and_eq_true_iff.mp sound).2
  have shell := shell.tear device.cycle.pending
  obtain ⟨final, outcome, recovers, succeeded, placed⟩ :=
    recover_of_redundant left shell.held intact
  rw [shell.restoreContent sound same] at placed
  exact ⟨torn, loss, final, outcome, lost, corrupted, recovers, succeeded, placed⟩

/-- As long as no fault hits the backup of a redundant block itself, that backup is intact and
holds the bytes that the ledger has for it, and a repair of the block always succeeds and makes
them its content. If a write of a good block that equals its backup is torn after the snapshot
has been persisted, a repair gives the block back as it was. -/
theorem redundant_block_stays_recoverable {memory : Memory} {operations : List Operation}
    (intact : ∀ block backup, memory.store.get? id = some block →
      block.protection = .redundant backup → backup.isIntact = true)
    (spared : .inject id .backupCorruption ∉ operations) :
    let reached := (ofMemory memory).after operations
    let ledger := (BackupLedger.ofStore memory.store id).through id (ofMemory memory) operations
    ∀ block backup, reached.store.get? id = some block → block.protection = .redundant backup →
      (backup.isIntact = true ∧ backup.bytes = ledger.held ∧
        ∃ repaired outcome, reached.perform (.recover id) = (repaired, .recovered outcome) ∧
          outcome.succeeded = true ∧ repaired.store.get? id =
            some { block with content := .ofBytes ledger.held, valid := true }) ∧
      ∀ bytes begun started between, block.isSound = true → block.bytes = backup.bytes →
        reached.perform (.start id bytes) = (begun, .started started) →
        .inject id .backupCorruption ∉ between →
        (∀ answer ∈ begun.answers between, answer.endsCycle = false) →
        let late := begun.after between
        late.cycle.phase = .copy ∨ late.cycle.phase = .verify →
        ∃ torn loss final outcome,
          late.perform (.losePower .duringPhase2) = (torn, .powerLost loss) ∧
          loss.assessment = .corrupted ∧
          torn.perform (.recover id) = (final, .recovered outcome) ∧ outcome.succeeded = true ∧
          final.store.get? id = some block := by
  intro reached ledger block backup found redundant
  have tracks := tracks_after spared (BackupLedger.tracks_ofMemory intact)
  have held : backup = .ofBytes ledger.held := tracks.backup block found backup redundant
  have good : backup.isIntact = true := by
    rw [held]
    exact Sealed.isIntact_ofBytes _
  refine ⟨⟨good, congrArg Sealed.bytes held, ?_⟩, ?_⟩
  · obtain ⟨repaired, outcome, recovers, succeeded, placed⟩ :=
      recover_of_redundant found redundant good
    rw [Block.restoreContent, held] at placed
    exact ⟨repaired, outcome, recovers, succeeded, placed⟩
  · intro bytes begun started between sound same starts spared sameCycle late phase
    have writing := writing_after sameCycle spared (writing_of_start found redundant starts)
    have underWay : late.cycle.phase.isUnderWay = true := by
      rcases phase with copies | verifies
      · rw [copies]
        rfl
      · rw [verifies]
        rfl
    refine writing.recover_tear underWay sound ?_
    have live : block.content.isIntact = true := (Bool.and_eq_true_iff.mp sound).2
    rw [← Sealed.ofBytes_bytes_of_isIntact live, ← Sealed.ofBytes_bytes_of_isIntact good]
    exact congrArg Sealed.ofBytes same

/-- A verification renews the backup, a second one renews it again, and a restore from the snapshot
in between takes it back. The block is then repaired from it, and a write of it is torn. -/
theorem redundant_block_recovers_rewound_backup :
    let operations : List Operation := [
      .inject ⟨1⟩ .bitFlip, .start ⟨1⟩ [1, 2, 3], .takeSnapshot ⟨1⟩, .persist ⟨1⟩,
      .copy ⟨1⟩ [1, 2, 3] false, .verify ⟨1⟩, .inject ⟨1⟩ .completeCorruption,
      .start ⟨1⟩ [7], .takeSnapshot ⟨1⟩, .persist ⟨1⟩, .copy ⟨1⟩ [7] false, .verify ⟨1⟩,
      .losePower .afterPhase1, .start ⟨2⟩ [4, 5], .losePower .duringPhase2, .recover ⟨1⟩]
    let between : List Operation := [
      .takeSnapshot ⟨1⟩, .persist ⟨1⟩, .copy ⟨1⟩ [8, 9] false, .inject ⟨1⟩ .bitFlip,
      .writeVersion ⟨2⟩ [6]]
    let reached := (ofMemory Memory.seeded).after operations
    let block := Block.redundant ⟨1⟩ [1, 2, 3]
    let begun := (reached.perform (.start ⟨1⟩ [8, 9])).1
    reached.store.get? ⟨1⟩ = some block ∧
      ((BackupLedger.ofStore Memory.seeded.store ⟨1⟩).through ⟨1⟩ (ofMemory Memory.seeded)
        operations).held = [1, 2, 3] ∧
      (begun.after between).cycle.phase = .verify ∧
      ∃ torn loss final outcome,
        (begun.after between).perform (.losePower .duringPhase2) = (torn, .powerLost loss) ∧
        torn.store.bytes ⟨1⟩ = [8, 0xFF] ∧
        torn.perform (.recover ⟨1⟩) = (final, .recovered outcome) ∧
        final.store.get? ⟨1⟩ = some block := by
  intro operations between reached block begun
  have intact : ∀ block backup, Memory.seeded.store.get? ⟨1⟩ = some block →
      block.protection = .redundant backup → backup.isIntact = true := by
    intro block backup found redundant
    have seeded : Memory.seeded.store.get? ⟨1⟩ =
        some (Block.redundant ⟨1⟩ (BlockStore.pattern 0xAA 0xBB 0xCC 0xDD)) := by decide +kernel
    cases seeded.symm.trans found
    cases redundant
    exact Sealed.isIntact_ofBytes _
  have found : reached.store.get? ⟨1⟩ = some block := by decide +kernel
  obtain ⟨started, starts⟩ : ∃ started,
      reached.perform (.start ⟨1⟩ [8, 9]) = (begun, .started started) :=
    start_of_found found [8, 9]
  have phase : (begun.after between).cycle.phase = .verify := by decide +kernel
  have spared : .inject ⟨1⟩ .backupCorruption ∉ operations := by decide
  obtain ⟨⟨_, held, _⟩, tears⟩ :=
    redundant_block_stays_recoverable intact spared block (.ofBytes [1, 2, 3]) found rfl
  obtain ⟨torn, loss, final, outcome, lost, _, recovers, _, placed⟩ :=
    tears [8, 9] begun started between (by decide +kernel) rfl starts (by decide) (by decide +kernel)
      (.inr phase)
  have halfWritten : ((begun.after between).perform (.losePower .duringPhase2)).1.store.bytes ⟨1⟩ =
      [8, 0xFF] := by decide +kernel
  rw [lost] at halfWritten
  exact ⟨found, held.symm, phase, torn, loss, final, outcome, lost, halfWritten, recovers, placed⟩

end Device

end NvMemory
