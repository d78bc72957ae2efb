import NvMemory.Device
import NvMemory.Proofs.Memory

/-!
What one operation can do to a device, and what a run of operations preserves.

`Device.Step` has a rule for each way in which an operation can end. It agrees with
`Device.perform`, so that later proofs go through the rules and never open an operation.
-/

namespace NvMemory.Device

variable {device next : Device} {operation : Operation} {answer : Answer}

/-- The device after the operation carries on with another cycle. -/
def withCycle (device : Device) (cycle : WriteCycle) : Device :=
  { device with cycle := cycle }

def withMemory (device : Device) (memory : Memory) : Device :=
  { device with memory := memory }

inductive Step (device : Device) : Operation → Device → Answer → Prop
  | started {id : BlockId} {bytes : List UInt8} {block : Block}
      (found : device.store.get? id = some block) :
      Step device (.start id bytes) (device.withCycle (device.cycle.started id bytes))
        (.started { phase := .snapshot, block := id, bytes := bytes,
                    time := device.cycle.clock.tick.now })
  | snapshotTaken {id : BlockId} {block : Block} {snapshot : Snapshot}
      (atStep : device.cycle.AtStep .snapshot id) (found : device.store.get? id = some block)
      (taken : snapshot = Snapshot.ofBlock block device.cycle.clock.tick.now) :
      Step device (.takeSnapshot id)
        (device.withCycle (device.cycle.snapshotTaken id snapshot))
        (.snapshotTaken { phase := .persist, snapshot := snapshot })
  | persisted {id : BlockId} (atStep : device.cycle.AtStep .persist id) :
      Step device (.persist id) (device.withCycle (device.cycle.persisted id))
        (.persisted { phase := .copy })
  | foundDirty {id : BlockId} {bytes : List UInt8} {block : Block}
      (atStep : device.cycle.AtStep .copy id) (clean : device.cycle.dirty = false)
      (found : device.store.get? id = some block) :
      Step device (.copy id bytes true) (device.withCycle (device.cycle.foundDirty id))
        (.copied { phase := .copy, dirty := true })
  | copied {id : BlockId} {bytes : List UInt8} {block : Block}
      (atStep : device.cycle.AtStep .copy id) (clean : device.cycle.dirty = false)
      (found : device.store.get? id = some block) :
      Step device (.copy id bytes false)
        ((device.withStore (device.store.set id (block.commit bytes))).withCycle
          (device.cycle.copied id block bytes))
        (.copied { phase := .verify, dirty := false })
  | verified {id : BlockId} {block : Block}
      (atStep : device.cycle.AtStep .verify id) (found : device.store.get? id = some block)
      (intact : block.isIntact = true) :
      Step device (.verify id)
        ((device.withStore (device.store.set id block.refreshBackup)).withCycle
          (device.cycle.completed id block))
        (.verified { phase := .completed, valid := true, checksum := block.checksum })
  | mismatched {id : BlockId} {block : Block}
      (atStep : device.cycle.AtStep .verify id) (found : device.store.get? id = some block)
      (damaged : block.isIntact = false) :
      Step device (.verify id)
        ((device.withStore (device.store.set id block.invalidate)).withCycle
          (device.cycle.failed id))
        (.verified { phase := .failed, valid := false, checksum := block.checksum })
  | powerLost {point : LossPoint} {consequence : WriteCycle.Consequence}
      (aftermath : (device.cycle.lost point).Aftermath device.store point consequence) :
      Step device (.losePower point)
        ((device.withStore consequence.store).withCycle
          ((device.cycle.lost point).assessed consequence))
        (.powerLost (consequence.report point))
  | lossRefused {point : LossPoint} {error : WriteError}
      (refused : (device.cycle.lost point).consequence device.store point = .error error) :
      Step device (.losePower point) (device.withCycle (device.cycle.lost point))
        (.cycleRefused error)
  | cycleReset : Step device .resetCycle device.resetCycle .cycleReset
  | injected {id : BlockId} {fault : Fault} {block damaged : Block} {damage : Damage}
      (found : device.store.get? id = some block)
      (suffers : block.suffer? fault = some (damaged, damage)) :
      Step device (.inject id fault)
        (device.withMemory ((device.memory.set id damaged).recordFault
          (Memory.faultReport id fault block damaged damage)))
        (.injected (Memory.faultReport id fault block damaged damage))
  | recovered {id : BlockId} {block : Block} (found : device.store.get? id = some block) :
      Step device (.recover id)
        (device.withMemory ((device.memory.set id block.repair.1).announce
          (Memory.repairEvent id block.repair.2)))
        (.recovered { block := block.id, kind := block.kind, repair := block.repair.2 })
  | versionWritten {id : BlockId} {bytes : List UInt8} {block : Block} {step : VersionStep}
      (found : device.store.get? id = some block) (steps : block.versionStep? = some step) :
      Step device (.writeVersion id bytes)
        (device.withMemory ((device.memory.set id (block.commit bytes)).announce
          (Memory.versionEvent id step)))
        (.versionWritten { block := id, step := step })
  | cycleRefused {operation : Operation} {error : WriteError}
      (refused : device.perform operation = (device, .cycleRefused error)) :
      Step device operation device (.cycleRefused error)
  | memoryRefused {operation : Operation} {error : MemoryError}
      (refused : device.perform operation = (device, .memoryRefused error)) :
      Step device operation device (.memoryRefused error)

/-! Each kind of operation follows the rules as soon as its accepted results do. -/

theorem Step.of_cycleStep {ρ : Type} {report : ρ → Answer}
    {result : Except WriteError (WriteCycle × ρ)}
    (performs : device.perform operation = answerCycle report (device.cycleStep result))
    (accepted : ∀ cycle value, result = .ok (cycle, value) →
      Step device operation (device.withCycle cycle) (report value)) :
    Step device operation (device.perform operation).1 (device.perform operation).2 := by
  cases result with
  | error error =>
      rw [performs]
      exact .cycleRefused performs
  | ok outcome =>
      obtain ⟨cycle, value⟩ := outcome
      rw [performs]
      exact accepted cycle value rfl

theorem Step.of_storeStep {ρ : Type} {report : ρ → Answer}
    {result : Except WriteError (WriteCycle × BlockStore × ρ)}
    (performs : device.perform operation = answerCycle report (device.storeStep result))
    (accepted : ∀ cycle store value, result = .ok (cycle, store, value) →
      Step device operation ((device.withStore store).withCycle cycle) (report value)) :
    Step device operation (device.perform operation).1 (device.perform operation).2 := by
  cases result with
  | error error =>
      rw [performs]
      exact .cycleRefused performs
  | ok outcome =>
      obtain ⟨cycle, store, value⟩ := outcome
      rw [performs]
      exact accepted cycle store value rfl

theorem Step.of_memoryStep {ρ : Type} {report : ρ → Answer}
    {result : Except MemoryError (Memory × ρ)}
    (performs : device.perform operation = answerMemory report (device.memoryStep result))
    (accepted : ∀ memory value, result = .ok (memory, value) →
      Step device operation (device.withMemory memory) (report value)) :
    Step device operation (device.perform operation).1 (device.perform operation).2 := by
  cases result with
  | error error =>
      rw [performs]
      exact .memoryRefused performs
  | ok outcome =>
      obtain ⟨memory, value⟩ := outcome
      rw [performs]
      exact accepted memory value rfl

/-- An operation follows one of the rules. -/
theorem perform_step (device : Device) (operation : Operation) :
    Step device operation (device.perform operation).1 (device.perform operation).2 := by
  cases operation with
  | start id bytes =>
      refine .of_cycleStep rfl fun cycle report accepted => ?_
      obtain ⟨block, found, same⟩ := WriteCycle.start_eq_ok_iff.mp accepted
      cases same
      exact .started found
  | takeSnapshot id =>
      refine .of_cycleStep rfl fun cycle report accepted => ?_
      obtain ⟨atStep, block, found, same⟩ := WriteCycle.takeSnapshot_eq_ok_iff.mp accepted
      cases same
      exact .snapshotTaken atStep found rfl
  | persist id =>
      refine .of_cycleStep rfl fun cycle report accepted => ?_
      obtain ⟨atStep, same⟩ := WriteCycle.persist_eq_ok_iff.mp accepted
      cases same
      exact .persisted atStep
  | copy id bytes dirty =>
      refine .of_storeStep rfl fun cycle store report accepted => ?_
      obtain ⟨atStep, clean, block, found, same⟩ := WriteCycle.copy_eq_ok_iff.mp accepted
      cases dirty with
      | true => cases same; exact .foundDirty atStep clean found
      | false => cases same; exact .copied atStep clean found
  | verify id =>
      refine .of_storeStep rfl fun cycle store report accepted => ?_
      obtain ⟨atStep, block, found, same⟩ := WriteCycle.verify_eq_ok_iff.mp accepted
      unfold WriteCycle.verifyResult at same
      split at same <;> rename_i intact
      · cases same
        exact .verified atStep found intact
      · cases same
        exact .mismatched atStep found (by simpa using intact)
  | losePower point =>
      cases result : (device.cycle.lost point).consequence device.store point with
      | error error =>
          simp only [perform, losePower, WriteCycle.losePower, result, answerCycle]
          exact .lossRefused result
      | ok consequence =>
          simp only [perform, losePower, WriteCycle.losePower, result, answerCycle]
          exact .powerLost (WriteCycle.consequence_eq_ok_iff.mp result)
  | resetCycle => exact .cycleReset
  | inject id fault =>
      refine .of_memoryStep rfl fun memory report accepted => ?_
      obtain ⟨block, damaged, damage, found, suffers, same⟩ :=
        Memory.inject_eq_ok_iff.mp accepted
      cases same
      exact .injected found suffers
  | recover id =>
      refine .of_memoryStep rfl fun memory report accepted => ?_
      obtain ⟨block, found, same⟩ := Memory.recover_eq_ok_iff.mp accepted
      cases same
      exact .recovered found
  | writeVersion id bytes =>
      refine .of_memoryStep rfl fun memory report accepted => ?_
      obtain ⟨block, step, found, steps, same⟩ := Memory.writeVersion_eq_ok_iff.mp accepted
      cases same
      exact .versionWritten found steps

/-- A rule that applies says what the operation does. -/
theorem Step.perform_eq (step : Step device operation next answer) :
    device.perform operation = (next, answer) := by
  cases step with
  | @started id bytes block found =>
      have accepted : device.cycle.start device.store id bytes = .ok _ :=
        WriteCycle.start_eq_ok_iff.mpr ⟨block, found, rfl⟩
      simp only [perform, start, accepted, cycleStep, answerCycle, withCycle]
  | @snapshotTaken id block snapshot atStep found taken =>
      subst taken
      have accepted : device.cycle.takeSnapshot device.store id = .ok _ :=
        WriteCycle.takeSnapshot_eq_ok_iff.mpr ⟨atStep, block, found, rfl⟩
      simp only [perform, takeSnapshot, accepted, cycleStep, answerCycle, withCycle]
  | @persisted id atStep =>
      have accepted : device.cycle.persist id = .ok _ :=
        WriteCycle.persist_eq_ok_iff.mpr ⟨atStep, rfl⟩
      simp only [perform, persist, accepted, cycleStep, answerCycle, withCycle]
  | @foundDirty id bytes block atStep clean found =>
      have accepted : device.cycle.copy device.store id bytes true = .ok _ :=
        WriteCycle.copy_eq_ok_iff.mpr ⟨atStep, clean, block, found, rfl⟩
      simp only [perform, copy, accepted, WriteCycle.copyResult, storeStep, answerCycle]
      rfl
  | @copied id bytes block atStep clean found =>
      have accepted : device.cycle.copy device.store id bytes false = .ok _ :=
        WriteCycle.copy_eq_ok_iff.mpr ⟨atStep, clean, block, found, rfl⟩
      simp only [perform, copy, accepted, WriteCycle.copyResult, storeStep, answerCycle, withCycle]
  | @verified id block atStep found intact | @mismatched id block atStep found intact =>
      have accepted : device.cycle.verify device.store id = .ok _ :=
        WriteCycle.verify_eq_ok_iff.mpr ⟨atStep, block, found, rfl⟩
      simp only [perform, verify, accepted, WriteCycle.verifyResult, intact, storeStep,
        answerCycle, Bool.false_eq_true, if_true, if_false, withCycle]
  | powerLost aftermath =>
      have drawn := WriteCycle.consequence_eq_ok_iff.mpr aftermath
      simp only [perform, losePower, WriteCycle.losePower, drawn, answerCycle, withCycle]
  | lossRefused refused =>
      simp only [perform, losePower, WriteCycle.losePower, refused, answerCycle]
      rfl
  | cycleReset => rfl
  | @injected id fault block damaged damage found suffers =>
      have accepted : device.memory.inject id fault = .ok _ :=
        Memory.inject_eq_ok_iff.mpr ⟨block, damaged, damage, found, suffers, rfl⟩
      simp only [perform, inject, accepted, memoryStep, answerMemory, withMemory]
  | @recovered id block found =>
      have accepted : device.memory.recover id = .ok _ :=
        Memory.recover_eq_ok_iff.mpr ⟨block, found, rfl⟩
      simp only [perform, recover, accepted, memoryStep, answerMemory, withMemory]
  | @versionWritten id bytes block step found steps =>
      have accepted : device.memory.writeVersion id bytes = .ok _ :=
        Memory.writeVersion_eq_ok_iff.mpr ⟨block, step, found, steps, rfl⟩
      simp only [perform, writeVersion, accepted, memoryStep, answerMemory, withMemory]
  | cycleRefused refused => exact refused
  | memoryRefused refused => exact refused

theorem step_iff : Step device operation next answer ↔ device.perform operation = (next, answer) := by
  constructor
  · exact Step.perform_eq
  · intro performed
    have step := perform_step device operation
    rwa [performed] at step

theorem recover_of_found {id : BlockId} {block : Block}
    (found : device.store.get? id = some block) :
    ∃ repaired outcome, device.perform (.recover id) = (repaired, .recovered outcome) ∧
      outcome.repair = block.repair.2 ∧ repaired.store.get? id = some block.repair.1 :=
  ⟨_, _, (Step.recovered found).perform_eq, rfl, BlockStore.get?_set_same _ _ _⟩

theorem inject_of_suffers {id : BlockId} {fault : Fault} {block damaged : Block} {damage : Damage}
    (found : device.store.get? id = some block) (suffers : block.suffer? fault = some (damaged, damage)) :
    ∃ hit report, device.perform (.inject id fault) = (hit, .injected report) ∧
      hit.store.get? id = some damaged :=
  ⟨_, _, (Step.injected found suffers).perform_eq, BlockStore.get?_set_same _ _ _⟩

def after (device : Device) (operations : List Operation) : Device :=
  (device.performAll operations).1

def answers (device : Device) (operations : List Operation) : List Answer :=
  (device.performAll operations).2

@[simp] theorem after_nil (device : Device) : device.after [] = device := rfl

@[simp] theorem after_cons (device : Device) (operation : Operation) (rest : List Operation) :
    device.after (operation :: rest) = (device.perform operation).1.after rest := rfl

@[simp] theorem answers_cons (device : Device) (operation : Operation) (rest : List Operation) :
    device.answers (operation :: rest) =
      (device.perform operation).2 :: (device.perform operation).1.answers rest := rfl

theorem after_append (device : Device) (first second : List Operation) :
    device.after (first ++ second) = (device.after first).after second := by
  induction first generalizing device with
  | nil => rfl
  | cons operation rest ih => exact ih (device.perform operation).1

/-- What every step with an allowed answer preserves holds after a run of such steps. -/
theorem after_preserves {Holds : Device → Prop} (Allowed : Answer → Prop)
    (preserved : ∀ {device operation next answer}, Step device operation next answer →
      Allowed answer → Holds device → Holds next)
    {operations : List Operation} (allowed : ∀ answer ∈ device.answers operations, Allowed answer)
    (holds : Holds device) : Holds (device.after operations) := by
  induction operations generalizing device with
  | nil => exact holds
  | cons operation rest ih =>
      rw [answers_cons, List.forall_mem_cons] at allowed
      exact ih allowed.2 (preserved (device.perform_step operation) allowed.1 holds)

/-- What an observer knows at the end of a run who notes each operation, with the device that
performs it and the answer. -/
def observe {σ : Type} (note : σ → Device → Operation → Answer → σ) (known : σ) (device : Device) :
    List Operation → σ
  | [] => known
  | operation :: rest =>
      let (next, answer) := device.perform operation
      next.observe note (note known device operation answer) rest

theorem observe_after {σ : Type} {note : σ → Device → Operation → Answer → σ}
    (Agrees : σ → Device → Prop) (Allowed : Operation → Prop)
    (kept : ∀ {known device operation next answer}, Step device operation next answer →
      Allowed operation → Agrees known device → Agrees (note known device operation answer) next)
    {known : σ} {operations : List Operation} (allowed : ∀ operation ∈ operations, Allowed operation)
    (agrees : Agrees known device) :
    Agrees (device.observe note known operations) (device.after operations) := by
  induction operations generalizing device known with
  | nil => exact agrees
  | cons operation rest ih =>
      rw [List.forall_mem_cons] at allowed
      exact ih allowed.2 (kept (device.perform_step operation) allowed.1 agrees)

end NvMemory.Device
