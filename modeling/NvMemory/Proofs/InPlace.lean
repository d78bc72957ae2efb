import NvMemory.Proofs.WholeWrite

/-!
The operations of a device, effect by effect.

`Device.perform` gives a refused operation no chance to leave anything behind. Here the operations
are programs that change a device step by step, in the order of the fields they set, entries they
record and blocks they replace, and that are cut off where they refuse. What a program did until then
stays done. Each program comes to the same as the operation (`CarriesOut`). All but the power loss
check whatever they refuse before their first effect, and so are atomic (`Atomic`).
-/

namespace NvMemory.Device

namespace InPlace

variable {ε ρ τ : Type}

/-! The effects. -/

def changeCycle (change : WriteCycle → WriteCycle) : EStateM ε Device Unit :=
  modify fun device => device.withCycle (change device.cycle)

def changeMemory (change : Memory → Memory) : EStateM ε Device Unit :=
  modify fun device => device.withMemory (change device.memory)

def setBlock (id : BlockId) (block : Block) : EStateM ε Device Unit :=
  changeMemory (·.set id block)

/-- Goes on with what the check gives, unless the check refuses. -/
def demand (check : Device → Except ε ρ) : EStateM ε Device ρ := do
  match check (← get) with
  | .ok value => return value
  | .error error => throw error

def demandBlock (id : BlockId) : EStateM WriteError Device Block :=
  demand fun device => WriteCycle.lookup device.store id

def demandStep (phase : Phase) (id : BlockId) : EStateM WriteError Device Unit :=
  demand fun device => device.cycle.checkStep phase id

def setPhase (phase : Phase) : EStateM ε Device Unit :=
  changeCycle ({ · with phase := phase })

/-! The operations of the cycle. -/

def start (id : BlockId) (bytes : List UInt8) : EStateM WriteError Device StartReport := do
  let _ ← demandBlock id
  changeCycle (·.record .info "write-all started"
    [("block", id.label), ("bytes", toString bytes.length)])
  changeCycle ({ · with snapshot := none })
  changeCycle ({ · with dirty := false })
  changeCycle ({ · with lossPoint := none })
  changeCycle ({ · with target := some id })
  changeCycle ({ · with pending := bytes })
  setPhase .snapshot
  let cycle := (← get).cycle
  return { phase := cycle.phase, block := id, bytes := bytes, time := cycle.clock.now }

def takeSnapshot (id : BlockId) : EStateM WriteError Device SnapshotReport := do
  demandStep .snapshot id
  let block ← demandBlock id
  changeCycle (·.record .debug "phase 1: snapshot taken" [("block", id.label)])
  let snapshot := Snapshot.ofBlock block (← get).cycle.clock.now
  changeCycle ({ · with snapshot := some snapshot })
  setPhase .persist
  return { phase := (← get).cycle.phase, snapshot := snapshot }

def persist (id : BlockId) : EStateM WriteError Device PersistReport := do
  demandStep .persist id
  changeCycle (·.record .debug "phase 1: persisting snapshot" [("block", id.label)])
  changeCycle (·.record .debug "snapshot written" [])
  setPhase .copy
  return { phase := (← get).cycle.phase }

def copy (id : BlockId) (bytes : List UInt8) (dirty : Bool) :
    EStateM WriteError Device CopyReport := do
  demandStep .copy id
  demand (·.cycle.checkClean)
  let _ ← demandBlock id
  if dirty then
    changeCycle ({ · with dirty := true })
    changeCycle (·.record .warn "dirty data: working copy diverged from snapshot"
      [("block", id.label)])
    return { phase := (← get).cycle.phase, dirty := true }
  else
    let block ← demandBlock id
    changeCycle ({ · with pending := bytes })
    setBlock id (block.commit bytes)
    changeCycle (·.record .debug "phase 2: new data copied" (WriteCycle.copyFields id block))
    setPhase .verify
    return { phase := (← get).cycle.phase, dirty := false }

def verify (id : BlockId) : EStateM WriteError Device VerifyReport := do
  demandStep .verify id
  let block ← demandBlock id
  if block.isIntact then
    setBlock id block.refreshBackup
    setPhase .completed
    changeCycle (·.record .info "write-all completed"
      [("block", id.label), ("checksum", block.checksum.render)])
    return { phase := (← get).cycle.phase, valid := true, checksum := block.checksum }
  else
    setBlock id block.invalidate
    setPhase .failed
    changeCycle (·.record .error "write-all failed: checksum mismatch" [("block", id.label)])
    return { phase := (← get).cycle.phase, valid := false, checksum := block.checksum }

def writeBack : Option Snapshot → Option BlockId →
    EStateM WriteError Device (Assessment × Option Checksum)
  | some snapshot, some id => do
      let _ ← demandBlock id
      setBlock id snapshot.block
      setBlock id snapshot.restored
      setPhase .completed
      return (.restoredFromSnapshot, snapshot.knownChecksum?)
  | _, _ => do
      setPhase .failed
      return (.noSnapshot, none)

def tearTarget : Option BlockId → EStateM WriteError Device (Assessment × Option Checksum)
  | none => throw .noActiveCycle
  | some id => do
      let block ← demandBlock id
      setBlock id (block.tear (← get).cycle.pending)
      setPhase .failed
      return (.corrupted, none)

def consequence : LossPoint → EStateM WriteError Device (Assessment × Option Checksum)
  | .beforePhase1 => do
      setPhase .idle
      return (.unaffected, none)
  | .afterPhase1 => do
      let cycle := (← get).cycle
      writeBack cycle.snapshot cycle.target
  | .duringPhase2 => do tearTarget (← get).cycle.target
  | .afterPhase2 => do
      setPhase .completed
      let device ← get
      return (.durable, (device.cycle.target.bind device.store.get?).map Block.checksum)

def concludeLoss (point : LossPoint) (assessment : Assessment) (checksum : Option Checksum) :
    EStateM WriteError Device LossReport := do
  changeCycle fun cycle => cycle.record .info "power loss assessed"
    [("result", assessment.name), ("phase", cycle.phase.label)]
  return {
    point := point, assessment := assessment, phase := (← get).cycle.phase, checksum := checksum }

def losePower (point : LossPoint) : EStateM WriteError Device LossReport := do
  changeCycle (·.record .warn "power loss" [("recovery_point", point.name)])
  changeCycle ({ · with lossPoint := some point })
  let (assessment, checksum) ← consequence point
  concludeLoss point assessment checksum

/-! The operations of the memory. -/

def inject (id : BlockId) (fault : Fault) : EStateM MemoryError Device FaultReport := do
  let block ← demand (·.memory.lookup id)
  match block.suffer? fault with
  | none => throw (.unsupportedFault fault block.kind)
  | some (damaged, damage) =>
      setBlock id damaged
      let report := Memory.faultReport id fault block damaged damage
      changeMemory (·.recordFault report)
      return report

def recover (id : BlockId) : EStateM MemoryError Device RepairReport := do
  let block ← demand (·.memory.lookup id)
  let (repaired, repair) := block.repair
  setBlock id repaired
  changeMemory (·.announce (Memory.repairEvent id repair))
  return { block := block.id, kind := block.kind, repair := repair }

def writeVersion (id : BlockId) (bytes : List UInt8) :
    EStateM MemoryError Device VersionReport := do
  let block ← demand (·.memory.lookup id)
  match block.versionStep? with
  | none => throw (.notDataset id block.kind)
  | some step =>
      setBlock id (block.commit bytes)
      changeMemory (·.announce (Memory.versionEvent id step))
      return { block := id, step := step }

/-! Whole writes. -/

def runFirstPhase (id : BlockId) (bytes : List UInt8) : EStateM WriteError Device PersistReport := do
  let _ ← start id bytes
  let _ ← takeSnapshot id
  persist id

def interruptWrite (id : BlockId) (bytes : List UInt8) (point : LossPoint) :
    EStateM WriteError Device LossReport := do
  let _ ← runFirstPhase id bytes
  losePower point

def completeWrite (id : BlockId) (bytes : List UInt8) : EStateM WriteError Device VerifyReport := do
  let _ ← runFirstPhase id bytes
  let _ ← copy id bytes false
  verify id

/-- The device that is left, and what was reported or refused. -/
def outcome : EStateM.Result ε Device ρ → Device × Except ε ρ
  | .ok report device => (device, .ok report)
  | .error error device => (device, .error error)

/-- The program comes to the same as the operation, on every device. -/
def CarriesOut (program : EStateM ε Device ρ) (operation : Device → Device × Except ε ρ) : Prop :=
  ∀ device, outcome (program.run device) = operation device

section Outcome

variable {result : EStateM.Result ε Device ρ} {device : Device}

@[simp] theorem outcome_eq_ok_iff {report : ρ} :
    outcome result = (device, .ok report) ↔ result = .ok report device := by
  cases result <;> simp [outcome, and_comm]

@[simp] theorem outcome_eq_error_iff {error : ε} :
    outcome result = (device, .error error) ↔ result = .error error device := by
  cases result <;> simp [outcome, and_comm]

theorem outcome_refuses_iff {error : ε} :
    (outcome result).2 = .error error ↔ ∃ left, result = .error error left := by
  cases result <;> simp [outcome]

end Outcome

section Demand

variable {device : Device} {check : Device → Except ε τ} {next : τ → EStateM ε Device ρ}

theorem outcome_run_demand (check : Device → Except ε τ) (device : Device) :
    outcome ((demand check).run device) = (device, check device) := by
  change outcome (EStateM.run (match check device with
    | .ok value => return value
    | .error error => throw error) device) = (device, check device)
  cases check device <;> rfl

theorem run_demand_of_ok {value : τ} (passed : check device = .ok value) :
    (demand check >>= next).run device = (next value).run device := by
  have run := outcome_run_demand check device
  rw [passed] at run
  rw [EStateM.run_bind, outcome_eq_ok_iff.mp run]

theorem run_demand_of_error {error : ε} (refused : check device = .error error) :
    (demand check >>= next).run device = .error error device := by
  have run := outcome_run_demand check device
  rw [refused] at run
  rw [EStateM.run_bind, outcome_eq_error_iff.mp run]

/-- A program and an operation that begin with the same check come to the same if they do so after
the check. -/
theorem outcome_demand {κ : Type} {rest : τ → Except ε κ}
    {finish : Except ε κ → Device × Except ε ρ}
    (refuses : ∀ error, finish (.error error) = (device, .error error))
    (goesOn : ∀ value, check device = .ok value →
      outcome ((next value).run device) = finish (rest value)) :
    outcome ((demand check >>= next).run device) = finish (check device >>= rest) := by
  cases checked : check device with
  | error error =>
      rw [run_demand_of_error checked]
      exact (refuses error).symm
  | ok value =>
      rw [run_demand_of_ok checked]
      exact goesOn value checked

theorem run_demandBlock {id : BlockId} {block : Block} {next : Block → EStateM WriteError Device ρ}
    (found : WriteCycle.lookup device.store id = .ok block) :
    (demandBlock id >>= next).run device = (next block).run device :=
  run_demand_of_ok found

end Demand

theorem carriesOut_start (id : BlockId) (bytes : List UInt8) :
    CarriesOut (start id bytes) (·.start id bytes) := by
  intro device
  exact outcome_demand (fun _ => rfl) fun block _ => rfl

theorem carriesOut_takeSnapshot (id : BlockId) :
    CarriesOut (takeSnapshot id) (·.takeSnapshot id) := by
  intro device
  refine outcome_demand (fun _ => rfl) fun _ _ => ?_
  exact outcome_demand (fun _ => rfl) fun block _ => rfl

theorem carriesOut_persist (id : BlockId) : CarriesOut (persist id) (·.persist id) := by
  intro device
  exact outcome_demand (fun _ => rfl) fun _ _ => rfl

theorem carriesOut_copy (id : BlockId) (bytes : List UInt8) (dirty : Bool) :
    CarriesOut (copy id bytes dirty) (·.copy id bytes dirty) := by
  intro device
  refine outcome_demand (fun _ => rfl) fun _ _ => ?_
  refine outcome_demand (fun _ => rfl) fun _ _ => ?_
  refine outcome_demand (fun _ => rfl) fun block found => ?_
  cases dirty with
  | true => rfl
  | false =>
      -- The block is looked up again, now to be written to.
      exact congrArg outcome (run_demandBlock found)

theorem carriesOut_verify (id : BlockId) : CarriesOut (verify id) (·.verify id) := by
  intro device
  refine outcome_demand (fun _ => rfl) fun _ _ => ?_
  refine outcome_demand (fun _ => rfl) fun block _ => ?_
  cases block.isIntact with
  | true => rfl
  | false => rfl

/-- The device after the consequences of a power loss, or as it is if there are none. -/
def suffered (device : Device) : Except WriteError WriteCycle.Consequence →
    Device × Except WriteError (Assessment × Option Checksum)
  | .ok consequence =>
      ((device.withStore consequence.store).withCycle
        { device.cycle with phase := consequence.phase },
        .ok (consequence.assessment, consequence.checksum))
  | .error error => (device, .error error)

theorem carriesOut_consequence (point : LossPoint) :
    CarriesOut (consequence point) fun device =>
      suffered device (device.cycle.consequence device.store point) := by
  intro device
  cases point with
  | beforePhase1 | afterPhase2 => rfl
  | afterPhase1 =>
      change outcome ((writeBack device.cycle.snapshot device.cycle.target).run device) =
        suffered device (device.cycle.restore device.store)
      unfold WriteCycle.restore
      cases device.cycle.snapshot with
      | none => rfl
      | some snapshot =>
          cases device.cycle.target with
          | none => rfl
          | some id =>
              refine outcome_demand (fun _ => rfl) fun block found => ?_
              -- The block is put back first and then flagged, the operation does both at once.
              have placed := BlockStore.set_set device.store id snapshot.block snapshot.restored
              exact congrArg (fun store => suffered device (.ok {
                phase := .completed
                store := store
                assessment := .restoredFromSnapshot
                checksum := snapshot.knownChecksum? })) placed
  | duringPhase2 =>
      change outcome ((tearTarget device.cycle.target).run device) =
        suffered device (device.cycle.interrupt device.store)
      unfold WriteCycle.interrupt
      cases device.cycle.target with
      | none => rfl
      | some id => exact outcome_demand (fun _ => rfl) fun block _ => rfl

theorem carriesOut_losePower (point : LossPoint) :
    CarriesOut (losePower point) (·.losePower point) := by
  intro device
  let lost := device.withCycle (device.cycle.lost point)
  have run : (losePower point).run device =
      (consequence point >>= fun (assessment, checksum) =>
        concludeLoss point assessment checksum).run lost := rfl
  have drawn : outcome ((consequence point).run lost) =
      suffered lost ((device.cycle.lost point).consequence device.store point) :=
    carriesOut_consequence point lost
  rw [run, EStateM.run_bind]
  simp only [Device.losePower, WriteCycle.losePower]
  cases result : (device.cycle.lost point).consequence device.store point with
  | error error =>
      rw [result] at drawn
      rw [outcome_eq_error_iff.mp drawn]
      rfl
  | ok consequence =>
      rw [result] at drawn
      rw [outcome_eq_ok_iff.mp drawn]
      rfl

theorem carriesOut_inject (id : BlockId) (fault : Fault) :
    CarriesOut (inject id fault) (·.inject id fault) := by
  intro device
  refine outcome_demand (fun _ => rfl) fun block _ => ?_
  cases block.suffer? fault with
  | none => rfl
  | some suffered => rfl

theorem carriesOut_recover (id : BlockId) : CarriesOut (recover id) (·.recover id) := by
  intro device
  exact outcome_demand (fun _ => rfl) fun block _ => rfl

theorem carriesOut_writeVersion (id : BlockId) (bytes : List UInt8) :
    CarriesOut (writeVersion id bytes) (·.writeVersion id bytes) := by
  intro device
  refine outcome_demand (fun _ => rfl) fun block _ => ?_
  cases block.versionStep? with
  | none => rfl
  | some step => rfl

theorem CarriesOut.bind {first : EStateM WriteError Device ρ} {second : EStateM WriteError Device τ}
    {operation : Device → Device × Except WriteError ρ}
    {next : Device → Device × Except WriteError τ}
    (begins : CarriesOut first operation) (goesOn : CarriesOut second next) :
    CarriesOut (first >>= fun _ => second) fun device => andThen (operation device) next := by
  intro device
  have begun := congrArg (andThen · next) (begins device)
  rw [EStateM.run_bind]
  cases ran : first.run device with
  | error error left =>
      rw [ran] at begun
      exact begun
  | ok report left =>
      rw [ran] at begun
      exact (goesOn left).trans begun

theorem carriesOut_runFirstPhase (id : BlockId) (bytes : List UInt8) :
    CarriesOut (runFirstPhase id bytes) (·.runFirstPhase id bytes) :=
  (carriesOut_start id bytes).bind ((carriesOut_takeSnapshot id).bind (carriesOut_persist id))

theorem carriesOut_interruptWrite (id : BlockId) (bytes : List UInt8) (point : LossPoint) :
    CarriesOut (interruptWrite id bytes point) (·.interruptWrite id bytes point) :=
  (carriesOut_runFirstPhase id bytes).bind (carriesOut_losePower point)

theorem carriesOut_completeWrite (id : BlockId) (bytes : List UInt8) :
    CarriesOut (completeWrite id bytes) (·.completeWrite id bytes) :=
  (carriesOut_runFirstPhase id bytes).bind
    ((carriesOut_copy id bytes false).bind (carriesOut_verify id))

/-! All that is refused is refused before the first effect. -/

/-- The program leaves a device that it refuses to work on as it was. -/
def Atomic (program : EStateM ε Device ρ) : Prop :=
  ∀ device error left, program.run device = .error error left → left = device

/-- The program is never cut off. -/
def Succeeds (program : EStateM ε Device ρ) : Prop :=
  ∀ device, ∃ report next, program.run device = .ok report next

theorem Succeeds.atomic {program : EStateM ε Device ρ} (succeeds : Succeeds program) :
    Atomic program := by
  intro device error left refused
  obtain ⟨report, next, ran⟩ := succeeds device
  rw [ran] at refused
  contradiction

theorem atomic_throw (error : ε) : Atomic (throw error : EStateM ε Device ρ) := by
  intro device other left refused
  cases refused
  rfl

/-- A check changes nothing, so it may stand before an atomic program. -/
theorem atomic_demand {check : Device → Except ε τ} {next : τ → EStateM ε Device ρ}
    (atomic : ∀ value, Atomic (next value)) : Atomic (demand check >>= next) := by
  intro device error left refused
  cases checked : check device with
  | error reason =>
      rw [run_demand_of_error checked] at refused
      cases refused
      rfl
  | ok value =>
      rw [run_demand_of_ok checked] at refused
      exact atomic value device error left refused

theorem atomic_start (id : BlockId) (bytes : List UInt8) : Atomic (start id bytes) :=
  atomic_demand fun _ => Succeeds.atomic fun _ => ⟨_, _, rfl⟩

theorem atomic_takeSnapshot (id : BlockId) : Atomic (takeSnapshot id) :=
  atomic_demand fun _ => atomic_demand fun _ => Succeeds.atomic fun _ => ⟨_, _, rfl⟩

theorem atomic_persist (id : BlockId) : Atomic (persist id) :=
  atomic_demand fun _ => Succeeds.atomic fun _ => ⟨_, _, rfl⟩

theorem atomic_copy (id : BlockId) (bytes : List UInt8) (dirty : Bool) :
    Atomic (copy id bytes dirty) := by
  refine atomic_demand fun _ => atomic_demand fun _ => atomic_demand fun _ => ?_
  cases dirty with
  | true => exact Succeeds.atomic fun _ => ⟨_, _, rfl⟩
  | false => exact atomic_demand fun _ => Succeeds.atomic fun _ => ⟨_, _, rfl⟩

theorem atomic_verify (id : BlockId) : Atomic (verify id) := by
  refine atomic_demand fun _ => atomic_demand fun block => ?_
  cases block.isIntact with
  | true => exact Succeeds.atomic fun _ => ⟨_, _, rfl⟩
  | false => exact Succeeds.atomic fun _ => ⟨_, _, rfl⟩

theorem atomic_inject (id : BlockId) (fault : Fault) : Atomic (inject id fault) := by
  refine atomic_demand fun block => ?_
  cases block.suffer? fault with
  | none => exact atomic_throw _
  | some suffered => exact Succeeds.atomic fun _ => ⟨_, _, rfl⟩

theorem atomic_recover (id : BlockId) : Atomic (recover id) :=
  atomic_demand fun _ => Succeeds.atomic fun _ => ⟨_, _, rfl⟩

theorem atomic_writeVersion (id : BlockId) (bytes : List UInt8) : Atomic (writeVersion id bytes) := by
  refine atomic_demand fun block => ?_
  cases block.versionStep? with
  | none => exact atomic_throw _
  | some step => exact Succeeds.atomic fun _ => ⟨_, _, rfl⟩

/-- A power loss that is refused has been recorded nevertheless. -/
theorem left_of_losePower_refused {device left : Device} {point : LossPoint} {error : WriteError}
    (refused : (losePower point).run device = .error error left) :
    left = device.withCycle (device.cycle.lost point) := by
  have lost := carriesOut_losePower point device
  rw [refused] at lost
  simp only [outcome, Device.losePower, WriteCycle.losePower] at lost
  cases drawn : (device.cycle.lost point).consequence device.store point with
  | error reason =>
      rw [drawn] at lost
      exact congrArg Prod.fst lost
  | ok consequence =>
      rw [drawn] at lost
      cases congrArg Prod.snd lost

end InPlace

variable {device : Device} {id : BlockId} {block : Block}

namespace InPlace

/-- A program that is refused for no other block than a missing one is refused exactly then, and leaves
the device as it was. -/
theorem refused_iff_missing {ρ : Type} {program : EStateM WriteError Device ρ}
    {operation : Device → Device × Except WriteError ρ} (carriesOut : CarriesOut program operation)
    (accepts : ∀ block, device.store.get? id = some block →
      ∃ final report, operation device = (final, .ok report))
    (refuses : device.store.get? id = none → operation device = (device, .error (.unknownBlock id)))
    {error : WriteError} {left : Device} :
    program.run device = .error error left ↔
      device.store.get? id = none ∧ error = .unknownBlock id ∧ left = device := by
  rw [← outcome_eq_error_iff, carriesOut device]
  cases found : device.store.get? id with
  | none =>
      rw [refuses found]
      simp [eq_comm, and_comm]
  | some block =>
      obtain ⟨final, report, accepted⟩ := accepts block found
      simp [accepted]

/-- The program does what the operation does, and all that it refuses it refuses before its first
effect. -/
structure RefusesCleanly {ε ρ : Type} (program : EStateM ε Device ρ)
    (operation : Device → Device × Except ε ρ) : Prop where
  carriesOut : CarriesOut program operation
  atomic : Atomic program

/-- Carried out effect by effect, on any device: no operation but the power loss leaves anything behind
when it is refused, neither in the cycle and its journal nor in the memory and its faults. A refused
power loss leaves the memory as it was, and all of the cycle but the journal and the loss. A whole
write, interrupted or not, is refused only for want of the block, and leaves nothing behind then. -/
theorem refusals_leave_nothing_behind :
    (∀ id bytes, RefusesCleanly (InPlace.start id bytes) (·.start id bytes)) ∧
    (∀ id, RefusesCleanly (InPlace.takeSnapshot id) (·.takeSnapshot id)) ∧
    (∀ id, RefusesCleanly (InPlace.persist id) (·.persist id)) ∧
    (∀ id bytes dirty, RefusesCleanly (InPlace.copy id bytes dirty) (·.copy id bytes dirty)) ∧
    (∀ id, RefusesCleanly (InPlace.verify id) (·.verify id)) ∧
    (∀ id fault, RefusesCleanly (InPlace.inject id fault) (·.inject id fault)) ∧
    (∀ id, RefusesCleanly (InPlace.recover id) (·.recover id)) ∧
    (∀ id bytes, RefusesCleanly (InPlace.writeVersion id bytes) (·.writeVersion id bytes)) ∧
    (∀ point, CarriesOut (InPlace.losePower point) (·.losePower point) ∧
      ∀ device error left, (InPlace.losePower point).run device = .error error left →
        left.memory = device.memory ∧ left.cycle.phase = device.cycle.phase ∧
        left.cycle.target = device.cycle.target ∧ left.cycle.pending = device.cycle.pending ∧
        left.cycle.snapshot = device.cycle.snapshot ∧ left.cycle.dirty = device.cycle.dirty) ∧
    (∀ id bytes, CarriesOut (InPlace.completeWrite id bytes) (·.completeWrite id bytes) ∧
      ∀ device error left, (InPlace.completeWrite id bytes).run device = .error error left ↔
        device.store.get? id = none ∧ error = .unknownBlock id ∧ left = device) ∧
    (∀ id bytes point,
      CarriesOut (InPlace.interruptWrite id bytes point) (·.interruptWrite id bytes point) ∧
      ∀ device error left, (InPlace.interruptWrite id bytes point).run device = .error error left ↔
        device.store.get? id = none ∧ error = .unknownBlock id ∧ left = device) := by
  refine ⟨?_, ?_, ?_, ?_, ?_, ?_, ?_, ?_, ?_, ?_, ?_⟩
  · exact fun id bytes => ⟨carriesOut_start id bytes, atomic_start id bytes⟩
  · exact fun id => ⟨carriesOut_takeSnapshot id, atomic_takeSnapshot id⟩
  · exact fun id => ⟨carriesOut_persist id, atomic_persist id⟩
  · exact fun id bytes dirty => ⟨carriesOut_copy id bytes dirty, atomic_copy id bytes dirty⟩
  · exact fun id => ⟨carriesOut_verify id, atomic_verify id⟩
  · exact fun id fault => ⟨carriesOut_inject id fault, atomic_inject id fault⟩
  · exact fun id => ⟨carriesOut_recover id, atomic_recover id⟩
  · exact fun id bytes => ⟨carriesOut_writeVersion id bytes, atomic_writeVersion id bytes⟩
  · intro point
    refine ⟨carriesOut_losePower point, fun device error left refused => ?_⟩
    rw [left_of_losePower_refused refused]
    exact ⟨rfl, rfl, rfl, rfl, rfl, rfl⟩
  · intro id bytes
    refine ⟨carriesOut_completeWrite id bytes, fun device error left => ?_⟩
    refine refused_iff_missing (carriesOut_completeWrite id bytes)
      (fun block found => completeWrite_of_found found bytes) fun missing => ?_
    rw [Device.completeWrite, runFirstPhase_of_missing missing]
    rfl
  · intro id bytes point
    refine ⟨carriesOut_interruptWrite id bytes point, fun device error left => ?_⟩
    refine refused_iff_missing (carriesOut_interruptWrite id bytes point)
      (fun block found => interruptWrite_of_found found bytes point) fun missing => ?_
    rw [Device.interruptWrite, runFirstPhase_of_missing missing]
    rfl

/-- A copy after dirty data was found, a fault of a backup that the block does not have, and a power
loss before any start. Only the last one leaves something behind. -/
theorem refused_power_loss_alone_leaves_trace :
    let used := (ofMemory Memory.seeded).after
      [.start ⟨1⟩ [5], .takeSnapshot ⟨1⟩, .persist ⟨1⟩, .copy ⟨1⟩ [5] true]
    let unused := ofMemory Memory.seeded
    (∃ left, (InPlace.copy ⟨1⟩ [5] false).run used = .error .restartRequired left ∧ left = used) ∧
    (∃ left, (InPlace.inject ⟨0⟩ .backupCorruption).run used =
      .error (.unsupportedFault .backupCorruption .native) left ∧ left = used) ∧
    ∃ left, (InPlace.losePower .duringPhase2).run unused = .error .noActiveCycle left ∧
      left.memory = unused.memory ∧ left.cycle.phase = .idle ∧ left ≠ unused := by
  intro used unused
  obtain ⟨_, _, _, copies, _, injects, _, _, losses, _, _⟩ := refusals_leave_nothing_behind
  obtain ⟨afterCopy, copyRefused⟩ : ∃ left,
      (InPlace.copy ⟨1⟩ [5] false).run used = .error .restartRequired left :=
    outcome_refuses_iff.mp (by rw [(copies _ _ _).carriesOut]; rfl)
  obtain ⟨afterFault, faultRefused⟩ : ∃ left, (InPlace.inject ⟨0⟩ .backupCorruption).run used =
      .error (.unsupportedFault .backupCorruption .native) left :=
    outcome_refuses_iff.mp (by rw [(injects _ _).carriesOut]; rfl)
  obtain ⟨afterLoss, lossRefused⟩ : ∃ left,
      (InPlace.losePower .duringPhase2).run unused = .error .noActiveCycle left :=
    outcome_refuses_iff.mp (by rw [(losses _).1]; rfl)
  obtain ⟨memory, phase, _⟩ := (losses .duringPhase2).2 unused _ afterLoss lossRefused
  refine ⟨⟨afterCopy, copyRefused, (copies _ _ _).atomic _ _ _ copyRefused⟩,
    ⟨afterFault, faultRefused, (injects _ _).atomic _ _ _ faultRefused⟩,
    afterLoss, lossRefused, memory, phase, ?_⟩
  rw [left_of_losePower_refused lossRefused]
  decide +kernel

end InPlace

end NvMemory.Device
