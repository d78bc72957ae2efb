import NvMemory.Memory
import NvMemory.WriteCycle

/-!
A device: a memory, and the write cycle that works on its blocks.

`Device.perform` carries out one operation of either and gives the answer to it. Operations
in any order make a run, `Device.performAll`.
-/

namespace NvMemory

structure Device where
  cycle : WriteCycle
  memory : Memory
deriving Repr, DecidableEq, Inhabited

namespace Device

def ofMemory (memory : Memory) : Device where
  cycle := WriteCycle.fresh
  memory := memory

def store (device : Device) : BlockStore :=
  device.memory.store

def withStore (device : Device) (store : BlockStore) : Device :=
  { device with memory := { device.memory with store := store } }

inductive Operation where
  | start (block : BlockId) (bytes : List UInt8)
  | takeSnapshot (block : BlockId)
  | persist (block : BlockId)
  | copy (block : BlockId) (bytes : List UInt8) (dirty : Bool)
  | verify (block : BlockId)
  | losePower (point : LossPoint)
  | resetCycle
  | inject (block : BlockId) (fault : Fault)
  | recover (block : BlockId)
  | writeVersion (block : BlockId) (bytes : List UInt8)
deriving Repr, DecidableEq

inductive Answer where
  | started (report : StartReport)
  | snapshotTaken (report : SnapshotReport)
  | persisted (report : PersistReport)
  | copied (report : CopyReport)
  | verified (report : VerifyReport)
  | powerLost (report : LossReport)
  | cycleReset
  | injected (report : FaultReport)
  | recovered (report : RepairReport)
  | versionWritten (report : VersionReport)
  | cycleRefused (error : WriteError)
  | memoryRefused (error : MemoryError)
deriving Repr, DecidableEq

/-- The device after an operation of its cycle that touches no block. -/
def cycleStep {ρ : Type} (device : Device) :
    Except WriteError (WriteCycle × ρ) → Device × Except WriteError ρ
  | .ok (cycle, report) => ({ device with cycle := cycle }, .ok report)
  | .error error => (device, .error error)

/-- The device after an operation of its cycle that may change a block. -/
def storeStep {ρ : Type} (device : Device) :
    Except WriteError (WriteCycle × BlockStore × ρ) → Device × Except WriteError ρ
  | .ok (cycle, store, report) => ({ device.withStore store with cycle := cycle }, .ok report)
  | .error error => (device, .error error)

/-- The device after an operation of its memory. -/
def memoryStep {ρ : Type} (device : Device) :
    Except MemoryError (Memory × ρ) → Device × Except MemoryError ρ
  | .ok (memory, report) => ({ device with memory := memory }, .ok report)
  | .error error => (device, .error error)

def start (device : Device) (id : BlockId) (bytes : List UInt8) :
    Device × Except WriteError StartReport :=
  device.cycleStep (device.cycle.start device.store id bytes)

def takeSnapshot (device : Device) (id : BlockId) : Device × Except WriteError SnapshotReport :=
  device.cycleStep (device.cycle.takeSnapshot device.store id)

def persist (device : Device) (id : BlockId) : Device × Except WriteError PersistReport :=
  device.cycleStep (device.cycle.persist id)

def copy (device : Device) (id : BlockId) (bytes : List UInt8) (dirty : Bool) :
    Device × Except WriteError CopyReport :=
  device.storeStep (device.cycle.copy device.store id bytes dirty)

def verify (device : Device) (id : BlockId) : Device × Except WriteError VerifyReport :=
  device.storeStep (device.cycle.verify device.store id)

def losePower (device : Device) (point : LossPoint) : Device × Except WriteError LossReport :=
  let (cycle, store, result) := device.cycle.losePower device.store point
  ({ device.withStore store with cycle := cycle }, result)

def resetCycle (device : Device) : Device :=
  { device with cycle := WriteCycle.fresh }

def inject (device : Device) (id : BlockId) (fault : Fault) :
    Device × Except MemoryError FaultReport :=
  device.memoryStep (device.memory.inject id fault)

def recover (device : Device) (id : BlockId) : Device × Except MemoryError RepairReport :=
  device.memoryStep (device.memory.recover id)

def writeVersion (device : Device) (id : BlockId) (bytes : List UInt8) :
    Device × Except MemoryError VersionReport :=
  device.memoryStep (device.memory.writeVersion id bytes)

def answerCycle {ρ : Type} (answer : ρ → Answer) :
    Device × Except WriteError ρ → Device × Answer
  | (device, .ok report) => (device, answer report)
  | (device, .error error) => (device, .cycleRefused error)

def answerMemory {ρ : Type} (answer : ρ → Answer) :
    Device × Except MemoryError ρ → Device × Answer
  | (device, .ok report) => (device, answer report)
  | (device, .error error) => (device, .memoryRefused error)

def perform (device : Device) : Operation → Device × Answer
  | .start id bytes => answerCycle .started (device.start id bytes)
  | .takeSnapshot id => answerCycle .snapshotTaken (device.takeSnapshot id)
  | .persist id => answerCycle .persisted (device.persist id)
  | .copy id bytes dirty => answerCycle .copied (device.copy id bytes dirty)
  | .verify id => answerCycle .verified (device.verify id)
  | .losePower point => answerCycle .powerLost (device.losePower point)
  | .resetCycle => (device.resetCycle, .cycleReset)
  | .inject id fault => answerMemory .injected (device.inject id fault)
  | .recover id => answerMemory .recovered (device.recover id)
  | .writeVersion id bytes => answerMemory .versionWritten (device.writeVersion id bytes)

def performAll (device : Device) : List Operation → Device × List Answer
  | [] => (device, [])
  | operation :: rest =>
      let (next, answer) := device.perform operation
      let (final, answers) := next.performAll rest
      (final, answer :: answers)

/-- Goes on with `next`, unless the step before was refused. -/
def andThen {ρ τ : Type} (result : Device × Except WriteError ρ)
    (next : Device → Device × Except WriteError τ) : Device × Except WriteError τ :=
  match result with
  | (device, .ok _) => next device
  | (device, .error error) => (device, .error error)

def runFirstPhase (device : Device) (id : BlockId) (bytes : List UInt8) :
    Device × Except WriteError PersistReport :=
  andThen (device.start id bytes) fun started =>
    andThen (started.takeSnapshot id) fun taken => taken.persist id

def interruptWrite (device : Device) (id : BlockId) (bytes : List UInt8) (point : LossPoint) :
    Device × Except WriteError LossReport :=
  andThen (device.runFirstPhase id bytes) fun persisted => persisted.losePower point

def completeWrite (device : Device) (id : BlockId) (bytes : List UInt8) :
    Device × Except WriteError VerifyReport :=
  andThen (device.runFirstPhase id bytes) fun persisted =>
    andThen (persisted.copy id bytes false) fun copied => copied.verify id

/-- Everything announced by the cycle and the memory and not yet collected. -/
def trace (device : Device) : List TraceEvent :=
  device.cycle.journal.trace ++ device.memory.faults.trace

/-- Forgets the trace once it has been collected. -/
def collected (device : Device) : Device where
  cycle := { device.cycle with journal := device.cycle.journal.collected }
  memory := { device.memory with faults := device.memory.faults.collected }

end Device

end NvMemory
