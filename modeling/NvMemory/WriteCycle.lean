import NvMemory.Block.Store
import NvMemory.Clock
import NvMemory.WriteCycle.Report

/-!
The two-phase write of new content into one block.

A cycle is started for a block, takes a snapshot of it, persists the snapshot, copies the
new content into the block and verifies it. Power may be lost at any time; a `LossPoint`
says which consequences that has. The cycle keeps no blocks of its own: its operations are
given the store, and those that change it give it back.

An operation that is refused gives nothing back, and so changes nothing. Only a power loss
changes the cycle, its journal at least, even when it is refused.
-/

namespace NvMemory

structure WriteCycle where
  phase : Phase
  /-- The block that the cycle was started for. -/
  target : Option BlockId
  /-- The content that is to be written, or was written last. -/
  pending : List UInt8
  snapshot : Option Snapshot
  dirty : Bool
  lossPoint : Option LossPoint
  /-- Moves on by one for each recorded event. -/
  clock : Clock
  journal : Journal
deriving Repr, DecidableEq

structure WriteCycleStatus where
  phase : Phase
  target : Option BlockId
  time : Nat
  dirty : Bool
  lossPoint : Option LossPoint
  hasSnapshot : Bool
  snapshotChecksum : Option Checksum
  events : List Entry
deriving Repr, DecidableEq

def WriteCycleStatus.toJson (status : WriteCycleStatus) : Json.Value :=
  .object [
    ("current_phase", status.phase.toJson),
    ("target_block", .optional BlockId.toJson status.target),
    ("virtual_time", .natural status.time),
    ("dirty_data_detected", .bool status.dirty),
    ("power_loss_point", .optional LossPoint.toJson status.lossPoint),
    ("snapshot_available", .bool status.hasSnapshot),
    ("snapshot_checksum", .optional Checksum.toJson status.snapshotChecksum),
    ("event_log", .list Entry.toJson status.events)]

namespace WriteCycle

def journalCapacity : Nat :=
  64

def statusEvents : Nat :=
  10

def fresh : WriteCycle where
  phase := .idle
  target := none
  pending := []
  snapshot := none
  dirty := false
  lossPoint := none
  clock := Clock.zero
  journal := Journal.ofCapacity "nvm_write_all" journalCapacity

instance : Inhabited WriteCycle := ⟨fresh⟩

def record (cycle : WriteCycle) (level : Level) (message : String) (fields : Fields) :
    WriteCycle :=
  let clock := cycle.clock.tick
  { cycle with
    clock := clock
    journal := cycle.journal.record
      { time := clock.now, level := level, message := message, fields := fields } }

/-- The block named `id`, which the store must have. -/
def lookup (store : BlockStore) (id : BlockId) : Except WriteError Block :=
  match store.get? id with
  | some block => .ok block
  | none => .error (.unknownBlock id)

/-- An operation belongs to one phase and to the block that the cycle was started for. -/
def checkStep (cycle : WriteCycle) (expected : Phase) (id : BlockId) : Except WriteError Unit :=
  if cycle.phase ≠ expected then .error (.invalidPhase expected cycle.phase)
  else
    match cycle.target with
    | none => .error .noActiveCycle
    | some target => if target ≠ id then .error (.blockMismatch target id) else .ok ()

/-- After dirty data was found, nothing is copied until the cycle is started again. -/
def checkClean (cycle : WriteCycle) : Except WriteError Unit :=
  if cycle.dirty then .error .restartRequired else .ok ()

/-- A new cycle, which forgets the one before. -/
def started (cycle : WriteCycle) (id : BlockId) (bytes : List UInt8) : WriteCycle :=
  { cycle.record .info "write-all started"
      [("block", id.label), ("bytes", toString bytes.length)] with
    phase := .snapshot
    target := some id
    pending := bytes
    snapshot := none
    dirty := false
    lossPoint := none }

def start (cycle : WriteCycle) (store : BlockStore) (id : BlockId) (bytes : List UInt8) :
    Except WriteError (WriteCycle × StartReport) := do
  let _ ← lookup store id
  let started := cycle.started id bytes
  return (started,
    { phase := started.phase, block := id, bytes := bytes, time := started.clock.now })

def snapshotTaken (cycle : WriteCycle) (id : BlockId) (snapshot : Snapshot) : WriteCycle :=
  { cycle.record .debug "phase 1: snapshot taken" [("block", id.label)] with
    snapshot := some snapshot
    phase := .persist }

def takeSnapshot (cycle : WriteCycle) (store : BlockStore) (id : BlockId) :
    Except WriteError (WriteCycle × SnapshotReport) := do
  cycle.checkStep .snapshot id
  let block ← lookup store id
  let snapshot := Snapshot.ofBlock block cycle.clock.tick.now
  return (cycle.snapshotTaken id snapshot, { phase := .persist, snapshot := snapshot })

def persisted (cycle : WriteCycle) (id : BlockId) : WriteCycle :=
  { (cycle.record .debug "phase 1: persisting snapshot" [("block", id.label)]).record
      .debug "snapshot written" [] with
    phase := .copy }

/-- Persists the snapshot. No block is touched. -/
def persist (cycle : WriteCycle) (id : BlockId) :
    Except WriteError (WriteCycle × PersistReport) := do
  cycle.checkStep .persist id
  return (cycle.persisted id, { phase := .copy })

/-- The fields of the entry about a copy into `block`. -/
def copyFields (id : BlockId) (block : Block) : Fields :=
  ("block", id.label) ::
    (block.versionStep?.map fun step => ("version", toString step.next.toNat)).toList

def foundDirty (cycle : WriteCycle) (id : BlockId) : WriteCycle :=
  { cycle.record .warn "dirty data: working copy diverged from snapshot"
      [("block", id.label)] with
    dirty := true }

def copied (cycle : WriteCycle) (id : BlockId) (block : Block) (bytes : List UInt8) :
    WriteCycle :=
  { cycle.record .debug "phase 2: new data copied" (copyFields id block) with
    pending := bytes
    phase := .verify }

/-- Writes the new content into the block. If the working copy is found to be dirty, nothing is
written and the cycle has to be started again. -/
def copy (cycle : WriteCycle) (store : BlockStore) (id : BlockId) (bytes : List UInt8)
    (dirty : Bool) : Except WriteError (WriteCycle × BlockStore × CopyReport) := do
  cycle.checkStep .copy id
  cycle.checkClean
  let block ← lookup store id
  if dirty then
    return (cycle.foundDirty id, store, { phase := cycle.phase, dirty := true })
  else
    return (cycle.copied id block bytes, store.set id (block.commit bytes),
      { phase := .verify, dirty := false })

/-- The cycle once the live bytes of `block` were found to match their checksum. -/
def completed (cycle : WriteCycle) (id : BlockId) (block : Block) : WriteCycle :=
  { cycle.record .info "write-all completed"
      [("block", id.label), ("checksum", block.checksum.render)] with
    phase := .completed }

def failed (cycle : WriteCycle) (id : BlockId) : WriteCycle :=
  { cycle.record .error "write-all failed: checksum mismatch" [("block", id.label)] with
    phase := .failed }

/-- Checks the live bytes of the block against their checksum. If they match, the backup of a
redundant block is renewed; if not, the block is flagged bad. -/
def verify (cycle : WriteCycle) (store : BlockStore) (id : BlockId) :
    Except WriteError (WriteCycle × BlockStore × VerifyReport) := do
  cycle.checkStep .verify id
  let block ← lookup store id
  if block.isIntact then
    return (cycle.completed id block, store.set id block.refreshBackup,
      { phase := .completed, valid := true, checksum := block.checksum })
  else
    return (cycle.failed id, store.set id block.invalidate,
      { phase := .failed, valid := false, checksum := block.checksum })

/-- What a power loss does to the phase and to the store. -/
structure Consequence where
  phase : Phase
  store : BlockStore
  assessment : Assessment
  checksum : Option Checksum

def Consequence.report (consequence : Consequence) (point : LossPoint) : LossReport where
  point := point
  assessment := consequence.assessment
  phase := consequence.phase
  checksum := consequence.checksum

/-- Writes the snapshot back to the block of the cycle. -/
def restore (cycle : WriteCycle) (store : BlockStore) : Except WriteError Consequence :=
  match cycle.snapshot, cycle.target with
  | some snapshot, some id => do
      let _ ← lookup store id
      return {
        phase := .completed
        store := store.set id snapshot.restored
        assessment := .restoredFromSnapshot
        checksum := snapshot.knownChecksum? }
  | _, _ => .ok {
      phase := .failed, store := store, assessment := .noSnapshot, checksum := none }

/-- Leaves the block of the cycle half written. -/
def interrupt (cycle : WriteCycle) (store : BlockStore) : Except WriteError Consequence :=
  match cycle.target with
  | none => .error .noActiveCycle
  | some id => do
      let block ← lookup store id
      return {
        phase := .failed
        store := store.set id (block.tear cycle.pending)
        assessment := .corrupted
        checksum := none }

/-- What losing power at `point` leads to. -/
def consequence (cycle : WriteCycle) (store : BlockStore) :
    LossPoint → Except WriteError Consequence
  | .beforePhase1 => .ok {
      phase := .idle, store := store, assessment := .unaffected, checksum := none }
  | .afterPhase1 => cycle.restore store
  | .duringPhase2 => cycle.interrupt store
  | .afterPhase2 => .ok {
      phase := .completed
      store := store
      assessment := .durable
      checksum := (cycle.target.bind store.get?).map Block.checksum }

def lost (cycle : WriteCycle) (point : LossPoint) : WriteCycle :=
  { cycle.record .warn "power loss" [("recovery_point", point.name)] with
    lossPoint := some point }

def assessed (cycle : WriteCycle) (consequence : Consequence) : WriteCycle :=
  { cycle with phase := consequence.phase }.record .info "power loss assessed"
    [("result", consequence.assessment.name), ("phase", consequence.phase.label)]

/-- Loses power. The loss itself is recorded whether or not its consequences can be drawn. -/
def losePower (cycle : WriteCycle) (store : BlockStore) (point : LossPoint) :
    WriteCycle × BlockStore × Except WriteError LossReport :=
  let lost := cycle.lost point
  match lost.consequence store point with
  | .error error => (lost, store, .error error)
  | .ok consequence =>
      (lost.assessed consequence, consequence.store, .ok (consequence.report point))

def status (cycle : WriteCycle) : WriteCycleStatus where
  phase := cycle.phase
  target := cycle.target
  time := cycle.clock.now
  dirty := cycle.dirty
  lossPoint := cycle.lossPoint
  hasSnapshot := cycle.snapshot.isSome
  snapshotChecksum := cycle.snapshot.map (·.block.checksum)
  events := cycle.journal.recent statusEvents

end WriteCycle

end NvMemory
