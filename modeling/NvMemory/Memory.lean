import NvMemory.Block.Store
import NvMemory.Clock
import NvMemory.Journal
import NvMemory.Memory.Fault
import NvMemory.Memory.Repair

/-!
The memory: all blocks, and a journal of the faults that they have had.

An operation that is refused gives nothing back, and so changes nothing.
-/

namespace NvMemory

inductive MemoryError where
  | unknownBlock (block : BlockId)
  | unsupportedFault (fault : Fault) (kind : BlockKind)
  | notDataset (block : BlockId) (kind : BlockKind)
  | unknownFault (text : String)
deriving Repr, DecidableEq

namespace MemoryError

def message : MemoryError → String
  | .unknownBlock block => "Unknown block: " ++ block.label
  | .unsupportedFault fault kind =>
      "Fault " ++ fault.name ++ " does not apply to " ++ kind.name ++ " blocks"
  | .notDataset block kind =>
      block.label ++ " is a " ++ kind.name ++ " block and has no versions"
  | .unknownFault text => "Unknown fault type: " ++ text

end MemoryError

namespace Fault

def parse (text : String) : Except MemoryError Fault :=
  match ofName? text with
  | some fault => .ok fault
  | none => .error (.unknownFault text)

end Fault

structure FaultReport where
  block : BlockId
  kind : BlockKind
  fault : Fault
  valid : Bool
  damage : Damage
deriving Repr, DecidableEq

namespace FaultReport

def details (report : FaultReport) : String :=
  report.damage.describe report.block

def toJson (report : FaultReport) : Json.Value :=
  .object [
    ("block_id", report.block.toJson),
    ("block_type", report.kind.toJson),
    ("fault_type", report.fault.toJson),
    ("is_valid", .bool report.valid),
    ("details", .text report.details)]

end FaultReport

structure RepairReport where
  block : BlockId
  kind : BlockKind
  repair : Repair
deriving Repr, DecidableEq

namespace RepairReport

def succeeded (report : RepairReport) : Bool :=
  report.repair.succeeded

def toJson (report : RepairReport) : Json.Value :=
  .object [
    ("block_id", report.block.toJson),
    ("block_type", report.kind.toJson),
    ("method", .text report.repair.method),
    ("success", .bool report.succeeded),
    ("message", .text report.repair.describe),
    ("restored_version",
      .optional (fun version => .natural version.toNat) report.repair.version?)]

end RepairReport

structure VersionReport where
  block : BlockId
  step : VersionStep
deriving Repr, DecidableEq

def VersionReport.toJson (report : VersionReport) : Json.Value :=
  .object [
    ("block_id", report.block.toJson),
    ("previous_version", .natural report.step.previous.toNat),
    ("new_version", .natural report.step.next.toNat)]

structure ComparisonRow where
  feature : String
  native : String
  redundant : String
  dataset : String
deriving Repr, DecidableEq

def ComparisonRow.toJson (row : ComparisonRow) : Json.Value :=
  .object [
    ("feature", .text row.feature),
    ("native", .text row.native),
    ("redundant", .text row.redundant),
    ("dataset", .text row.dataset)]

/-- What the kinds of blocks cost and what they offer. -/
def kindComparison : List ComparisonRow := [
  { feature := "storage overhead"
    native := "1x (single copy)"
    redundant := "2x (primary + backup)"
    dataset := "Nx (one copy per version)" },
  { feature := "recovery capability"
    native := "none"
    redundant := "restore from backup"
    dataset := "roll back to a previous version" },
  { feature := "write amplification"
    native := "1x"
    redundant := "2x (primary + backup)"
    dataset := "Nx (new version per write)" },
  { feature := "typical use"
    native := "non-critical data"
    redundant := "critical data"
    dataset := "data that needs rollback" }]

structure ComparisonReport where
  rows : List ComparisonRow
  blocks : List BlockSummary
deriving Repr, DecidableEq

def ComparisonReport.toJson (report : ComparisonReport) : Json.Value :=
  .object [
    ("comparison_table", .list ComparisonRow.toJson report.rows),
    ("blocks", .list BlockSummary.toJson report.blocks)]

structure MemoryStatus where
  time : Nat
  blocks : List BlockSummary
  faults : List Entry
deriving Repr, DecidableEq

def MemoryStatus.toJson (status : MemoryStatus) : Json.Value :=
  .object [
    ("virtual_time", .natural status.time),
    ("blocks", .list BlockSummary.toJson status.blocks),
    ("fault_log", .list Entry.toJson status.faults)]

structure Memory where
  store : BlockStore
  /-- Moves on by one for each fault. -/
  clock : Clock
  faults : Journal
deriving Repr, DecidableEq

namespace Memory

def journalCapacity : Nat :=
  64

def statusFaults : Nat :=
  5

def ofStore (store : BlockStore) : Memory where
  store := store
  clock := Clock.zero
  faults := Journal.ofCapacity "nvm_recovery" journalCapacity

def seeded : Memory :=
  ofStore BlockStore.seeded

instance : Inhabited Memory := ⟨seeded⟩

/-- The block named `id`, which the memory must have. -/
def lookup (memory : Memory) (id : BlockId) : Except MemoryError Block :=
  match memory.store.get? id with
  | some block => .ok block
  | none => .error (.unknownBlock id)

def set (memory : Memory) (id : BlockId) (block : Block) : Memory :=
  { memory with store := memory.store.set id block }

def recordFault (memory : Memory) (report : FaultReport) : Memory :=
  let clock := memory.clock.tick
  { memory with
    clock := clock
    faults := memory.faults.record {
      time := clock.now
      level := .warn
      message := report.details
      fields := [("fault_type", report.fault.name),
        ("block", toString report.block.number.toNat)] } }

def announce (memory : Memory) (event : TraceEvent) : Memory :=
  { memory with faults := memory.faults.announce event }

def inject (memory : Memory) (id : BlockId) (fault : Fault) :
    Except MemoryError (Memory × FaultReport) := do
  let block ← memory.lookup id
  match block.suffer? fault with
  | none => .error (.unsupportedFault fault block.kind)
  | some (damaged, damage) =>
      let report := {
        block := id
        kind := block.kind
        fault := fault
        valid := damaged.valid
        damage := damage }
      return ((memory.set id damaged).recordFault report, report)

def repairEvent (id : BlockId) (repair : Repair) : TraceEvent where
  level := if repair.succeeded then .info else .warn
  message := if repair.succeeded then "block recovered" else "block recovery failed"
  fields := [("block", id.label), ("method", repair.method)]

/-- Tries to bring a block back to good content. -/
def recover (memory : Memory) (id : BlockId) : Except MemoryError (Memory × RepairReport) := do
  let block ← memory.lookup id
  let (repaired, repair) := block.repair
  return ((memory.set id repaired).announce (repairEvent id repair),
    { block := block.id, kind := block.kind, repair := repair })

def versionEvent (id : BlockId) (step : VersionStep) : TraceEvent where
  level := .info
  message := "dataset version written"
  fields := [("block", id.label), ("previous_version", toString step.previous.toNat),
    ("new_version", toString step.next.toNat)]

def writeVersion (memory : Memory) (id : BlockId) (bytes : List UInt8) :
    Except MemoryError (Memory × VersionReport) := do
  let block ← memory.lookup id
  match block.versionStep? with
  | none => .error (.notDataset id block.kind)
  | some step =>
      return ((memory.set id (block.commit bytes)).announce (versionEvent id step),
        { block := id, step := step })

def compareKinds (memory : Memory) : ComparisonReport where
  rows := kindComparison
  blocks := memory.store.summaries

def status (memory : Memory) : MemoryStatus where
  time := memory.clock.now
  blocks := memory.store.summaries
  faults := memory.faults.recent statusFaults

end Memory

end NvMemory
