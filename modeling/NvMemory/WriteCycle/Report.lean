import NvMemory.Block
import NvMemory.Journal

/-!
What a write cycle goes through and what its operations report or refuse.
-/

namespace NvMemory

/-- The phases of a write cycle. The first phase keeps the old content safe, the second one
writes the new content. -/
inductive Phase where
  | idle
  | snapshot
  | persist
  | copy
  | verify
  | completed
  | failed
deriving Repr, DecidableEq, Inhabited

namespace Phase

def name : Phase → String
  | .idle => "Idle"
  | .snapshot => "Phase1Snapshot"
  | .persist => "Phase1Persist"
  | .copy => "Phase2Copy"
  | .verify => "Phase2Verify"
  | .completed => "Completed"
  | .failed => "Failed"

def label : Phase → String
  | .idle => "IDLE"
  | .snapshot => "PHASE1_SNAPSHOT"
  | .persist => "PHASE1_PERSIST"
  | .copy => "PHASE2_COPY"
  | .verify => "PHASE2_VERIFY"
  | .completed => "COMPLETED"
  | .failed => "FAILED"

def toJson (phase : Phase) : Json.Value :=
  .text phase.name

end Phase

inductive LossPoint where
  | beforePhase1
  | afterPhase1
  | duringPhase2
  | afterPhase2
deriving Repr, DecidableEq

inductive WriteError where
  | unknownBlock (block : BlockId)
  | invalidPhase (expected actual : Phase)
  | blockMismatch (expected actual : BlockId)
  | restartRequired
  | noActiveCycle
  | unknownPoint (text : String)
deriving Repr, DecidableEq

namespace WriteError

def message : WriteError → String
  | .unknownBlock block => "Unknown block: " ++ block.label
  | .invalidPhase expected actual =>
      "Operation expects phase " ++ expected.label ++ ", engine is in " ++ actual.label
  | .blockMismatch expected actual =>
      "WriteAll was started for " ++ expected.label ++ ", not " ++ actual.label
  | .restartRequired => "Dirty data detected, WriteAll must be restarted"
  | .noActiveCycle => "No WriteAll cycle has been started"
  | .unknownPoint text => "Unknown recovery point: " ++ text

end WriteError

namespace LossPoint

def all : List LossPoint :=
  [.beforePhase1, .afterPhase1, .duringPhase2, .afterPhase2]

def name : LossPoint → String
  | .beforePhase1 => "before_phase1"
  | .afterPhase1 => "after_phase1"
  | .duringPhase2 => "during_phase2"
  | .afterPhase2 => "after_phase2"

def parse (text : String) : Except WriteError LossPoint :=
  match all.find? (·.name == text) with
  | some point => .ok point
  | none => .error (.unknownPoint text)

def toJson (point : LossPoint) : Json.Value :=
  .text point.name

end LossPoint

/-- The state in which a power loss left the block of the cycle. -/
inductive Assessment where
  /-- Nothing had been written yet. -/
  | unaffected
  /-- The snapshot was written back. -/
  | restoredFromSnapshot
  /-- A snapshot was needed and none had been taken. -/
  | noSnapshot
  /-- The write was torn; the block needs repair. -/
  | corrupted
  /-- The write had already landed. -/
  | durable
deriving Repr, DecidableEq

namespace Assessment

def name : Assessment → String
  | .unaffected => "Unaffected"
  | .restoredFromSnapshot => "RestoredFromSnapshot"
  | .noSnapshot => "NoSnapshot"
  | .corrupted => "Corrupted"
  | .durable => "Durable"

/-- The assessment in words, given the checksum of content that is known to be good. -/
def describe : Assessment → Option Checksum → String
  | .unaffected, _ => "unaffected, block keeps its original data"
  | .restoredFromSnapshot, some checksum =>
      "restored from snapshot, data consistent (checksum " ++ checksum.render ++ ")"
  | .restoredFromSnapshot, none =>
      "restored from snapshot, block was already corrupted before the write"
  | .noSnapshot, _ => "no snapshot, cannot recover"
  | .corrupted, _ => "data may be corrupted, recover from backup or history"
  | .durable, _ => "data already persisted"

end Assessment

/-- A copy of a whole block, taken before the block is written. -/
structure Snapshot where
  takenAt : Nat
  /-- The block was sound when the snapshot was taken. -/
  sound : Bool
  block : Block
deriving Repr, DecidableEq

namespace Snapshot

def ofBlock (block : Block) (time : Nat) : Snapshot where
  takenAt := time
  sound := block.isSound
  block := block

/-- The block as a restore writes it back, flagged good only if it was. -/
def restored (snapshot : Snapshot) : Block :=
  { snapshot.block with valid := snapshot.sound }

/-- The checksum of the content, if that content is known to be good. -/
def knownChecksum? (snapshot : Snapshot) : Option Checksum :=
  if snapshot.sound then some snapshot.block.checksum else none

def toJson (snapshot : Snapshot) : Json.Value :=
  .object [
    ("timestamp", .natural snapshot.takenAt),
    ("data", .hex snapshot.block.bytes),
    ("checksum", snapshot.block.checksum.toJson),
    ("is_valid", .bool snapshot.sound)]

end Snapshot

structure StartReport where
  phase : Phase
  block : BlockId
  bytes : List UInt8
  time : Nat
deriving Repr, DecidableEq

def StartReport.toJson (report : StartReport) : Json.Value :=
  .object [
    ("phase", report.phase.toJson),
    ("block_id", report.block.toJson),
    ("new_data", .hex report.bytes),
    ("timestamp", .natural report.time)]

structure SnapshotReport where
  phase : Phase
  snapshot : Snapshot
deriving Repr, DecidableEq

def SnapshotReport.toJson (report : SnapshotReport) : Json.Value :=
  .object [("phase", report.phase.toJson), ("snapshot", report.snapshot.toJson)]

structure PersistReport where
  phase : Phase
deriving Repr, DecidableEq

def PersistReport.toJson (report : PersistReport) : Json.Value :=
  .object [("phase", report.phase.toJson), ("persisted", .bool true)]

structure CopyReport where
  phase : Phase
  /-- The working copy differed from the snapshot, so nothing was written. -/
  dirty : Bool
deriving Repr, DecidableEq

namespace CopyReport

def problem? (report : CopyReport) : Option String :=
  if report.dirty then some "working copy does not match the phase 1 snapshot" else none

def toJson (report : CopyReport) : Json.Value :=
  .object [
    ("phase", report.phase.toJson),
    ("dirty_data_detected", .bool report.dirty),
    ("error", .optional .text report.problem?)]

end CopyReport

structure VerifyReport where
  phase : Phase
  valid : Bool
  checksum : Checksum
deriving Repr, DecidableEq

def VerifyReport.toJson (report : VerifyReport) : Json.Value :=
  .object [
    ("phase", report.phase.toJson),
    ("is_valid", .bool report.valid),
    ("checksum", report.checksum.toJson)]

structure LossReport where
  point : LossPoint
  assessment : Assessment
  phase : Phase
  /-- The checksum of the content that the block was left with, where that is known. -/
  checksum : Option Checksum
deriving Repr, DecidableEq

def LossReport.toJson (report : LossReport) : Json.Value :=
  .object [
    ("power_loss_point", report.point.toJson),
    ("assessment", .text report.assessment.name),
    ("recovery_result", .text (report.assessment.describe report.checksum)),
    ("current_phase", report.phase.toJson),
    ("checksum", .optional Checksum.toJson report.checksum)]

end NvMemory
