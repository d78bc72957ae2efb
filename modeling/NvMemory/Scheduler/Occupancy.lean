import NvMemory.Data.Window
import NvMemory.Job

/-!
Which job holds a block, the state that job is in, and the block's newest transitions.

An occupancy knows nothing of what the block stores.
-/

namespace NvMemory

structure Transition where
  state : JobState
  time : Nat
deriving Repr, DecidableEq

namespace Transition

def toJson (transition : Transition) : Json.Value :=
  .object [("state", transition.state.toJson), ("timestamp_ms", .natural transition.time)]

end Transition

structure Occupancy where
  block : BlockId
  state : JobState
  occupant : Option JobId
  history : Window Transition
deriving Repr, DecidableEq

namespace Occupancy

/-- As in a journal, the room for transitions is a bound, none of which is reserved. -/
def idle (block : BlockId) (historyDepth : Nat) : Occupancy where
  block := block
  state := .idle
  occupant := none
  history := Window.ofCapacity historyDepth

/-- Another job than `job` holds the block. -/
def isHeldAgainst (occupancy : Occupancy) (job : JobId) : Bool :=
  occupancy.occupant.any (· ≠ job)

/-- Gives the block to `job`, unless another job holds it. -/
def occupy (occupancy : Occupancy) (job : JobId) : Occupancy :=
  if occupancy.isHeldAgainst job then occupancy else { occupancy with occupant := some job }

def enter (occupancy : Occupancy) (state : JobState) (time : Nat) : Occupancy :=
  { occupancy with state := state, history := occupancy.history.push ⟨state, time⟩ }

/-- Returns the block to idle and frees it. -/
def release (occupancy : Occupancy) (time : Nat) : Occupancy :=
  { occupancy.enter .idle time with occupant := none }

def toJson (occupancy : Occupancy) : Json.Value :=
  .object [
    ("block_id", occupancy.block.toJson),
    ("state", occupancy.state.toJson),
    ("occupant", .optional JobId.toJson occupancy.occupant),
    ("history", .list Transition.toJson occupancy.history.items)]

end Occupancy

end NvMemory
