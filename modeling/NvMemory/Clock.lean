import NvMemory.Json.Document
import NvMemory.Json.Value

/-!
Virtual time in milliseconds. Time moves only when it is told to and stands still once it
has reached the last instant.
-/

namespace NvMemory

def lastInstant : Nat :=
  0xFFFFFFFFFFFFFFFF

structure Clock where
  now : Nat
  withinTime : now ≤ lastInstant
deriving Repr, DecidableEq

namespace Clock

def startingAt (instant : Nat) : Clock :=
  ⟨min instant lastInstant, Nat.min_le_right ..⟩

def zero : Clock :=
  startingAt 0

instance : Inhabited Clock := ⟨zero⟩

def advance (clock : Clock) (elapsed : Nat) : Clock :=
  startingAt (clock.now + elapsed)

/-- One millisecond on, so that each recorded event has an instant of its own. -/
def tick (clock : Clock) : Clock :=
  clock.advance 1

/-- The time since `earlier`; nothing has passed since an instant to come. -/
def since (clock : Clock) (earlier : Nat) : Nat :=
  clock.now - earlier

@[simp] theorem now_advance (clock : Clock) (elapsed : Nat) :
    (clock.advance elapsed).now = min (clock.now + elapsed) lastInstant := rfl

theorem now_le_advance (clock : Clock) (elapsed : Nat) :
    clock.now ≤ (clock.advance elapsed).now := by
  have := clock.withinTime
  simp only [now_advance]
  omega

def toJson (clock : Clock) : Json.Value :=
  .natural clock.now

def ofDocument? (document : Json.Document) : Option Clock :=
  (document.upTo? lastInstant).map startingAt

end Clock

end NvMemory
