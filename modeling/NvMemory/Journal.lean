import NvMemory.Data.Window
import NvMemory.Json.Value

/-!
Event journals.

A component writes what happens into its journal. The window holds the newest entries for
later inspection. The trace lists everything that has been announced and not yet collected:
one event for each entry, recorded or already forgotten, and events that were announced
without being recorded.
-/

namespace NvMemory

inductive Level where
  | debug
  | info
  | warn
  | error
deriving Repr, DecidableEq, Inhabited

namespace Level

def all : List Level :=
  [.debug, .info, .warn, .error]

def rank : Level → Nat
  | .debug => 0
  | .info => 1
  | .warn => 2
  | .error => 3

def name : Level → String
  | .debug => "Debug"
  | .info => "Info"
  | .warn => "Warn"
  | .error => "Error"

def label : Level → String
  | .debug => "DEBUG"
  | .info => "INFO"
  | .warn => "WARN"
  | .error => "ERROR"

def ofName? (name : String) : Option Level :=
  all.find? (·.name == name)

end Level

abbrev Fields := List (String × String)

structure Entry where
  time : Nat
  level : Level
  message : String
  fields : Fields
deriving Repr, DecidableEq, Inhabited

structure TraceEvent where
  level : Level
  message : String
  fields : Fields
deriving Repr, DecidableEq

namespace Entry

/-- The value of the first field named `key`. -/
def field? (entry : Entry) (key : String) : Option String :=
  entry.fields.lookup key

def fieldText (entry : Entry) : String :=
  String.intercalate " " (entry.fields.map fun (key, value) => key ++ "=" ++ value)

/-- What is announced when `component` records the entry. -/
def announced (entry : Entry) (component : String) : TraceEvent where
  level := entry.level
  message := entry.message
  fields := [("component", component), ("t", toString entry.time), ("fields", entry.fieldText)]

def toJson (entry : Entry) : Json.Value :=
  .object [
    ("timestamp_ms", .natural entry.time),
    ("level", .text entry.level.name),
    ("message", .text entry.message),
    ("fields", .list (fun (key, value) => .array [.text key, .text value]) entry.fields)]

end Entry

structure Journal where
  component : String
  window : Window Entry
  trace : List TraceEvent
deriving Repr, DecidableEq

namespace Journal

/-- The room for entries is a bound, none of which is reserved: the limit on what can be allocated at once
is left out. -/
def ofCapacity (component : String) (requested : Nat) : Journal where
  component := component
  window := Window.ofCapacity requested
  trace := []

def entries (journal : Journal) : List Entry :=
  journal.window.items

def size (journal : Journal) : Nat :=
  journal.window.size

def capacity (journal : Journal) : Nat :=
  journal.window.capacity

def record (journal : Journal) (entry : Entry) : Journal :=
  { journal with
    window := journal.window.push entry
    trace := journal.trace ++ [entry.announced journal.component] }

/-- Announces an event that the window does not keep. -/
def announce (journal : Journal) (event : TraceEvent) : Journal :=
  { journal with trace := journal.trace ++ [event] }

/-- Empties the trace, once it has been collected. -/
def collected (journal : Journal) : Journal :=
  { journal with trace := [] }

def recent (journal : Journal) (count : Nat) : List Entry :=
  journal.window.recent count

def last? (journal : Journal) : Option Entry :=
  journal.window.last?

/-- How many entries of the window are of `level` or above. -/
def countAtLeast (journal : Journal) (level : Level) : Nat :=
  journal.entries.countP fun entry => level.rank ≤ entry.level.rank

end Journal

end NvMemory
