import NvMemory.Json.Document
import NvMemory.Json.Value

/-!
Scheduler settings and their JSON form.

A document may give any of the settings, by name in an object or by position in an array;
the others keep their standard values. `Setting` names them, and `Settings.get` and
`Settings.set` are the view through which documents are read and written.
-/

namespace NvMemory

inductive Setting where
  | readLatency
  | writeLatency
  | verifyLatency
  | completionLatency
  | retryModulus
  | maxRetries
  | historyDepth
  | initialBlocks
  | queueCapacity
  | eventCapacity
deriving Repr, DecidableEq

namespace Setting

/-- All settings, in the order in which documents list them. -/
def all : List Setting :=
  [.readLatency, .writeLatency, .verifyLatency, .completionLatency, .retryModulus, .maxRetries,
    .historyDepth, .initialBlocks, .queueCapacity, .eventCapacity]

def key : Setting → String
  | .readLatency => "read_latency_ms"
  | .writeLatency => "write_latency_ms"
  | .verifyLatency => "verify_latency_ms"
  | .completionLatency => "completion_latency_ms"
  | .retryModulus => "retry_modulus"
  | .maxRetries => "max_retries"
  | .historyDepth => "history_depth"
  | .initialBlocks => "initial_blocks"
  | .queueCapacity => "queue_capacity"
  | .eventCapacity => "event_log_capacity"

def limit : Setting → Nat
  | .maxRetries | .initialBlocks => 0xFFFFFFFF
  | _ => 0xFFFFFFFFFFFFFFFF

def ofKey? (key : String) : Option Setting :=
  all.find? (·.key == key)

/-- The settings that a scheduler cannot work with at zero, in the order of their check. -/
def positive : List Setting :=
  [.retryModulus, .queueCapacity, .historyDepth]

end Setting

structure Settings where
  /-- Milliseconds spent reading. -/
  readLatency : UInt64 := 5
  /-- Milliseconds spent writing. -/
  writeLatency : UInt64 := 10
  /-- Milliseconds spent verifying what was read or written. -/
  verifyLatency : UInt64 := 5
  /-- Milliseconds spent completing a job. -/
  completionLatency : UInt64 := 5
  /-- A write fails its first verification when the time is a multiple of this. -/
  retryModulus : UInt64 := 17
  /-- How often a job may be retried. -/
  maxRetries : UInt32 := 3
  /-- How many transitions a block remembers. -/
  historyDepth : UInt64 := 5
  /-- Blocks with numbers below this are known from the start. -/
  initialBlocks : UInt32 := 4
  /-- How many jobs may be pending. -/
  queueCapacity : UInt64 := 32
  /-- How many events the journal keeps. -/
  eventCapacity : UInt64 := 64
deriving Repr, DecidableEq

inductive SettingsError where
  /-- The text is no settings document. -/
  | malformed
  | mustBeNonZero (setting : Setting)
deriving Repr, DecidableEq

namespace SettingsError

def message : SettingsError → String
  | .malformed => "Invalid scheduler configuration: not a configuration document"
  | .mustBeNonZero setting =>
      "Invalid scheduler configuration: " ++ setting.key ++ " must be non-zero"

end SettingsError

namespace Settings

def standard : Settings := {}

instance : Inhabited Settings := ⟨standard⟩

def get (settings : Settings) : Setting → Nat
  | .readLatency => settings.readLatency.toNat
  | .writeLatency => settings.writeLatency.toNat
  | .verifyLatency => settings.verifyLatency.toNat
  | .completionLatency => settings.completionLatency.toNat
  | .retryModulus => settings.retryModulus.toNat
  | .maxRetries => settings.maxRetries.toNat
  | .historyDepth => settings.historyDepth.toNat
  | .initialBlocks => settings.initialBlocks.toNat
  | .queueCapacity => settings.queueCapacity.toNat
  | .eventCapacity => settings.eventCapacity.toNat

def set (settings : Settings) (setting : Setting) (value : Nat) : Settings :=
  match setting with
  | .readLatency => { settings with readLatency := UInt64.ofNat value }
  | .writeLatency => { settings with writeLatency := UInt64.ofNat value }
  | .verifyLatency => { settings with verifyLatency := UInt64.ofNat value }
  | .completionLatency => { settings with completionLatency := UInt64.ofNat value }
  | .retryModulus => { settings with retryModulus := UInt64.ofNat value }
  | .maxRetries => { settings with maxRetries := UInt32.ofNat value }
  | .historyDepth => { settings with historyDepth := UInt64.ofNat value }
  | .initialBlocks => { settings with initialBlocks := UInt32.ofNat value }
  | .queueCapacity => { settings with queueCapacity := UInt64.ofNat value }
  | .eventCapacity => { settings with eventCapacity := UInt64.ofNat value }

theorem get_set_same (settings : Settings) (setting : Setting) {value : Nat}
    (fits : value ≤ setting.limit) : (settings.set setting value).get setting = value := by
  cases setting <;> simp only [set, get, UInt64.toNat_ofNat', UInt32.toNat_ofNat'] <;>
    exact Nat.mod_eq_of_lt (Nat.lt_succ_of_le fits)

theorem get_set_other (settings : Settings) {setting other : Setting}
    (different : setting ≠ other) (value : Nat) :
    (settings.set setting value).get other = settings.get other := by
  cases setting <;> cases other <;> simp_all [set, get]

theorem get_le_limit (settings : Settings) (setting : Setting) :
    settings.get setting ≤ setting.limit := by
  have read := settings.readLatency.toNat_lt
  have write := settings.writeLatency.toNat_lt
  have verify := settings.verifyLatency.toNat_lt
  have completion := settings.completionLatency.toNat_lt
  have modulus := settings.retryModulus.toNat_lt
  have retries := settings.maxRetries.toNat_lt
  have depth := settings.historyDepth.toNat_lt
  have blocks := settings.initialBlocks.toNat_lt
  have queue := settings.queueCapacity.toNat_lt
  have events := settings.eventCapacity.toNat_lt
  cases setting <;> simp only [get, Setting.limit] <;> omega

/-- Settings are equal when every one of them is. -/
theorem ext_get {first second : Settings}
    (same : ∀ setting, first.get setting = second.get setting) : first = second := by
  obtain ⟨a, b, c, d, e, f, g, h, i, j⟩ := first
  obtain ⟨a', b', c', d', e', f', g', h', i', j'⟩ := second
  have read := same .readLatency
  have write := same .writeLatency
  have verify := same .verifyLatency
  have completion := same .completionLatency
  have modulus := same .retryModulus
  have retries := same .maxRetries
  have depth := same .historyDepth
  have blocks := same .initialBlocks
  have queue := same .queueCapacity
  have events := same .eventCapacity
  simp only [get, UInt64.toNat_inj, UInt32.toNat_inj] at *
  simp only [*]

/-- The first setting that must not be zero and is. -/
def firstZero? (settings : Settings) : Option Setting :=
  Setting.positive.find? fun setting => settings.get setting == 0

def check (settings : Settings) : Except SettingsError Settings :=
  match settings.firstZero? with
  | some setting => .error (.mustBeNonZero setting)
  | none => .ok settings

def toJson (settings : Settings) : Json.Value :=
  .object (Setting.all.map fun setting => (setting.key, .natural (settings.get setting)))

def render (settings : Settings) : String :=
  settings.toJson.pretty

/-- Takes over the value that a document gives for one setting. -/
def take? (settings : Settings) (setting : Setting) (document : Json.Document) :
    Option Settings :=
  (document.upTo? setting.limit).map (settings.set setting)

/-- Reads the members of an object. A setting is given at most once; members with other
names are passed over. -/
def ofMembers? (settings : Settings) (given : List Setting) :
    List (Option String × Json.Document) → Option Settings
  | [] => some settings
  | (none, _) :: _ => none
  | (some key, document) :: rest =>
      match Setting.ofKey? key with
      | none => ofMembers? settings given rest
      | some setting =>
          if setting ∈ given then none
          else (settings.take? setting document).bind fun updated =>
            ofMembers? updated (setting :: given) rest

/-- Reads values for settings in their order; there may be fewer values than settings. -/
def ofItems? (settings : Settings) : List Setting → List Json.Document → Option Settings
  | _, [] => some settings
  | [], _ :: _ => none
  | setting :: others, document :: rest =>
      (settings.take? setting document).bind fun updated => ofItems? updated others rest

def ofDocument? : Json.Document → Option Settings
  | .object members => ofMembers? standard [] members
  | .array items => ofItems? standard Setting.all items
  | _ => none

def parse (bytes : List UInt8) : Except SettingsError Settings :=
  match (Json.Document.parse? bytes).bind ofDocument? with
  | some settings => settings.check
  | none => .error .malformed

end Settings

end NvMemory
