import Mathlib.Data.List.Infix
import NvMemory.Proofs.Block
import NvMemory.Proofs.Checksum
import NvMemory.Proofs.Device

/-!
Where the live content of a block comes from while a cycle waits for verification.

The cycle itself changes no block then, but the memory may: a fault damages the content, and a
repair or a new version replaces it as a whole. A `Provenance` keeps the bytes that were last
written as a whole and the faults since, and `LastCopy` names the copy that the cycle waits
for. Whenever a run ends in the phase of verification there is such a copy, and the provenance
counted from it accounts for the content and for the flag of the block.
-/

namespace NvMemory

namespace Sealed

/-- What faults, one after the other, make of a content. -/
def damaged (content : Sealed) (faults : List Fault) : Sealed :=
  faults.foldl (fun content fault => fault.onContent content) content

theorem damaged_cons (content : Sealed) (fault : Fault) (rest : List Fault) :
    content.damaged (fault :: rest) = (fault.onContent content).damaged rest := rfl

theorem damaged_concat (content : Sealed) (faults : List Fault) (last : Fault) :
    content.damaged (faults ++ [last]) = last.onContent (content.damaged faults) :=
  List.foldl_concat _ _ _ _

@[simp] theorem damaged_checksum (content : Sealed) (faults : List Fault) :
    (content.damaged faults).checksum = content.checksum := by
  induction faults generalizing content with
  | nil => rfl
  | cons fault rest ih => rw [damaged_cons, ih, Fault.onContent_checksum]

/-- Faults that zero nothing can only have flipped the first byte, or flipped it back. -/
theorem damaged_of_no_zeroing {faults : List Fault} (unzeroed : .completeCorruption ∉ faults)
    (content : Sealed) :
    content.damaged faults = content ∨ content.damaged faults = content.flipFirst := by
  induction faults generalizing content with
  | nil => exact .inl rfl
  | cons fault rest ih =>
      rw [List.mem_cons, not_or] at unzeroed
      have later := ih unzeroed.2 (fault.onContent content)
      rw [damaged_cons]
      cases fault with
      | completeCorruption => exact absurd rfl unzeroed.1
      | bitFlip =>
          simp only [Fault.onContent, flipFirst_flipFirst] at later
          exact later.symm
      | backupCorruption | versionLoss | versionCorruption => exact later

end Sealed

structure Provenance where
  /-- The bytes that were last written as a whole. -/
  written : List UInt8
  /-- The faults of the content since then, in order. -/
  faults : List Fault
deriving DecidableEq

/-- The operation may replace the content of block `id` as a whole. -/
def Device.Operation.overwrites (id : BlockId) : Device.Operation → Bool
  | .recover target | .writeVersion target _ => target = id
  | _ => false

namespace Provenance

variable {provenance : Provenance} {block damaged : Block} {fault : Fault} {damage : Damage}

def ofBytes (bytes : List UInt8) : Provenance where
  written := bytes
  faults := []

def struck (provenance : Provenance) (fault : Fault) : Provenance :=
  { provenance with faults := provenance.faults ++ [fault] }

def content (provenance : Provenance) : Sealed :=
  (Sealed.ofBytes provenance.written).damaged provenance.faults

/-- The content is accounted for, and the flag tells whether there were faults. -/
structure Explains (provenance : Provenance) (block : Block) : Prop where
  content : block.content = provenance.content
  valid : block.valid = true ↔ provenance.faults = []

theorem content_struck (provenance : Provenance) (fault : Fault) :
    (provenance.struck fault).content = fault.onContent provenance.content :=
  Sealed.damaged_concat _ _ _

theorem explains_commit (block : Block) (bytes : List UInt8) :
    (ofBytes bytes).Explains (block.commit bytes) :=
  ⟨rfl, by simp [Block.commit, ofBytes]⟩

theorem Explains.refreshBackup (explains : provenance.Explains block) :
    provenance.Explains block.refreshBackup :=
  ⟨explains.content, explains.valid⟩

theorem Explains.suffer? (explains : provenance.Explains block)
    (suffers : block.suffer? fault = some (damaged, damage)) :
    (if fault.hitsContent then provenance.struck fault else provenance).Explains damaged := by
  have content := Block.suffer?_content suffers
  have valid := Block.suffer?_valid suffers
  cases hits : fault.hitsContent with
  | true =>
      refine ⟨by rw [content, explains.content, if_pos rfl, content_struck], ?_⟩
      simp [valid, hits, struck]
  | false =>
      rw [Fault.onContent_of_not_hits hits] at content
      rw [hits, Bool.not_false, Bool.and_true] at valid
      refine ⟨content.trans explains.content, ?_⟩
      rw [valid]
      exact explains.valid

def repaired (provenance : Provenance) (block : Block) : Provenance :=
  match block.replacement? with
  | some content => ofBytes content.bytes
  | none => provenance

theorem Explains.repair (explains : provenance.Explains block) :
    (provenance.repaired block).Explains block.repair.1 := by
  unfold repaired
  rcases block.repair_cases with ⟨kept, unchanged⟩ | ⟨content, replaced, intact, placed, valid⟩
  · rw [kept, unchanged]
    exact explains
  · rw [replaced]
    refine ⟨placed.trans ?_, by simp [valid, ofBytes]⟩
    exact (Sealed.ofBytes_bytes_of_isIntact intact).symm

theorem checksum_content (provenance : Provenance) :
    provenance.content.checksum = crc16 provenance.written :=
  Sealed.damaged_checksum _ _

/-- A content that still has its checksum was zeroed, or it is what was written. -/
theorem bytes_of_isIntact (unzeroed : .completeCorruption ∉ provenance.faults)
    (intact : provenance.content.isIntact = true) :
    provenance.content.bytes = provenance.written := by
  rcases Sealed.damaged_of_no_zeroing unzeroed (Sealed.ofBytes provenance.written) with
    same | flipped
  · rw [content, same]
    rfl
  · rw [content, flipped] at intact ⊢
    rw [Sealed.flipFirst_eq_of_isIntact (Sealed.isIntact_ofBytes _) intact]
    rfl

theorem Explains.set {store : BlockStore} {id : BlockId} {updated : Provenance}
    (explains : provenance.Explains block) (found : store.get? id = some block) (other : BlockId)
    (placed : Block) (hit : other = id → updated.Explains placed)
    (missed : other ≠ id → updated = provenance) :
    ∃ held, (store.set other placed).get? id = some held ∧ updated.Explains held := by
  rw [BlockStore.get?_set]
  by_cases same : other = id
  · exact ⟨placed, if_pos same, hit same⟩
  · refine ⟨block, (if_neg same).trans found, ?_⟩
    rw [missed same]
    exact explains

/-- The provenance of block `id` of `store` after an operation with this answer. Operations of the
cycle are left out: none that changes a block is accepted while it waits for verification. -/
def next (provenance : Provenance) (id : BlockId) (store : BlockStore) :
    Device.Operation → Device.Answer → Provenance
  | .inject target fault, .injected _ =>
      if target = id ∧ fault.hitsContent then provenance.struck fault else provenance
  | .recover target, .recovered _ =>
      if target = id then (store.get? id).elim provenance provenance.repaired else provenance
  | .writeVersion target bytes, .versionWritten _ =>
      if target = id then ofBytes bytes else provenance
  | _, _ => provenance

theorem next_cycleRefused (provenance : Provenance) (id : BlockId) (store : BlockStore)
    (operation : Device.Operation) (error : WriteError) :
    provenance.next id store operation (.cycleRefused error) = provenance := by
  cases operation <;> rfl

theorem next_memoryRefused (provenance : Provenance) (id : BlockId) (store : BlockStore)
    (operation : Device.Operation) (error : MemoryError) :
    provenance.next id store operation (.memoryRefused error) = provenance := by
  cases operation <;> rfl

def through (provenance : Provenance) (id : BlockId) (device : Device) :
    List Device.Operation → Provenance
  | [] => provenance
  | operation :: rest =>
      let (after, answer) := device.perform operation
      (provenance.next id device.store operation answer).through id after rest

theorem through_concat (provenance : Provenance) (id : BlockId) (device : Device)
    (operations : List Device.Operation) (last : Device.Operation) :
    provenance.through id device (operations ++ [last]) =
      (provenance.through id device operations).next id (device.after operations).store last
        ((device.after operations).perform last).2 := by
  induction operations generalizing provenance device with
  | nil => rfl
  | cons operation rest ih => exact ih _ _

theorem written_next {provenance : Provenance} {id : BlockId} {operation : Device.Operation}
    (keeps : operation.overwrites id = false) (store : BlockStore) (answer : Device.Answer) :
    (provenance.next id store operation answer).written = provenance.written := by
  unfold next
  split
  · split <;> rfl
  · rw [if_neg (of_decide_eq_false keeps)]
  · rw [if_neg (of_decide_eq_false keeps)]
  · rfl

theorem written_through {id : BlockId} {operations : List Device.Operation}
    (keep : ∀ operation ∈ operations, operation.overwrites id = false)
    (provenance : Provenance) (device : Device) :
    (provenance.through id device operations).written = provenance.written := by
  induction operations generalizing provenance device with
  | nil => rfl
  | cons operation rest ih =>
      rw [List.forall_mem_cons] at keep
      exact (ih keep.2 _ _).trans (written_next keep.1 _ _)

end Provenance

namespace Device

variable {device next : Device} {operation : Operation} {answer : Answer} {id : BlockId}
  {bytes : List UInt8} {provenance : Provenance}

/-- The cycle waits for verification of block `id`, whose provenance is known. -/
structure Awaiting (device : Device) (id : BlockId) (provenance : Provenance) : Prop where
  atStep : device.cycle.AtStep .verify id
  block : ∃ block, device.store.get? id = some block ∧ provenance.Explains block

/-- Only a copy leads to the phase of verification. -/
theorem Step.copied_of_verify (step : Step device operation next answer)
    (before : device.cycle.phase ≠ .verify) (after : next.cycle.phase = .verify) :
    ∃ id bytes, operation = .copy id bytes false ∧
      answer = .copied { phase := .verify, dirty := false } ∧
      next.Awaiting id (.ofBytes bytes) := by
  cases step with
  | copied atStep clean found =>
      exact ⟨_, _, rfl, rfl, ⟨after, atStep.target⟩, _, BlockStore.get?_set_same _ _ _,
        Provenance.explains_commit _ _⟩
  | powerLost aftermath => cases aftermath <;> cases after
  | started | snapshotTaken | persisted | verified | mismatched | cycleReset => cases after
  | foundDirty | lossRefused | injected | recovered | versionWritten | cycleRefused
  | memoryRefused => exact absurd after before

theorem Step.awaiting (step : Step device operation next answer)
    (awaiting : device.Awaiting id provenance) (after : next.cycle.phase = .verify) :
    next.Awaiting id (provenance.next id device.store operation answer) := by
  -- of the operations that change blocks, only those of the memory leave the phase as it is
  obtain ⟨⟨phase, target⟩, block, found, explains⟩ := awaiting
  cases step with
  | copied atStep => cases phase.symm.trans atStep.phase
  | powerLost aftermath => cases aftermath <;> cases after
  | started | snapshotTaken | persisted | verified | mismatched | cycleReset => cases after
  | foundDirty atStep => cases phase.symm.trans atStep.phase
  | lossRefused => exact ⟨⟨after, target⟩, block, found, explains⟩
  | @injected other fault hit damaged damage stored suffers =>
      refine ⟨⟨after, target⟩, explains.set found other damaged ?_ ?_⟩
      · intro same
        rw [same, found] at stored
        cases stored
        simpa only [Provenance.next, same, true_and] using explains.suffer? suffers
      · intro different
        simp only [Provenance.next, different, false_and, if_false]
  | @recovered other hit stored =>
      refine ⟨⟨after, target⟩, explains.set found other hit.repair.1 ?_ ?_⟩
      · intro same
        rw [same, found] at stored
        cases stored
        simpa only [Provenance.next, same, if_true, found, Option.elim_some] using explains.repair
      · intro different
        simp only [Provenance.next, different, if_false]
  | @versionWritten other bytes hit step stored steps =>
      refine ⟨⟨after, target⟩, explains.set found other (hit.commit bytes) ?_ ?_⟩
      · intro same
        simpa only [Provenance.next, same, if_true] using Provenance.explains_commit hit bytes
      · intro different
        simp only [Provenance.next, different, if_false]
  | cycleRefused =>
      rw [Provenance.next_cycleRefused]
      exact ⟨⟨after, target⟩, block, found, explains⟩
  | memoryRefused =>
      rw [Provenance.next_memoryRefused]
      exact ⟨⟨after, target⟩, block, found, explains⟩

/-- The run copied `bytes` into block `id` after `before`, and the cycle has waited for their
verification ever since. -/
structure LastCopy (device : Device) (operations : List Operation) (id : BlockId)
    (bytes : List UInt8) (before between : List Operation) : Prop where
  split : operations = before ++ .copy id bytes false :: between
  accepted : ((device.after before).perform (.copy id bytes false)).2 =
    .copied { phase := .verify, dirty := false }
  waiting : ∀ later ∈ between.inits,
    (device.after (before ++ .copy id bytes false :: later)).cycle.phase = .verify

theorem LastCopy.phase_before {operations before between : List Operation}
    (copy : device.LastCopy operations id bytes before between) :
    (device.after before).cycle.phase = .copy := by
  obtain ⟨next, performed⟩ : ∃ next, (device.after before).perform (.copy id bytes false) =
      (next, .copied { phase := .verify, dirty := false }) := ⟨_, Prod.ext rfl copy.accepted⟩
  cases step_iff.mpr performed with
  | copied atStep => exact atStep.phase

/-- No copy is accepted while the cycle waits, so one that is accepted later was not waited for. -/
theorem LastCopy.before_eq_of_prefix {operations before between before' between' : List Operation}
    {id' : BlockId} {bytes' : List UInt8}
    (copy : device.LastCopy operations id bytes before between)
    (other : device.LastCopy operations id' bytes' before' between')
    (earlier : before <+: before') : before = before' := by
  obtain ⟨later, rfl⟩ := earlier
  cases later with
  | nil => rw [List.append_nil]
  | cons first rest =>
      have split := copy.split.symm.trans other.split
      rw [List.append_assoc, List.append_cancel_left_eq, List.cons_append, List.cons.injEq] at split
      obtain ⟨same, split⟩ := split
      have waits := copy.waiting rest ((List.mem_inits _ _).mpr ⟨_, split.symm⟩)
      rw [same, other.phase_before] at waits
      contradiction

theorem LastCopy.unique {operations before between before' between' : List Operation}
    {id' : BlockId} {bytes' : List UInt8}
    (copy : device.LastCopy operations id bytes before between)
    (other : device.LastCopy operations id' bytes' before' between') :
    id = id' ∧ bytes = bytes' ∧ before = before' ∧ between = between' := by
  have same : before = before' := by
    have left : before <+: operations := ⟨_, copy.split.symm⟩
    have right : before' <+: operations := ⟨_, other.split.symm⟩
    rcases List.prefix_or_prefix_of_prefix left right with earlier | later
    · exact copy.before_eq_of_prefix other earlier
    · exact (other.before_eq_of_prefix copy later).symm
  subst same
  have split := List.append_cancel_left (copy.split.symm.trans other.split)
  simp only [List.cons.injEq, Operation.copy.injEq] at split
  obtain ⟨⟨sameBlock, sameBytes, _⟩, sameRest⟩ := split
  exact ⟨sameBlock, sameBytes, rfl, sameRest⟩

def provenanceSince (device : Device) (id : BlockId) (bytes : List UInt8)
    (before between : List Operation) : Provenance :=
  (Provenance.ofBytes bytes).through id (device.after (before ++ [.copy id bytes false])) between

/-- A run that ends in the phase of verification has a last copy, and what the block holds is
accounted for since then. -/
theorem awaiting_of_verify (fresh : device.cycle.phase ≠ .verify) {operations : List Operation}
    (waits : (device.after operations).cycle.phase = .verify) :
    ∃ id bytes before between, device.LastCopy operations id bytes before between ∧
      (device.after operations).Awaiting id (device.provenanceSince id bytes before between) := by
  induction operations using List.reverseRecOn with
  | nil => exact absurd waits fresh
  | append_singleton earlier last ih =>
      have step := (device.after earlier).perform_step last
      have final : device.after (earlier ++ [last]) = ((device.after earlier).perform last).1 :=
        device.after_append earlier [last]
      rw [final] at waits ⊢
      by_cases already : (device.after earlier).cycle.phase = .verify
      · obtain ⟨id, bytes, before, between, ⟨split, accepted, waiting⟩, awaiting⟩ := ih already
        have reached : device.after earlier =
            (device.after (before ++ [.copy id bytes false])).after between := by
          rw [split, ← after_append, List.append_assoc, List.singleton_append]
        refine ⟨id, bytes, before, between ++ [last], ⟨?_, accepted, ?_⟩, ?_⟩
        · rw [split, List.append_assoc, List.cons_append]
        · intro later member
          rcases List.prefix_concat_iff.mp ((List.mem_inits _ _).mp member) with whole | shorter
          · rwa [whole, ← List.cons_append, ← List.append_assoc, ← split, final]
          · exact waiting later ((List.mem_inits _ _).mpr shorter)
        · rw [provenanceSince, Provenance.through_concat, ← reached]
          exact step.awaiting awaiting waits
      · obtain ⟨id, bytes, same, accepted, awaiting⟩ := step.copied_of_verify already waits
        subst same
        refine ⟨id, bytes, earlier, [], ⟨rfl, accepted, ?_⟩, awaiting⟩
        intro later member
        rw [List.inits, List.mem_singleton] at member
        rwa [member, final]

end Device

end NvMemory
