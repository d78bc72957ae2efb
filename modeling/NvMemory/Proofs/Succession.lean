import NvMemory.Proofs.Checksum
import NvMemory.Proofs.WholeWrite

/-!
Successive versions of a dataset block.

A version is written on its own or by a whole cycle. Either way it is one commit of the block, so that
a list of writes takes the block through its versions one by one, and leaves in the archive what the
block held under each number.
-/

namespace NvMemory

namespace Archive

theorem toNat_nextVersion_of_lt {version : UInt32} (room : version.toNat < 0xFFFFFFFF) :
    (nextVersion version).toNat = version.toNat + 1 := by
  rw [toNat_nextVersion]
  omega

theorem version_supersede {archive : Archive} (room : archive.version.toNat < 0xFFFFFFFF)
    (content : Sealed) : (archive.supersede content).version.toNat = archive.version.toNat + 1 :=
  toNat_nextVersion_of_lt room

end Archive

namespace Block

variable {block later : Block} {archive grown : Archive} {contents : List (List UInt8)}

def commitAll (block : Block) (contents : List (List UInt8)) : Block :=
  contents.foldl commit block

/-- What a block with this archive has become by commits of `contents`, one after the other: each number
from its version on has the content that was live under it, and the other numbers have what they had. -/
structure Succession (block : Block) (archive : Archive) (contents : List (List UInt8))
    (later : Block) (grown : Archive) : Prop where
  protection : later.protection = .dataset grown
  version : grown.version.toNat = archive.version.toNat + contents.length
  valid : later.valid = true
  checksum : later.checksum = crc16 later.bytes
  bytes : (block.bytes :: contents)[contents.length]? = some later.bytes
  archived : ∀ index bytes number, index < contents.length →
    (block.bytes :: contents)[index]? = some bytes →
    number.toNat = archive.version.toNat + index →
    grown.records.get? number = some (Sealed.ofBytes bytes)
  kept : ∀ number : UInt32, number.toNat < archive.version.toNat ∨
      archive.version.toNat + contents.length ≤ number.toNat →
    grown.records.get? number = archive.records.get? number

theorem isSound_commit (block : Block) (bytes : List UInt8) : (block.commit bytes).isSound = true :=
  block.isIntact_commit bytes

theorem succession_nil (versions : block.protection = .dataset archive)
    (sound : block.isSound = true) : block.Succession archive [] block archive := by
  obtain ⟨valid, intact⟩ := Bool.and_eq_true_iff.mp sound
  refine ⟨versions, rfl, valid, (Sealed.isIntact_iff _).mp intact, rfl, ?_, fun _ _ => rfl⟩
  intro index bytes number inside
  contradiction

/-- The commits after the first begin at the next number. The first one puts the content from before
under the number of the version, which none of the others touches. -/
theorem succession_cons {bytes : List UInt8} (intact : block.isIntact = true)
    (room : archive.version.toNat < 0xFFFFFFFF)
    (rest : (block.commit bytes).Succession (archive.supersede block.content) contents later grown) :
    block.Succession archive (bytes :: contents) later grown := by
  have next := Archive.version_supersede room block.content
  have numbered := rest.version
  refine ⟨rest.protection, ?_, rest.valid, rest.checksum, rest.bytes, ?_, ?_⟩
  · simp only [List.length_cons]
    omega
  · intro index content number inside here numbers
    cases index with
    | zero =>
        -- the number that the first commit has filled is below those of the others
        have same : number = archive.version := UInt32.toNat_inj.mp numbers
        have live : Sealed.ofBytes content = block.content := by
          cases here
          exact Sealed.ofBytes_bytes_of_isIntact intact
        rw [rest.kept number (.inl (by omega)), Archive.get?_supersede, if_pos same.symm, live]
    | succ index =>
        simp only [List.length_cons] at inside
        exact rest.archived index content number (by omega) here (by omega)
  · intro number outside
    simp only [List.length_cons] at outside
    have other : archive.version ≠ number := by
      rintro rfl
      omega
    rw [rest.kept number (by omega), Archive.get?_supersede, if_neg other]

theorem succession_commitAll (versions : block.protection = .dataset archive)
    (sound : block.isSound = true) (contents : List (List UInt8))
    (room : archive.version.toNat + contents.length ≤ 0xFFFFFFFF) :
    ∃ grown, block.Succession archive contents (block.commitAll contents) grown := by
  induction contents generalizing block archive with
  | nil => exact ⟨archive, succession_nil versions sound⟩
  | cons bytes rest ih =>
      simp only [List.length_cons] at room
      have below : archive.version.toNat < 0xFFFFFFFF := by omega
      have next := Archive.version_supersede below block.content
      obtain ⟨grown, after⟩ :=
        ih (protection_commit_dataset versions bytes) (block.isSound_commit bytes) (by omega)
      have intact := (Bool.and_eq_true_iff.mp sound).2
      exact ⟨grown, succession_cons intact below after⟩

/-- If the archive had nothing beyond the version, the last but one content is now the newest that is
archived. -/
theorem Succession.newestIntact (succession : block.Succession archive contents later grown)
    (below : ∀ entry ∈ archive.records.entries, entry.1 ≤ archive.version)
    (written : contents ≠ []) :
    ∃ version bytes, version.toNat + 1 = grown.version.toNat ∧
      (block.bytes :: contents)[contents.length - 1]? = some bytes ∧
      grown.NewestIntact version (Sealed.ofBytes bytes) := by
  have some := List.length_pos_iff.mpr written
  have total := succession.version
  have bounded := grown.version.toNat_lt
  have inside : contents.length - 1 < (block.bytes :: contents).length := by
    simp only [List.length_cons]
    omega
  let last := UInt32.ofNat (archive.version.toNat + (contents.length - 1))
  have numbered : last.toNat = archive.version.toNat + (contents.length - 1) :=
    UInt32.toNat_ofNat_of_lt (by rw [UInt32.size]; omega)
  have stored := List.getElem?_eq_getElem inside
  -- a greater number has not been given out, and was not in the archive before either
  refine ⟨last, _, by omega, stored, ?_, Sealed.isIntact_ofBytes _, ?_⟩
  · exact succession.archived _ _ last (by omega) stored numbered
  · intro other held found _
    rw [UInt32.le_iff_toNat_le]
    by_contra above
    rw [succession.kept other (.inr (by omega))] at found
    have old := UInt32.le_iff_toNat_le.mp (below _ (WordMap.mem_entries_iff.mpr found))
    simp only at old
    omega

end Block

namespace Device

variable {device : Device} {id : BlockId} {block : Block} {archive : Archive}

/-- A write of a new version, on its own or by a cycle. Whatever state a cycle has been left in, it may
carry out the write. -/
inductive VersionWrite where
  | alone (bytes : List UInt8)
  | byCycle (cycle : WriteCycle) (bytes : List UInt8)
deriving Repr, DecidableEq

namespace VersionWrite

def bytes : VersionWrite → List UInt8
  | alone bytes => bytes
  | byCycle _ bytes => bytes

def acceptance (id : BlockId) (step : VersionStep) : VersionWrite → Answer
  | alone _ => .versionWritten { block := id, step := step }
  | byCycle _ bytes => .verified { phase := .completed, valid := true, checksum := crc16 bytes }

end VersionWrite

def carryOut (device : Device) (id : BlockId) : VersionWrite → Device × Answer
  | .alone bytes => device.perform (.writeVersion id bytes)
  | .byCycle cycle bytes => answerCycle .verified ((device.withCycle cycle).completeWrite id bytes)

def written (device : Device) (id : BlockId) (writes : List VersionWrite) : Device :=
  writes.foldl (fun device write => (device.carryOut id write).1) device

def version? (device : Device) (id : BlockId) : Option UInt32 :=
  (device.store.get? id).bind fun block => block.protection.archive?.map (·.version)

theorem version?_of_found (found : device.store.get? id = some block)
    (versions : block.protection = .dataset archive) : device.version? id = some archive.version := by
  simp only [version?, found, Option.bind_some, versions, Protection.archive?, Option.map_some]

/-- The two ways come to the same: the cycle verifies what it has committed, and a dataset block has no
backup that it might renew. -/
theorem carryOut_of_found (found : device.store.get? id = some block)
    (versions : block.protection = .dataset archive) (write : VersionWrite) :
    ∃ next, device.carryOut id write = (next, write.acceptance id archive.versionStep) ∧
      next.store.get? id = some (block.commit write.bytes) := by
  cases write with
  | alone bytes =>
      have steps : block.versionStep? = some archive.versionStep := by
        simp only [Block.versionStep?, versions, Protection.archive?, Option.map_some]
      exact ⟨_, (Step.versionWritten found steps).perform_eq, BlockStore.get?_set_same _ _ _⟩
  | byCycle cycle bytes =>
      have held : (device.withCycle cycle).store.get? id = some block := found
      obtain ⟨next, completes, placed⟩ := completeWrite_commits held bytes
      refine ⟨next, ?_, ?_⟩
      · simp only [carryOut, completes, answerCycle, VersionWrite.acceptance]
      · rwa [Block.written_dataset versions] at placed

theorem get?_written (found : device.store.get? id = some block)
    (versions : block.protection = .dataset archive) (writes : List VersionWrite) :
    (device.written id writes).store.get? id =
      some (block.commitAll (writes.map VersionWrite.bytes)) := by
  induction writes generalizing device block archive with
  | nil => exact found
  | cons write rest ih =>
      obtain ⟨next, carried, placed⟩ := carryOut_of_found found versions write
      have after := ih placed (Block.protection_commit_dataset versions write.bytes)
      simp only [written, List.foldl_cons, carried]
      exact after

/-- Damage to the live content is repaired by a rollback to the newest version that is archived. -/
theorem rollback_after_damage {version : UInt32} {bytes : List UInt8} {fault : Fault}
    (found : device.store.get? id = some block) (versions : block.protection = .dataset archive)
    (newest : archive.NewestIntact version (Sealed.ofBytes bytes))
    (damages : fault ∈ [.bitFlip, .completeCorruption]) :
    ∃ hit damage repaired report, device.perform (.inject id fault) = (hit, .injected damage) ∧
      hit.perform (.recover id) = (repaired, .recovered report) ∧
      report.repair = .rolledBack version ∧ repaired.version? id = some version ∧
      repaired.store.bytes id = bytes := by
  obtain ⟨damaged, damage, suffers, kept, unsound⟩ : ∃ damaged damage,
      block.suffer? fault = some (damaged, damage) ∧ damaged.protection = .dataset archive ∧
      damaged.isSound = false := by
    simp only [List.mem_cons, List.not_mem_nil, or_false] at damages
    rcases damages with rfl | rfl <;> exact ⟨_, _, rfl, versions, rfl⟩
  obtain ⟨hit, harm, hits, held⟩ := inject_of_suffers found suffers
  obtain ⟨repaired, report, recovers, outcome, placed⟩ := recover_of_found held
  rw [Block.repair_rollback kept unsound newest] at outcome placed
  exact ⟨hit, harm, repaired, report, hits, recovers, outcome, version?_of_found placed rfl,
    BlockStore.bytes_of_get? placed⟩

/-- A sound dataset block, with nothing archived beyond its version, gets new versions on either way,
the ways mixed at will and cycles in any state. As long as the numbers suffice, each write moves the
version on by one; in the end the block has the last content, and the archive has, number by number,
what was live before, and otherwise what it had. If the live content is then damaged, a repair brings
back the last but one. -/
theorem successive_versions_are_archived (found : device.store.get? id = some block)
    (versions : block.protection = .dataset archive) (sound : block.isSound = true)
    (below : ∀ entry ∈ archive.records.entries, entry.1 ≤ archive.version)
    {writes : List VersionWrite} (written : writes ≠ [])
    (room : archive.version.toNat + writes.length ≤ 0xFFFFFFFF) :
    (∀ before write after, writes = before ++ write :: after →
      let reached := device.written id before
      let next := reached.carryOut id write
      ∃ step : VersionStep, step.previous.toNat = archive.version.toNat + before.length ∧
        step.next.toNat = step.previous.toNat + 1 ∧
        reached.version? id = some step.previous ∧ next.1.version? id = some step.next ∧
        next.2 = write.acceptance id step) ∧
    ∃ final grown, (device.written id writes).store.get? id = some final ∧
      block.Succession archive (writes.map VersionWrite.bytes) final grown ∧
      ∀ fault ∈ [Fault.bitFlip, .completeCorruption],
        ∃ hit damage repaired report version,
          (device.written id writes).perform (.inject id fault) = (hit, .injected damage) ∧
          hit.perform (.recover id) = (repaired, .recovered report) ∧
          report.repair = .rolledBack version ∧ repaired.version? id = some version ∧
          version.toNat + 1 = grown.version.toNat ∧
          (block.bytes :: writes.map VersionWrite.bytes)[writes.length - 1]? =
            some (repaired.store.bytes id) := by
  constructor
  · rintro before write after rfl reached next
    simp only [List.length_append, List.length_cons] at room
    obtain ⟨grown, succession⟩ := Block.succession_commitAll versions sound
      (before.map VersionWrite.bytes) (by rw [List.length_map]; omega)
    have numbered := succession.version
    rw [List.length_map] at numbered
    have held := get?_written found versions before
    obtain ⟨later, carried, placed⟩ := carryOut_of_found held succession.protection write
    have moved := Block.protection_commit_dataset succession.protection write.bytes
    refine ⟨grown.versionStep, numbered, Archive.toNat_nextVersion_of_lt (by omega),
      version?_of_found held succession.protection, ?_, congrArg Prod.snd carried⟩
    exact (congrArg (version? ·.1 id) carried).trans (version?_of_found placed moved)
  · obtain ⟨grown, succession⟩ := Block.succession_commitAll versions sound
      (writes.map VersionWrite.bytes) (by rw [List.length_map]; omega)
    have held := get?_written found versions writes
    obtain ⟨version, bytes, numbered, live, newest⟩ :=
      succession.newestIntact below (by simpa using written)
    rw [List.length_map] at live
    refine ⟨_, grown, held, succession, fun fault damages => ?_⟩
    obtain ⟨hit, damage, repaired, report, hits, recovers, outcome, back, shown⟩ :=
      rollback_after_damage held succession.protection newest damages
    exact ⟨hit, damage, repaired, report, version, hits, recovers, outcome, back, numbered,
      shown ▸ live⟩

/-- The block for demonstration gets four versions: on its own, by a cycle that was interrupted in the
write of another block, once more on its own, and by a fresh cycle. -/
theorem mixed_writes_are_archived :
    let block := Block.dataset ⟨2⟩ (BlockStore.pattern 0x12 0x34 0x56 0x78) 2
      [(1, BlockStore.pattern 0x11 0x22 0x33 0x44), (2, BlockStore.pattern 0x12 0x34 0x56 0x78)]
    let archive : Archive := {
      version := 2
      records := WordMap.ofList [
        (1, Sealed.ofBytes (BlockStore.pattern 0x11 0x22 0x33 0x44)),
        (2, Sealed.ofBytes (BlockStore.pattern 0x12 0x34 0x56 0x78))] }
    let device := ofMemory Memory.seeded
    let interrupted := (device.after [.start ⟨1⟩ [9], .takeSnapshot ⟨1⟩, .losePower .duringPhase2]).cycle
    let writes : List VersionWrite :=
      [.alone [1], .byCycle interrupted [2, 3], .alone [], .byCycle WriteCycle.fresh [4]]
    device.store.get? ⟨2⟩ = some block ∧ block.protection = .dataset archive ∧
      block.isSound = true ∧ (∀ entry ∈ archive.records.entries, entry.1 ≤ archive.version) ∧
      ((device.written ⟨2⟩ [.alone [1]]).carryOut ⟨2⟩ (.byCycle interrupted [2, 3])).2 =
        .verified { phase := .completed, valid := true, checksum := crc16 [2, 3] } ∧
      ∃ (final : Block) (grown : Archive),
        (device.written ⟨2⟩ writes).store.get? ⟨2⟩ = some final ∧
        final.protection = .dataset grown ∧ final.bytes = [4] ∧ grown.version.toNat = 6 ∧
        grown.records.get? 1 = archive.records.get? 1 ∧
        grown.records.get? 4 = some (Sealed.ofBytes [2, 3]) ∧
        ∃ hit damage repaired report version,
          (device.written ⟨2⟩ writes).perform (.inject ⟨2⟩ .completeCorruption) =
            (hit, .injected damage) ∧
          hit.perform (.recover ⟨2⟩) = (repaired, .recovered report) ∧
          report.repair = .rolledBack version ∧ version.toNat = 5 ∧
          repaired.store.bytes ⟨2⟩ = [] := by
  intro block archive device interrupted writes
  have found : device.store.get? ⟨2⟩ = some block := by decide +kernel
  have versions : block.protection = .dataset archive := by decide +kernel
  have sound : block.isSound = true := by decide +kernel
  have below : ∀ entry ∈ archive.records.entries, entry.1 ≤ archive.version := by decide +kernel
  have written : writes ≠ [] := List.cons_ne_nil _ _
  obtain ⟨steps, final, grown, held, succession, repairs⟩ :=
    successive_versions_are_archived found versions sound below written (by decide +kernel)
  obtain ⟨_, _, _, _, _, verified⟩ := steps [.alone [1]] (.byCycle interrupted [2, 3])
    [.alone [], .byCycle WriteCycle.fresh [4]] rfl
  obtain ⟨hit, damage, repaired, report, version, hits, recovers, outcome, _, numbered, shown⟩ :=
    repairs .completeCorruption (by decide)
  have last := succession.version
  refine ⟨found, versions, sound, below, verified, final, grown, held, succession.protection, ?_, last, ?_, ?_,
    hit, damage, repaired, report, version, hits, recovers, outcome, ?_, ?_⟩
  · exact (Option.some.inj succession.bytes).symm
  · exact succession.kept 1 (.inl (by decide))
  · exact succession.archived 2 [2, 3] 4 (by decide) rfl rfl
  · exact Nat.succ.inj (numbered.trans last)
  · exact (Option.some.inj shown).symm

end Device

end NvMemory
