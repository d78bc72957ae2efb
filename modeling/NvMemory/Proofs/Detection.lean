import NvMemory.Proofs.Archive
import NvMemory.Proofs.Checksum
import NvMemory.Proofs.Memory

/-!
Which damage a checksum makes visible.

Two bytes next to each other fill the register, and it takes them in without a loss, so that a change
within them is never lost either. The faults that flip the first byte of a payload are such changes:
a payload that had its checksum does not have it afterwards, and has it again when the same fault
hits it a second time.
-/

namespace NvMemory

/-- A change within two bytes that follow each other changes the checksum. -/
theorem crc16_ne_of_burst {left right : List UInt8} {index : Nat}
    (length : left.length = right.length) (differ : left ≠ right)
    (agree : ∀ other, other ≠ index → other ≠ index + 1 → left[other]? = right[other]?) :
    crc16 left ≠ crc16 right := by
  intro same
  exact differ (Crc.eq_of_run_eq index length agree (congrArg Checksum.bits same))

theorem Sealed.isIntact_flipFirst {content : Sealed} (filled : content.bytes ≠ [])
    (intact : content.isIntact = true) : content.flipFirst.isIntact = false := by
  apply Bool.eq_false_iff.mpr
  intro still
  have kept : content.flipFirst.bytes = content.bytes :=
    congrArg Sealed.bytes (flipFirst_eq_of_isIntact intact still)
  obtain ⟨bytes, checksum⟩ := content
  cases bytes with
  | nil => contradiction
  | cons first rest =>
      have same : first ^^^ 0xFF = first ^^^ 0 :=
        (List.cons.inj kept).1.trans UInt8.xor_zero.symm
      have none : (0xFF : UInt8) = 0 := (UInt8.xor_right_inj first).mp same
      contradiction

namespace WordMap

variable {β : Type} {map : WordMap β} {key : UInt32} {value : β}

theorem last?_eq_some_iff :
    map.last? = some (key, value) ↔
      map.get? key = some value ∧ ∀ other held, map.get? other = some held → other ≤ key := by
  have walked : map.last? = map.findLast? fun _ => true := by
    rw [last?, findLast?, ← List.head?_reverse]
    cases map.entries.reverse <;> rfl
  rw [walked, findLast?_eq_some_iff]
  simp

theorem last?_insert (last : map.last? = some (key, value)) (next : β) :
    (map.insert key next).last? = some (key, next) := by
  obtain ⟨_, greatest⟩ := last?_eq_some_iff.mp last
  refine last?_eq_some_iff.mpr ⟨map.get?_insert_same key next, fun other held found => ?_⟩
  rw [get?_insert] at found
  split at found
  · rename_i same
    rw [same]
    exact UInt32.le_refl _
  · exact greatest other held found

end WordMap

namespace Block

variable {block : Block} {fault : Fault} {payload : Sealed}

/-- The payload whose first byte the fault flips, if the block has one. -/
def payload? (block : Block) : Fault → Option Sealed
  | .bitFlip => some block.content
  | .backupCorruption => block.protection.backup?
  | .versionCorruption =>
      block.protection.archive?.bind fun archive => archive.records.last?.map Prod.snd
  | .completeCorruption | .versionLoss => none

theorem suffer?_of_payload (touched : block.payload? fault = some payload) :
    ∃ damaged damage, block.suffer? fault = some (damaged, damage) ∧
      damaged.payload? fault = some payload.flipFirst := by
  cases fault with
  | bitFlip =>
      cases touched
      exact ⟨_, _, rfl, rfl⟩
  | backupCorruption =>
      cases protects : block.protection with
      | native | dataset => simp [payload?, protects, Protection.backup?] at touched
      | redundant backup =>
          simp only [payload?, protects, Protection.backup?, Option.some.injEq] at touched
          subst touched
          simp only [suffer?, protects]
          exact ⟨_, _, rfl, rfl⟩
  | versionCorruption =>
      cases protects : block.protection with
      | native | redundant => simp [payload?, protects, Protection.archive?] at touched
      | dataset archive =>
          simp only [payload?, protects, Protection.archive?, Option.bind_some,
            Option.map_eq_some_iff] at touched
          obtain ⟨⟨version, record⟩, last, rfl⟩ := touched
          have hit := WordMap.last?_insert last record.flipFirst
          simp only [suffer?, protects, Archive.corruptNewest, last]
          refine ⟨_, _, rfl, ?_⟩
          simp only [payload?, Protection.archive?, Option.bind_some, hit, Option.map_some]
  | completeCorruption | versionLoss => contradiction

end Block

namespace Memory

variable {memory : Memory} {id : BlockId} {block : Block} {fault : Fault} {payload : Sealed}

theorem inject_of_payload (found : memory.store.get? id = some block)
    (touched : block.payload? fault = some payload) :
    ∃ hit report damaged, memory.inject id fault = .ok (hit, report) ∧
      hit.store.get? id = some damaged ∧ damaged.payload? fault = some payload.flipFirst := by
  obtain ⟨damaged, damage, suffers, flipped⟩ := Block.suffer?_of_payload touched
  exact ⟨_, _, damaged, inject_eq_ok_iff.mpr ⟨block, damaged, damage, found, suffers, rfl⟩,
    BlockStore.get?_set_same _ _ _, flipped⟩

/-- Strings of the same length that differ, but only within two bytes that follow each other, have
different checksums. A fault that flips the first byte of an intact payload, be it the live content,
the backup or the newest archived version, therefore leaves it without its checksum, and the same
fault once more puts it back as it was. -/
theorem short_burst_fails_check :
    (∀ (left right : List UInt8) (index : Nat), left.length = right.length → left ≠ right →
      (∀ other, other ≠ index → other ≠ index + 1 → left[other]? = right[other]?) →
      crc16 left ≠ crc16 right) ∧
    ∀ (memory : Memory) (id : BlockId) (block : Block) (fault : Fault) (payload : Sealed),
      memory.store.get? id = some block → block.payload? fault = some payload →
      payload.bytes ≠ [] → payload.isIntact = true →
      ∃ hit report damaged, memory.inject id fault = .ok (hit, report) ∧
        hit.store.get? id = some damaged ∧
        damaged.payload? fault = some payload.flipFirst ∧ payload.flipFirst.isIntact = false ∧
        ∃ again report mended, hit.inject id fault = .ok (again, report) ∧
          again.store.get? id = some mended ∧ mended.payload? fault = some payload := by
  refine ⟨fun left right index => crc16_ne_of_burst, ?_⟩
  intro memory id block fault payload found touched filled intact
  obtain ⟨hit, report, damaged, injected, placed, flipped⟩ := inject_of_payload found touched
  obtain ⟨again, report', mended, repeated, left, back⟩ := inject_of_payload placed flipped
  rw [Sealed.flipFirst_flipFirst] at back
  exact ⟨hit, report, damaged, injected, placed, flipped, Sealed.isIntact_flipFirst filled intact,
    again, report', mended, repeated, left, back⟩

/-- Two bytes next to each other are changed, and the newest version in an archive is hit twice. -/
theorem flipped_version_fails_check :
    let record := Sealed.ofBytes (BlockStore.pattern 0x12 0x34 0x56 0x78)
    crc16 [1, 2, 3, 4] ≠ crc16 [1, 0xFF, 0, 4] ∧
      ∃ hit report damaged, seeded.inject ⟨2⟩ .versionCorruption = .ok (hit, report) ∧
        hit.store.get? ⟨2⟩ = some damaged ∧
        damaged.payload? .versionCorruption = some record.flipFirst ∧
        record.flipFirst.isIntact = false ∧
        ∃ again report mended, hit.inject ⟨2⟩ .versionCorruption = .ok (again, report) ∧
          again.store.get? ⟨2⟩ = some mended ∧
          mended.payload? .versionCorruption = some record := by
  intro record
  obtain ⟨bursts, faults⟩ := short_burst_fails_check
  constructor
  case left =>
    refine bursts [1, 2, 3, 4] [1, 0xFF, 0, 4] 1 rfl (by decide) fun other first second => ?_
    rcases other with _ | _ | _ | _ | other
    all_goals first | rfl | contradiction
  case right =>
    have touched : (seeded.store.get? ⟨2⟩).bind (·.payload? .versionCorruption) = some record := by
      decide +kernel
    obtain ⟨block, found, touched⟩ := Option.bind_eq_some_iff.mp touched
    apply faults seeded ⟨2⟩ block .versionCorruption record found touched
    · decide
    · decide +kernel

end Memory

end NvMemory
