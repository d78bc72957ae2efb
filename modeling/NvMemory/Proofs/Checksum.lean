import Mathlib.Logic.Function.Basic
import NvMemory.Block.Sealed

/-!
What the checksum tells apart.

The register takes in each byte without a loss: two registers that are fed the same bytes stay
different, and so do equal registers that are fed different bytes. Strings with one different
byte therefore have different checksums, which makes a flipped byte visible. Since shifting is
linear, two bytes come to one word that is shifted out at once (`Crc.feed_feed`), and a change within
two bytes shows as well. Nothing like it holds of a zeroed content, which may have the recorded
checksum by chance.
-/

namespace NvMemory

namespace Crc

theorem getLsbD_zero_shift (register : Register) :
    (shift register).getLsbD 0 = register.msb := by
  unfold shift
  cases register.msb <;> simp [polynomial]

/-- The bit that was shifted out comes back as the lowest bit, since the polynomial is odd. -/
theorem shift_injective : Function.Injective shift := by
  intro left right same
  have top : left.msb = right.msb := by
    rw [← getLsbD_zero_shift, same, getLsbD_zero_shift]
  have low : left <<< 1 = right <<< 1 := by
    unfold shift at same
    rw [top] at same
    split at same
    · exact (BitVec.xor_left_inj _).mp same
    · exact same
  apply BitVec.eq_of_getLsbD_eq
  intro index bounded
  by_cases last : index = 15
  · subst last
    simpa [BitVec.msb_eq_getLsbD_last] using top
  · have moved := congrArg (fun register => register.getLsbD (index + 1)) low
    have inside : index + 1 < 16 := by omega
    simpa only [BitVec.getLsbD_shiftLeft, inside, decide_true, Bool.true_and,
      Nat.not_lt.mpr (Nat.le_add_left 1 index), decide_false, Bool.not_false,
      Nat.add_sub_cancel] using moved

theorem shifts_injective (count : Nat) : Function.Injective (shifts count) := by
  induction count with
  | zero => exact fun _ _ same => same
  | succ count ih => exact fun _ _ same => shift_injective (ih same)

theorem feed_injective (byte : UInt8) : Function.Injective (feed · byte) := by
  intro left right same
  exact (BitVec.xor_left_inj _).mp (shifts_injective 8 same)

theorem feed_injective_byte (register : Register) : Function.Injective (feed register) := by
  intro left right same
  have raised := (BitVec.xor_right_inj _).mp (shifts_injective 8 same)
  apply UInt8.toBitVec_inj.mp
  apply BitVec.eq_of_getLsbD_eq
  intro index bounded
  have moved := congrArg (fun register => register.getLsbD (index + 8)) raised
  have inside : index + 8 < 16 := by omega
  have within : index < 16 := by omega
  simpa only [BitVec.getLsbD_shiftLeft, BitVec.getLsbD_setWidth, inside, within, decide_true,
    Bool.true_and, Nat.not_lt.mpr (Nat.le_add_left 8 index), decide_false, Bool.not_false,
    Nat.add_sub_cancel] using moved

theorem run_injective (bytes : List UInt8) : Function.Injective (run · bytes) := by
  induction bytes with
  | nil => exact fun _ _ same => same
  | cons byte rest ih => exact fun _ _ same => feed_injective byte (ih same)

theorem shift_xor (left right : Register) :
    shift (left ^^^ right) = shift left ^^^ shift right := by
  have cancel (first second : Register) :
      first ^^^ second = (first ^^^ polynomial) ^^^ (second ^^^ polynomial) := by
    rw [BitVec.xor_assoc, BitVec.xor_comm second, ← BitVec.xor_assoc polynomial, BitVec.xor_self,
      BitVec.zero_xor]
  simp only [shift, BitVec.msb_xor, BitVec.shiftLeft_xor_distrib]
  cases left.msb <;> cases right.msb
  case false.false => rfl
  case false.true => exact BitVec.xor_assoc _ _ _
  case true.false =>
    simp only [Bool.true_bne, Bool.not_false, if_true, Bool.false_eq_true, if_false]
    rw [BitVec.xor_assoc, BitVec.xor_assoc, BitVec.xor_comm polynomial]
  case true.true => exact cancel _ _

theorem shifts_xor (count : Nat) (left right : Register) :
    shifts count (left ^^^ right) = shifts count left ^^^ shifts count right := by
  induction count generalizing left right with
  | zero => rfl
  | succ count ih => simp only [shifts, shift_xor, ih]

theorem shifts_add (first second : Nat) (register : Register) :
    shifts (first + second) register = shifts second (shifts first register) := by
  induction first generalizing register with
  | zero => rw [Nat.zero_add]; rfl
  | succ first ih => rw [Nat.succ_add]; exact ih _

/-- As long as only zeros are shifted out, the polynomial is not taken away. -/
theorem shifts_of_clear {register : Register} (count : Nat)
    (clear : ∀ index, 16 ≤ index + count → register.getLsbD index = false) :
    shifts count register = register <<< count := by
  induction count generalizing register with
  | zero => rw [BitVec.shiftLeft_zero]; rfl
  | succ count ih =>
      have top : register.msb = false := by
        rw [BitVec.msb_eq_getLsbD_last]
        exact clear 15 (by omega)
      have shifted : shift register = register <<< 1 := by
        simp only [shift, top, Bool.false_eq_true, if_false]
      rw [shifts, shifted, ih, ← BitVec.shiftLeft_add, Nat.add_comm]
      intro index bounded
      simp only [BitVec.getLsbD_shiftLeft, clear (index - 1) (by omega), Bool.and_false]

def pair (first second : UInt8) : Register :=
  first.toBitVec ++ second.toBitVec

theorem pair_inj {first second first' second' : UInt8} :
    pair first second = pair first' second' ↔ first = first' ∧ second = second' := by
  constructor
  · intro same
    have high := congrArg (BitVec.extractLsb' 8 8) same
    have low := congrArg (BitVec.extractLsb' 0 8) same
    simp only [pair, BitVec.extractLsb'_append_eq_left, BitVec.extractLsb'_append_eq_right,
      UInt8.toBitVec_inj] at high low
    exact ⟨high, low⟩
  · rintro ⟨rfl, rfl⟩
    rfl

theorem pair_eq_xor (first second : UInt8) :
    pair first second = (first.toBitVec.setWidth 16 <<< 8) ^^^ second.toBitVec.setWidth 16 := by
  apply BitVec.eq_of_getLsbD_eq
  intro index bounded
  simp only [pair, BitVec.getLsbD_append, BitVec.getLsbD_xor, BitVec.getLsbD_shiftLeft,
    BitVec.getLsbD_setWidth, bounded, decide_true, Bool.true_and]
  by_cases low : index < 8
  · simp [low]
  · have within : index - 8 < 16 := by omega
    simp [low, within, BitVec.getLsbD_of_ge second.toBitVec index (Nat.not_lt.mp low)]

theorem feed_feed (register : Register) (first second : UInt8) :
    feed (feed register first) second = shifts 16 (register ^^^ pair first second) := by
  have low : shifts 8 (second.toBitVec.setWidth 16) = second.toBitVec.setWidth 16 <<< 8 := by
    refine shifts_of_clear 8 fun index bounded => ?_
    rw [BitVec.getLsbD_setWidth, BitVec.getLsbD_of_ge _ _ (by omega), Bool.and_false]
  calc feed (feed register first) second
      = shifts 8 (shifts 8 (register ^^^ (first.toBitVec.setWidth 16 <<< 8)) ^^^
          shifts 8 (second.toBitVec.setWidth 16)) := by rw [low]; rfl
    _ = shifts 16 (register ^^^ pair first second) := by
        rw [← shifts_xor, ← shifts_add, BitVec.xor_assoc, ← pair_eq_xor]

theorem feed_feed_inj {register : Register} {first second first' second' : UInt8} :
    feed (feed register first) second = feed (feed register first') second' ↔
      first = first' ∧ second = second' := by
  rw [feed_feed, feed_feed, (shifts_injective 16).eq_iff, BitVec.xor_right_inj, pair_inj]

/-- Strings of one length that agree outside of two bytes in a row are the same if they lead to the same
register. -/
theorem eq_of_run_eq {register : Register} {left right : List UInt8} (index : Nat)
    (length : left.length = right.length)
    (agree : ∀ other, other ≠ index → other ≠ index + 1 → left[other]? = right[other]?)
    (same : run register left = run register right) : left = right := by
  induction index generalizing register left right with
  | zero =>
      match left, right with
      | [], [] => rfl
      | [first], [first'] =>
          have bytes : first = first' := feed_injective_byte register same
          rw [bytes]
      | first :: second :: rest, first' :: second' :: rest' =>
          have tails : rest = rest' :=
            List.ext_getElem? fun other => agree (other + 2) (by omega) (by omega)
          subst tails
          have fed : feed (feed register first) second = feed (feed register first') second' :=
            run_injective rest same
          obtain ⟨rfl, rfl⟩ := feed_feed_inj.mp fed
          rfl
  | succ index ih =>
      match left, right with
      | [], [] => rfl
      | first :: rest, first' :: rest' =>
          have heads : first = first' := Option.some.inj (agree 0 (by omega) (by omega))
          subst heads
          rw [ih (Nat.succ.inj length) (fun other apart away => ?_) same]
          exact agree (other + 1) (by omega) (by omega)

end Crc

/-- Strings that differ in their first byte only have different checksums. -/
theorem crc16_cons_inj {left right : UInt8} {rest : List UInt8} :
    crc16 (left :: rest) = crc16 (right :: rest) ↔ left = right := by
  constructor
  · intro same
    have registers : Crc.run (Crc.feed Crc.initial left) rest =
        Crc.run (Crc.feed Crc.initial right) rest := congrArg Checksum.bits same
    exact Crc.feed_injective_byte Crc.initial (Crc.run_injective rest registers)
  · exact congrArg fun byte => crc16 (byte :: rest)

namespace Sealed

variable {content : Sealed}

theorem ofBytes_bytes_of_isIntact (intact : content.isIntact = true) :
    ofBytes content.bytes = content := by
  rw [ofBytes, ← (isIntact_iff content).mp intact]

theorem flipFirst_flipFirst (content : Sealed) : content.flipFirst.flipFirst = content := by
  obtain ⟨bytes, checksum⟩ := content
  cases bytes with
  | nil => rfl
  | cons first rest =>
      have back : first ^^^ 0xFF ^^^ 0xFF = first := by
        rw [UInt8.xor_assoc, UInt8.xor_self, UInt8.xor_zero]
      simp only [flipFirst, back]

theorem flipFirst_eq_of_isIntact (intact : content.isIntact = true)
    (flipped : content.flipFirst.isIntact = true) : content.flipFirst = content := by
  obtain ⟨bytes, checksum⟩ := content
  cases bytes with
  | nil => rfl
  | cons first rest =>
      have recorded := (isIntact_iff _).mp intact
      have same : first ^^^ 0xFF = first :=
        crc16_cons_inj.mp (((isIntact_iff _).mp flipped).symm.trans recorded)
      simp only [flipFirst, same]

end Sealed

end NvMemory
