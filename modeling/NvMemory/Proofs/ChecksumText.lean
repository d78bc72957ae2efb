import Mathlib.Data.List.Forall2
import Mathlib.Data.Nat.Digits.Lemmas
import NvMemory.Checksum

/-!
The texts that are read as checksums.

`Hex.Denotes` says which number a row of digits stands for, in terms of two alphabets and not of the
reader. Every text is either read as the checksum that it spells, or refused for one of three reasons,
and which one it is depends on the text alone (`Checksum.parse_tells_spelling`).
-/

namespace NvMemory

namespace Hex

def upperCase : List Char :=
  ['0', '1', '2', '3', '4', '5', '6', '7', '8', '9', 'A', 'B', 'C', 'D', 'E', 'F']

def lowerCase : List Char :=
  ['0', '1', '2', '3', '4', '5', '6', '7', '8', '9', 'a', 'b', 'c', 'd', 'e', 'f']

/-- The character is the digit of this value, in either case. -/
def IsDigit (char : Char) (value : Nat) : Prop :=
  upperCase[value]? = some char ∨ lowerCase[value]? = some char

instance (char : Char) (value : Nat) : Decidable (IsDigit char value) :=
  inferInstanceAs (Decidable (_ ∨ _))

/-- The characters are the digits of this value, most significant first. -/
def Denotes (chars : List Char) (value : Nat) : Prop :=
  ∃ digits, List.Forall₂ IsDigit chars.reverse digits ∧ Nat.ofDigits 16 digits = value

variable {char : Char} {chars : List Char} {value : Nat}

theorem IsDigit.lt (digit : IsDigit char value) : value < 16 := by
  rcases digit with found | found
  all_goals exact (List.getElem?_eq_some_iff.mp found).1

theorem IsDigit.spec (digit : IsDigit char value) :
    digitValue? char = some value ∧ char.utf8Size = 1 := by
  have known : ∀ alphabet ∈ [upperCase, lowerCase], ∀ value < 16,
      alphabet[value]?.all fun char => digitValue? char = some value ∧ char.utf8Size = 1 := by
    decide
  have small := digit.lt
  rcases digit with found | found
  · simpa [found] using known upperCase (by simp) value small
  · simpa [found] using known lowerCase (by simp) value small

theorem toNat_lt_of_digitValue? (read : digitValue? char = some value) : char.toNat < 128 := by
  have ascii {last : Char} (small : last.toNat < 128) (bound : char ≤ last) : char.toNat < 128 :=
    Nat.lt_of_le_of_lt bound small
  unfold digitValue? at read
  split at read
  · rename_i range
    exact ascii (by decide) range.2
  split at read
  · rename_i range
    exact ascii (by decide) range.2
  split at read
  · rename_i range
    exact ascii (by decide) range.2
  · contradiction

theorem digitValue?_eq_some_iff : digitValue? char = some value ↔ IsDigit char value := by
  constructor
  · intro read
    have known : ∀ code < 128, ∀ value ∈ digitValue? (Char.ofNat code),
        IsDigit (Char.ofNat code) value := by
      decide
    have found := known char.toNat (toNat_lt_of_digitValue? read) value
    rw [Char.ofNat_toNat] at found
    exact found read
  · intro digit
    exact digit.spec.1

theorem denotes_nil : Denotes [] value ↔ value = 0 := by
  constructor
  · rintro ⟨digits, pairs, rfl⟩
    cases pairs
    rfl
  · rintro rfl
    exact ⟨[], .nil, rfl⟩

theorem denotes_concat :
    Denotes (chars ++ [char]) value ↔
      ∃ high low, Denotes chars high ∧ IsDigit char low ∧ 16 * high + low = value := by
  simp only [Denotes, List.reverse_append, List.reverse_singleton, List.singleton_append,
    List.forall₂_cons_left_iff]
  constructor
  · rintro ⟨_, ⟨low, digits, last, front, rfl⟩, rfl⟩
    exact ⟨_, low, ⟨digits, front, rfl⟩, last, Nat.add_comm ..⟩
  · rintro ⟨_, low, ⟨digits, front, rfl⟩, last, rfl⟩
    exact ⟨low :: digits, ⟨low, digits, last, front, rfl⟩, Nat.add_comm ..⟩

theorem value?_concat (chars : List Char) (char : Char) :
    value? (chars ++ [char]) =
      (value? chars).bind fun high => (digitValue? char).map (16 * high + ·) := by
  simp [value?]

theorem value?_eq_some_iff : value? chars = some value ↔ Denotes chars value := by
  induction chars using List.reverseRecOn generalizing value with
  | nil =>
      rw [denotes_nil, eq_comm]
      exact Option.some_inj
  | append_singleton chars char ih =>
      simp only [value?_concat, denotes_concat, Option.bind_eq_some_iff, Option.map_eq_some_iff,
        digitValue?_eq_some_iff, ih, exists_and_left]

theorem Denotes.lt (denotes : Denotes chars value) : value < 16 ^ chars.length := by
  induction chars using List.reverseRecOn generalizing value with
  | nil => simp [denotes_nil.mp denotes]
  | append_singleton chars char ih =>
      obtain ⟨high, low, front, last, rfl⟩ := denotes_concat.mp denotes
      have bound := ih front
      have small := last.lt
      rw [List.length_append, List.length_singleton, Nat.pow_succ]
      omega

theorem Denotes.utf8ByteSize (denotes : Denotes chars value) :
    (String.ofList chars).utf8ByteSize = chars.length := by
  induction chars using List.reverseRecOn generalizing value with
  | nil => rfl
  | append_singleton chars char ih =>
      obtain ⟨high, low, front, last, rfl⟩ := denotes_concat.mp denotes
      simp [String.ofList_append, ih front, last.spec.2]

/-- The lowest digits of a value are read as what is left of it. -/
theorem value?_digits (count value : Nat) : value? (digits count value) = some (value % 16 ^ count) := by
  induction count generalizing value with
  | zero => simp [digits, value?, Nat.mod_one]
  | succ count ih =>
      have small : value % 16 < 16 := Nat.mod_lt _ (by decide)
      rw [digits, value?_concat, ih, Option.bind_some, digitValue?_digit small, Option.map_some,
        Nat.pow_succ', Nat.mod_mul, Nat.add_comm]

end Hex

namespace Checksum

def marks : List String :=
  ["0x", "0X"]

def signs : List String :=
  ["", "+"]

/-- Four characters that spell the checksum in digits. A sign takes the place of a digit. -/
def Spells (text : String) (checksum : Checksum) : Prop :=
  text.length = 4 ∧
    ∃ sign ∈ signs, ∃ digits,
      text = sign ++ String.ofList digits ∧ Hex.Denotes digits checksum.toNat

variable {text rest : String} {chars digits : List Char} {checksum : Checksum} {value : Nat}

theorem mem_marks {mark : String} : mark ∈ marks ↔ mark = "0x" ∨ mark = "0X" := by
  simp only [marks, List.mem_cons, List.not_mem_nil, or_false]

theorem mem_signs {sign : String} : sign ∈ signs ↔ sign = "" ∨ sign = "+" := by
  simp only [signs, List.mem_cons, List.not_mem_nil, or_false]

@[simp] theorem toNat_ofNat (small : value < 16 ^ 4) : (ofNat value).toNat = value :=
  Nat.mod_eq_of_lt small

theorem ofNat_toNat (checksum : Checksum) : ofNat checksum.toNat = checksum :=
  congrArg Checksum.mk (BitVec.ofNat_toNat ..)

theorem byteWidth_toList (text : String) : byteWidth text.toList = text.utf8ByteSize := by
  suffices spread : byteWidth text.toList = (String.ofList text.toList).utf8ByteSize by
    rwa [String.ofList_toList] at spread
  induction text.toList using List.reverseRecOn with
  | nil => rfl
  | append_singleton chars char ih => simp [byteWidth, String.ofList_append] at ih ⊢; exact ih

theorem afterMark?_eq_some_iff :
    afterMark? text.toList = some rest.toList ↔ ∃ mark ∈ marks, text = mark ++ rest := by
  simp only [← String.toList_inj, String.toList_append]
  generalize text.toList = chars
  constructor
  · intro found
    unfold afterMark? at found
    split at found
    · cases found
      exact ⟨"0x", mem_marks.mpr (.inl rfl), rfl⟩
    · cases found
      exact ⟨"0X", mem_marks.mpr (.inr rfl), rfl⟩
    · contradiction
  · rintro ⟨mark, listed, rfl⟩
    rcases mem_marks.mp listed with rfl | rfl <;> rfl

theorem signedDigits?_eq_some_iff (width : text.utf8ByteSize = 4) :
    signedDigits? text.toList = some value ↔ ∃ sign ∈ signs, ∃ digits,
      text = sign ++ String.ofList digits ∧ Hex.Denotes digits value := by
  rw [← byteWidth_toList] at width
  simp only [← String.toList_inj, String.toList_append, String.toList_ofList,
    ← Hex.value?_eq_some_iff]
  generalize text.toList = chars at *
  constructor
  · intro read
    unfold signedDigits? at read
    split at read
    · contradiction
    · contradiction
    · exact ⟨"+", mem_signs.mpr (.inr rfl), _, rfl, read⟩
    · exact ⟨"", mem_signs.mpr (.inl rfl), chars, rfl, read⟩
  · rintro ⟨sign, listed, digits, rfl, read⟩
    unfold signedDigits?
    rcases mem_signs.mp listed with rfl | rfl
    · rw [String.toList_empty, List.nil_append] at *
      -- a plus sign is no digit, so that none of the digits is taken for one
      split
      · contradiction
      · contradiction
      · cases read
      · exact read
    · cases digits with
      | nil => contradiction
      | cons first others => exact read

theorem utf8ByteSize_eq_length {sign : String} (listed : sign ∈ signs)
    (denotes : Hex.Denotes digits value) :
    (sign ++ String.ofList digits).utf8ByteSize = (sign ++ String.ofList digits).length := by
  have single : sign.utf8ByteSize = sign.length := by
    rcases mem_signs.mp listed with rfl | rfl <;> rfl
  simp [single, denotes.utf8ByteSize]

theorem spells_iff :
    Spells text checksum ↔
      text.utf8ByteSize = 4 ∧ signedDigits? text.toList = some checksum.toNat := by
  constructor
  · rintro ⟨length, sign, listed, digits, rfl, denotes⟩
    have width := (utf8ByteSize_eq_length listed denotes).trans length
    exact ⟨width, (signedDigits?_eq_some_iff width).mpr ⟨sign, listed, digits, rfl, denotes⟩⟩
  · rintro ⟨width, read⟩
    obtain ⟨sign, listed, digits, rfl, denotes⟩ := (signedDigits?_eq_some_iff width).mp read
    refine ⟨?_, sign, listed, digits, rfl, denotes⟩
    rw [← utf8ByteSize_eq_length listed denotes, width]

theorem toNat_ofNat_of_signedDigits? (width : text.utf8ByteSize = 4)
    (read : signedDigits? text.toList = some value) : (ofNat value).toNat = value := by
  obtain ⟨sign, listed, digits, rfl, denotes⟩ := (signedDigits?_eq_some_iff width).mp read
  rw [utf8ByteSize_eq_length listed denotes, String.length_append, String.length_ofList] at width
  apply toNat_ofNat
  calc value < 16 ^ digits.length := denotes.lt
    _ ≤ 16 ^ 4 := Nat.pow_le_pow_right (by decide) (by omega)

theorem spells_of_signedDigits? (width : text.utf8ByteSize = 4)
    (read : signedDigits? text.toList = some value) :
    Spells text checksum ↔ ofNat value = checksum := by
  have fits := toNat_ofNat_of_signedDigits? width read
  rw [spells_iff, read, Option.some_inj]
  constructor
  · rintro ⟨_, rfl⟩
    exact checksum.ofNat_toNat
  · rintro rfl
    exact ⟨width, fits.symm⟩

theorem afterMark?_append {mark : String} (listed : mark ∈ marks) (rest : String) :
    afterMark? (mark ++ rest).toList = some rest.toList :=
  afterMark?_eq_some_iff.mpr ⟨mark, listed, rfl⟩

/-- What follows the mark is the same whichever way the text is split. -/
theorem exists_mark_iff {Holds : String → Prop} {mark : String} (listed : mark ∈ marks) :
    (∃ other ∈ marks, ∃ last, mark ++ rest = other ++ last ∧ Holds last) ↔ Holds rest := by
  constructor
  · rintro ⟨other, present, last, same, holds⟩
    have found := afterMark?_append listed rest
    rw [same, afterMark?_append present, Option.some_inj, String.toList_inj] at found
    rwa [← found]
  · intro holds
    exact ⟨mark, listed, rest, rfl, holds⟩

theorem parse_of_unmarked (unmarked : ∀ mark ∈ marks, ∀ rest, text ≠ mark ++ rest) :
    parse text = .error (.missingMark text) := by
  cases found : afterMark? text.toList with
  | none => simp only [parse, found]
  | some chars =>
      rw [← String.toList_ofList (l := chars)] at found
      obtain ⟨mark, listed, same⟩ := afterMark?_eq_some_iff.mp found
      exact absurd same (unmarked mark listed _)

section Marked

variable {mark : String} (listed : mark ∈ marks)
include listed

theorem parse_of_width (width : rest.utf8ByteSize ≠ 4) :
    parse (mark ++ rest) = .error (.wrongWidth (mark ++ rest)) := by
  simp only [parse, afterMark?_append listed, byteWidth_toList, width, if_false]

theorem parse_of_unread (width : rest.utf8ByteSize = 4)
    (unread : signedDigits? rest.toList = none) :
    parse (mark ++ rest) = .error (.badDigits (mark ++ rest)) := by
  simp only [parse, afterMark?_append listed, byteWidth_toList, width, if_true, unread]

theorem parse_of_read (width : rest.utf8ByteSize = 4)
    (read : signedDigits? rest.toList = some value) :
    parse (mark ++ rest) = .ok (ofNat value) := by
  simp only [parse, afterMark?_append listed, byteWidth_toList, width, if_true, read]

end Marked

theorem spells_digits (checksum : Checksum) :
    Spells (String.ofList (Hex.digits 4 checksum.toNat)) checksum := by
  refine ⟨?_, "", mem_signs.mpr (.inl rfl), _, (String.empty_append).symm, ?_⟩
  · simp [Hex.digits]
  · have small : checksum.toNat < 16 ^ 4 := checksum.bits.isLt
    apply Hex.value?_eq_some_iff.mp
    rw [Hex.value?_digits, Nat.mod_eq_of_lt small]

theorem parse_render (checksum : Checksum) : parse checksum.render = .ok checksum := by
  have written : checksum.render = "0x" ++ String.ofList (Hex.digits 4 checksum.toNat) :=
    String.toList_inj.mp (by simp [render])
  obtain ⟨width, read⟩ := spells_iff.mp checksum.spells_digits
  rw [written, parse_of_read (mem_marks.mpr (.inl rfl)) width read, ofNat_toNat]

/-- A text is read as a checksum if it is a mark followed by four characters that spell the checksum. It
is refused for its mark if it has none, for its width if it goes on for more or less than four bytes, and
for its digits in all other cases. The text of a checksum is read as that checksum. -/
theorem parse_tells_spelling (text : String) :
    (∀ checksum, parse text = .ok checksum ↔
      ∃ mark ∈ marks, ∃ rest, text = mark ++ rest ∧ Spells rest checksum) ∧
    (parse text = .error (.missingMark text) ↔ ∀ mark ∈ marks, ∀ rest, text ≠ mark ++ rest) ∧
    (parse text = .error (.wrongWidth text) ↔
      ∃ mark ∈ marks, ∃ rest, text = mark ++ rest ∧ rest.utf8ByteSize ≠ 4) ∧
    (parse text = .error (.badDigits text) ↔
      ∃ mark ∈ marks, ∃ rest, text = mark ++ rest ∧ rest.utf8ByteSize = 4 ∧
        ∀ checksum, ¬ Spells rest checksum) ∧
    (∀ error, parse text = .error error →
      error ∈ [.missingMark text, .wrongWidth text, .badDigits text]) ∧
    ∀ checksum, parse checksum.render = .ok checksum := by
  by_cases marked : ∃ mark ∈ marks, ∃ rest, text = mark ++ rest
  case neg =>
    have unmarked : ∀ mark ∈ marks, ∀ rest, text ≠ mark ++ rest := by simpa using marked
    have refused := parse_of_unmarked unmarked
    simp +contextual [refused, unmarked, parse_render, eq_comm]
  case pos =>
    have present := marked
    obtain ⟨mark, listed, rest, rfl⟩ := marked
    simp only [exists_mark_iff listed]
    by_cases width : rest.utf8ByteSize = 4
    case neg =>
      have refused := parse_of_width listed width
      simp [refused, width, spells_iff, parse_render, present, eq_comm]
    case pos =>
      cases read : signedDigits? rest.toList with
      | none =>
          have refused := parse_of_unread listed width read
          simp [refused, width, spells_iff, read, parse_render, present, eq_comm]
      | some value =>
          have accepted := parse_of_read listed width read
          simp [accepted, width, spells_of_signedDigits? width read, parse_render, present]

/-- Three digits are enough if a plus sign stands in front of them, but two are not. -/
theorem plus_sign_takes_place_of_digit :
    parse "0x+0F1" = .ok ⟨0x00F1⟩ ∧ parse "0X++F1" = .error (.badDigits "0X++F1") := by
  constructor
  · obtain ⟨reads, _⟩ := parse_tells_spelling "0x+0F1"
    apply (reads ⟨0x00F1⟩).mpr
    refine ⟨"0x", by decide, "+0F1", by decide, by decide, "+", by decide, ?_⟩
    exact ⟨['0', 'F', '1'], by decide, Hex.value?_eq_some_iff.mp (by decide)⟩
  · obtain ⟨_, _, _, refuses, _⟩ := parse_tells_spelling "0X++F1"
    apply refuses.mpr
    refine ⟨"0X", by decide, "++F1", by decide, by decide, fun checksum spells => ?_⟩
    have unread : signedDigits? "++F1".toList = none := by decide
    rw [spells_iff, unread] at spells
    cases spells.2

end Checksum

end NvMemory
