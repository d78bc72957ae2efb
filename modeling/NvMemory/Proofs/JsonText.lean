import Mathlib.Data.List.Chain
import NvMemory.Json.Token
import NvMemory.Json.Value

/-!
How JSON tokens are written, and that they are read as they are written.

`Token.Spelling` says how a token is spelled and `Layout` how a text is laid out: blanks may stand
between the words as one likes. Since a number goes on as long as there are digits, a text can be read
only if no number follows another one (`Token.Apart`).
-/

namespace NvMemory.Json

def bytesOf (text : String) : List UInt8 :=
  text.toUTF8.data.toList

theorem bytesOf_append (first second : String) :
    bytesOf (first ++ second) = bytesOf first ++ bytesOf second := by
  simp only [bytesOf, String.toUTF8_eq_toByteArray, String.toByteArray_append, ByteArray.data_append,
    Array.toList_append]

theorem bytesOf_ofList (chars : List Char) :
    bytesOf (String.ofList chars) = chars.flatMap String.utf8EncodeChar := by
  rw [bytesOf, String.toUTF8_eq_toByteArray, String.toByteArray_ofList, List.utf8Encode,
    List.data_toByteArray]

def byteOf (char : Char) : UInt8 :=
  UInt8.ofNat char.toNat

theorem bytesOf_ascii {chars : List Char} (ascii : ∀ char ∈ chars, char.toNat ≤ 127) :
    bytesOf (String.ofList chars) = chars.map byteOf := by
  rw [bytesOf_ofList, List.map_eq_flatMap]
  refine List.flatMap_congr fun char member => ?_
  exact if_pos (ascii char member)

theorem fromUTF8?_bytesOf (text : String) :
    String.fromUTF8? (ByteArray.mk (bytesOf text).toArray) = some text := by
  simp only [bytesOf, Array.toArray_toList, String.toUTF8_eq_toByteArray, String.fromUTF8?]
  exact dif_pos text.isValidUTF8

namespace Byte

def continuesNumber (byte : UInt8) : Bool :=
  isDigit byte || byte == 0x2E || byte == 0x65 || byte == 0x45

def digit (value : Nat) : UInt8 :=
  UInt8.ofNat (0x30 + value)

theorem toNat_digit {value : Nat} (small : value < 10) : (digit value).toNat = 0x30 + value := by
  rw [digit, UInt8.toNat_ofNat']
  omega

theorem isDigit_iff {byte : UInt8} : isDigit byte = true ↔ 0x30 ≤ byte.toNat ∧ byte.toNat ≤ 0x39 := by
  simp [isDigit, UInt8.le_iff_toNat_le]

theorem isDigit_digit {value : Nat} (small : value < 10) : isDigit (digit value) = true := by
  rw [isDigit_iff, toNat_digit small]
  omega

theorem isBlank_of_isDigit {byte : UInt8} (digit : isDigit byte = true) : isBlank byte = false := by
  by_contra blank
  simp only [isBlank, Bool.not_eq_false, Bool.or_eq_true, beq_iff_eq] at blank
  obtain ((rfl | rfl) | rfl) | rfl := blank <;> contradiction

theorem digit_eq_zero_iff {value : Nat} (small : value < 10) : digit value = 0x30 ↔ value = 0 := by
  rw [← UInt8.toNat_inj, toNat_digit small]
  exact Nat.add_eq_left

end Byte

/-- The number that some bytes write, digit by digit. Only zero begins with a zero. -/
inductive Numeral : Nat → List UInt8 → Prop
  | digit {value : Nat} (small : value < 10) : Numeral value [Byte.digit value]
  | append {value next : Nat} {bytes : List UInt8} (numeral : Numeral value bytes)
      (positive : 0 < value) (small : next < 10) :
      Numeral (10 * value + next) (bytes ++ [Byte.digit next])

namespace Numeral

variable {value : Nat} {bytes : List UInt8}

theorem all_digits (numeral : Numeral value bytes) : ∀ byte ∈ bytes, Byte.isDigit byte = true := by
  induction numeral with
  | digit small => simpa using Byte.isDigit_digit small
  | append _ _ small ih =>
      intro byte member
      rcases List.mem_append.mp member with early | last
      · exact ih byte early
      · rw [List.mem_singleton.mp last]
        exact Byte.isDigit_digit small

theorem naturalOf (numeral : Numeral value bytes) : Token.naturalOf bytes = value := by
  induction numeral with
  | digit small => simp [Token.naturalOf, Byte.toNat_digit small]
  | append _ _ small ih =>
      rw [Token.naturalOf, List.foldl_append, ← Token.naturalOf, ih]
      simp [Byte.toNat_digit small]

theorem eq_cons (numeral : Numeral value bytes) :
    ∃ byte rest, bytes = byte :: rest ∧ (0 < value → byte ≠ 0x30) ∧ (byte = 0x30 → rest = []) := by
  induction numeral with
  | digit small =>
      refine ⟨_, [], rfl, fun positive zero => ?_, fun _ => rfl⟩
      rw [Byte.digit_eq_zero_iff small] at zero
      omega
  | append _ positive _ ih =>
      obtain ⟨byte, rest, rfl, leading, _⟩ := ih
      exact ⟨byte, _, rfl, fun _ => leading positive, fun zero => absurd zero (leading positive)⟩

end Numeral

theorem byteOf_digitChar {value : Nat} (small : value < 10) :
    byteOf value.digitChar = Byte.digit value := by
  revert value
  decide

theorem numeral_toDigits (value : Nat) : Numeral value ((Nat.toDigits 10 value).map byteOf) := by
  induction value using Nat.strongRecOn with
  | ind value ih =>
      by_cases small : value < 10
      case pos =>
        rw [Nat.toDigits_of_lt_base small, List.map_singleton, byteOf_digitChar small]
        exact .digit small
      case neg =>
        have last : value % 10 < 10 := Nat.mod_lt _ (by decide)
        have numeral := (ih (value / 10) (by omega)).append (by omega) last
        rw [Nat.div_add_mod] at numeral
        rw [Nat.toDigits_of_base_le (by decide) (by omega), List.map_append, List.map_singleton,
          byteOf_digitChar last]
        exact numeral

theorem numeral_toString (value : Nat) : Numeral value (bytesOf (toString value)) := by
  have ascii : ∀ char ∈ Nat.toDigits 10 value, char.toNat ≤ 127 := by
    intro char member
    have digit := Nat.isDigit_of_mem_toDigits (by decide) (by decide) member
    simp only [Char.isDigit, Bool.and_eq_true, decide_eq_true_eq] at digit
    exact Nat.le_trans digit.2 (by decide)
  rw [Nat.toString_eq_ofList_toDigits, bytesOf_ascii ascii]
  exact numeral_toDigits value

/-- A character that is written as it is. -/
def Plain (char : Char) : Prop :=
  32 ≤ char.toNat ∧ char.toNat < 127 ∧ char ≠ '"' ∧ char ≠ '\\'

instance : DecidablePred Plain := fun char =>
  inferInstanceAs (Decidable (32 ≤ char.toNat ∧ char.toNat < 127 ∧ char ≠ '"' ∧ char ≠ '\\'))

def PlainText (content : String) : Prop :=
  ∀ char ∈ content.toList, Plain char

instance : DecidablePred PlainText := fun content =>
  List.decidableBAll Plain content.toList

variable {token : Token} {tokens : List Token} {word text : String} {rest : List UInt8}

inductive Token.Spelling : Token → String → Prop
  | openBrace : Spelling .openBrace "\x7b"
  | closeBrace : Spelling .closeBrace "\x7d"
  | comma : Spelling .comma ","
  | colon : Spelling .colon ":"
  | natural (value : Nat) : Spelling (.natural value) (toString value)
  | text {content : String} (plain : PlainText content) :
      Spelling (.text (some content)) (Value.quote content)

/-- A text that spells some tokens, with blanks in between. -/
inductive Layout : List Token → String → Prop
  | done : Layout [] ""
  | blank {tokens : List Token} {text : String} {mark : Char}
      (blank : mark ∈ [' ', '\n', '\r', '\t']) (rest : Layout tokens text) :
      Layout tokens (String.singleton mark ++ text)
  | word {token : Token} {word : String} {tokens : List Token} {text : String}
      (spelled : token.Spelling word) (rest : Layout tokens text) :
      Layout (token :: tokens) (word ++ text)

namespace Token

def isNatural : Token → Bool
  | .natural _ => true
  | _ => false

/-- The second token may follow the first one without a blank. -/
def Apart (first second : Token) : Prop :=
  first.isNatural = true → second.isNatural = false

theorem isChain_cons (other : token.isNatural = false) (apart : tokens.IsChain Apart) :
    (token :: tokens).IsChain Apart := by
  refine List.isChain_cons.mpr ⟨fun next _ natural => ?_, apart⟩
  rw [other] at natural
  contradiction

def EndsNumber (rest : List UInt8) : Prop :=
  ∀ byte ∈ rest.head?, Byte.continuesNumber byte = false

theorem next?_digit {byte : UInt8} (digit : Byte.isDigit byte = true) :
    next? byte rest = unsigned? (byte :: rest) := by
  unfold next?
  split <;> first | rfl | cases digit

theorem fraction?_of_ends (ends : EndsNumber rest) : fraction? rest = some (false, rest) := by
  unfold fraction?
  split
  · have point := ends _ rfl
    contradiction
  · rfl

theorem power?_of_ends (ends : EndsNumber rest) : power? rest = some (false, rest) := by
  cases rest with
  | nil => rfl
  | cons byte rest =>
      have other := ends byte rfl
      simp only [Byte.continuesNumber, Bool.or_eq_false_iff] at other
      simp [power?, other]

theorem digits_of_ends (ends : EndsNumber rest) :
    rest.takeWhile Byte.isDigit = [] ∧ rest.dropWhile Byte.isDigit = rest := by
  cases rest with
  | nil => exact ⟨rfl, rfl⟩
  | cons byte rest =>
      have other := ends byte rfl
      simp only [Byte.continuesNumber, Bool.or_eq_false_iff] at other
      simp [other]

theorem unsigned?_numeral {value : Nat} {bytes : List UInt8} (numeral : Numeral value bytes)
    (ends : EndsNumber rest) : unsigned? (bytes ++ rest) = some (.natural value, rest) := by
  have digits := numeral.all_digits
  have read := numeral.naturalOf
  obtain ⟨byte, others, rfl, _, alone⟩ := numeral.eq_cons
  rw [List.forall_mem_cons] at digits
  obtain ⟨none, all⟩ := digits_of_ends ends
  have taken : (others ++ rest).takeWhile Byte.isDigit = others := by
    rw [List.takeWhile_append_of_pos digits.2, none, List.append_nil]
  have dropped : (others ++ rest).dropWhile Byte.isDigit = rest := by
    rw [List.dropWhile_append_of_pos digits.2, all]
  rw [List.cons_append, unsigned?, if_pos digits.1]
  by_cases zero : byte = 0x30
  case pos =>
    -- The reader does not look for digits behind a zero, and here there are none.
    rw [alone zero] at read ⊢
    simpa [zero, fraction?_of_ends ends, power?_of_ends ends] using read
  case neg =>
    simp [zero, taken, dropped, fraction?_of_ends ends, power?_of_ends ends, read]

theorem literal?_plain {bytes : List UInt8}
    (plain : ∀ byte ∈ bytes, 0x20 ≤ byte ∧ byte ≠ 0x22 ∧ byte ≠ 0x5C) :
    literal? (bytes ++ 0x22 :: rest) = some (bytes.map .byte, rest) := by
  induction bytes with
  | nil => rfl
  | cons byte bytes ih =>
      rw [List.forall_mem_cons] at plain
      obtain ⟨⟨low, quote, backslash⟩, others⟩ := plain
      rw [List.cons_append]
      unfold literal?
      split <;> simp_all [UInt8.not_lt]

theorem bytes?_plain (bytes : List UInt8) : Piece.bytes? (bytes.map .byte) = some bytes := by
  induction bytes with
  | nil => rfl
  | cons byte bytes ih => simp [Piece.bytes?, ih]

theorem escape_plain {char : Char} (plain : Plain char) : Value.escape char = [char] := by
  obtain ⟨low, _, quote, backslash⟩ := plain
  unfold Value.escape
  split
  case h_8 => exact if_neg (Nat.not_lt.mpr low)
  all_goals contradiction

theorem byteOf_plain {char : Char} (plain : Plain char) :
    0x20 ≤ byteOf char ∧ byteOf char ≠ 0x22 ∧ byteOf char ≠ 0x5C := by
  obtain ⟨low, high, quote, backslash⟩ := plain
  have number : (byteOf char).toNat = char.toNat := by
    rw [byteOf, UInt8.toNat_ofNat']
    omega
  refine ⟨?_, fun same => quote ?_, fun same => backslash ?_⟩
  · rw [UInt8.le_iff_toNat_le, number]
    exact low
  · rw [same] at number
    exact Char.toNat_inj.mp number.symm
  · rw [same] at number
    exact Char.toNat_inj.mp number.symm

section Quoted

variable {content : String} (plain : PlainText content)
include plain

theorem bytesOf_quote : bytesOf (Value.quote content) = 0x22 :: (bytesOf content ++ [0x22]) := by
  have same : content.toList.flatMap Value.escape = content.toList := by
    rw [List.flatMap_congr fun char member => escape_plain (plain char member),
      List.flatMap_singleton']
  rw [Value.quote, same, String.ofList_append, String.ofList_cons, String.ofList_toList,
    bytesOf_append, bytesOf_append]
  rfl

theorem next?_quote : next? 0x22 (bytesOf content ++ 0x22 :: rest) = some (.text (some content), rest) := by
  have ascii : ∀ char ∈ content.toList, char.toNat ≤ 127 :=
    fun char member => Nat.le_of_lt (plain char member).2.1
  have bytes : ∀ byte ∈ bytesOf content, 0x20 ≤ byte ∧ byte ≠ 0x22 ∧ byte ≠ 0x5C := by
    rw [← String.ofList_toList (s := content), bytesOf_ascii ascii, List.forall_mem_map]
    exact fun char member => byteOf_plain (plain char member)
  have denoted : Piece.text? ((bytesOf content).map .byte) = some content := by
    simp only [Piece.text?, bytes?_plain]
    exact fromUTF8?_bytesOf content
  simp only [next?, literal?_plain bytes, Option.map_some, denoted]

end Quoted

theorem Spelling.reads (spelled : token.Spelling word) (ends : token.isNatural = true → EndsNumber rest) :
    ∃ byte bytes, bytesOf word = byte :: bytes ∧ Byte.isBlank byte = false ∧
      next? byte (bytes ++ rest) = some (token, rest) := by
  cases spelled with
  | openBrace | closeBrace | comma | colon => exact ⟨_, [], rfl, rfl, rfl⟩
  | natural value =>
      have numeral := numeral_toString value
      have read := unsigned?_numeral numeral (ends rfl)
      obtain ⟨byte, bytes, same, _⟩ := numeral.eq_cons
      have digit := numeral.all_digits byte (same ▸ List.mem_cons_self)
      rw [same] at read
      exact ⟨byte, bytes, same, Byte.isBlank_of_isDigit digit, (next?_digit digit).trans read⟩
  | text plain =>
      refine ⟨_, _, bytesOf_quote plain, rfl, ?_⟩
      rw [List.append_assoc]
      exact next?_quote plain

theorem ofBytes?_of_blank {byte : UInt8} (blank : Byte.isBlank byte = true) :
    ofBytes? (byte :: rest) = ofBytes? rest := by
  rw [ofBytes?, if_pos blank]

theorem ofBytes?_of_next {byte : UInt8} {bytes : List UInt8} (solid : Byte.isBlank byte = false)
    (read : next? byte bytes = some (token, rest)) :
    ofBytes? (byte :: bytes) = (ofBytes? rest).map (token :: ·) := by
  rw [ofBytes?, if_neg (by simp [solid])]
  split <;> simp_all

theorem ends_cons {byte : UInt8} (other : Byte.continuesNumber byte = false) : EndsNumber (byte :: rest) := by
  intro first member
  cases member
  exact other

theorem Spelling.ends (spelled : token.Spelling word) (other : token.isNatural = false) :
    EndsNumber (bytesOf word ++ rest) := by
  cases spelled with
  | openBrace | closeBrace | comma | colon => exact ends_cons rfl
  | natural => contradiction
  | text plain =>
      rw [bytesOf_quote plain]
      exact ends_cons rfl

end Token

namespace Layout

open Token

theorem exists_blank {mark : Char} (blank : mark ∈ [' ', '\n', '\r', '\t']) :
    ∃ byte, bytesOf (String.singleton mark) = [byte] ∧ Byte.isBlank byte = true ∧
      Byte.continuesNumber byte = false := by
  simp only [List.mem_cons, List.not_mem_nil, or_false] at blank
  obtain rfl | rfl | rfl | rfl := blank <;> exact ⟨_, rfl, rfl, rfl⟩

theorem ends (layout : Layout tokens text) (other : ∀ token ∈ tokens.head?, token.isNatural = false) :
    EndsNumber (bytesOf text) := by
  cases layout with
  | done =>
      intro byte member
      cases member
  | blank blank rest =>
      obtain ⟨byte, same, _, other⟩ := exists_blank blank
      rw [bytesOf_append, same]
      exact ends_cons other
  | word spelled rest =>
      rw [bytesOf_append]
      exact spelled.ends (other _ rfl)

theorem ofBytes? (layout : Layout tokens text) (apart : tokens.IsChain Apart) :
    Token.ofBytes? (bytesOf text) = some tokens := by
  induction layout with
  | done =>
      change Token.ofBytes? [] = some []
      rw [Token.ofBytes?]
  | blank blank _ ih =>
      obtain ⟨byte, same, isBlank, _⟩ := exists_blank blank
      rw [bytesOf_append, same, List.singleton_append, ofBytes?_of_blank isBlank]
      exact ih apart
  | word spelled rest ih =>
      obtain ⟨byte, bytes, same, solid, read⟩ := spelled.reads fun natural =>
        rest.ends fun next member => apart.rel_head? member natural
      rw [bytesOf_append, same, List.cons_append, ofBytes?_of_next solid read, ih apart.tail]
      rfl

end Layout

end NvMemory.Json
