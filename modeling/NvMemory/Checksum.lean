import NvMemory.Json.Document
import NvMemory.Json.Value
import NvMemory.Text.Hex

/-!
Sixteen-bit checksums of byte strings, and their text.

The checksum is a cyclic redundancy check with the polynomial `x^16 + x^12 + x^5 + 1`. Bytes
enter a register of sixteen ones with their highest bit first, and the register is the result
as it stands. A checksum is written as `0x` and four upper-case hexadecimal digits.
-/

namespace NvMemory

namespace Crc

abbrev Register := BitVec 16

def polynomial : Register := 0x1021#16

def initial : Register := 0xFFFF#16

/-- Shifts one bit out, and takes the polynomial away if that bit was set. -/
def shift (register : Register) : Register :=
  if register.msb then (register <<< 1) ^^^ polynomial else register <<< 1

def shifts : (count : Nat) → Register → Register
  | 0, register => register
  | count + 1, register => shifts count (shift register)

/-- Adds a byte at the high end and shifts it out. -/
def feed (register : Register) (byte : UInt8) : Register :=
  shifts 8 (register ^^^ (byte.toBitVec.setWidth 16 <<< 8))

def run (register : Register) (bytes : List UInt8) : Register :=
  bytes.foldl feed register

end Crc

structure Checksum where
  bits : BitVec 16
deriving Repr, DecidableEq, Inhabited

def crc16 (bytes : List UInt8) : Checksum :=
  ⟨Crc.run Crc.initial bytes⟩

namespace Checksum

def ofNat (value : Nat) : Checksum :=
  ⟨BitVec.ofNat 16 value⟩

def toNat (checksum : Checksum) : Nat :=
  checksum.bits.toNat

def zero : Checksum :=
  ⟨0⟩

def accepts (checksum : Checksum) (bytes : List UInt8) : Bool :=
  crc16 bytes == checksum

def render (checksum : Checksum) : String :=
  String.ofList ('0' :: 'x' :: Hex.digits 4 checksum.toNat)

inductive ParseError where
  | missingMark (text : String)
  | wrongWidth (text : String)
  | badDigits (text : String)
deriving Repr, DecidableEq

def ParseError.message : ParseError → String
  | .missingMark text => "checksum must start with 0x: " ++ text
  | .wrongWidth text => "checksum must have exactly 4 hex digits: " ++ text
  | .badDigits text => "invalid hex digits in checksum: " ++ text

/-- The characters behind the mark `0x` or `0X`. -/
def afterMark? : List Char → Option (List Char)
  | '0' :: 'x' :: rest => some rest
  | '0' :: 'X' :: rest => some rest
  | _ => none

/-- How many bytes the characters take in UTF-8. -/
def byteWidth (chars : List Char) : Nat :=
  chars.foldl (fun width char => width + char.utf8Size) 0

/-- The number that digits denote; a plus sign may stand in front of them. -/
def signedDigits? : List Char → Option Nat
  | [] => none
  | ['+'] => none
  | '+' :: digits => Hex.value? digits
  | digits => Hex.value? digits

def parse (text : String) : Except ParseError Checksum :=
  match afterMark? text.toList with
  | none => .error (.missingMark text)
  | some digits =>
      if byteWidth digits = 4 then
        match signedDigits? digits with
        | some value => .ok (ofNat value)
        | none => .error (.badDigits text)
      else .error (.wrongWidth text)

def toJson (checksum : Checksum) : Json.Value :=
  .text checksum.render

def ofDocument? : Json.Document → Option Checksum
  | .text (some content) => (parse content).toOption
  | _ => none

end Checksum

end NvMemory
