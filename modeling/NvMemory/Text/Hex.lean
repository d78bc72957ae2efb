/-!
Hexadecimal digits: upper case when written, either case when read.

`digitValue?_digit` ties the two together.
-/

namespace NvMemory.Hex

/-- The upper-case digit of a value below sixteen. -/
def digit (value : Nat) : Char :=
  if value < 10 then Char.ofNat ('0'.toNat + value) else Char.ofNat ('A'.toNat + (value - 10))

def digitValue? (char : Char) : Option Nat :=
  if '0' ≤ char ∧ char ≤ '9' then some (char.toNat - '0'.toNat)
  else if 'a' ≤ char ∧ char ≤ 'f' then some (char.toNat - 'a'.toNat + 10)
  else if 'A' ≤ char ∧ char ≤ 'F' then some (char.toNat - 'A'.toNat + 10)
  else none

theorem digitValue?_digit {value : Nat} (small : value < 16) :
    digitValue? (digit value) = some value := by
  revert value
  decide

/-- The lowest `count` digits of `value`, most significant first. -/
def digits : (count value : Nat) → List Char
  | 0, _ => []
  | count + 1, value => digits count (value / 16) ++ [digit (value % 16)]

/-- The number that digits denote, most significant first. -/
def value? (chars : List Char) : Option Nat :=
  chars.foldlM (fun total char => (digitValue? char).map (16 * total + ·)) 0

def ofByte (byte : UInt8) : List Char :=
  digits 2 byte.toNat

def ofBytes (bytes : List UInt8) : String :=
  String.ofList (bytes.flatMap ofByte)

/-- Reads two digits for each byte; an odd digit at the end is refused. -/
def toBytes? : List Char → Option (List UInt8)
  | [] => some []
  | [_] => none
  | high :: low :: rest => do
      let upper ← digitValue? high
      let lower ← digitValue? low
      let bytes ← toBytes? rest
      return UInt8.ofNat (16 * upper + lower) :: bytes

end NvMemory.Hex
