/-!
The tokens of a JSON text, read from its bytes.

Only two kinds of content are kept: the value of a number written as a plain natural, and
the text of a string literal. A literal that is written correctly but denotes no text, because
its bytes are not UTF-8 or it holds half of a surrogate pair, is a token all the same.
-/

namespace NvMemory.Json

namespace Byte

def isBlank (byte : UInt8) : Bool :=
  byte == 0x20 || byte == 0x0A || byte == 0x0D || byte == 0x09

def isDigit (byte : UInt8) : Bool :=
  0x30 ≤ byte && byte ≤ 0x39

def hexValue? (byte : UInt8) : Option Nat :=
  if isDigit byte then some (byte.toNat - 0x30)
  else if 0x41 ≤ byte ∧ byte ≤ 0x46 then some (byte.toNat - 0x41 + 10)
  else if 0x61 ≤ byte ∧ byte ≤ 0x66 then some (byte.toNat - 0x61 + 10)
  else none

end Byte

inductive Token where
  | openBracket
  | closeBracket
  | openBrace
  | closeBrace
  | comma
  | colon
  | null
  | bool (value : Bool)
  | natural (value : Nat)
  /-- A number with a sign, a fraction or a power of ten. -/
  | otherNumber
  /-- A string literal; `none` if it denotes no text. -/
  | text (content : Option String)
deriving Repr, DecidableEq

/-- What a string literal is made of. -/
inductive Piece where
  | byte (value : UInt8)
  /-- The sixteen bits of an escape with four hexadecimal digits. -/
  | unit (value : Nat)
deriving Repr, DecidableEq

namespace Piece

def isHighSurrogate (code : Nat) : Bool :=
  0xD800 ≤ code && code ≤ 0xDBFF

def isLowSurrogate (code : Nat) : Bool :=
  0xDC00 ≤ code && code ≤ 0xDFFF

/-- The bytes that the pieces stand for; a high surrogate must meet its low one. -/
def bytes? : List Piece → Option (List UInt8)
  | [] => some []
  | .byte value :: rest => (bytes? rest).map (value :: ·)
  | .unit high :: .unit low :: rest =>
      if isHighSurrogate high then
        if isLowSurrogate low then
          let char := Char.ofNat (0x10000 + 0x400 * (high - 0xD800) + (low - 0xDC00))
          (bytes? rest).map (String.utf8EncodeChar char ++ ·)
        else none
      else if isLowSurrogate high then none
      else (bytes? (.unit low :: rest)).map (String.utf8EncodeChar (Char.ofNat high) ++ ·)
  | .unit code :: rest =>
      if isHighSurrogate code || isLowSurrogate code then none
      else (bytes? rest).map (String.utf8EncodeChar (Char.ofNat code) ++ ·)

/-- The text that the pieces denote, if their bytes are UTF-8. -/
def text? (pieces : List Piece) : Option String := do
  let bytes ← bytes? pieces
  String.fromUTF8? (ByteArray.mk bytes.toArray)

end Piece

namespace Token

/-- The byte that a backslash and a letter stand for. -/
def escape? (letter : UInt8) : Option UInt8 :=
  if letter == 0x22 || letter == 0x5C || letter == 0x2F then some letter
  else if letter == 0x62 then some 0x08
  else if letter == 0x66 then some 0x0C
  else if letter == 0x6E then some 0x0A
  else if letter == 0x72 then some 0x0D
  else if letter == 0x74 then some 0x09
  else none

def unit? (first second third fourth : UInt8) : Option Nat := do
  let a ← Byte.hexValue? first
  let b ← Byte.hexValue? second
  let c ← Byte.hexValue? third
  let d ← Byte.hexValue? fourth
  return 0x1000 * a + 0x100 * b + 0x10 * c + d

/-- Reads a string literal whose opening quote has been read. -/
def literal? : List UInt8 → Option (List Piece × List UInt8)
  | [] => none
  | 0x22 :: rest => some ([], rest)
  | 0x5C :: 0x75 :: first :: second :: third :: fourth :: rest => do
      let code ← unit? first second third fourth
      let (pieces, remaining) ← literal? rest
      return (.unit code :: pieces, remaining)
  | 0x5C :: letter :: rest => do
      let byte ← escape? letter
      let (pieces, remaining) ← literal? rest
      return (.byte byte :: pieces, remaining)
  | byte :: rest =>
      if byte < 0x20 then none
      else do
        let (pieces, remaining) ← literal? rest
        return (.byte byte :: pieces, remaining)

def naturalOf (digits : List UInt8) : Nat :=
  digits.foldl (fun total digit => 10 * total + (digit.toNat - 0x30)) 0

/-- Drops digits, at least one of which must come. -/
def someDigits? : List UInt8 → Option (List UInt8)
  | [] => none
  | byte :: rest => if Byte.isDigit byte then some (rest.dropWhile Byte.isDigit) else none

/-- Reads a point and digits, if a point comes. -/
def fraction? : List UInt8 → Option (Bool × List UInt8)
  | 0x2E :: rest => (someDigits? rest).map (true, ·)
  | bytes => some (false, bytes)

def dropSign : List UInt8 → List UInt8
  | byte :: rest => if byte == 0x2B || byte == 0x2D then rest else byte :: rest
  | [] => []

/-- Reads a power of ten, if one comes. -/
def power? : List UInt8 → Option (Bool × List UInt8)
  | byte :: rest =>
      if byte == 0x65 || byte == 0x45 then (someDigits? (dropSign rest)).map (true, ·)
      else some (false, byte :: rest)
  | [] => some (false, [])

/-- Reads a number without its sign. A number of several digits does not start with zero. -/
def unsigned? : List UInt8 → Option (Token × List UInt8)
  | [] => none
  | byte :: rest =>
      if Byte.isDigit byte then do
        let digits := if byte == 0x30 then [] else rest.takeWhile Byte.isDigit
        let afterDigits := if byte == 0x30 then rest else rest.dropWhile Byte.isDigit
        let (hasFraction, afterFraction) ← fraction? afterDigits
        let (hasPower, remaining) ← power? afterFraction
        if hasFraction || hasPower then return (.otherNumber, remaining)
        else return (.natural (naturalOf (byte :: digits)), remaining)
      else none

/-- Reads the rest of a word whose first letter has been read. -/
def word? (letters : List UInt8) (token : Token) (bytes : List UInt8) :
    Option (Token × List UInt8) :=
  if letters.isPrefixOf bytes then some (token, bytes.drop letters.length) else none

/-- Reads one token that starts with `byte`, which is not a blank. -/
def next? (byte : UInt8) (rest : List UInt8) : Option (Token × List UInt8) :=
  match byte with
  | 0x5B => some (.openBracket, rest)
  | 0x5D => some (.closeBracket, rest)
  | 0x7B => some (.openBrace, rest)
  | 0x7D => some (.closeBrace, rest)
  | 0x2C => some (.comma, rest)
  | 0x3A => some (.colon, rest)
  | 0x6E => word? [0x75, 0x6C, 0x6C] .null rest
  | 0x74 => word? [0x72, 0x75, 0x65] (.bool true) rest
  | 0x66 => word? [0x61, 0x6C, 0x73, 0x65] (.bool false) rest
  | 0x22 => (literal? rest).map fun (pieces, remaining) => (.text (Piece.text? pieces), remaining)
  | 0x2D => (unsigned? rest).map fun (_, remaining) => (.otherNumber, remaining)
  | byte => unsigned? (byte :: rest)

theorem literal?_length {bytes remaining : List UInt8} {pieces : List Piece}
    (read : literal? bytes = some (pieces, remaining)) : remaining.length < bytes.length := by
  fun_induction literal? bytes generalizing pieces remaining <;>
    simp_all only [Option.bind_eq_bind, Option.bind_eq_some_iff, Option.pure_def, reduceCtorEq,
      Option.some.injEq, Prod.mk.injEq, Prod.exists, List.length_cons] <;> grind

theorem someDigits?_length {bytes remaining : List UInt8}
    (read : someDigits? bytes = some remaining) : remaining.length < bytes.length := by
  cases bytes with
  | nil => simp [someDigits?] at read
  | cons byte rest =>
      simp only [someDigits?] at read
      split at read
      · cases read
        exact Nat.lt_succ_of_le (List.dropWhile_sublist _).length_le
      · cases read

theorem dropSign_length (bytes : List UInt8) : (dropSign bytes).length ≤ bytes.length := by
  unfold dropSign
  split
  · split <;> simp
  · simp

theorem fraction?_length {bytes remaining : List UInt8} {found : Bool}
    (read : fraction? bytes = some (found, remaining)) : remaining.length ≤ bytes.length := by
  unfold fraction? at read
  split at read
  · obtain ⟨digits, dropped, equal⟩ := Option.map_eq_some_iff.mp read
    cases equal
    have := someDigits?_length dropped
    simp only [List.length_cons]; omega
  · cases read; exact Nat.le_refl _

theorem power?_length {bytes remaining : List UInt8} {found : Bool}
    (read : power? bytes = some (found, remaining)) : remaining.length ≤ bytes.length := by
  unfold power? at read
  split at read
  · split at read
    · obtain ⟨digits, dropped, equal⟩ := Option.map_eq_some_iff.mp read
      cases equal
      have := someDigits?_length dropped
      have := dropSign_length (by assumption)
      grind
    · cases read; exact Nat.le_refl _
  · cases read; exact Nat.le_refl _

theorem unsigned?_length {bytes remaining : List UInt8} {token : Token}
    (read : unsigned? bytes = some (token, remaining)) : remaining.length < bytes.length := by
  unfold unsigned? at read
  split at read
  · cases read
  · rename_i byte rest
    split at read
    · simp only [Option.bind_eq_bind, Option.bind_eq_some_iff, Prod.exists] at read
      obtain ⟨hasFraction, afterFraction, fractionRead, hasPower, afterPower, powerRead, final⟩ :=
        read
      have first := fraction?_length fractionRead
      have second := power?_length powerRead
      have third : remaining = afterPower := by
        split at final <;> cases final <;> rfl
      have fourth : (if byte == 0x30 then rest else rest.dropWhile Byte.isDigit).length ≤
          rest.length := by
        split
        · exact Nat.le_refl _
        · exact (List.dropWhile_sublist _).length_le
      simp only [List.length_cons]
      subst third
      omega
    · cases read

theorem word?_length {letters bytes remaining : List UInt8} {token found : Token}
    (read : word? letters token bytes = some (found, remaining)) :
    remaining.length ≤ bytes.length := by
  unfold word? at read
  split at read
  · cases read
    simp only [List.length_drop]; omega
  · cases read

theorem next?_length {byte : UInt8} {rest remaining : List UInt8} {token : Token}
    (read : next? byte rest = some (token, remaining)) :
    remaining.length < (byte :: rest).length := by
  unfold next? at read
  split at read
  all_goals try (cases read; exact Nat.lt_succ_self _)
  all_goals try exact Nat.lt_succ_of_le (word?_length read)
  · obtain ⟨⟨pieces, after⟩, found, equal⟩ := Option.map_eq_some_iff.mp read
    cases equal
    exact Nat.lt_succ_of_lt (literal?_length found)
  · obtain ⟨⟨unused, after⟩, found, equal⟩ := Option.map_eq_some_iff.mp read
    cases equal
    exact Nat.lt_succ_of_lt (unsigned?_length found)
  · exact unsigned?_length read

def ofBytes? (bytes : List UInt8) : Option (List Token) :=
  match bytes with
  | [] => some []
  | byte :: rest =>
      if Byte.isBlank byte then ofBytes? rest
      else
        match _read : next? byte rest with
        | none => none
        | some (token, remaining) => (ofBytes? remaining).map (token :: ·)
termination_by bytes.length
decreasing_by
  · exact Nat.lt_succ_self _
  · exact next?_length (by assumption)

end Token

end NvMemory.Json
