/-!
Decimal text of binary floating-point numbers, with the fewest digits that read back.

A finite number is `mantissa * 2 ^ exponent`. Every real strictly between its two
neighbours' midpoints rounds to it, and the midpoints do so exactly when the mantissa
is even. `shortest` looks for a point of a decimal grid in that range, on the coarsest
grid that has one. Of two such points it takes the nearer, and of two that are equally near
the one that the `Tie` rule names.
-/

namespace NvMemory.Decimal

/-- A positive number as `mantissa * 2 ^ exponent`. -/
structure Binary where
  mantissa : Nat
  exponent : Int
  /-- The number below is only half as far away as the number above. -/
  closeBelow : Bool
deriving Repr, DecidableEq

/-- Which of two equally near points is taken. -/
inductive Tie where
  /-- The point with the even last digit. -/
  | toEven
  /-- The point farther from zero. -/
  | awayFromZero
deriving Repr, DecidableEq

namespace Tie

/-- Whether a number midway between `under` and the next point goes to `under`. -/
def staysUnder (tie : Tie) (under : Nat) : Bool :=
  match tie with
  | .toEven => under % 2 == 0
  | .awayFromZero => false

end Tie

/-- The decimal number `digits * 10 ^ exponent`. -/
structure Scaled where
  digits : Nat
  exponent : Int
deriving Repr, DecidableEq

namespace Binary

/-- The midpoint to the number below, in quarters of the last place. -/
def below (number : Binary) : Nat :=
  if number.closeBelow then 4 * number.mantissa - 1 else 4 * number.mantissa - 2

/-- The midpoint to the number above, in quarters of the last place. -/
def above (number : Binary) : Nat :=
  4 * number.mantissa + 2

/-- A power of ten above the number. -/
def magnitude (number : Binary) : Int :=
  Int.fdiv ((number.mantissa.log2 + 1 + number.exponent) * 30103) 100000 + 1

end Binary

/-- Quarters of the last place and steps of the grid `10 ^ place`, measured in one unit. -/
structure Measure where
  quarter : Nat
  step : Nat

def Measure.of (number : Binary) (place : Int) : Measure where
  quarter := Nat.pow 2 (number.exponent - 2).toNat * Nat.pow 10 (-place).toNat
  step := Nat.pow 2 (2 - number.exponent).toNat * Nat.pow 10 place.toNat

/-- Whether `count` grid steps read back as the number. -/
def readsBack (number : Binary) (measure : Measure) (count : Nat) : Bool :=
  let point := count * measure.step
  let lower := number.below * measure.quarter
  let upper := number.above * measure.quarter
  if number.mantissa % 2 = 0 then lower ≤ point && point ≤ upper
  else lower < point && point < upper

/-- The point of the grid `10 ^ place` nearest to the number among those that read back. -/
def onGrid? (tie : Tie) (number : Binary) (place : Int) : Option Nat :=
  let measure := Measure.of number place
  let centre := 4 * number.mantissa * measure.quarter
  let under := centre / measure.step
  match readsBack number measure under, readsBack number measure (under + 1) with
  | true, true =>
      let down := centre - under * measure.step
      let up := (under + 1) * measure.step - centre
      some (if down < up ∨ down = up ∧ tie.staysUnder under then under else under + 1)
  | true, false => some under
  | false, true => some (under + 1)
  | false, false => none

/-- Tries `grids` grids, each ten times finer than the one before, from `10 ^ place` on. -/
def search (tie : Tie) (number : Binary) : (grids : Nat) → (place : Int) → Scaled
  | 0, place => ⟨4 * number.mantissa * (Measure.of number place).quarter /
      (Measure.of number place).step, place⟩
  | grids + 1, place =>
      match onGrid? tie number place with
      | some digits => ⟨digits, place⟩
      | none => search tie number grids (place - 1)

/-- The fewest digits that read back. Seventeen digits always do. -/
def shortest (tie : Tie) (number : Binary) : Scaled :=
  search tie number 20 number.magnitude

def isNegative (number : Float) : Bool :=
  number.toBits >>> 63 = 1

/-- The absolute value of a finite number other than zero. -/
def binary (number : Float) : Binary :=
  let field := ((number.toBits >>> 52) &&& 0x7FF).toNat
  let fraction := (number.toBits &&& 0xFFFFFFFFFFFFF).toNat
  if field = 0 then { mantissa := fraction, exponent := -1074, closeBelow := false }
  else
    { mantissa := 0x10000000000000 + fraction
      exponent := field - 1075
      closeBelow := fraction = 0 ∧ 1 < field }

def zeros (count : Nat) : String :=
  String.ofList (List.replicate count '0')

/-- Positional notation; a whole number is written without a point. -/
def positional (number : Scaled) : String :=
  let digits := toString number.digits
  let point := (digits.length : Int) + number.exponent
  if 0 ≤ number.exponent then digits ++ zeros number.exponent.toNat
  else if 0 < point then
    (digits.take point.toNat).toString ++ "." ++ (digits.drop point.toNat).toString
  else "0." ++ zeros (-point).toNat ++ digits

/-- One digit before the point, and the power of ten after the letter `e`, always with a sign. -/
def scientific (number : Scaled) : String :=
  let digits := toString number.digits
  let power := (digits.length : Int) + number.exponent - 1
  let head := (digits.take 1).toString
  let tail := (digits.drop 1).toString
  let mark := if power < 0 then "e" else "e+"
  (if tail.isEmpty then head else head ++ "." ++ tail) ++ mark ++ toString power

/-- The text of a number in messages: positional at every size. Of two equally near digit
strings the one farther from zero is written. -/
def plain (number : Float) : String :=
  if number.isNaN then "NaN"
  else
    let sign := if isNegative number then "-" else ""
    if number.isInf then sign ++ "inf"
    else if number == 0 then sign ++ "0"
    else sign ++ positional (shortest .awayFromZero (binary number))

/-- The text of a finite number in documents: always with a point or a power of ten, and
positional from `0.00001` on as long as no more than sixteen digits stand before the point.
Of two equally near digit strings the even one is written. -/
def documented (number : Float) : String :=
  let sign := if isNegative number then "-" else ""
  if number == 0 then sign ++ "0.0"
  else
    let scaled := shortest .toEven (binary number)
    let point := ((toString scaled.digits).length : Int) + scaled.exponent
    sign ++
      if -5 < point ∧ point ≤ 16 then
        if 0 ≤ scaled.exponent then positional scaled ++ ".0" else positional scaled
      else scientific scaled

end NvMemory.Decimal
