import Endpoints.Number.Binary

/-! Decimal numbers, and the shortest decimal number that a binary number rounds from. -/

namespace Endpoints

/-- The number `digits * 10 ^ exponent`. -/
structure Decimal where
  digits : Nat
  exponent : Int
  deriving DecidableEq, Repr

namespace Binary

/-- A number in units of `10 ^ exponent`, as a fraction with a quarter of the mantissa's unit in the
numerator. -/
structure Scaled where
  unit : Nat
  denominator : Nat

def scaled (number : Binary) (exponent : Int) : Scaled :=
  { unit := Nat.pow 2 (number.exponent - 2).toNat * Nat.pow 10 (-exponent).toNat
    denominator := Nat.pow 2 (2 - number.exponent).toNat * Nat.pow 10 exponent.toNat }

/-- Whether the nearest number of the format to `digits` units is this one. Halfway points go to even
mantissas. -/
def isNearest (number : Binary) (exponent : Int) (digits : Nat) : Bool :=
  let scale := number.scaled exponent
  let least := (4 * number.mantissa - if number.narrowBelow then 1 else 2) * scale.unit
  let greatest := (4 * number.mantissa + 2) * scale.unit
  let point := digits * scale.denominator
  if number.mantissa % 2 = 0 then least ≤ point && point ≤ greatest
  else least < point && point < greatest

/-- The number of units that is nearest to the number among those that round to it. Of two that are
equally near the even one counts. -/
def digitsAt? (number : Binary) (exponent : Int) : Option Nat :=
  let scale := number.scaled exponent
  let value := 4 * number.mantissa * scale.unit
  let below := value / scale.denominator
  let belowFits := 0 < below && number.isNearest exponent below
  let aboveFits := number.isNearest exponent (below + 1)
  let middle := (2 * below + 1) * scale.denominator
  if belowFits && aboveFits then
    if 2 * value < middle then some below
    else if middle < 2 * value then some (below + 1)
    else some (below + below % 2)
  else if belowFits then some below
  else if aboveFits then some (below + 1)
  else none

/-- The decimal number on the coarsest grid that has one, from the given grid on. -/
def shortestFrom (number : Binary) : Nat → Int → Decimal
  | 0, _ => ⟨0, 0⟩
  | steps + 1, exponent =>
    match number.digitsAt? exponent with
    | some digits => ⟨digits, exponent⟩
    | none => shortestFrom number steps (exponent - 1)

/-- The decimal number with the fewest digits that the number is nearest to. -/
def shortest (number : Binary) : Decimal :=
  if number.mantissa = 0 then ⟨0, 0⟩
  else
    let bits := number.exponent + number.mantissa.log2 + 1
    number.shortestFrom (number.mantissa.log2 + 8) (bits * 30103 / 100000 + 2)

end Binary

namespace Decimal

def digitText (decimal : Decimal) : List Char := (toString decimal.digits).toList

def leadingExponent (decimal : Decimal) : Int :=
  decimal.exponent + decimal.digitText.length - 1

/-- The digits before and after the point when no exponent is written. -/
def positional (decimal : Decimal) : List Char × List Char :=
  let digits := decimal.digitText
  if 0 ≤ decimal.exponent then (digits ++ List.replicate decimal.exponent.toNat '0', [])
  else
    let places := (-decimal.exponent).toNat
    let padded := List.replicate (places + 1 - digits.length) '0' ++ digits
    (padded.take (padded.length - places), padded.drop (padded.length - places))

def plainText (decimal : Decimal) : List Char :=
  match decimal.positional with
  | (whole, []) => whole
  | (whole, fraction) => whole ++ '.' :: fraction

def twoDigits (number : Nat) : List Char :=
  if number < 10 then '0' :: (toString number).toList else (toString number).toList

/-- A number whose first digit stands between the `least` and the `greatest` place has all digits in their
places and one digit after the point at least. Others have one digit before the point, and an exponent
with its sign and two digits at least. -/
def pointText (least greatest : Int) (decimal : Decimal) : List Char :=
  let leading := decimal.leadingExponent
  if least ≤ leading ∧ leading ≤ greatest then
    match decimal.positional with
    | (whole, []) => whole ++ ['.', '0']
    | (whole, fraction) => whole ++ '.' :: fraction
  else
    let sign := if leading < 0 then '-' else '+'
    let mantissa := match decimal.digitText with
      | [] => []
      | [digit] => [digit]
      | digit :: rest => digit :: '.' :: rest
    mantissa ++ 'e' :: sign :: twoDigits leading.natAbs

end Decimal

def BinaryFormat.text? (format : BinaryFormat) (spell : Decimal → List Char) (bits : Nat) :
    Option (List Char) :=
  (Binary.ofBits? format bits).map fun number =>
    (if format.isNegative bits then ['-'] else []) ++ spell number.shortest

end Endpoints
