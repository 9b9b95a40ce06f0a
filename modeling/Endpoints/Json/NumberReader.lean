import Endpoints.Json.Basic
import Endpoints.Json.Cursor

/-! Reading JSON numbers. -/

namespace Endpoints.JsonReader

/-- Digits as long as the number that they make stays below a limit. -/
def digitsBelow (limit value : Nat) : Bytes → Nat × Bytes
  | [] => (value, [])
  | byte :: rest =>
    if isDigit byte && value * 10 + digitValue byte < limit then
      digitsBelow limit (value * 10 + digitValue byte) rest
    else (value, byte :: rest)

def startsWithDigit (bytes : Bytes) : Bool := bytes.head?.any isDigit

def tenTo (exponent : Nat) : Float := Float.ofScientific 1 false exponent

/-- Divides by a power of ten in steps that a machine number can hold. -/
def divideByTenTo (value : Float) (exponent : Nat) : Float :=
  if exponent ≤ 308 then value / tenTo exponent
  else if value == 0.0 then value
  else divideByTenTo (value / tenTo 308) (exponent - 308)
  termination_by exponent
  decreasing_by omega

/-- The machine number near a significand times a power of ten, none when it is too great. -/
def scale? (significand : Nat) (exponent : Int) : Option Float :=
  let value := significand.toUInt64.toFloat
  if exponent < 0 then some (divideByTenTo value exponent.natAbs)
  else if exponent ≤ 308 then
    let scaled := value * tenTo exponent.natAbs
    if scaled.isInf then none else some scaled
  else if value == 0.0 then some value
  else none

def signed (positive : Bool) (value : Float) : Float := if positive then value else -value

def pointNumber (positive : Bool) (significand : Nat) (exponent : Int) : JsonReader JsonNumber := fun rest =>
  match scale? significand exponent with
  | some value => .ok (.double (signed positive value), rest)
  | none => faultAt .numberRange rest

def exponentPart (positive : Bool) (significand : Nat) (start : Int) : JsonReader JsonNumber := fun bytes =>
  let (raised, digits) := match bytes with
    | 0x2b :: rest => (true, rest)
    | 0x2d :: rest => (false, rest)
    | rest => (true, rest)
  match digits with
  | [] => faultBefore .endInValue []
  | first :: rest =>
    if isDigit first then
      let (exponent, after) := digitsBelow 0x80000000 (digitValue first) rest
      if startsWithDigit after then
        if significand ≠ 0 ∧ raised then faultBefore .numberRange (after.drop 1)
        else .ok (.double (signed positive 0.0), after.dropWhile isDigit)
      else pointNumber positive significand (start + if raised then (exponent : Int) else -exponent) after
    else faultBefore .noNumber rest

def isExponentMark (byte : UInt8) : Bool := byte == 0x65 || byte == 0x45

def maybeExponent (positive : Bool) (significand : Nat) (start : Int) : JsonReader JsonNumber := fun bytes =>
  match bytes with
  | byte :: rest =>
    if isExponentMark byte then exponentPart positive significand start rest
    else pointNumber positive significand start bytes
  | [] => pointNumber positive significand start []

def fractionPart (positive : Bool) (significand : Nat) (start : Int) : JsonReader JsonNumber := fun bytes =>
  let (value, after) := digitsBelow 0x10000000000000000 significand bytes
  let places := bytes.length - after.length
  if places = 0 ∧ !startsWithDigit after then
    faultAt (if after = [] then .endInValue else .noNumber) after
  else maybeExponent positive value (start - places) (after.dropWhile isDigit)

def wholeNumber (positive : Bool) (significand : Nat) : JsonNumber :=
  if positive then .natural significand.toUInt64
  else if fits : 0 < significand ∧ significand - 1 < 0x8000000000000000 then .negative ⟨significand - 1, fits.2⟩
  else .double (-significand.toUInt64.toFloat)

/-- What follows the digits before a point. `start` counts digits that the significand has no room
for. -/
def afterDigits (positive : Bool) (significand : Nat) (start : Nat) : JsonReader JsonNumber := fun bytes =>
  match bytes with
  | 0x2e :: rest => fractionPart positive significand start rest
  | byte :: _ =>
    if isExponentMark byte || 0 < start then maybeExponent positive significand start bytes
    else .ok (wholeNumber positive significand, bytes)
  | [] =>
    if 0 < start then pointNumber positive significand start []
    else .ok (wholeNumber positive significand, [])

def unsignedNumber (positive : Bool) : JsonReader JsonNumber := fun bytes =>
  match bytes with
  | [] => faultBefore .endInValue []
  | first :: rest =>
    if first == 0x30 then
      if startsWithDigit rest then faultAt .noNumber rest else afterDigits positive 0 0 rest
    else if isDigit first then
      let (significand, after) := digitsBelow 0x10000000000000000 (digitValue first) rest
      afterDigits positive significand (after.takeWhile isDigit).length (after.dropWhile isDigit)
    else faultBefore .noNumber rest

end Endpoints.JsonReader
