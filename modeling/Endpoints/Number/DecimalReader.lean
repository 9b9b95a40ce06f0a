import Endpoints.Number.Decimal
import Endpoints.Text.Parts

/-! Reading decimal numbers and rounding them to machine numbers. -/

namespace Endpoints

namespace Decimal

def readExponent? (text : List Char) : Option Int :=
  let natural? (digits : List Char) : Option Int :=
    if digits = [] then none else (Text.valueIn? 10 digits).map Int.ofNat
  match text with
  | '-' :: digits => (natural? digits).map (- ·)
  | '+' :: digits => natural? digits
  | digits => natural? digits

/-- Digits, with a point among them, and an exponent after `e` where there is one. -/
def readUnsigned? (text : List Char) : Option Decimal := do
  let isMark (c : Char) : Bool := c == 'e' || c == 'E'
  let mantissa := text.takeWhile (!isMark ·)
  let whole := mantissa.takeWhile (· != '.')
  let fraction := (mantissa.dropWhile (· != '.')).drop 1
  let exponent ← match text.dropWhile (!isMark ·) with
    | [] => some 0
    | _ :: rest => readExponent? rest
  if whole ++ fraction = [] then none
  else
    let digits ← Text.valueIn? 10 (whole ++ fraction)
    return ⟨digits, exponent - fraction.length⟩

def toFloat (decimal : Decimal) : Float :=
  Float.ofScientific decimal.digits (decimal.exponent < 0) decimal.exponent.natAbs

def toFloat32 (decimal : Decimal) : Float32 :=
  Float32.ofScientific decimal.digits (decimal.exponent < 0) decimal.exponent.natAbs

end Decimal

/-- A text of a machine number: a decimal number, an infinity or no number, after a sign. -/
def readReal? {α : Type} [Neg α] (nearest : Decimal → α) (infinity noNumber : α) (text : String) : Option α :=
  let unsigned (body : List Char) : Option α :=
    let lower := body.map Char.toLower
    if lower = "inf".toList ∨ lower = "infinity".toList then some infinity
    else if lower = "nan".toList then some noNumber
    else (Decimal.readUnsigned? body).map nearest
  match text.toList with
  | '-' :: body => (unsigned body).map (- ·)
  | '+' :: body => unsigned body
  | body => unsigned body

def readDouble? (text : String) : Option Float := readReal? Decimal.toFloat (1.0 / 0.0) (0.0 / 0.0) text

def readSingle? (text : String) : Option Float32 := readReal? Decimal.toFloat32 (1.0 / 0.0) (0.0 / 0.0) text

end Endpoints
