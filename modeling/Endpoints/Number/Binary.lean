/-! Binary numbers: a whole number times a power of two, as machine numbers hold them. -/

namespace Endpoints

structure BinaryFormat where
  fractionBits : Nat
  exponentBits : Nat
  deriving DecidableEq, Repr

namespace BinaryFormat

def double : BinaryFormat := ⟨52, 11⟩

def single : BinaryFormat := ⟨23, 8⟩

end BinaryFormat

/-- The number `mantissa * 2 ^ exponent`. -/
structure Binary where
  mantissa : Nat
  exponent : Int
  /-- Whether the next smaller number of the format is only half as far away as the next greater one. -/
  narrowBelow : Bool
  deriving DecidableEq, Repr

/-- What bits stand for, apart from their sign: none for an infinity or no number. -/
def Binary.ofBits? (format : BinaryFormat) (bits : Nat) : Option Binary :=
  let fraction := bits % Nat.pow 2 format.fractionBits
  let power := bits / Nat.pow 2 format.fractionBits % Nat.pow 2 format.exponentBits
  let least : Int := 2 - Nat.pow 2 (format.exponentBits - 1) - format.fractionBits
  if power + 1 = Nat.pow 2 format.exponentBits then none
  else if power = 0 then some ⟨fraction, least, false⟩
  else some ⟨Nat.pow 2 format.fractionBits + fraction, least + power - 1, fraction = 0 && 1 < power⟩

def BinaryFormat.isNegative (format : BinaryFormat) (bits : Nat) : Bool :=
  bits / Nat.pow 2 (format.fractionBits + format.exponentBits) % 2 = 1

end Endpoints
