import Endpoints.Json.Fault

/-! Reading bytes from the front. -/

namespace Endpoints

/-- Reads a value at the front of bytes, and gives what follows it. -/
abbrev JsonReader (α : Type) := Bytes → Except JsonFault (α × Bytes)

namespace JsonReader

/-- A fault found after looking at the first of the given bytes. -/
def faultAt {α : Type} (cause : JsonFaultCause) (rest : Bytes) : Except JsonFault α :=
  .error ⟨cause, rest.length - 1⟩

/-- A fault found without looking at the given bytes. -/
def faultBefore {α : Type} (cause : JsonFaultCause) (rest : Bytes) : Except JsonFault α :=
  .error ⟨cause, rest.length⟩

def isSpace (byte : UInt8) : Bool := byte == 0x20 || byte == 0x0a || byte == 0x09 || byte == 0x0d

def skipSpace (bytes : Bytes) : Bytes := bytes.dropWhile isSpace

def isDigit (byte : UInt8) : Bool := 0x30 ≤ byte && byte ≤ 0x39

def digitValue (byte : UInt8) : Nat := byte.toNat - 48

def word (expected : List Char) (bytes : Bytes) : Except JsonFault (Unit × Bytes) :=
  match expected, bytes with
  | [], rest => .ok ((), rest)
  | _ :: _, [] => faultBefore .endInValue []
  | c :: more, byte :: rest =>
    if byte.toNat == c.toNat then word more rest else faultBefore .noWord rest

end JsonReader

end Endpoints
