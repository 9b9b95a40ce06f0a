import Endpoints.Text.Utf8

/-! Why bytes are no JSON text, or not the text of a value of the wanted shape. -/

namespace Endpoints

inductive JsonFaultCause where
  | endInValue
  | endInList
  | endInObject
  | endInText
  | noValue
  | noWord
  | noNumber
  | numberRange
  | noColon
  | noListEnd
  | noObjectEnd
  | noKey
  | trailingComma
  | trailing
  | badEscape
  | badCodePoint
  | controlCharacter
  | loneSurrogate
  | halfSurrogate
  | tooDeep
  | wrongType (found : String) (expected : String)
  | wrongValue (found : String) (expected : String)
  | wrongLength (length : Nat) (expected : String)
  | missingField (name : String)
  | duplicateField (name : String)
  deriving DecidableEq, Repr

def JsonFaultCause.message : JsonFaultCause → String
  | .endInValue => "EOF while parsing a value"
  | .endInList => "EOF while parsing a list"
  | .endInObject => "EOF while parsing an object"
  | .endInText => "EOF while parsing a string"
  | .noValue => "expected value"
  | .noWord => "expected ident"
  | .noNumber => "invalid number"
  | .numberRange => "number out of range"
  | .noColon => "expected `:`"
  | .noListEnd => "expected `,` or `]`"
  | .noObjectEnd => "expected `,` or `\x7d`"
  | .noKey => "key must be a string"
  | .trailingComma => "trailing comma"
  | .trailing => "trailing characters"
  | .badEscape => "invalid escape"
  | .badCodePoint => "invalid unicode code point"
  | .controlCharacter => "control character (\\u0000-\\u001F) found while parsing a string"
  | .loneSurrogate => "lone leading surrogate in hex escape"
  | .halfSurrogate => "unexpected end of hex escape"
  | .tooDeep => "recursion limit exceeded"
  | .wrongType found expected => "invalid type: " ++ found ++ ", expected " ++ expected
  | .wrongValue found expected => "invalid value: " ++ found ++ ", expected " ++ expected
  | .wrongLength length expected => "invalid length " ++ toString length ++ ", expected " ++ expected
  | .missingField name => "missing field `" ++ name ++ "`"
  | .duplicateField name => "duplicate field `" ++ name ++ "`"

/-- A fault, and how many bytes were not looked at when it was found. -/
structure JsonFault where
  cause : JsonFaultCause
  unread : Nat
  deriving DecidableEq, Repr

def lineAndColumn (bytes : Bytes) : Nat × Nat :=
  bytes.foldl (fun (place : Nat × Nat) byte =>
    if byte == 0x0a then (place.1 + 1, 0) else (place.1, place.2 + 1)) (1, 0)

/-- A fault of a text with the place where it was found. -/
def JsonFault.message (fault : JsonFault) (text : Bytes) : String :=
  let (line, column) := lineAndColumn (text.take (text.length - fault.unread))
  fault.cause.message ++ " at line " ++ toString line ++ " column " ++ toString column

end Endpoints
