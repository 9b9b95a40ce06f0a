import Endpoints.Json.Basic
import Endpoints.Number.Decimal
import Endpoints.Text.Quoted
import Endpoints.Text.Utf8

/-! The shortest text of a JSON value, in bytes. -/

namespace Endpoints

def asciiBytes (text : List Char) : Bytes := text.map fun c => UInt8.ofNat c.toNat

namespace JsonNumber

def text? : JsonNumber → Option (List Char)
  | .natural value => some (toString value.toNat).toList
  | .negative distance => some ('-' :: (toString (distance.val + 1)).toList)
  | .double value => BinaryFormat.double.text? (Decimal.pointText (-5) 15) value.toBits.toNat
  | .single value => BinaryFormat.single.text? (Decimal.pointText (-6) 12) value.toBits.toNat

end JsonNumber

namespace Json

/-- How a byte of a text stands between quotes. -/
def escapeByte (byte : UInt8) : Bytes :=
  if byte == 0x22 then asciiBytes ['\\', '"']
  else if byte == 0x5c then asciiBytes ['\\', '\\']
  else if byte == 0x08 then asciiBytes ['\\', 'b']
  else if byte == 0x09 then asciiBytes ['\\', 't']
  else if byte == 0x0a then asciiBytes ['\\', 'n']
  else if byte == 0x0c then asciiBytes ['\\', 'f']
  else if byte == 0x0d then asciiBytes ['\\', 'r']
  else if byte < 0x20 then
    asciiBytes ['\\', 'u', '0', '0', Text.Quoted.hexDigit (byte.toNat / 16),
      Text.Quoted.hexDigit (byte.toNat % 16)]
  else [byte]

def quote (text : String) : Bytes := 0x22 :: ((bytesOf text).flatMap escapeByte ++ [0x22])

mutual

def bytes : Json → Bytes
  | .null => asciiBytes "null".toList
  | .bool true => asciiBytes "true".toList
  | .bool false => asciiBytes "false".toList
  | .number value => asciiBytes (value.text?.getD "null".toList)
  | .text value => quote value
  | .list items => 0x5b :: (itemBytes items ++ [0x5d])
  | .object entries => 0x7b :: (entryBytes entries ++ [0x7d])

def itemBytes : List Json → Bytes
  | [] => []
  | [item] => item.bytes
  | item :: rest => item.bytes ++ 0x2c :: itemBytes rest

def entryBytes : List (String × Json) → Bytes
  | [] => []
  | [(key, value)] => quote key ++ 0x3a :: value.bytes
  | (key, value) :: rest => quote key ++ 0x3a :: (value.bytes ++ 0x2c :: entryBytes rest)

end

end Json

end Endpoints
