import Endpoints.Form.Basic
import Endpoints.Text.Parts
import Endpoints.Url.Percent

/-! The text form of a form: keys and values with escapes, `=` between the two and `&` between pairs. -/

namespace Endpoints.Form

/-- Letters, digits and `*-._` stand for themselves. -/
def isPlain (byte : UInt8) : Bool :=
  let c := Char.ofNat byte.toNat
  byte < 0x80 && (c.isAlphanum || c == '*' || c == '-' || c == '.' || c == '_')

def encodeByte (byte : UInt8) : List Char :=
  if isPlain byte then [Char.ofNat byte.toNat]
  else if byte == 0x20 then ['+']
  else Percent.encodeByte byte

def encodeText (text : String) : List Char := (bytesOf text).flatMap encodeByte

def encodePair (pair : String × String) : List Char :=
  encodeText pair.1 ++ '=' :: encodeText pair.2

def encodePairs : List (String × String) → List Char
  | [] => []
  | [pair] => encodePair pair
  | pair :: rest => encodePair pair ++ '&' :: encodePairs rest

def encode (form : Form) : String := String.ofList (encodePairs form.pairs)

def decodeText (text : List Char) : String :=
  String.ofList (Utf8.decodeLossy (Percent.decode (text.map fun c => if c == '+' then ' ' else c)))

/-- The pair that a part of a text spells: a part without `=` is a key with an empty value. -/
def decodePair (part : List Char) : String × String :=
  (decodeText (part.takeWhile (· ≠ '=')), decodeText ((part.dropWhile (· ≠ '=')).drop 1))

def decode (text : String) : List (String × String) :=
  ((Text.splitAt (· == '&') text.toList).filter (· ≠ [])).map decodePair

end Endpoints.Form
