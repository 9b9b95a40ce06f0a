import Endpoints.Text.Quoted
import Endpoints.Text.Utf8

/-! Percent encoding: a byte that cannot stand in a place is written as `%` and two digits. -/

namespace Endpoints.Percent

/-- The bytes that a place in a URL cannot hold as they are. -/
abbrev Reserved := UInt8 → Bool

def controls : Reserved := fun byte => byte < 0x20 || 0x7f ≤ byte

/-- The bytes of `set`, and those of the characters listed. -/
def adding (set : Reserved) (characters : String) : Reserved := fun byte =>
  set byte || characters.toList.any fun c => c.toNat == byte.toNat

def inFragment : Reserved := adding controls " \"<>`"

def inPath : Reserved := adding inFragment "#?\x7b\x7d"

def inPathSegment : Reserved := adding inPath "/%"

def inUserinfo : Reserved := adding inPath "/:;=@[\\]^|"

def inQuery : Reserved := adding controls " \"#<>"

/-- Schemes of the web also keep the apostrophe out of a query. -/
def inWebQuery : Reserved := adding inQuery "'"

def upperHexDigit (value : Nat) : Char :=
  if value < 10 then Char.ofNat (48 + value) else Char.ofNat (55 + value)

def encodeByte (byte : UInt8) : List Char :=
  ['%', upperHexDigit (byte.toNat / 16), upperHexDigit (byte.toNat % 16)]

def encodeBytes (reserved : Reserved) (bytes : Bytes) : List Char :=
  bytes.flatMap fun byte => if reserved byte then encodeByte byte else [Char.ofNat byte.toNat]

def encode (reserved : Reserved) (text : List Char) : List Char :=
  encodeBytes reserved (bytesOf (String.ofList text))

def escaped? (mark high low : UInt8) : Option UInt8 :=
  if mark == 0x25 then
    match Text.Quoted.hexValue? (Char.ofNat high.toNat), Text.Quoted.hexValue? (Char.ofNat low.toNat) with
    | some h, some l => some (UInt8.ofNat (h * 16 + l))
    | _, _ => none
  else none

/-- Reads the escapes in bytes. A `%` without two digits after it stands for itself. -/
def decodeBytes : Bytes → Bytes
  | mark :: high :: low :: rest =>
    match escaped? mark high low with
    | some byte => byte :: decodeBytes rest
    | none => mark :: decodeBytes (high :: low :: rest)
  | short => short

def decode (text : List Char) : Bytes := decodeBytes (bytesOf (String.ofList text))

end Endpoints.Percent
