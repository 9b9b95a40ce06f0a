import Endpoints.Text.Casing
import Endpoints.Text.Printable
import Endpoints.Text.Utf8
import Endpoints.Url.Address
import Endpoints.Url.Punycode

/-! Domain names: labels between dots, spelled in lower-case ASCII. -/

namespace Endpoints.Domain

/-- Characters that no domain name holds. -/
def isForbidden (c : Char) : Bool :=
  c.toNat ≤ 0x20 || c.toNat == 0x7f || "%#/:<>?@[\\]^|".toList.contains c

/-- Characters that a name may hold and that do not count: the soft hyphen, joiners that only advise
on line breaks, and variation selectors. -/
def isIgnored (c : Char) : Bool :=
  [0xad, 0x34f, 0x200b, 0x2060, 0x2064, 0xfeff].contains c.toNat
    || (0x180b ≤ c.toNat && c.toNat ≤ 0x180d) || (0xfe00 ≤ c.toNat && c.toNat ≤ 0xfe0f)

/-- Full stops of other scripts. -/
def isFullStop (c : Char) : Bool := c == '。' || c == '．' || c == '｡'

/-- The spelling of a character that is compared: lower case, and of the usual width. -/
def foldCharacter (c : Char) : List Char :=
  if isIgnored c then []
  else if isFullStop c then ['.']
  else if 0xff01 ≤ c.toNat ∧ c.toNat ≤ 0xff5e then Text.lowerCharacter (Char.ofNat (c.toNat - 0xfee0))
  else Text.lowerCharacter c

/-- Whether a folded label may stand in a name when it is not all ASCII. -/
def isLabel (label : List Char) : Bool :=
  label.all (fun c => Text.isPrintable c && foldCharacter c == [c])
    && !(label.head?.any Text.isCombiningMark)

/-- The spelling of a label in ASCII. A label that is one already must decode to another. -/
def labelToAscii? (label : List Char) : Option (List Char) :=
  if label.all Punycode.isBasic then
    match label with
    | 'x' :: 'n' :: '-' :: '-' :: encoded =>
      match Punycode.decode? encoded with
      | some decoded =>
        if !decoded.all Punycode.isBasic && isLabel decoded then some label else none
      | none => none
    | _ => some label
  else if isLabel label then some ('x' :: 'n' :: '-' :: '-' :: Punycode.encode label)
  else none

def toAscii? (name : Bytes) : Option (List Char) := do
  let text ← textOf? name
  let folded := text.toList.flatMap foldCharacter
  if folded.any isForbidden then none
  else
    let labels ← (Text.splitAt (· == '.') folded).mapM labelToAscii?
    return (labels.intersperse ['.']).flatten

end Endpoints.Domain
