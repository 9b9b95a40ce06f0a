import Endpoints.Url.Domain
import Endpoints.Url.Percent

/-! Hosts in URLs. -/

namespace Endpoints

inductive Host where
  | empty
  | name (text : List Char)
  | ipv4 (address : Nat)
  | ipv6 (address : Ipv6)
  deriving DecidableEq, Repr

namespace Host

def text : Host → List Char
  | .empty => []
  | .name text => text
  | .ipv4 address => Ipv4.text address
  | .ipv6 address => Ipv6.text address

def bracketed? : List Char → Option (Except UrlError Host)
  | '[' :: rest =>
    if rest.getLast? = some ']' then some ((Ipv6.read rest.dropLast).map Host.ipv6)
    else some (.error .badIpv6)
  | _ => none

/-- A host where schemes of the web have one: a domain or an address. -/
def read (text : List Char) : Except UrlError Host :=
  match bracketed? text with
  | some result => result
  | none =>
    match Domain.toAscii? (Percent.decode text) with
    | none => .error .badDomain
    | some [] => .error .emptyHost
    | some domain =>
      if Ipv4.isClaimedBy domain then (Ipv4.read domain).map Host.ipv4 else .ok (.name domain)

/-- A host of another scheme: any name without the characters that divide a URL. -/
def readOpaque (text : List Char) : Except UrlError Host :=
  match bracketed? text with
  | some result => result
  | none =>
    if text.any fun c => "\x00\t\n\r #/:<>?@[\\]^|".toList.contains c then .error .badHostCharacter
    else if text = [] then .ok .empty
    else .ok (.name (Percent.encode Percent.controls text))

end Host

end Endpoints
