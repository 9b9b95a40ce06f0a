import Endpoints.Text.Parts
import Endpoints.Url.Error

/-! Numeric addresses in URLs. -/

namespace Endpoints

namespace Ipv4

/-- A number in base 16 after `0x`, in base 8 after another `0`, in base 10 otherwise. -/
def number? (text : List Char) : Option Nat :=
  match text with
  | [] => none
  | '0' :: 'x' :: digits | '0' :: 'X' :: digits => Text.valueIn? 16 digits
  | '0' :: digits => Text.valueIn? 8 digits
  | digits => Text.valueIn? 10 digits

/-- The parts of a name between dots. A dot at its end divides nothing. -/
def parts (name : List Char) : List (List Char) :=
  let all := Text.splitAt (· == '.') name
  if 1 < all.length ∧ all.getLast? = some [] then all.dropLast else all

/-- A name whose last part is a number has to be an address. -/
def isClaimedBy (name : List Char) : Bool :=
  match (parts name).getLast? with
  | some [] | none => false
  | some last => last.all Char.isDigit || (number? last).isSome

/-- Up to four numbers: all but the last are single bytes, and the last fills the other bytes. -/
def read (name : List Char) : Except UrlError Nat :=
  let found := (parts name).map number?
  match found.reverse with
  | some last :: others =>
    if found.length ≤ 4 ∧ others.all (fun part => part.any (· ≤ 255)) ∧ last < Nat.pow 256 (5 - found.length) then
      .ok ((found.dropLast.filterMap id).foldl (fun value byte => value * 256 + byte) 0
        * Nat.pow 256 (5 - found.length) + last)
    else .error .badIpv4
  | _ => .error .badIpv4

def text (address : Nat) : List Char :=
  let byte (place : Nat) := (toString (address / Nat.pow 256 place % 256)).toList
  byte 3 ++ '.' :: byte 2 ++ '.' :: byte 1 ++ '.' :: byte 0

end Ipv4

/-- Eight pieces of sixteen bits. -/
abbrev Ipv6 := List Nat

namespace Ipv6

/-- Four decimal numbers below 256 without leading zeros, as two pieces. -/
def tail? (text : List Char) : Option (List Nat) := do
  let numbers ← (Text.splitAt (· == '.') text).mapM fun digits =>
    if digits = [] ∨ (digits.head? = some '0' ∧ digits ≠ ['0']) then none
    else (Text.valueIn? 10 digits).filter (· ≤ 255)
  match numbers with
  | [a, b, c, d] => some [a * 256 + b, c * 256 + d]
  | _ => none

/-- The pieces between colons, of which the last may be an address of four numbers. -/
def pieces? : List (List Char) → Option (List Nat)
  | [] => some []
  | [last] =>
    if last.contains '.' then tail? last
    else if last = [] ∨ 4 < last.length then none
    else (Text.valueIn? 16 last).map fun piece => [piece]
  | digits :: rest =>
    if digits = [] ∨ 4 < digits.length then none
    else match Text.valueIn? 16 digits, pieces? rest with
      | some piece, some others => some (piece :: others)
      | _, _ => none

/-- The text before and after the first two colons that stand together. -/
def cut? (before : List Char) : List Char → Option (List Char × List Char)
  | ':' :: ':' :: after => some (before.reverse, after)
  | c :: rest => cut? (c :: before) rest
  | [] => none

/-- Pieces between colons, where an empty text has none. -/
def side? (text : List Char) : Option (List Nat) :=
  if text = [] then some [] else pieces? (Text.splitAt (· == ':') text)

/-- Eight pieces, or fewer around two colons that stand for pieces of zero. -/
def read (text : List Char) : Except UrlError Ipv6 :=
  match cut? [] text with
  | some (before, after) =>
    if before.contains '.' then .error .badIpv6
    else match side? before, side? after with
      | some first, some last =>
        if first.length + last.length < 8 then
          .ok (first ++ List.replicate (8 - first.length - last.length) 0 ++ last)
        else .error .badIpv6
      | _, _ => .error .badIpv6
  | none =>
    match side? text with
    | some pieces => if pieces.length = 8 then .ok pieces else .error .badIpv6
    | none => .error .badIpv6

/-- The number of zeros at the front. -/
def zeros (pieces : List Nat) : Nat := (pieces.takeWhile (· == 0)).length

/-- Where the longest run of zeros starts, the first of several, and its length. -/
def longestZeros (pieces : List Nat) : Nat × Nat :=
  (List.range pieces.length).foldl (fun (best : Nat × Nat) start =>
    let length := zeros (pieces.drop start)
    if best.2 < length then (start, length) else best) (0, 0)

def joined (pieces : List Nat) : List Char :=
  ((pieces.map Text.Quoted.hexDigits).intersperse [':']).flatten

/-- The longest run of two or more zeros is left out between two colons. -/
def text (address : Ipv6) : List Char :=
  let (start, length) := longestZeros address
  let body := if 2 ≤ length then
      joined (address.take start) ++ ':' :: ':' :: joined (address.drop (start + length))
    else joined address
  '[' :: (body ++ [']'])

end Ipv6

end Endpoints
