import Endpoints.Text.Identifier
import Endpoints.Text.Quoted

/-! Where a literal or an identifier at the start of a text ends. Each function gives the length of the
longest lexeme of its kind, or nothing when the text starts with none. -/

namespace Endpoints.Lexeme
open Endpoints.Text

/-- The length of a name without `r#`. -/
def name? : List Char → Option Nat
  | [] => none
  | first :: rest =>
    if isIdentifierStart first then some ((rest.takeWhile isIdentifierContinue).length + 1) else none

/-- The length of what may follow a literal directly. -/
def suffix (text : List Char) : Nat :=
  (name? text).getD 0

/-- What kind of value stands between double quotes. -/
inductive Quotation where
  | text
  | bytes
  | terminated
  deriving DecidableEq, Repr

/-- How far a text between double quotes is read. -/
inductive Reading where
  | body
  | afterCarriage
  | escape
  | hexHigh
  | hexLow (high : Nat)
  | numberOpen
  | number (digits : Nat) (value : Nat)
  | continuationCarriage
  | continuation
  | closed
  deriving Repr

def isScalar (code : Nat) : Bool :=
  code < 0xD800 || (0xDFFF < code && code < 0x110000)

/-- The step in the body of a quotation. -/
def Quotation.inBody (quotation : Quotation) (c : Char) : Option Reading :=
  if c == '"' then some .closed
  else if c == '\r' then some .afterCarriage
  else if c == '\\' then some .escape
  else match quotation with
    | .text => some .body
    | .bytes => if c.val < 128 then some .body else none
    | .terminated => if c.toNat == 0 then none else some .body

def Quotation.next (quotation : Quotation) (reading : Reading) (c : Char) : Option Reading :=
  match reading with
  | .body => quotation.inBody c
  | .afterCarriage => if c == '\n' then some .body else none
  | .escape =>
    if c == 'x' then some .hexHigh
    else if c == 'u' then if quotation = .bytes then none else some .numberOpen
    else if c == '0' then if quotation = .terminated then none else some .body
    else if c == 'n' || c == 'r' || c == 't' || c == '\\' || c == '\'' || c == '"' then some .body
    else if c == '\n' then some .continuation
    else if c == '\r' then some .continuationCarriage
    else none
  | .hexHigh => do
    let high ← Quoted.hexValue? c
    if quotation = .text && high ≥ 8 then none else some (.hexLow high)
  | .hexLow high => do
    let low ← Quoted.hexValue? c
    if quotation = .terminated && high == 0 && low == 0 then none else some .body
  | .numberOpen => if c == '\x7b' then some (.number 0 0) else none
  | .number digits value =>
    if c == '_' && digits > 0 then some reading
    else if c == '\x7d' && digits > 0 then
      if isScalar value && !(quotation = .terminated && value == 0) then some .body else none
    else do
      let digit ← Quoted.hexValue? c
      if digits == 6 then none else some (.number (digits + 1) (value * 16 + digit))
  | .continuationCarriage => if c == '\n' then some .continuation else none
  | .continuation =>
    if c == ' ' || c == '\t' || c == '\n' then some .continuation
    else if c == '\r' then some .continuationCarriage
    else quotation.inBody c
  | .closed => none

/-- The characters up to and with the closing quote. -/
def Quotation.length? (quotation : Quotation) (reading : Reading) : List Char → Option Nat
  | [] => none
  | c :: rest =>
    match quotation.next reading c with
    | none => none
    | some .closed => some 1
    | some reading => (quotation.length? reading rest).map (· + 1)

def rawBody? (quotation : Quotation) (hashes : Nat) : List Char → Option Nat
  | [] => none
  | '"' :: rest =>
    if rest.take hashes == List.replicate hashes '#' then some (hashes + 1)
    else (rawBody? quotation hashes rest).map (· + 1)
  | '\r' :: '\n' :: rest => (rawBody? quotation hashes rest).map (· + 2)
  | '\r' :: _ => none
  | c :: rest =>
    if quotation = .bytes && c.val ≥ 128 || quotation = .terminated && c.toNat == 0 then none
    else (rawBody? quotation hashes rest).map (· + 1)

def raw? (quotation : Quotation) (text : List Char) : Option Nat :=
  let hashes := (text.takeWhile (· == '#')).length
  if hashes > 255 then none
  else match text.drop hashes with
    | '"' :: body => (rawBody? quotation hashes body).map (· + hashes + 1)
    | _ => none

/-- The length of a literal whose last `rest` is still to be looked at for a suffix. -/
def withSuffix (text : List Char) (length : Nat) : Nat :=
  length + suffix (text.drop length)

def quoted? (text : List Char) : Option Nat :=
  (match text with
    | '"' :: body => (Quotation.text.length? .body body).map (· + 1)
    | 'r' :: rest => (raw? .text rest).map (· + 1)
    | 'b' :: '"' :: body => (Quotation.bytes.length? .body body).map (· + 2)
    | 'b' :: 'r' :: rest => (raw? .bytes rest).map (· + 2)
    | 'c' :: '"' :: body => (Quotation.terminated.length? .body body).map (· + 2)
    | 'c' :: 'r' :: rest => (raw? .terminated rest).map (· + 2)
    | _ => none).map (withSuffix text)

/-- The length of an escape by number after `\u`. -/
def number? (digits value : Nat) : List Char → Option Nat
  | [] => none
  | c :: rest =>
    if c == '_' && digits > 0 then (number? digits value rest).map (· + 1)
    else if c == '\x7d' && digits > 0 then if isScalar value then some 1 else none
    else match Quoted.hexValue? c with
      | none => none
      | some digit =>
        if digits == 6 then none
        else (number? (digits + 1) (value * 16 + digit) rest).map (· + 1)

/-- The length of an escape after its backslash in a character literal, or in a byte literal. -/
def escape? (byte : Bool) : List Char → Option Nat
  | 'x' :: high :: low :: _ =>
    match Quoted.hexValue? high, Quoted.hexValue? low with
    | some h, some _ => if byte || h < 8 then some 3 else none
    | _, _ => none
  | 'u' :: '\x7b' :: rest => if byte then none else (number? 0 0 rest).map (· + 2)
  | c :: _ =>
    if c == 'n' || c == 'r' || c == 't' || c == '\\' || c == '0' || c == '\'' || c == '"' then some 1
    else none
  | [] => none

/-- One character, written out or by an escape. -/
def single? (byte : Bool) : List Char → Option Nat
  | [] => none
  | '\\' :: rest => (escape? byte rest).map (· + 1)
  | c :: _ => if byte && c.val ≥ 128 then none else some 1

/-- A character or byte literal after its opening apostrophe. -/
def closedSingle? (byte : Bool) (text : List Char) : Option Nat := do
  let length ← single? byte text
  match text.drop length with
  | '\'' :: _ => some (length + 1)
  | _ => none

def character? (text : List Char) : Option Nat :=
  (match text with
    | 'b' :: '\'' :: body => (closedSingle? true body).map (· + 2)
    | '\'' :: body => (closedSingle? false body).map (· + 1)
    | _ => none).map (withSuffix text)

def isDigitOrUnderscore (c : Char) : Bool := c.isDigit || c == '_'

def exponent? (signed valued : Bool) : List Char → Option Nat
  | [] => if valued then some 0 else none
  | c :: rest =>
    if c == '+' || c == '-' then
      if valued then some 0 else if signed then none
      else (exponent? true valued rest).map (· + 1)
    else if c.isDigit then (exponent? signed true rest).map (· + 1)
    else if c == '_' then (exponent? signed valued rest).map (· + 1)
    else if valued then some 0 else none

/-- The digits, point and exponent of a number that has a point or an exponent. -/
def floatDigits? (text : List Char) : Option Nat :=
  match text with
  | [] => none
  | first :: rest =>
    if !first.isDigit then none
    else
      let whole := (rest.takeWhile isDigitOrUnderscore).length + 1
      match text.drop whole with
      | '.' :: afterPoint =>
        if afterPoint.head?.any fun c => c == '.' || isIdentifierStart c then none
        else
          let length := whole + 1 + (afterPoint.takeWhile isDigitOrUnderscore).length
          match text.drop length with
          | c :: afterMark =>
            if c == 'e' || c == 'E' then
              some (((exponent? false false afterMark).map (· + length + 1)).getD length)
            else some length
          | [] => some length
      | c :: afterMark =>
        if c == 'e' || c == 'E' then (exponent? false false afterMark).map (· + whole + 1) else none
      | [] => none

def baseDigits? (base : Nat) (empty : Bool) : List Char → Option Nat
  | [] => if empty then none else some 0
  | c :: rest =>
    if c == '_' then
      if empty && base == 10 then none else (baseDigits? base empty rest).map (· + 1)
    else if c.isDigit then
      if c.toNat - 48 ≥ base then none else (baseDigits? base false rest).map (· + 1)
    else match Quoted.hexValue? c with
      | some digit =>
        if digit < base then (baseDigits? base false rest).map (· + 1)
        else if empty then none else some 0
      | none => if empty then none else some 0

def integerDigits? (text : List Char) : Option Nat :=
  match text with
  | '0' :: 'x' :: rest => (baseDigits? 16 true rest).map (· + 2)
  | '0' :: 'o' :: rest => (baseDigits? 8 true rest).map (· + 2)
  | '0' :: 'b' :: rest => (baseDigits? 2 true rest).map (· + 2)
  | _ => baseDigits? 10 true text

/-- A number with its suffix, after which no identifier character may stand. -/
def closedNumber? (text : List Char) (digits : Nat) : Option Nat :=
  let length := withSuffix text digits
  if (text.drop length).head?.any isIdentifierContinue then none else some length

def number (text : List Char) : Option Nat :=
  match (floatDigits? text).bind (closedNumber? text) with
  | some length => some length
  | none => (integerDigits? text).bind (closedNumber? text)

def literal? (text : List Char) : Option Nat :=
  (quoted? text).orElse fun _ => (character? text).orElse fun _ => number text

/-- Names that have no raw form. -/
def neverRaw : List String := ["_", "super", "self", "Self", "crate"]

/-- The length of a name, raw or not. -/
def identifier? : List Char → Option Nat
  | 'r' :: '#' :: rest => do
    let length ← name? rest
    if neverRaw.contains (String.ofList (rest.take length)) then none else some (length + 2)
  | text => name? text

/-- Openings of literals, which no identifier may be cut from. -/
def literalOpenings : List String :=
  ["r\"", "r#\"", "r##", "b\"", "b'", "br\"", "br#", "c\"", "cr\"", "cr#"]

end Endpoints.Lexeme
