import Endpoints.Json.Cursor
import Endpoints.Text.Quoted

/-! Reading JSON texts. -/

namespace Endpoints.JsonReader

def fourDigits? (a b c d : UInt8) : Option Nat :=
  [a, b, c, d].foldlM (fun value byte =>
    (Text.Quoted.hexValue? (Char.ofNat byte.toNat)).map (value * 16 + ·)) 0

def codeUnit : JsonReader Nat
  | a :: b :: c :: d :: rest =>
    match fourDigits? a b c d with
    | some unit => .ok (unit, rest)
    | none => faultBefore .badEscape rest
  | _ => faultBefore .endInText []

/-- The second unit of a character of two, with its escape. -/
def secondUnit : JsonReader Nat
  | 0x5c :: 0x75 :: rest => do
    let (unit, after) ← codeUnit rest
    if 0xdc00 ≤ unit ∧ unit ≤ 0xdfff then return (unit, after) else faultBefore .loneSurrogate after
  | [] | [0x5c] => faultBefore .endInText []
  | 0x5c :: rest => faultAt .halfSurrogate rest
  | rest => faultAt .halfSurrogate rest

def unicodeEscape : JsonReader Bytes := fun bytes => do
  let (unit, rest) ← codeUnit bytes
  if 0xdc00 ≤ unit ∧ unit ≤ 0xdfff then faultBefore .loneSurrogate rest
  else if 0xd800 ≤ unit ∧ unit ≤ 0xdbff then
    let (second, after) ← secondUnit rest
    let code := 0x10000 + (unit - 0xd800) * 0x400 + (second - 0xdc00)
    return (bytesOf (String.singleton (Char.ofNat code)), after)
  else return (bytesOf (String.singleton (Char.ofNat unit)), rest)

def shortEscape? (byte : UInt8) : Option UInt8 :=
  if byte == 0x22 || byte == 0x5c || byte == 0x2f then some byte
  else if byte == 0x62 then some 0x08
  else if byte == 0x66 then some 0x0c
  else if byte == 0x6e then some 0x0a
  else if byte == 0x72 then some 0x0d
  else if byte == 0x74 then some 0x09
  else none

/-- What an escape stands for, after its backslash. -/
def escape : JsonReader Bytes := fun bytes =>
  match bytes with
  | [] => faultBefore .endInText []
  | byte :: rest =>
    if byte == 0x75 then unicodeEscape rest
    else match shortEscape? byte with
      | some meant => .ok ([meant], rest)
      | none => faultBefore .badEscape rest

theorem codeUnit_length {bytes : Bytes} {unit : Nat} {rest : Bytes}
    (read : codeUnit bytes = .ok (unit, rest)) : rest.length < bytes.length := by
  unfold codeUnit at read
  split at read
  · split at read
    · simp at read; simp [← read.2]; omega
    · simp [faultBefore] at read
  · simp [faultBefore] at read

theorem secondUnit_length {bytes : Bytes} {unit : Nat} {rest : Bytes}
    (read : secondUnit bytes = .ok (unit, rest)) : rest.length < bytes.length := by
  unfold secondUnit at read
  split at read
  · next after =>
    match inner : codeUnit after with
    | .error fault => simp [inner, bind, Except.bind] at read
    | .ok (second, others) =>
      have := codeUnit_length inner
      simp only [inner, bind, Except.bind] at read
      split at read
      · simp [pure, Except.pure] at read; simp [← read.2]; omega
      · simp [faultBefore] at read
  all_goals simp [faultBefore, faultAt] at read

theorem unicodeEscape_length {bytes : Bytes} {meant : Bytes} {rest : Bytes}
    (read : unicodeEscape bytes = .ok (meant, rest)) : rest.length < bytes.length := by
  unfold unicodeEscape at read
  match first : codeUnit bytes with
  | .error fault => simp [first, bind, Except.bind] at read
  | .ok (unit, others) =>
    have := codeUnit_length first
    simp only [first, bind, Except.bind] at read
    split at read
    · simp [faultBefore] at read
    · split at read
      · match second : secondUnit others with
        | .error fault => simp [second] at read
        | .ok (low, after) =>
          have := secondUnit_length second
          simp [second, pure, Except.pure] at read
          simp [← read.2]; omega
      · simp [pure, Except.pure] at read; simp [← read.2]; omega

theorem escape_length {bytes : Bytes} {meant : Bytes} {rest : Bytes}
    (read : escape bytes = .ok (meant, rest)) : rest.length < bytes.length := by
  unfold escape at read
  split at read
  · simp [faultBefore] at read
  · split at read
    · have := unicodeEscape_length read; simp; omega
    · split at read
      · simp at read; simp [← read.2]
      · simp [faultBefore] at read

def textBytes (before : Bytes) (bytes : Bytes) : Except JsonFault (Bytes × Bytes) :=
  match bytes with
  | [] => faultBefore .endInText []
  | byte :: rest =>
    if byte == 0x22 then .ok (before.reverse, rest)
    else if byte == 0x5c then
      match read : escape rest with
      | .error fault => .error fault
      | .ok (meant, after) =>
        have := escape_length read
        textBytes (meant.reverse ++ before) after
    else if byte < 0x20 then faultBefore .controlCharacter rest
    else textBytes (byte :: before) rest
  termination_by bytes.length

def text : JsonReader String := fun bytes => do
  let (spelled, rest) ← textBytes [] bytes
  match textOf? spelled with
  | some found => return (found, rest)
  | none => .error ⟨.badCodePoint, rest.length + (Utf8.invalidFrom spelled).length⟩

end Endpoints.JsonReader
