import Endpoints.Json.NumberReader
import Endpoints.Json.TextReader

/-! Reading JSON values. Loops take as many steps as `fuel` tells: the number of bytes is enough, since
each step reads one. -/

namespace Endpoints.JsonReader

def items {α : Type} (item : JsonReader α) : Nat → Bool → JsonReader (List α)
  | 0, _, bytes => faultBefore .endInList bytes
  | fuel + 1, first, bytes =>
    let next (start : Bytes) : Except JsonFault (List α × Bytes) := do
      let (value, rest) ← item start
      let (others, after) ← items item fuel false rest
      return (value :: others, after)
    match skipSpace bytes with
    | [] => faultAt .endInList []
    | 0x5d :: rest => .ok ([], rest)
    | byte :: rest =>
      if first then next (byte :: rest)
      else if byte == 0x2c then
        match skipSpace rest with
        | [] => faultAt .endInValue []
        | 0x5d :: after => faultAt .trailingComma (0x5d :: after)
        | start => next start
      else faultAt .noListEnd (byte :: rest)

def colon (bytes : Bytes) : Except JsonFault Bytes :=
  match skipSpace bytes with
  | [] => faultAt .endInObject []
  | 0x3a :: rest => .ok rest
  | rest => faultAt .noColon rest

/-- Entries up to the closing brace. `entry` takes a key and reads on behind it. -/
def entries {σ : Type} (entry : σ → String → JsonReader σ) : Nat → Bool → σ → JsonReader σ
  | 0, _, _, bytes => faultBefore .endInObject bytes
  | fuel + 1, first, state, bytes =>
    let next (start : Bytes) : Except JsonFault (σ × Bytes) := do
      let (key, rest) ← text start
      let (state, rest) ← entry state key rest
      entries entry fuel false state rest
    match skipSpace bytes with
    | [] => faultAt .endInObject []
    | 0x7d :: rest => .ok (state, rest)
    | byte :: rest =>
      if first then
        if byte == 0x22 then next rest else faultAt .noKey (byte :: rest)
      else if byte == 0x2c then
        match skipSpace rest with
        | [] => faultAt .endInValue []
        | 0x22 :: start => next start
        | 0x7d :: after => faultAt .trailingComma (0x7d :: after)
        | other => faultAt .noKey other
      else faultAt .noObjectEnd (byte :: rest)

def value (fuel levels : Nat) : JsonReader Json := fun bytes =>
  match skipSpace bytes with
  | [] => faultAt .endInValue []
  | byte :: rest =>
    if byte == 0x6e then (word "ull".toList rest).map fun (_, after) => (.null, after)
    else if byte == 0x74 then (word "rue".toList rest).map fun (_, after) => (.bool true, after)
    else if byte == 0x66 then (word "alse".toList rest).map fun (_, after) => (.bool false, after)
    else if byte == 0x2d then
      (unsignedNumber false rest).map fun (number, after) => (.number number, after)
    else if isDigit byte then
      (unsignedNumber true (byte :: rest)).map fun (number, after) => (.number number, after)
    else if byte == 0x22 then (text rest).map fun (found, after) => (.text found, after)
    else if byte == 0x5b then
      match levels with
      | 0 => faultAt .tooDeep (byte :: rest)
      | levels + 1 => (items (value fuel levels) fuel true rest).map fun (found, after) => (.list found, after)
    else if byte == 0x7b then
      match levels with
      | 0 => faultAt .tooDeep (byte :: rest)
      | levels + 1 =>
        let entry (found : List (String × Json)) (key : String) : JsonReader (List (String × Json)) :=
          fun bytes => do
            let (held, after) ← value fuel levels (← colon bytes)
            return (Keyed.put key held found, after)
        (entries entry fuel true [] rest).map fun (found, after) => (.object found, after)
    else faultAt .noValue (byte :: rest)

def levelLimit : Nat := 127

def readAll {α : Type} (reader : JsonReader α) (bytes : Bytes) : Except JsonFault α := do
  let (found, rest) ← reader bytes
  match skipSpace rest with
  | [] => return found
  | rest => faultAt .trailing rest

end Endpoints.JsonReader

namespace Endpoints

def Json.read (bytes : Bytes) : Except JsonFault Json :=
  JsonReader.readAll (JsonReader.value bytes.length JsonReader.levelLimit) bytes

end Endpoints
