import Endpoints.Json.Printer
import Endpoints.Json.Skip

/-! Shapes of JSON values, and reading values of a shape. -/

namespace Endpoints

inductive Shape where
  | any
  /-- A whole number from zero on that fits in as many bits. -/
  | natural (bits : Nat)
  | text
  | optional (inner : Shape)
  | list (item : Shape)
  /-- An object with some fields among others, or a list of the fields in order. -/
  | record (name : String) (fields : List (String × Shape))

namespace Shape

def expected : Shape → String
  | .any => "any value"
  | .natural bits => "u" ++ toString bits
  | .text => "a string"
  | .optional inner => inner.expected
  | .list _ => "a sequence"
  | .record name _ => "struct " ++ name

end Shape

namespace JsonReader

def numberFound (number : JsonNumber) : String :=
  let digits := String.ofList (number.text?.getD [])
  match number with
  | .natural _ | .negative _ => "integer `" ++ digits ++ "`"
  | .double _ | .single _ => "floating point `" ++ digits ++ "`"

/-- The fault of a value that has another type than the wanted one. Lists and objects are not read. -/
def wrongType {α : Type} (expected : String) (bytes : Bytes) : Except JsonFault α := do
  match skipSpace bytes with
  | [] => faultAt .endInValue []
  | byte :: rest =>
    if byte == 0x6e then
      let (_, after) ← word "ull".toList rest
      faultBefore (.wrongType "null" expected) after
    else if byte == 0x74 then
      let (_, after) ← word "rue".toList rest
      faultBefore (.wrongType "boolean `true`" expected) after
    else if byte == 0x66 then
      let (_, after) ← word "alse".toList rest
      faultBefore (.wrongType "boolean `false`" expected) after
    else if byte == 0x2d then
      let (number, after) ← unsignedNumber false rest
      faultAt (.wrongType (numberFound number) expected) after
    else if isDigit byte then
      let (number, after) ← unsignedNumber true (byte :: rest)
      faultAt (.wrongType (numberFound number) expected) after
    else if byte == 0x22 then
      let (found, after) ← text rest
      faultBefore (.wrongType ("string " ++ Text.Quoted.display found) expected) after
    else if byte == 0x5b then faultAt (.wrongType "sequence" expected) (byte :: rest)
    else if byte == 0x7b then faultAt (.wrongType "map" expected) (byte :: rest)
    else faultAt .noValue (byte :: rest)

def natural (bits : Nat) : JsonReader Json := fun bytes => do
  let expected := (Shape.natural bits).expected
  let check (number : JsonNumber) (after : Bytes) : Except JsonFault (Json × Bytes) :=
    match number with
    | .natural value =>
      if value.toNat < Nat.pow 2 bits then .ok (.number number, after)
      else faultAt (.wrongValue (numberFound number) expected) after
    | .negative _ => faultAt (.wrongValue (numberFound number) expected) after
    | _ => faultAt (.wrongType (numberFound number) expected) after
  match skipSpace bytes with
  | 0x2d :: rest =>
    let (number, after) ← unsignedNumber false rest
    check number after
  | byte :: rest =>
    if isDigit byte then
      let (number, after) ← unsignedNumber true (byte :: rest)
      check number after
    else wrongType expected (byte :: rest)
  | [] => faultAt .endInValue []

def textValue : JsonReader Json := fun bytes =>
  match skipSpace bytes with
  | 0x22 :: rest => (text rest).map fun (found, after) => (.text found, after)
  | rest => wrongType Shape.text.expected rest

/-- How a field of a record is read, and what stands for it where it is missing. -/
structure Field where
  name : String
  reader : JsonReader Json
  absent : Option Json

def fieldItems (fuel : Nat) (expected : String) (first : Bool) (count : Nat) :
    List Field → JsonReader (List (String × Json))
  | [], bytes =>
    match skipSpace bytes with
    | [] => faultAt .endInList []
    | 0x5d :: rest => .ok ([], rest)
    | 0x2c :: rest =>
      match skipSpace rest with
      | 0x5d :: after => faultAt .trailingComma (0x5d :: after)
      | after => faultAt .trailing after
    | rest => faultAt .trailing rest
  | field :: others, bytes => do
    let next (start : Bytes) : Except JsonFault (List (String × Json) × Bytes) := do
      let (value, rest) ← field.reader start
      let (values, after) ← fieldItems fuel expected false (count + 1) others rest
      return ((field.name, value) :: values, after)
    match skipSpace bytes with
    | [] => faultAt .endInList []
    | 0x5d :: rest => faultBefore (.wrongLength count expected) rest
    | byte :: rest =>
      if first then next (byte :: rest)
      else if byte == 0x2c then
        match skipSpace rest with
        | [] => faultAt .endInValue []
        | 0x5d :: after => faultAt .trailingComma (0x5d :: after)
        | start => next start
      else faultAt .noListEnd (byte :: rest)

/-- Reads a field under its key. Keys of other fields are passed. -/
def fieldEntry (fuel : Nat) (fields : List Field) (found : List (String × Json)) (key : String) :
    JsonReader (List (String × Json)) := fun bytes => do
  match fields.find? (·.name = key) with
  | some field =>
    if (Keyed.get? key found).isSome then faultAt (.duplicateField key) (skipSpace bytes)
    else
      let (value, after) ← field.reader (← colon bytes)
      return (Keyed.put key value found, after)
  | none =>
    let (_, after) ← skip fuel (← colon bytes)
    return (found, after)

def fieldEntries (fuel : Nat) (fields : List Field) : JsonReader (List (String × Json)) := fun bytes => do
  let (found, rest) ← entries (fieldEntry fuel fields) fuel true [] bytes
  let complete (found : List (String × Json)) (field : Field) : Except JsonFault (List (String × Json)) :=
    match Keyed.get? field.name found, field.absent with
    | some _, _ => .ok found
    | none, some value => .ok (Keyed.put field.name value found)
    | none, none => faultBefore (.missingField field.name) rest
  return (← fields.foldlM complete found, rest)

def record (fuel : Nat) (name : String) (levels : Nat) (fields : Nat → List Field) : JsonReader Json := fun bytes =>
  let expected := "struct " ++ name
  match skipSpace bytes, levels with
  | 0x5b :: rest, 0 | 0x7b :: rest, 0 => faultAt .tooDeep (0x5b :: rest)
  | 0x5b :: rest, levels + 1 =>
    let fields := fields levels
    let wanted := expected ++ " with " ++ toString fields.length ++ " elements"
    (fieldItems fuel wanted true 0 fields rest).map fun (values, after) => (Json.ofEntries values, after)
  | 0x7b :: rest, levels + 1 =>
    (fieldEntries fuel (fields levels) rest).map fun (values, after) => (.object values, after)
  | rest, _ => wrongType expected rest

end JsonReader

namespace Shape

mutual

/-- Reads a value of a shape in which lists and objects are nested in at most `levels` levels. -/
def reader (fuel : Nat) : Shape → Nat → JsonReader Json
  | .any, levels => JsonReader.value fuel levels
  | .natural bits, _ => JsonReader.natural bits
  | .text, _ => JsonReader.textValue
  | .optional inner, levels => fun bytes =>
    match JsonReader.skipSpace bytes with
    | 0x6e :: rest => (JsonReader.word "ull".toList rest).map fun (_, after) => (.null, after)
    | rest => reader fuel inner levels rest
  | .list item, levels => fun bytes =>
    match JsonReader.skipSpace bytes, levels with
    | 0x5b :: rest, 0 => JsonReader.faultAt .tooDeep (0x5b :: rest)
    | 0x5b :: rest, levels + 1 =>
      (JsonReader.items (reader fuel item levels) fuel true rest).map fun (found, after) => (.list found, after)
    | rest, _ => JsonReader.wrongType (Shape.list item).expected rest
  | .record name fields, levels => JsonReader.record fuel name levels (fieldReaders fuel fields)

def fieldReaders (fuel : Nat) : List (String × Shape) → Nat → List JsonReader.Field
  | [], _ => []
  | (name, shape) :: rest, levels =>
    let absent := match shape with
      | .optional _ => some Json.null
      | _ => none
    { name, reader := reader fuel shape levels, absent } :: fieldReaders fuel rest levels

end

def read (shape : Shape) (bytes : Bytes) : Except JsonFault Json :=
  JsonReader.readAll (shape.reader bytes.length JsonReader.levelLimit) bytes

end Shape

end Endpoints
