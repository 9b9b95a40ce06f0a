import Endpoints.Keyed

/-! JSON values. -/

namespace Endpoints

/-- Whole numbers of 64 bits with or without sign, and machine numbers with a point. -/
inductive JsonNumber where
  | natural (value : UInt64)
  /-- The number `-(distance + 1)`. -/
  | negative (distance : Fin 0x8000000000000000)
  | double (value : Float)
  | single (value : Float32)

/-- The entries of an object have ascending keys. -/
inductive Json where
  | null
  | bool (value : Bool)
  | number (value : JsonNumber)
  | text (value : String)
  | list (items : List Json)
  | object (entries : List (String × Json))

namespace Json

/-- An object of entries in any order, of which the last with a key counts. -/
def ofEntries (entries : List (String × Json)) : Json := .object (Keyed.ofList entries)

/-- The value of an entry: null where there is none. -/
def entry (json : Json) (key : String) : Json :=
  match json with
  | .object entries => (Keyed.get? key entries).getD .null
  | _ => .null

end Json

end Endpoints
