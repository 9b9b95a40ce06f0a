import Endpoints.Text.Quoted
import Endpoints.Text.Utf8

/-! Header fields of requests and responses. -/

namespace Endpoints

structure HeaderValue where
  bytes : Bytes
  /-- Whether the value is kept out of descriptions. -/
  sensitive : Bool
  deriving DecidableEq, Repr

namespace HeaderValue

def isValid (byte : UInt8) : Bool := (0x20 ≤ byte && byte != 0x7f) || byte == 0x09

/-- A text without controls other than the tab. -/
def ofText? (text : String) : Option HeaderValue :=
  if (bytesOf text).all isValid then some ⟨bytesOf text, false⟩ else none

def plain (text : String) : HeaderValue := ⟨bytesOf text, false⟩

def describeByte (byte : UInt8) : List Char :=
  if byte == 0x22 then ['\\', '"']
  else if (0x20 ≤ byte && byte < 0x7f) || byte == 0x09 then [Char.ofNat byte.toNat]
  else '\\' :: 'x' :: Text.Quoted.hexDigits byte.toNat

def describe (value : HeaderValue) : String :=
  if value.sensitive then "Sensitive"
  else String.ofList ('"' :: (value.bytes.flatMap describeByte ++ ['"']))

end HeaderValue

namespace HeaderName

def isValid (c : Char) : Bool := c.isAlphanum || "!#$%&'*+-.^_`|~".toList.contains c

/-- Names are compared in lower case. -/
def ofText? (text : String) : Option String :=
  if text ≠ "" ∧ text.toList.all isValid ∧ text.utf8ByteSize < 65536 then some text.toLower else none

end HeaderName

/-- Fields in the order in which their names came, those of one name together. -/
structure Headers where
  fields : List (String × HeaderValue)
  deriving DecidableEq, Repr

namespace Headers

def empty : Headers := ⟨[]⟩

def get? (headers : Headers) (name : String) : Option HeaderValue :=
  (headers.fields.find? (·.1 = name)).map (·.2)

def putIn (name : String) (value : HeaderValue) :
    List (String × HeaderValue) → List (String × HeaderValue)
  | [] => [(name, value)]
  | (other, held) :: rest =>
    if other = name then (name, value) :: rest.filter (·.1 ≠ name) else (other, held) :: putIn name value rest

def put (headers : Headers) (name : String) (value : HeaderValue) : Headers :=
  ⟨putIn name value headers.fields⟩

def addIn (name : String) (value : HeaderValue) :
    List (String × HeaderValue) → List (String × HeaderValue)
  | [] => [(name, value)]
  | (other, held) :: rest =>
    if other = name ∧ rest.all (·.1 ≠ name) then (other, held) :: (name, value) :: rest
    else (other, held) :: addIn name value rest

def add (headers : Headers) (name : String) (value : HeaderValue) : Headers :=
  ⟨addIn name value headers.fields⟩

def withDefaults (headers defaults : Headers) : Headers :=
  defaults.fields.foldl (fun all (name, value) =>
    if (headers.get? name).isSome then all else all.add name value) headers

theorem find?_putIn (name other : String) (value : HeaderValue) (fields : List (String × HeaderValue)) :
    (putIn name value fields).find? (·.1 = other) =
      if other = name then some (name, value) else fields.find? (·.1 = other) := by
  induction fields with
  | nil => by_cases same : other = name <;> simp [putIn, same, eq_comm]
  | cons field rest ih =>
    obtain ⟨first, held⟩ := field
    simp only [putIn]
    split
    · next found =>
      subst found
      by_cases same : other = first
      · simp [same]
      · have kept : rest.find? (fun entry => entry.1 ≠ first && entry.1 = other) =
            rest.find? (·.1 = other) := by
          congr 1
          funext entry
          by_cases here : entry.1 = other <;> simp [here, same]
        simpa [List.find?_filter, same, Ne.symm same] using kept
    · next apart =>
      by_cases here : first = other
      · subst here
        simp [apart]
      · simp [here, ih]

theorem get?_put (headers : Headers) (name other : String) (value : HeaderValue) :
    (headers.put name value).get? other = if other = name then some value else headers.get? other := by
  unfold get? put
  rw [find?_putIn]
  split <;> rfl

def describe (headers : Headers) : String :=
  let field (entry : String × HeaderValue) : String :=
    Text.Quoted.display entry.1 ++ ": " ++ entry.2.describe
  "\x7b" ++ ", ".intercalate (headers.fields.map field) ++ "\x7d"

end Headers

end Endpoints
