import Endpoints.Client.Error
import Endpoints.Json.Shape

/-! Values that requests carry, and values that responses become. -/

namespace Endpoints

/-- A value for the body of a request. -/
inductive Content where
  | document (value : Json)
  /-- A value that has no JSON text. -/
  | unencodable (reason : String)

def Content.encode : Content → Except CallError Bytes
  | .document value => .ok value.bytes
  | .unencodable reason => .error (.encoding reason)

/-- What a response is read as. -/
inductive ResultKind where
  | text
  | bytes
  | json (shape : Shape)

inductive CallResult where
  | text (value : String)
  | bytes (value : Bytes)
  | json (value : Json)

def ResultKind.read (kind : ResultKind) (body : Bytes) : Except CallError CallResult :=
  match kind with
  | .text =>
    match textOf? body with
    | some found => .ok (.text found)
    | none => .error .notText
  | .bytes => .ok (.bytes body)
  | .json shape =>
    match shape.read body with
    | .ok found => .ok (.json found)
    | .error fault => .error (.decoding (fault.message body))

end Endpoints
