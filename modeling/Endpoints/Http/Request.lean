import Endpoints.Event
import Endpoints.Form.Encoding
import Endpoints.Http.Header
import Endpoints.Http.Multipart
import Endpoints.Http.Status
import Endpoints.Text.Base64
import Endpoints.Url.Reader

/-! Requests and responses. -/

namespace Endpoints

inductive RequestBody where
  | content (bytes : Bytes)
  /-- A body that is written part by part while it is sent. -/
  | parts (boundary : String) (fields : Keyed Bytes)
  deriving DecidableEq, Repr

namespace RequestBody

def bytes : RequestBody → Bytes
  | .content bytes => bytes
  | .parts boundary fields => Multipart.body boundary fields

def length? : RequestBody → Option Nat
  | .content bytes => some bytes.length
  | .parts .. => none

end RequestBody

structure Request where
  method : String
  url : Url
  headers : Headers
  body : Option RequestBody
  deriving DecidableEq, Repr

structure Response where
  status : Nat
  url : Url
  headers : Headers
  body : Bytes
  deriving DecidableEq, Repr

namespace Request

def ofUrl (method : String) (url : Url) : Request := ⟨method, url, Headers.empty, none⟩

/-- Puts the pairs of the query in order of their keys, in the text form of a form. A query without
pairs is dropped. -/
def reencodeQuery (request : Request) : Request :=
  match request.url.query with
  | none => request
  | some query =>
    let text := (Form.ofPairs (Form.decode (String.ofList query))).encode
    { request with url := request.url.withQuery (if text.isEmpty then none else some text) }

def basicAuthorization (username : Bytes) (password : Option Bytes) : HeaderValue :=
  let credentials := username ++ 0x3a :: password.getD []
  ⟨bytesOf ("Basic " ++ String.ofList (Text.Base64.encode credentials)), true⟩

/-- Moves user name and password from the URL to a header, if they spell texts. -/
def authorize (request : Request) : Request :=
  match request.url.authority with
  | none => request
  | some authority =>
    let username := Percent.decode authority.username
    let password := authority.password.map Percent.decode
    let known := password.filter fun bytes => (textOf? bytes).isSome
    if (textOf? username).isSome ∧ (username ≠ [] ∨ known.isSome) then
      { request with
        url := request.url.withoutUserinfo
        headers := request.headers.put "authorization" (basicAuthorization username known) }
    else request

/-- A request whose body has a part for each field, in order of the names. -/
def multipart (method : String) (url : Url) (boundary : String) (fields : Keyed Bytes) : Request :=
  let request := (ofUrl method url).authorize
  { request with
    headers := request.headers.put "content-type" (HeaderValue.plain (Multipart.contentType boundary))
    body := some (.parts boundary fields) }

def event (request : Request) : Event :=
  let length := match request.body.bind RequestBody.length? with
    | some length => "Some(" ++ toString length ++ ")"
    | none => "None"
  { level := .info
    message := "rest request"
    fields := [("method", request.method), ("url", request.url.text),
      ("headers", request.headers.describe), ("body_len", length)] }

end Request

def Response.event (response : Response) : Event :=
  { level := .info
    message := "rest response"
    fields := [("status", Status.describe response.status), ("url", response.url.text),
      ("headers", response.headers.describe)] }

end Endpoints
