import Endpoints.Client.Basic
import Endpoints.Client.Content
import Endpoints.Endpoint.Basic
import Endpoints.Template

/-! Requests under way: what setters have stored, and the request that it makes. -/

namespace Endpoints

/-- What one call of a setter stores. -/
inductive Setting where
  | path (key value : String)
  | query (key value : String)
  | header (key value : String)
  | form (key value : String)
  | body (content : Content)
  | multipart (key : String) (content : Bytes)

def Setting.kind : Setting → BindingKind
  | .path .. => .path
  | .query .. => .query
  | .header .. => .header
  | .form .. => .form
  | .body _ => .body
  | .multipart .. => .multipart

/-- The key of the setter. A body has an empty key. -/
def Setting.key : Setting → String
  | .path key _ | .query key _ | .header key _ | .form key _ | .multipart key _ => key
  | .body _ => ""

/-- Values under one key replace each other, except in queries and forms, which keep them all. -/
structure Draft where
  path : Keyed String
  query : Form
  headers : Keyed String
  form : Form
  body : Option Content
  parts : Keyed Bytes

namespace Draft

def empty : Draft := ⟨[], Form.empty, [], Form.empty, none, []⟩

def store (draft : Draft) : Setting → Draft
  | .path key value => { draft with path := draft.path.put key value }
  | .query key value => { draft with query := draft.query.add key value }
  | .header key value => { draft with headers := draft.headers.put key value }
  | .form key value => { draft with form := draft.form.add key value }
  | .body content => { draft with body := some content }
  | .multipart key content => { draft with parts := draft.parts.put key content }

def storeAll (draft : Draft) (settings : List Setting) : Draft := settings.foldl store draft

def withBody (method : HttpMethod) (url : Url) (contentType : String) (bytes : Bytes) : Request :=
  { Request.ofUrl method.name url with
    headers := Headers.empty.put "content-type" (HeaderValue.plain contentType)
    body := some (.content bytes) }

def payloadOf? (draft : Draft) (method : HttpMethod) (url : Url) (boundary : String) :
    BindingKind → Option (Except CallError Request)
  | .body =>
    draft.body.map fun content => content.encode.map (withBody method url "application/json")
  | .form =>
    if draft.form.isEmpty then none
    else some (.ok (withBody method url "application/x-www-form-urlencoded" (bytesOf draft.form.encode)))
  | .multipart =>
    if draft.parts.isEmpty then none else some (.ok (Request.multipart method.name url boundary draft.parts))
  | _ => none

/-- The request with the first payload that is there. -/
def payload (draft : Draft) (endpoint : Endpoint) (url : Url) (boundary : String) :
    Except CallError Request :=
  (endpoint.payloadKinds.findSome? (draft.payloadOf? endpoint.method url boundary)).getD
    (.ok (Request.ofUrl endpoint.method.name url))

def queried (draft : Draft) (endpoint : Endpoint) (url : Url) : Request :=
  Request.ofUrl endpoint.method.name
    (if endpoint.uses .query && !draft.query.isEmpty then url.withQuery (some draft.query.encode) else url)

/-- The path of the request, filled in when a setter binds a part of it. -/
def target (draft : Draft) (endpoint : Endpoint) : String :=
  if endpoint.uses .path then Template.expand endpoint.template draft.path else endpoint.template

def setHeaders (draft : Draft) (endpoint : Endpoint) (request : Request) : Except CallError Request :=
  if endpoint.uses .header then
    draft.headers.foldlM (fun request (key, value) => request.setHeader key value) request
  else .ok request

def assemble (draft : Draft) (endpoint : Endpoint) (url : Url) (boundary : String) :
    Except CallError Request :=
  if endpoint.method.carriesPayload then draft.payload endpoint url boundary
  else .ok (draft.queried endpoint url)

/-- The request that an endpoint makes of what is stored. The boundary divides parts. -/
def build (draft : Draft) (endpoint : Endpoint) (registry : Registry) (boundary : String) :
    Except CallError Request := do
  let some client := registry | throw .unregistered
  let url ← (Url.read (client.baseText ++ draft.target endpoint)).mapError .url
  let request ← draft.assemble endpoint url boundary
  draft.setHeaders endpoint request.accepting

end Draft

end Endpoints
