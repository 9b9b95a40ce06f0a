import Endpoints.Builder.Accumulator

/-! The routines of a builder: filling the path, building the request, sending it. -/

namespace Endpoints.Builder
open Tokens

section
variable (endpoint : Endpoint) (runtime : Path)

def request : Tokens := below runtime ["reqwest", "blocking", "Request"]

def requestOf : Tokens :=
  call (request runtime ++ operator "::" ++ word "new")
    [endpoint.method.tokens runtime, word "url"]

def result (value : Tokens) : Tokens := applied (below runtime ["Result"]) [value]

/-- The path of the request, filled in when a setter binds a part of it. -/
def pathValue : Tokens :=
  if endpoint.uses .path then callOn self "apply_path_substitutions" [text endpoint.template]
  else ownedText endpoint.template

def setFixedHeader (constant value : String) : Tokens :=
  statement (longCall (member (callOn (word "request") "headers_mut" []) "insert")
    [below runtime ["reqwest", "header", constant],
      call (below runtime ["reqwest", "header", "HeaderValue", "from_static"]) [text value]])

def setBody (value : Tokens) : Tokens :=
  assignment (operator "*" ++ callOn (word "request") "body_mut" []) (present value)

def setQuery : Tokens :=
  conditional (operator "!" ++ callOn (heldBy .query) "is_empty" [])
    (statement (callOn (callOn (word "request") "url_mut" []) "set_query"
      [present (reference (callOn (heldBy .query) "encode" []))]))

def bodyBranch : Tokens :=
  conditional
    (word "let" ++ present (word "body") ++ operator "=" ++ reference (heldBy .body))
    (binding "content" (propagated (call (below runtime ["encode_json"]) [word "body"]))
      ++ mutableBinding "request" (requestOf endpoint runtime)
      ++ setBody (callOn (word "content") "into" [])
      ++ setFixedHeader runtime "CONTENT_TYPE" "application/json" ++ word "request")

def formBranch : Tokens :=
  conditional (operator "!" ++ callOn (heldBy .form) "is_empty" [])
    (mutableBinding "request" (requestOf endpoint runtime)
      ++ setBody (callOn (callOn (heldBy .form) "encode" []) "into" [])
      ++ setFixedHeader runtime "CONTENT_TYPE" "application/x-www-form-urlencoded"
      ++ word "request")

def multipartBranch : Tokens :=
  conditional (operator "!" ++ callOn (heldBy .multipart) "is_empty" [])
    (propagated (callOn (word "client") "multipart_request"
      [endpoint.method.tokens runtime, word "url", reference (heldBy .multipart)]))

def payloadBranches : List Tokens :=
  given (endpoint.uses .body) [bodyBranch endpoint runtime]
    ++ given (endpoint.uses .form) [formBranch endpoint runtime]
    ++ given (endpoint.uses .multipart) [multipartBranch endpoint runtime]
where
  given (condition : Bool) (branches : List Tokens) : List Tokens :=
    if condition then branches else []

/-- The statements that make the request. The first payload that is there is sent. -/
def assemble : Tokens :=
  if endpoint.method.carriesPayload then
    match payloadBranches endpoint runtime with
    | [] => mutableBinding "request" (requestOf endpoint runtime)
    | branches =>
      mutableBinding "request" (separated (word "else") branches ++ word "else"
        ++ braces (requestOf endpoint runtime))
  else
    mutableBinding "request" (requestOf endpoint runtime)
      ++ given (endpoint.uses .query) setQuery

def setBoundHeaders : Tokens :=
  word "for" ++ parens (commaList [word "key", word "value"] false) ++ word "in"
    ++ reference (heldBy .header)
    ++ braces (statement (propagated (call (below runtime ["set_header"])
      [mutableReference (word "request"), word "key", word "value"])))

def fillBody : Tokens :=
  call (below runtime ["expand_path"]) [word "template", reference (heldBy .path)]

def buildBody : Tokens :=
  binding "client" (propagated (call (below runtime ["client"]) []))
    ++ binding "url" (propagated (call (below runtime ["reqwest", "Url", "parse"])
      [reference (std ["format"] ++ operator "!" ++ parens (commaList
        [text "\x7b\x7d\x7b\x7d", callOn (word "client") "base_url" [], pathValue endpoint] false))]))
    ++ assemble endpoint runtime
    ++ setFixedHeader runtime "ACCEPT" "application/json"
    ++ given (endpoint.uses .header) (setBoundHeaders runtime)
    ++ call (std ["result", "Result", "Ok"]) [word "request"]

/-- The call of a routine that shows a request or a response when the client asks for it. -/
def whenDebugging (routine value : String) : Tokens :=
  conditional (callOn (word "client") "debug" [])
    (statement (call (below runtime [routine]) [reference (word value)]))

def executeBody (response : Ty) : Tokens :=
  mutableBinding "request" (propagated (callOn self "build" []))
    ++ statement (call (below runtime ["reencode_query"]) [mutableReference (word "request")])
    ++ binding "client" (propagated (call (below runtime ["client"]) []))
    ++ whenDebugging runtime "debug_request" "request"
    ++ mutableBinding "response" (propagated
      (callOn (callOn (word "client") "http_client" []) "execute" [word "request"]))
    ++ whenDebugging runtime "debug_response" "response"
    ++ call (operator "<" ++ response.tokens ++ word "as" ++ below runtime ["FromResponse"]
      ++ operator ">" ++ operator "::" ++ word "from_response") [mutableReference (word "response")]

end

end Endpoints.Builder
