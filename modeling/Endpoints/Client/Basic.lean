import Endpoints.Client.Options
import Endpoints.Http.Request

/-! Clients, which send the requests that builders build. -/

namespace Endpoints

/-- Adds a header to others, in place of one of the same name. -/
def Headers.set (headers : Headers) (name value : String) : Except CallError Headers := do
  let some name := HeaderName.ofText? name | throw .headerName
  let some value := HeaderValue.ofText? value | throw .headerValue
  return headers.put name value

structure Client where
  options : ClientOptions
  /-- Headers for requests that lack them. -/
  defaults : Headers
  deriving DecidableEq, Repr

/-- The client that builders use, if one is registered. -/
abbrev Registry := Option Client

namespace Client

def ofOptions (options : ClientOptions) : Except CallError Client := do
  let defaults ← options.headers.foldlM (fun headers (name, value) => headers.set name value) Headers.empty
  return { options, defaults }

def ofBaseUrl (baseUrl : String) : Except CallError Client := do
  ofOptions (ClientOptions.ofBaseUrl (← (Url.read baseUrl).mapError .url))

/-- A client around a connection that adds no headers of its own. -/
def bare (baseUrl : String) : Except CallError Client := do
  return { options := ClientOptions.ofBaseUrl (← (Url.read baseUrl).mapError .url), defaults := Headers.empty }

/-- The base URL without slashes at its end, so that a path can follow. -/
def baseText (client : Client) : String :=
  String.ofList (client.options.baseUrl.characters.reverse.dropWhile (· == '/')).reverse

def debug (client : Client) : Bool := client.options.debug

def describe (client : Client) : String :=
  "RestClient \x7b base_url: " ++ Text.Quoted.display client.baseText ++ ", debug: "
    ++ (if client.debug then "true" else "false") ++ ", .. \x7d"

/-- Tells that the client is registered. -/
def registration (client : Client) : Event :=
  { level := .debug, message := "registering rest client", fields := [("base_url", client.baseText)] }

def report (client : Client) (event : Event) : List Event := if client.debug then [event] else []

/-- The request as it leaves: with the headers of the client that it lacks. -/
def outgoing (client : Client) (request : Request) : Request :=
  { request with headers := request.headers.withDefaults client.defaults }

end Client

namespace Request

def setHeader (request : Request) (name value : String) : Except CallError Request := do
  return { request with headers := ← request.headers.set name value }

/-- A request that asks for JSON. -/
def accepting (request : Request) : Request :=
  { request with headers := request.headers.put "accept" (HeaderValue.plain "application/json") }

/-- Characters that the host of a request cannot hold. -/
def hasOddHost (url : Url) : Bool :=
  match url.authority with
  | some { host := .name text, .. } => text.any fun c => "\"`\x7b|\x7d".toList.contains c
  | _ => false

/-- Whether a request can be sent at all: over the web, to a host that can be written down. -/
def isSendable (request : Request) : Bool :=
  (request.url.scheme = "http".toList || request.url.scheme = "https".toList)
    && !hasOddHost request.url && request.url.characters.length < 65535

end Request

/-- What answers requests, where anything does. -/
abbrev Network := Request → Option Response

def Network.silent : Network := fun _ => none

def Client.send (client : Client) (network : Network) (request : Request) : Except CallError Response :=
  if request.isSendable then
    match network (client.outgoing request) with
    | some response => .ok response
    | none => .error (.transport .unreachable request.url.text)
  else .error (.transport .unsendable request.url.text)

def Client.reportAnswer (client : Client) : Except CallError Response → List Event
  | .ok response => client.report response.event
  | .error _ => []

end Endpoints
