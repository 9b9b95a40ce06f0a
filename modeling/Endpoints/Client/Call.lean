import Endpoints.Client.Draft

/-! Calls of endpoints: building a request, sending it and reading the answer. -/

namespace Endpoints

/-- A call of an endpoint with what is stored for it. -/
structure Call where
  endpoint : Endpoint
  draft : Draft
  boundary : String
  result : ResultKind

namespace Call

/-- How far a call is. -/
inductive Phase where
  | started
  /-- A request is built with the client registered at the time. -/
  | built (request : Request)
  /-- The query of the request is in order. -/
  | ordered (request : Request)
  /-- A client is chosen to send the request. -/
  | loaded (client : Client) (request : Request)
  | finished (outcome : Except CallError CallResult)

def readAnswer (call : Call) (answer : Except CallError Response) : Except CallError CallResult :=
  answer.bind fun response => call.result.read response.body

/-- Takes a call one step on, with the client that is registered then. -/
def step (call : Call) (registry : Registry) (network : Network) : Phase → Phase
  | .started =>
    match call.draft.build call.endpoint registry call.boundary with
    | .ok request => .built request
    | .error error => .finished (.error error)
  | .built request => .ordered request.reencodeQuery
  | .ordered request =>
    match registry with
    | some client => .loaded client request
    | none => .finished (.error .unregistered)
  | .loaded client request => .finished (call.readAnswer (client.send network request))
  | .finished outcome => .finished outcome

/-- What a step tells: the client shows the request before it is sent, and the response. -/
def stepEvents (registry : Registry) (network : Network) : Phase → List Event
  | .ordered request =>
    match registry with
    | some client => client.report request.event
    | none => []
  | .loaded client request => client.reportAnswer (client.send network request)
  | _ => []

/-- What a call gives when the same client is registered all the time. -/
def run (call : Call) (registry : Registry) (network : Network) : Except CallError CallResult :=
  let next := call.step registry network
  match next (next (next (next .started))) with
  | .finished outcome => outcome
  | _ => .error .unregistered

/-- What a call tells when the same client is registered all the time. -/
def runEvents (call : Call) (registry : Registry) (network : Network) : List Event :=
  let next := call.step registry network
  let phases := [.started, next .started, next (next .started), next (next (next .started))]
  phases.flatMap (stepEvents registry network)

end Call

/-- What a callback is told about a call in the background. -/
inductive Notification where
  | start
  | error (reason : String)
  | success (value : CallResult)

/-- What a callback is told about a call with the given outcome: the start, and then the outcome. -/
def Notification.ofOutcome (outcome : Except CallError CallResult) : List Notification :=
  match outcome with
  | .ok value => [.start, .success value]
  | .error fault => [.start, .error fault.message]

end Endpoints
