import Endpoints.Builder.Items
import Endpoints.Endpoint.Build
import Endpoints.Interface.Scan
import Endpoints.Item.Source

/-! Generating code for interfaces, as tokens. -/

namespace Endpoints

/-- Why no code is generated. -/
inductive GenerationError where
  | endpoint (error : EndpointError)
  /-- A source or a runtime path that cannot be read, or generated code that cannot be read back. -/
  | unreadable (error : ReadError)
  /-- The free constructor would have a name that is no identifier. -/
  | constructorName (name : String)
  /-- The generated code holds something that has no layout. -/
  | noLayout (what : String)
  deriving DecidableEq, Repr

def GenerationError.message : GenerationError → String
  | .endpoint error => error.message
  | .unreadable error => "Syntax error: " ++ error.message
  | .constructorName name => Text.Quoted.encode name ++ " is not a valid Ident"
  | .noLayout what => "not implemented: " ++ what

def runtimeOf (path : String) : Except GenerationError Path :=
  (readPath path).mapError .unreadable

namespace Builder

def tokens (endpoint : Endpoint) (runtime : Path) : Except GenerationError Tokens :=
  let name := constructorName endpoint
  if Text.isIdentifier name then .ok (itemsTokens (items endpoint runtime name))
  else .error (.constructorName name)

/-- The generated code of an interface, whether it is tagged or not. -/
def ofInterface (interface : Interface) (runtime : Path) : Except GenerationError Tokens := do
  let endpoint ← (Endpoint.ofInterface interface).mapError .endpoint
  tokens endpoint runtime

def ofInterfaces (runtime : Path) : List Interface → Except GenerationError Tokens
  | [] => .ok []
  | interface :: rest => do
    let first ← ofInterface interface runtime
    return first ++ (← ofInterfaces runtime rest)

def ofTrait (declaration : TraitDeclaration) (runtime : Path) : Except GenerationError Tokens :=
  ofInterface (.ofTrait declaration) runtime

end Builder

end Endpoints
