import Endpoints.Directive.Basic

/-! Why no builder is generated for an interface. -/

namespace Endpoints

/-- An interface, or a method of it. -/
structure Location where
  interface : String
  method : Option String
  deriving DecidableEq, Repr

def Location.text (location : Location) : String :=
  match location.method with
  | some method => location.interface ++ "::" ++ method
  | none => location.interface

/-- Why a method with a directive does not fit it. -/
inductive SignatureFault where
  | async
  | noReceiver
  | patternParameter (pattern : String)
  | bindingWithoutParameter
  | bindingByReference
  | bindingResult
  | bodyGeneric
  | bodyNotOwned
  | syncParameters
  | syncResult
  | syncMismatch (named : String) (declared : String)
  | asyncReceiver
  | asyncParameters
  | asyncResult
  | asyncMismatch (callback : String) (parameter : String)
  deriving DecidableEq, Repr

def SignatureFault.message : SignatureFault → String
  | .async => "async fn is not supported; use an @ASYNC terminal"
  | .noReceiver => "method must take `self`"
  | .patternParameter pattern => "parameter `" ++ pattern ++ "` must be a plain identifier"
  | .bindingWithoutParameter => "binding methods take at least one parameter"
  | .bindingByReference => "binding methods take `self` or `&mut self`"
  | .bindingResult => "binding methods return `Self` (or `&mut Self` with `&mut self`)"
  | .bodyGeneric => "@BODY methods cannot be generic"
  | .bodyNotOwned => "@BODY parameter must be an owned type"
  | .syncParameters => "@SYNC terminal takes no parameters"
  | .syncResult => "@SYNC terminal must return a `Result`"
  | .syncMismatch named declared =>
    "@SYNC names `" ++ named ++ "` but the method returns `Result<" ++ declared ++ ", _>`"
  | .asyncReceiver => "@ASYNC terminal takes `self` by value"
  | .asyncParameters => "@ASYNC terminal takes exactly one callback parameter"
  | .asyncResult => "@ASYNC terminal returns nothing"
  | .asyncMismatch callback parameter =>
    "@ASYNC names `" ++ callback ++ "` but the callback parameter is `" ++ parameter ++ "`"

/-- Why an interface has a shape that no builder can implement. -/
inductive ShapeFault where
  | generic
  | supertrait (bound : String)
  | otherItem
  deriving DecidableEq, Repr

def ShapeFault.message : ShapeFault → String
  | .generic => "generic traits are not supported"
  | .supertrait bound => "supertrait `" ++ bound ++ "` is not supported"
  | .otherItem => "only methods may be declared in the trait"

/-- The methods that send a request. -/
inductive TerminalKind where
  | sync
  | async
  deriving DecidableEq, Repr

def TerminalKind.tag : TerminalKind → String
  | .sync => "@SYNC"
  | .async => "@ASYNC"

inductive EndpointError where
  | malformedTag (location : Location) (tag : String) (reason : String)
  | missingEndpoint (interface : String)
  | duplicateEndpoint (interface : String)
  | misplacedTag (location : Location) (tag : String)
  | untagged (interface : String) (method : String)
  | conflicting (interface : String) (method : String)
  | signature (interface : String) (method : String) (fault : SignatureFault)
  | duplicateBody (interface : String) (method : String)
  | duplicateTerminal (interface : String) (method : String) (kind : TerminalKind)
  | missingTerminal (interface : String)
  | asyncWithoutSync (interface : String)
  | unsupported (interface : String) (fault : ShapeFault)
  deriving DecidableEq, Repr

def EndpointError.message : EndpointError → String
  | .malformedTag location tag reason =>
    location.text ++ ": malformed annotation `" ++ tag ++ "`: " ++ reason
  | .missingEndpoint interface =>
    interface ++ ": missing endpoint annotation (@GET, @POST, @PUT or @DELETE)"
  | .duplicateEndpoint interface => interface ++ ": more than one endpoint annotation"
  | .misplacedTag location tag => location.text ++ ": annotation `" ++ tag ++ "` is not allowed here"
  | .untagged interface method =>
    interface ++ "::" ++ method ++ ": method has no binding or terminal annotation"
  | .conflicting interface method =>
    interface ++ "::" ++ method ++ ": method carries more than one annotation"
  | .signature interface method fault => interface ++ "::" ++ method ++ ": " ++ fault.message
  | .duplicateBody interface method =>
    interface ++ "::" ++ method ++ ": only one @BODY binding is allowed per interface"
  | .duplicateTerminal interface method kind =>
    interface ++ "::" ++ method ++ ": duplicate " ++ kind.tag ++ " terminal"
  | .missingTerminal interface => interface ++ ": no @SYNC or @ASYNC terminal method"
  | .asyncWithoutSync interface =>
    interface ++ ": @ASYNC terminal requires a @SYNC terminal for its result type"
  | .unsupported interface fault => interface ++ ": " ++ fault.message

end Endpoints
