import Endpoints.Endpoint.Build
import Endpoints.Event

/-! What is reported while an endpoint is built. A fault ends the report where it ends the build. -/

namespace Endpoints

namespace Method

/-- The reports on the methods, as far as they can be taken. -/
def collectEvents (interface : String) (alone : Bool) (before : List Method) :
    List InterfaceMethod → List Event
  | [] => []
  | declared :: rest =>
    match ofInterface interface alone declared with
    | .error _ => []
    | .ok none =>
      ⟨.debug, "keeping default method body",
          [("interface", interface), ("method", declared.name)]⟩
        :: collectEvents interface alone before rest
    | .ok (some method) =>
      ⟨.debug, "method annotated",
          [("interface", interface), ("method", method.name),
            ("params", method.signature.parametersText)]⟩
        :: (if (repeated? interface before method).isSome then []
          else collectEvents interface alone (before ++ [method]) rest)

end Method

namespace Endpoint

/-- The kinds of binding whose values are not sent. -/
def unsentKinds (method : HttpMethod) : List BindingKind :=
  if method.carriesPayload then [.query] else [.form, .body, .multipart]

def unboundPlaceholders (endpoint : Endpoint) : List String :=
  endpoint.placeholders.filter fun placeholder =>
    !endpoint.methods.any fun method =>
      method.bindingKind? == some .path && method.bindingKey? == some placeholder

def warnings (endpoint : Endpoint) : List Event :=
  (endpoint.unboundPlaceholders.map fun placeholder =>
    ⟨.warn, "path placeholder has no @PATH binding and will be sent literally",
      [("interface", endpoint.name), ("placeholder", placeholder)]⟩)
  ++ ((unsentKinds endpoint.method).filter endpoint.uses).map fun kind =>
    ⟨.warn, "binding is accepted but not sent for this HTTP method",
      [("interface", endpoint.name), ("binding", kind.tag), ("method", endpoint.method.name)]⟩

def builtEvent (endpoint : Endpoint) : Event :=
  ⟨.debug, "built endpoint",
    [("interface", endpoint.name), ("method", endpoint.method.name), ("path", endpoint.template),
      ("methods", toString endpoint.methods.length)]⟩

def events (interface : Interface) : List Event :=
  if (shapeFault? interface.declaration).isSome then []
  else match endpointTag interface.name none interface.documentation.tags with
    | .error _ => []
    | .ok _ =>
      Method.collectEvents interface.name (interface.methods.length == 1) [] interface.methods
        ++ match ofInterface interface with
          | .ok endpoint => endpoint.warnings ++ [endpoint.builtEvent]
          | .error _ => []

end Endpoint

end Endpoints
