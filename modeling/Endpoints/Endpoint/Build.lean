import Endpoints.Endpoint.Basic
import Endpoints.Endpoint.Error
import Endpoints.Interface.Basic
import Endpoints.Directive.Reader

/-! From an interface to its endpoint. Faults are looked for in a fixed order: the shape of the trait, its
tags, its methods one after the other, and last the terminals it has. -/

namespace Endpoints

/-- The last segment of a path, also of one through a qualified type. -/
def Ty.lastSegment? : Ty → Option Segment
  | .path named => named.segments.getLast?
  | .qualified _ _ segments => segments.getLast?
  | _ => none

def resultType? (output : Option Ty) : Option Ty :=
  match output.bind Ty.lastSegment? with
  | some (.mk "Result" (.angle _ (.type result :: _) _)) => some result
  | _ => none

/-- The way of returning `Self`: by value or by mutable reference. -/
inductive SelfReturn where
  | byValue
  | byReference
  deriving DecidableEq

def Ty.isSelf : Ty → Bool
  | .path named => named.name? == some "Self"
  | _ => false

def selfReturn? : Option Ty → Option SelfReturn
  | some (.reference _ true target) => if target.isSelf then some .byReference else none
  | some ty => if ty.isSelf then some .byValue else none
  | none => none

def returnsUnit : Option Ty → Bool
  | none => true
  | some (.tuple [] _) => true
  | some _ => false

namespace Signature

def receiver? (signature : Signature) : Option Receiver :=
  match signature.inputs.items.head? with
  | some (.receiver receiver) => some receiver
  | _ => none

/-- How the method receives the builder. A receiver with a type of its own does not count. -/
def receiverKind? (signature : Signature) : Option ReceiverKind := do
  let receiver ← signature.receiver?
  if receiver.type.isSome then none
  else match receiver.reference, receiver.mutable with
    | none, _ => some .owned
    | some _, true => some .mutableReference
    | some _, false => some .reference

def typedInputs (signature : Signature) : List (Pattern × Ty) :=
  signature.inputs.items.filterMap fun
    | .parameter _ pattern ty => some (pattern, ty)
    | .receiver _ => none

def parameterOf : Pattern × Ty → Except SignatureFault Parameter
  | (.name _ _ name _, ty) => .ok ⟨name, ty⟩
  | (pattern, _) => .error (.patternParameter pattern.tokens.text)

def parameters (signature : Signature) : Except SignatureFault (List Parameter) :=
  signature.typedInputs.mapM parameterOf

def patternText : Pattern → String
  | .name _ _ name _ => name
  | .wildcard => "_"
  | pattern => compactText pattern.tokens

/-- The name and type of each parameter, the receiver left out, joined by commas. -/
def parametersText (signature : Signature) : String :=
  String.intercalate "," (signature.typedInputs.map fun (pattern, ty) =>
    patternText pattern ++ " " ++ ty.text)

end Signature

mutual

/-- Whether a word occurs in tokens, also inside groups. -/
def Token.mentions (word : String) : Token → Bool
  | .ident name => name == word
  | .group _ content => tokensMention word content
  | _ => false

def tokensMention (word : String) : List Token → Bool
  | [] => false
  | token :: rest => token.mentions word || tokensMention word rest

end

namespace Method

/-- A type that holds no borrowed or opaque value at its outside. -/
def isOwnedType : Ty → Bool
  | .reference .. | .implementing .. => false
  | _ => true

def checkBinding (signature : Signature) (receiver : ReceiverKind) (parameters : List Parameter)
    (kind : BindingKind) : Except SignatureFault Unit := do
  let some value := parameters.head? | .error .bindingWithoutParameter
  match receiver, selfReturn? signature.output with
  | .owned, some .byValue => pure ()
  | .mutableReference, some .byReference => pure ()
  | .reference, _ => .error .bindingByReference
  | _, _ => .error .bindingResult
  if kind = .body then
    if !signature.generics.parameters.items.isEmpty then .error .bodyGeneric
    else if !isOwnedType value.type then .error .bodyNotOwned

def checkSync (signature : Signature) (parameters : List Parameter) (result : Ty) :
    Except SignatureFault Unit := do
  if !parameters.isEmpty then .error .syncParameters
  let some declared := resultType? signature.output | .error .syncResult
  if declared.text ≠ result.text then .error (.syncMismatch result.text declared.text)

def checkAsync (signature : Signature) (receiver : ReceiverKind) (parameters : List Parameter)
    (callback : String) : Except SignatureFault Unit := do
  if receiver ≠ .owned then .error .asyncReceiver
  let [parameter] := parameters | .error .asyncParameters
  if !returnsUnit signature.output then .error .asyncResult
  if !tokensMention callback parameter.type.tokens then
    .error (.asyncMismatch callback parameter.type.text)

def checkRole (signature : Signature) (receiver : ReceiverKind) (parameters : List Parameter) :
    Role → Except SignatureFault Unit
  | .binding kind _ => checkBinding signature receiver parameters kind
  | .sync result => checkSync signature parameters result
  | .async callback => checkAsync signature receiver parameters callback

/-- A method with a role that its signature fits. -/
def ofSignature (signature : Signature) (role : Role) : Except SignatureFault Method := do
  if signature.isAsync then .error .async
  let some receiver := signature.receiverKind? | .error .noReceiver
  let parameters ← signature.parameters
  checkRole signature receiver parameters role
  return ⟨signature.name, parameters, role, receiver, signature⟩

def roleOf? : Directive → Option Role
  | .endpoint .. => none
  | .binding kind key => some (.binding kind key)
  | .sync result => some (.sync result)
  | .async callback => some (.async callback)

def roleOfTag (location : Location) (tag : String) : Except EndpointError Role :=
  match Directive.interpret tag with
  | .error error => .error (.malformedTag location tag error.message)
  | .ok directive =>
    match roleOf? directive with
    | none => .error (.misplacedTag location tag)
    | some role => .ok role

def roles (location : Location) (tags : List String) : Except EndpointError (List Role) :=
  tags.mapM (roleOfTag location)

/-- The role of a method. One without tags keeps its default body, or is the terminal if it is alone in
the interface and returns a result. -/
def role? (interface : String) (alone : Bool) (self : InterfaceMethod) :
    Except EndpointError (Option Role) := do
  match ← roles ⟨interface, some self.name⟩ self.documentation.tags with
  | [] =>
    if self.declaration.body.isSome then .ok none
    else match alone, resultType? self.declaration.signature.output with
      | true, some result => .ok (some (.sync result))
      | _, _ => .error (.untagged interface self.name)
  | [role] => .ok (some role)
  | _ => .error (.conflicting interface self.name)

/-- The method that is generated for a declared one, or none when its default body is kept. -/
def ofInterface (interface : String) (alone : Bool) (self : InterfaceMethod) :
    Except EndpointError (Option Method) := do
  match ← role? interface alone self with
  | none => .ok none
  | some role =>
    match ofSignature self.declaration.signature role with
    | .ok method => .ok (some method)
    | .error fault => .error (.signature interface self.name fault)

def repeated? (interface : String) (before : List Method) (method : Method) : Option EndpointError :=
  match method.role with
  | .binding .body _ =>
    if before.any (·.bodyType?.isSome) then some (.duplicateBody interface method.name) else none
  | .binding .. => none
  | .sync _ =>
    if before.any (·.syncResult?.isSome) then some (.duplicateTerminal interface method.name .sync)
    else none
  | .async _ =>
    if before.any (·.asyncCallback?.isSome) then some (.duplicateTerminal interface method.name .async)
    else none

/-- The methods of an endpoint, `before` being those already taken. -/
def collect (interface : String) (alone : Bool) (before : List Method) :
    List InterfaceMethod → Except EndpointError (List Method)
  | [] => .ok before
  | declared :: rest =>
    match ofInterface interface alone declared with
    | .error error => .error error
    | .ok none => collect interface alone before rest
    | .ok (some method) =>
      match repeated? interface before method with
      | some error => .error error
      | none => collect interface alone (before ++ [method]) rest

end Method

namespace Endpoint

def isAllowedSupertrait : Bound → Bool
  | .ofTrait _ _ _ path => ["Send", "Sync", "Sized"].any fun name => path.name? == some name
  | _ => false

def shapeFault? (declaration : TraitDeclaration) : Option ShapeFault :=
  if !declaration.generics.parameters.items.isEmpty || declaration.generics.constraints.isSome then
    some .generic
  else match declaration.supertraits.items.find? (!isAllowedSupertrait ·) with
    | some bound => some (.supertrait bound.tokens.text)
    | none =>
      if declaration.items.any (·.method?.isNone) then some .otherItem else none

/-- The HTTP method and path template in a tag of an interface. -/
def endpointOfTag (interface tag : String) : Except EndpointError (HttpMethod × String) :=
  match Directive.interpret tag with
  | .error error => .error (.malformedTag ⟨interface, none⟩ tag error.message)
  | .ok (.endpoint method template) => .ok (method, template)
  | .ok _ => .error (.misplacedTag ⟨interface, none⟩ tag)

/-- The HTTP method and path template in the tags of an interface, `found` being those of the tags
before. -/
def endpointTag (interface : String) (found : Option (HttpMethod × String)) :
    List String → Except EndpointError (HttpMethod × String)
  | [] =>
    match found with
    | some endpoint => .ok endpoint
    | none => .error (.missingEndpoint interface)
  | tag :: rest =>
    match endpointOfTag interface tag with
    | .error error => .error error
    | .ok endpoint =>
      if found.isSome then .error (.duplicateEndpoint interface)
      else endpointTag interface (some endpoint) rest

def terminalFault? (interface : String) (methods : List Method) : Option EndpointError :=
  if methods.any (·.syncResult?.isSome) then none
  else if methods.any (·.asyncCallback?.isSome) then some (.asyncWithoutSync interface)
  else some (.missingTerminal interface)

/-- The endpoint that an interface describes. -/
def ofInterface (interface : Interface) : Except EndpointError Endpoint := do
  if let some fault := shapeFault? interface.declaration then
    .error (.unsupported interface.name fault)
  let (method, template) ← endpointTag interface.name none interface.documentation.tags
  let methods ← Method.collect interface.name (interface.methods.length == 1) [] interface.methods
  if let some error := terminalFault? interface.name methods then .error error
  return {
    name := interface.name
    visibility := interface.declaration.visibility
    method, template, methods }

end Endpoint

end Endpoints
