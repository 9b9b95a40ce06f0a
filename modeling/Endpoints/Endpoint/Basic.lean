import Endpoints.Directive.Basic
import Endpoints.Item.Tokens

/-! An endpoint: one HTTP operation that an interface describes. -/

namespace Endpoints

structure Parameter where
  name : String
  type : Ty

/-- What a method does when it is called. -/
inductive Role where
  | binding (kind : BindingKind) (key : String)
  | sync (result : Ty)
  | async (callback : String)

/-- What a method hands back: the builder, the response or an error, or nothing. -/
inductive ReturnShape where
  | builder
  | response
  | unit
  deriving DecidableEq, Repr

inductive ReceiverKind where
  | owned
  | reference
  | mutableReference
  deriving DecidableEq, Repr

structure Method where
  name : String
  parameters : List Parameter
  role : Role
  receiver : ReceiverKind
  /-- The signature as declared. -/
  signature : Signature

namespace Method

def returnShape (method : Method) : ReturnShape :=
  match method.role with
  | .binding .. => .builder
  | .sync _ => .response
  | .async _ => .unit

def bindingKind? (method : Method) : Option BindingKind :=
  match method.role with
  | .binding kind _ => some kind
  | _ => none

def bindingKey? (method : Method) : Option String :=
  match method.role with
  | .binding _ key => some key
  | _ => none

def valueType? (method : Method) : Option Ty :=
  method.parameters.head?.map (·.type)

def syncResult? (method : Method) : Option Ty :=
  match method.role with
  | .sync result => some result
  | _ => none

def asyncCallback? (method : Method) : Option String :=
  match method.role with
  | .async callback => some callback
  | _ => none

def bodyType? (method : Method) : Option Ty :=
  match method.role with
  | .binding .body _ => method.valueType?
  | _ => none

end Method

structure Endpoint where
  name : String
  visibility : Visibility
  method : HttpMethod
  template : String
  methods : List Method

/-- The placeholders in the rest of a path template. A placeholder is what stands between a `{` and the
next `}`; `opened` holds the characters after a `{`, reversed. -/
def placeholdersFrom (opened : Option (List Char)) : List Char → List String
  | [] => []
  | c :: rest =>
    match opened with
    | none => placeholdersFrom (if c == '\x7b' then some [] else none) rest
    | some key =>
      if c == '\x7d' then String.ofList key.reverse :: placeholdersFrom none rest
      else placeholdersFrom (some (c :: key)) rest

namespace Endpoint

def uses (endpoint : Endpoint) (kind : BindingKind) : Bool :=
  endpoint.methods.any fun method => method.bindingKind? == some kind

/-- The kinds of binding that a method has, in the order of the kinds. -/
def kinds (endpoint : Endpoint) : List BindingKind :=
  BindingKind.all.filter endpoint.uses

def payloadKinds (endpoint : Endpoint) : List BindingKind :=
  [.body, .form, .multipart].filter endpoint.uses

def placeholders (endpoint : Endpoint) : List String :=
  placeholdersFrom none endpoint.template.toList

def syncResult? (endpoint : Endpoint) : Option Ty :=
  endpoint.methods.findSome? Method.syncResult?

def asyncCallback? (endpoint : Endpoint) : Option String :=
  endpoint.methods.findSome? Method.asyncCallback?

def bodyType? (endpoint : Endpoint) : Option Ty :=
  endpoint.methods.findSome? Method.bodyType?

def bareName (name : String) : String :=
  match name.toList with
  | 'r' :: '#' :: rest => String.ofList rest
  | _ => name

def builderName (endpoint : Endpoint) : String := bareName endpoint.name ++ "Impl"

end Endpoint

end Endpoints
