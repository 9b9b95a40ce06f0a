import Endpoints.Type.Printer

/-! What a tag asks for: an endpoint on an interface, a binding or a terminal on a method. -/

namespace Endpoints

inductive HttpMethod where
  | get
  | post
  | put
  | delete
  deriving DecidableEq, Repr

namespace HttpMethod

def ofName? (name : String) : Option HttpMethod :=
  if name = "GET" then some .get
  else if name = "POST" then some .post
  else if name = "PUT" then some .put
  else if name = "DELETE" then some .delete
  else none

def name : HttpMethod → String
  | .get => "GET"
  | .post => "POST"
  | .put => "PUT"
  | .delete => "DELETE"

/-- A method with a payload sends bindings in the body, the others in the query. -/
def carriesPayload : HttpMethod → Bool
  | .post | .put => true
  | .get | .delete => false

/-- The constant that stands for the method below a runtime module. -/
def tokens (method : HttpMethod) (runtime : Path) : Tokens :=
  runtime.tokens ++ Tokens.operator "::" ++ Tokens.separated (Tokens.operator "::")
    (["reqwest", "Method", method.name].map Tokens.word)

@[simp] theorem ofName?_name (method : HttpMethod) : ofName? method.name = some method := by
  cases method <;> rfl

end HttpMethod

/-- Where a setter puts its value in the request. The order of the constructors is the order in which
builders hold what was set. -/
inductive BindingKind where
  | path
  | query
  | header
  | form
  | body
  | multipart
  deriving DecidableEq, Repr

namespace BindingKind

def all : List BindingKind := [.path, .query, .header, .form, .body, .multipart]

def tag : BindingKind → String
  | .path => "@PATH"
  | .query => "@QUERY"
  | .header => "@HEADER"
  | .form => "@FORM"
  | .body => "@BODY"
  | .multipart => "@MULTIPART"

theorem mem_all (kind : BindingKind) : kind ∈ all := by cases kind <;> decide

end BindingKind

/-- A body binding has an empty key. -/
inductive Directive where
  | endpoint (method : HttpMethod) (template : String)
  | binding (kind : BindingKind) (key : String)
  | sync (result : Ty)
  | async (callback : String)

def Directive.isEndpoint : Directive → Bool
  | .endpoint .. => true
  | _ => false

def Directive.isBinding : Directive → Bool
  | .binding .. => true
  | _ => false

end Endpoints
