import Endpoints.Builder.Routine
import Endpoints.Text.SnakeCase

/-! The items generated for an endpoint: the callback trait, the builder with its constructors and
routines, and the implementation of the interface. -/

namespace Endpoints.Builder
open Tokens

def documented (sentence : String) : Attribute :=
  ⟨false, word "doc", .value (text sentence)⟩

/-- Documentation that is the same for all endpoints. It stands as a raw text. -/
def documentedPlainly (sentence : String) : Attribute :=
  ⟨false, word "doc", .value [.literal ("r\"" ++ sentence ++ "\"")]⟩

def allowing (lint : String) : Attribute :=
  ⟨false, word "allow", .list .parenthesis (word lint)⟩

def inputsOf (inputs : List Input) : Separated Input := ⟨inputs, false⟩

def plainSignature (name : String) (inputs : List Input) (output : Option Ty) : Signature where
  isConst := false
  isAsync := false
  isUnsafe := false
  convention := none
  name
  generics := .empty
  inputs := inputsOf inputs
  variadic := none
  output

def sharedSelf : Input := .receiver ⟨[], some none, false, none⟩

def parameter (name : String) (type : Tokens) : Input :=
  .parameter [] (.name false false name none) (.verbatim type)

def selfType : Ty := .path (.ofName "Self")

/-- The method of a callback trait that tells of one outcome. -/
def notification (sentence name : String) (inputs : List Input) : TraitItem :=
  .method ⟨[documentedPlainly sentence], plainSignature name (sharedSelf :: inputs) none, none⟩

def callbackTrait (endpoint : Endpoint) (callback : String) (response : Ty) : TraitDeclaration where
  attributes := [documented
    (" Receives the outcome of [`" ++ endpoint.name ++ "`] run asynchronously.")]
  visibility := endpoint.visibility
  isUnsafe := false
  isAuto := false
  name := callback
  generics := .empty
  supertraits := ⟨[.verbatim (std ["marker", "Send"])], false⟩
  items := [
    notification " Called on the caller's thread before the request starts." "on_start" [],
    notification " Called once if the request could not be built, sent, or decoded." "on_error"
      [parameter "reason" string],
    notification " Called once with the decoded response." "on_success"
      [parameter "response" response.tokens]]

def function (attributes : List Attribute) (visibility : Visibility) (signature : Signature)
    (body : Tokens) : FunctionDeclaration :=
  ⟨attributes, visibility, false, signature, body⟩

section
variable (endpoint : Endpoint) (runtime : Path)

def builderType : Ty := .path (.ofName endpoint.builderName)

def structDocumentation : Attribute := documented
  (" Request builder implementing [`" ++ endpoint.name ++ "`] for `" ++ endpoint.method.name ++ " "
    ++ endpoint.template ++ "`.")

def constructorDocumentation : Attribute := documented
  (" Creates an empty [`" ++ endpoint.builderName ++ "`].")

/-- The builder holds one field for each kind of binding in use. -/
def declaration : StructureDeclaration where
  attributes := [structDocumentation endpoint, allowing "dead_code"]
  visibility := endpoint.visibility
  name := endpoint.builderName
  generics := .empty
  fields := ⟨endpoint.kinds.map fun kind =>
    ⟨[], .inherited, kind.field, .verbatim (fieldType kind endpoint runtime)⟩, true⟩

def initialFields : Tokens :=
  commaList (endpoint.kinds.map fun kind =>
    word kind.field ++ operator ":" ++ initial kind runtime) true

def newFunction : FunctionDeclaration :=
  function [constructorDocumentation endpoint] endpoint.visibility
    (plainSignature "new" [] (some selfType))
    (word "Self" ++ braces (initialFields endpoint runtime))

def fillFunction : FunctionDeclaration :=
  function [] .inherited
    (plainSignature "apply_path_substitutions"
      [sharedSelf, parameter "template" (reference (word "str"))] (some (.verbatim string)))
    (fillBody runtime)

def buildFunction : FunctionDeclaration :=
  function [] .inherited
    (plainSignature "build" [sharedSelf] (some (.verbatim (result runtime (request runtime)))))
    (buildBody endpoint runtime)

def executeFunction (response : Ty) : FunctionDeclaration :=
  function [] .inherited
    (plainSignature "execute" [sharedSelf] (some (.verbatim (result runtime response.tokens))))
    (executeBody runtime response)

def routines : List FunctionDeclaration :=
  [newFunction endpoint runtime]
    ++ (if endpoint.uses .path then [fillFunction runtime] else [])
    ++ [buildFunction endpoint runtime]
    ++ (endpoint.syncResult?.map (executeFunction runtime)).toList

def implementing (ofTrait : Option Path) (attributes : List Attribute)
    (functions : List FunctionDeclaration) : Implementation where
  attributes
  isDefault := false
  isUnsafe := false
  generics := .empty
  ofTrait := ofTrait.map (false, ·)
  type := builderType endpoint
  items := functions.map .function

def defaultPath : Path :=
  .mk true [.mk "std" .none, .mk "default" .none, .mk "Default" .none]

def defaultFunction : FunctionDeclaration :=
  function [] .inherited (plainSignature "default" [] (some selfType)) (call (joined ["Self", "new"]) [])

def constructor (name : String) : FunctionDeclaration :=
  function [constructorDocumentation endpoint, allowing "dead_code"] endpoint.visibility
    (plainSignature name [] (some (builderType endpoint)))
    (call (joined [endpoint.builderName, "new"]) [])

/-- A signature in which an owned receiver can be changed. -/
def withMutableReceiver (signature : Signature) : Signature :=
  { signature with inputs := { signature.inputs with
      items := signature.inputs.items.map fun
        | .receiver receiver => .receiver { receiver with mutable := true }
        | input => input } }

def setterSignature (method : Method) : Signature :=
  match method.receiver with
  | .owned => withMutableReceiver method.signature
  | .reference | .mutableReference => method.signature

def firstParameter (method : Method) : Tokens :=
  word ((method.parameters.head?.map (·.name)).getD "")

def syncBody : Tokens :=
  callOn (callOn self "execute" []) "map_err" [std ["convert", "From", "from"]]

def asyncBody (callback : Tokens) : Tokens :=
  statement (callOn callback "on_start" [])
    ++ statement (call (std ["thread", "spawn"]) [
      word "move" ++ operator "||" ++ word "match" ++ callOn self "execute" []
        ++ braces (call (std ["result", "Result", "Ok"]) [word "response"] ++ operator "=>"
          ++ callOn callback "on_success" [word "response"] ++ operator ","
          ++ call (std ["result", "Result", "Err"]) [word "err"] ++ operator "=>"
          ++ braces (callOn callback "on_error" [shown (word "err")]))])

/-- The method of the builder that implements a method of the interface. -/
def methodFunction (method : Method) : FunctionDeclaration :=
  match method.role with
  | .binding kind key =>
    function [] .inherited (setterSignature method)
      (store kind key (firstParameter method) ++ self)
  | .sync _ => function [] .inherited method.signature syncBody
  | .async _ => function [] .inherited method.signature (asyncBody (firstParameter method))

def callbackItems : List Item :=
  match endpoint.asyncCallback?, endpoint.syncResult? with
  | some callback, some response => [.trait (callbackTrait endpoint callback response)]
  | _, _ => []

/-- The name of the free constructor, which is an identifier for all but raw names. -/
def constructorName : String := "new_" ++ Text.SnakeCase.convert endpoint.name

def items (constructorName : String) : List Item :=
  callbackItems endpoint ++ [
    .structure (declaration endpoint runtime),
    .implementation (implementing endpoint none [] (routines endpoint runtime)),
    .implementation (implementing endpoint (some defaultPath) [] [defaultFunction]),
    .function (constructor endpoint constructorName),
    .implementation (implementing endpoint (some (.ofName endpoint.name)) [allowing "unused_variables"]
      (endpoint.methods.map methodFunction))]

end

end Endpoints.Builder
