import Endpoints.Builder.Spelling
import Endpoints.Endpoint.Basic

/-! What a builder holds for each kind of binding: the name of its field, its type, what it holds at
first, and how a setter stores a value in it. -/

namespace Endpoints

def BindingKind.field : BindingKind → String
  | .path => "path_substitutions"
  | .query => "query_params"
  | .header => "header_params"
  | .form => "post_form_params"
  | .body => "post_body"
  | .multipart => "post_multipart_params"

namespace Builder
open Tokens

def map : Tokens := std ["collections", "BTreeMap"]

/-- The bytes by name of a multipart form. The two closing brackets at its end are one operator. -/
def bytesByName : Tokens :=
  map ++ operator "<" ++ string ++ operator "," ++ std ["vec", "Vec"] ++ operator "<" ++ word "u8"
    ++ operator ">>"

def fieldType (kind : BindingKind) (endpoint : Endpoint) (runtime : Path) : Tokens :=
  match kind with
  | .path | .header => applied map [string, string]
  | .query | .form => below runtime ["Values"]
  | .body => applied (std ["option", "Option"]) [(endpoint.bodyType?.map Ty.tokens).getD []]
  | .multipart => bytesByName

def initial (kind : BindingKind) (runtime : Path) : Tokens :=
  match kind with
  | .path | .header | .multipart => call (map ++ operator "::" ++ word "new") []
  | .query | .form => call (below runtime ["Values", "new"]) []
  | .body => std ["option", "Option", "None"]

/-- The field of a kind, seen from a method of the builder. -/
def heldBy (kind : BindingKind) : Tokens := member self kind.field

def bytesOf (value : Tokens) : Tokens :=
  callOn
    (call (std ["convert", "AsRef"] ++ operator "::" ++ operator "<" ++ brackets (word "u8")
      ++ operator ">" ++ operator "::" ++ word "as_ref") [reference value])
    "to_vec" []

def store (kind : BindingKind) (key : String) (value : Tokens) : Tokens :=
  match kind with
  | .path | .header =>
    statement (longCall (member (heldBy kind) "insert") [ownedText key, shown value])
  | .query | .form => statement (callOn (heldBy kind) "add" [text key, shown value])
  | .body => assignment (heldBy kind) (present value)
  | .multipart =>
    statement (longCall (member (heldBy kind) "insert") [ownedText key, bytesOf value])

end Builder

end Endpoints
