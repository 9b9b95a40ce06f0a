import Endpoints.Type.Nested

/-! Attributes: `#[path]`, `#[path(…)]` and `#[path = value]`, and the same after `#!`. -/

namespace Endpoints
open Reader

/-- What an attribute says beside its path. -/
inductive AttributeBody where
  | none
  | list (delimiter : Delimiter) (content : Tokens)
  | value (tokens : Tokens)
  deriving Inhabited

/-- An attribute of what follows it, or of what encloses it when `inner` holds. -/
structure Attribute where
  inner : Bool
  path : Tokens
  body : AttributeBody
  deriving Inhabited

def AttributeBody.tokens : AttributeBody → Tokens
  | .none => []
  | .list delimiter content => [.group delimiter content]
  | .value tokens => Tokens.operator "=" ++ tokens

def Attribute.tokens (self : Attribute) : Tokens :=
  Tokens.operator "#" ++ Tokens.given self.inner (Tokens.operator "!")
    ++ Tokens.brackets (self.path ++ self.body.tokens)

def attributesTokens (attributes : List Attribute) : Tokens :=
  attributes.flatMap Attribute.tokens

def attributeValue (nested : Nested) : Reader Tokens := do
  match ← attempt (do
      let value ← literal
      if ← atEnd then return value else fail "unexpected token") with
  | some value => return value
  | none =>
    if ← ahead fun tokens => tokens.startsOperator "#" && (tokens.skip 1).startsGroup .bracket then
      fail "unexpected attribute inside of attribute"
    nested.expression

def attributeContent (nested : Nested) : Reader (Tokens × AttributeBody) := do
  let path ← if ← word? "unsafe" then pure (Tokens.word "unsafe") else plainPath
  match ← attempt anyGroup with
  | some (delimiter, content) => return (path, .list delimiter content)
  | none =>
    if ← operator? "=" then return (path, .value (← attributeValue nested))
    else return (path, .none)

def startsOuterAttribute (tokens : Tokens) : Bool :=
  tokens.startsOperator "#" && !((tokens.skip 1).startsOperator "!")

def startsInnerAttribute (tokens : Tokens) : Bool :=
  tokens.startsOperator "#" && (tokens.skip 1).startsOperator "!"
    && !((tokens.skip 1).startsOperator "!=")

def outerAttributes (nested : Nested) : Reader (List Attribute) :=
  whileAhead (fun tokens => tokens.startsOperator "#") do
    operator "#"
    let (path, body) ← group .bracket (attributeContent nested)
    return ⟨false, path, body⟩

def innerAttributes (nested : Nested) : Reader (List Attribute) :=
  whileAhead startsInnerAttribute do
    operator "#"
    operator "!"
    let (path, body) ← group .bracket (attributeContent nested)
    return ⟨true, path, body⟩

end Endpoints
