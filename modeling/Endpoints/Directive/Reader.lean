import Endpoints.Directive.Basic
import Endpoints.Item.Grammar
import Endpoints.Token.Lexer

/-! Reading a tag: `@NAME("argument")` or `@NAME`, where the argument is a text literal. -/

namespace Endpoints

/-- Why a tag says nothing. -/
inductive TagError where
  | unreadable (error : ReadError)
  | unknown (name : String)
  | missingArgument (name : String)
  | emptyArgument (name : String)
  | needlessArgument
  | notType (argument : String)
  | notName (argument : String)
  deriving DecidableEq, Repr

def TagError.message : TagError → String
  | .unreadable error => error.message
  | .unknown name => "unknown annotation `@" ++ name ++ "`"
  | .missingArgument name => "@" ++ name ++ " expects a string argument"
  | .emptyArgument name => "@" ++ name ++ " argument must not be empty"
  | .needlessArgument => "@BODY takes no argument"
  | .notType argument => "`" ++ argument ++ "` is not a type"
  | .notName argument => "`" ++ argument ++ "` is not an identifier"

/-- A tag before its name is looked up. -/
structure Tag where
  name : String
  argument : Option String
  deriving DecidableEq, Repr

namespace Tag
open Reader

def argumentReader : Reader String := do
  let literal ← textLiteral
  if ← atEnd then return (Text.Quoted.decode literal).getD ""
  else fail "expected exactly one string argument"

def reader : Reader Tag := do
  operator "@"
  let name ← anyWord
  let argument ← if ← ahead (Tokens.startsGroup .parenthesis) then
      pure (some (← group .parenthesis argumentReader))
    else pure none
  if ← atEnd then return ⟨name, argument⟩
  else fail "unexpected tokens after annotation"

/-- The tag that a text without the blanks around it holds. -/
def read (text : String) : Except TagError Tag :=
  match readText (fun _ => reader) Lexer.tokens? (Text.trim text) with
  | .ok tag => .ok tag
  | .error error => .error (.unreadable error)

def required (tag : Tag) : Except TagError String :=
  match tag.argument with
  | some argument => .ok argument
  | none => .error (.missingArgument tag.name)

/-- An argument with a character that is no blank. -/
def key (tag : Tag) : Except TagError String := do
  let argument ← tag.required
  if Text.isBlankText argument then .error (.emptyArgument tag.name) else .ok argument

def keyedKind? (name : String) : Option BindingKind :=
  if name = "PATH" then some .path
  else if name = "QUERY" then some .query
  else if name = "HEADER" then some .header
  else if name = "FORM" then some .form
  else if name = "MULTIPART" then some .multipart
  else none

end Tag

def readType (text : String) : Except ReadError Ty :=
  readText (fun grammar => type grammar.nested true) Lexer.tokens? text

def readName (text : String) : Except ReadError String :=
  readText (fun _ => Reader.name) Lexer.tokens? text

namespace Directive

def ofTag (tag : Tag) : Except TagError Directive := do
  match HttpMethod.ofName? tag.name with
  | some method => return .endpoint method (← tag.required)
  | none =>
    match Tag.keyedKind? tag.name with
    | some kind => return .binding kind (← tag.key)
    | none =>
      if tag.name = "BODY" then
        if tag.argument.isSome then .error .needlessArgument else return .binding .body ""
      else if tag.name = "SYNC" then
        let argument ← tag.key
        match readType argument with
        | .ok result => return .sync result
        | .error _ => .error (.notType argument)
      else if tag.name = "ASYNC" then
        let argument ← tag.key
        match readName argument with
        | .ok callback => return .async callback
        | .error _ => .error (.notName argument)
      else .error (.unknown tag.name)

@[irreducible] def interpret (text : String) : Except TagError Directive := do
  ofTag (← Tag.read text)

end Directive

end Endpoints
