import Endpoints.Layout.Tokens
import Endpoints.Type.Tokens

/-! The layout of types, paths and bounds. -/

namespace Endpoints.Layout
open Doc (word zero space hard blank lastComma uniform flexible indentation outdent separated list single
  commas)

/-- The layout of what is kept as tokens inside of what is being laid out. -/
structure Kept where
  expression : Tokens → Docs
  /-- The statements of a body, with the attributes at its start. -/
  body : Tokens → Docs
  /-- Attributes of what follows them. -/
  attributes : Tokens → Docs
  /-- The names that a type or bound is stated for. -/
  binder : Tokens → Docs

/-- Where a path stands. Arguments follow `::` in an expression, and are left out where there are none. -/
inductive PathPlace where
  | plain
  | type
  | expression
  deriving DecidableEq

def lifetime (name : String) : Docs := word "'" ++ word name

def lifetimesFirst (parts : List (Bool × Docs)) : List Docs :=
  (parts.filter (·.1)).map (·.2) ++ (parts.filter (!·.1)).map (·.2)

def angleBrackets (parts : List Docs) : Docs :=
  word "<" ++ list parts ++ word ">"

def plusSeparated (parts : List Docs) : Docs := separated (word " + ") parts

def bounded (parts : List Docs) : Docs :=
  if parts.isEmpty then []
  else word ": " ++ separated [space, .text "+ "] parts

def macroCall (path : Docs) (delimiter : Delimiter) (content : Tokens) : Docs :=
  let edge := if delimiter = .brace then hard else zero
  path ++ word "!" ++ word ((if delimiter = .brace then " " else "") ++ opener delimiter)
    ++ (if content.isEmpty then []
      else uniform indentation (outdent
        ([edge] ++ flexible 0 (argumentTokens .start true content) ++ [edge])))
    ++ word (closer delimiter)

/-- A literal is not put in braces among the arguments of a type, nor is a block. -/
def isBareArgument : Tokens → Bool
  | [.literal _] => true
  | [.ident "true"] => true
  | [.ident "false"] => true
  | [.punct '-' _, .literal _] => true
  | [.group .brace _] => true
  | _ => false

section
variable (kept : Kept)

mutual

/-- A type, or a path of an expression. -/
def typeAt (place : PathPlace) : Ty → Docs
  | .array element length =>
    word "[" ++ typeAt .type element ++ word "; " ++ kept.expression length ++ word "]"
  | .function binder qualifiers inputs _ variadic output =>
    kept.binder binder ++ qualifierDocs qualifiers ++ word "fn("
      ++ uniform indentation (outdent (zero :: inputDocs variadic inputs ++ variadicDocs variadic))
      ++ word ")" ++ outputDocs output
  | .implementing bounds _ => word "impl " ++ plusSeparated (boundDocs bounds)
  | .inferred => word "_"
  | .never => word "!"
  | .paren inner => word "(" ++ typeAt .type inner ++ word ")"
  | .path path => pathDocs place path
  | .qualified self ofTrait segments =>
    word "<" ++ typeAt .type self ++ seenThroughDocs ofTrait ++ word ">"
      ++ (segmentDocs place segments).flatMap fun segment => word "::" ++ segment
  | .pointer mutable target => word (if mutable then "*mut " else "*const ") ++ typeAt .type target
  | .reference name mutable target =>
    word "&" ++ ((name.map fun name => lifetime name ++ blank).getD [])
      ++ (if mutable then word "mut " else []) ++ typeAt .type target
  | .slice element => word "[" ++ typeAt .type element ++ word "]"
  | .traitObject _ bounds _ => word "dyn " ++ plusSeparated (boundDocs bounds)
  | .tuple [element] _ => word "(" ++ single (typeAt .type element) ++ word ")"
  | .tuple elements _ => word "(" ++ list (typesDocs elements) ++ word ")"
  | .call path delimiter content => macroCall (pathDocs .plain path) delimiter content
  | .verbatim tokens => [.unsupported ("Type::Verbatim `" ++ tokens.text ++ "`")]
where
  qualifierDocs (qualifiers : Tokens) : Docs :=
    qualifiers.flatMap fun token => word token.text ++ blank
  variadicDocs (variadic : Tokens) : Docs :=
    if variadic.isEmpty then [] else compactTokens variadic ++ [zero]

def typesDocs : List Ty → List Docs
  | [] => []
  | ty :: rest => typeAt .type ty :: typesDocs rest

def inputDocs (variadic : Tokens) : List FunctionInput → Docs
  | [] => []
  | [.mk attributes name ty] =>
    kept.attributes attributes ++ ((name.map fun name => word name ++ word ": ").getD [])
      ++ typeAt .type ty ++ (if variadic.isEmpty then [lastComma] else [.text ",", space])
  | .mk attributes name ty :: rest =>
    kept.attributes attributes ++ ((name.map fun name => word name ++ word ": ").getD [])
      ++ typeAt .type ty ++ [.text ",", space] ++ inputDocs variadic rest

def outputDocs : Option Ty → Docs
  | none => []
  | some ty => word " -> " ++ typeAt .type ty

def seenThroughDocs : Option Path → Docs
  | none => []
  | some path => word " as " ++ pathDocs .type path

def pathDocs (place : PathPlace) : Path → Docs
  | .mk isGlobal segments =>
    (if isGlobal then word "::" else []) ++ separated (word "::") (segmentDocs place segments)

def segmentDocs (place : PathPlace) : List Segment → List Docs
  | [] => []
  | segment :: rest => segmentDoc place segment :: segmentDocs place rest

def segmentDoc (place : PathPlace) : Segment → Docs
  | .mk name arguments => word name ++ argumentsDocs place arguments

def argumentsDocs (place : PathPlace) : Arguments → Docs
  | .none => []
  | .angle _ [] _ => []
  | .angle _ arguments _ =>
    if place = .plain then []
    else (if place = .expression then word "::" else [])
      ++ angleBrackets (lifetimesFirst (argumentDocs arguments))
  | .call inputs _ output =>
    uniform indentation
      (word "(" ++ outdent (zero :: commas lastComma (typesDocs inputs)) ++ word ")"
        ++ outputDocs output)

def argumentDocs : List Argument → List (Bool × Docs)
  | [] => []
  | argument :: rest => argumentDoc argument :: argumentDocs rest

/-- An argument, and whether it is a lifetime. -/
def argumentDoc : Argument → Bool × Docs
  | .lifetime name => (true, lifetime name)
  | .type ty => (false, typeAt .type ty)
  | .const value =>
    (false, if isBareArgument value then kept.expression value
      else word "\x7b" ++ kept.expression value ++ word "\x7d")
  | .associatedType name arguments ty =>
    (false, word name ++ argumentsDocs .type arguments ++ word " = " ++ typeAt .type ty)
  | .associatedConst name arguments value =>
    (false, word name ++ argumentsDocs .type arguments ++ word " = " ++ kept.expression value)
  | .constraint name arguments bounds _ =>
    (false, word name ++ argumentsDocs .type arguments
      ++ flexible indentation (bounded (boundDocs bounds)))

def boundDocs : List Bound → List Docs
  | [] => []
  | bound :: rest => boundDoc bound :: boundDocs rest

def boundDoc : Bound → Docs
  | .ofTrait parenthesized optional binder path =>
    let inner := (if optional then word "?" else []) ++ kept.binder binder ++ pathDocs .type path
    if parenthesized then word "(" ++ inner ++ word ")" else inner
  | .lifetime name => lifetime name
  | .capturing lifetimes parameters _ =>
    word "use<" ++ separated (word ", ") (lifetimes.map lifetime ++ parameters.map word) ++ word ">"
  | .verbatim tokens => [.unsupported ("TypeParamBound::Verbatim `" ++ tokens.text ++ "`")]

end

def typeDocs (ty : Ty) : Docs := typeAt kept .type ty

end

end Endpoints.Layout
