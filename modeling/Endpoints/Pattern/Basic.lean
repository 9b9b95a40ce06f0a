import Endpoints.Type.Tokens

/-! Patterns. Values in a pattern, such as the ends of a range, are kept as their tokens. -/

namespace Endpoints
open Tokens

mutual

inductive Pattern where
  /-- A pattern with attributes of its own. -/
  | attributed (attributes : Tokens) (inner : Pattern)
  | name (byReference : Bool) (mutable : Bool) (name : String) (binding : Option Pattern)
  | wildcard
  | rest
  /-- A literal or a constant block. -/
  | value (tokens : Tokens)
  | path (path : Ty)
  | call (path : Path) (delimiter : Delimiter) (content : Tokens)
  /-- A range; an end that is missing is empty. -/
  | range (lower : Tokens) (closed : Bool) (upper : Tokens)
  | reference (mutable : Bool) (inner : Pattern)
  | paren (inner : Pattern)
  | tuple (elements : List Pattern) (trailing : Bool)
  | slice (elements : List Pattern) (trailing : Bool)
  | tupleStructure (path : Ty) (elements : List Pattern) (trailing : Bool)
  /-- Fields, and `..` with its attributes if it comes after them. -/
  | structure (path : Ty) (fields : List FieldPattern) (trailing : Bool) (open? : Option Tokens)
  | oneOf (leading : Bool) (cases : List Pattern)
  | typed (pattern : Pattern) (type : Ty)
  | verbatim (tokens : Tokens)

/-- The pattern of a field, after its name unless the pattern names it. -/
inductive FieldPattern where
  | mk (attributes : Tokens) (member : Option String) (pattern : Pattern)

end

/-- A member of a structure or tuple: a name, or a position, which is a literal. -/
def memberTokens (member : String) : Tokens :=
  if member.toList.head?.any Char.isDigit then [.literal member] else word member

mutual

def Pattern.tokens : Pattern → Tokens
  | .attributed attributes inner => attributes ++ inner.tokens
  | .name byReference mutable name binding =>
    given byReference (word "ref") ++ given mutable (word "mut") ++ word name ++ bindingTokens binding
  | .wildcard => word "_"
  | .rest => operator ".."
  | .value tokens => tokens
  | .path path => path.tokens
  | .call path delimiter content => path.tokens ++ operator "!" ++ [.group delimiter content]
  | .range lower closed upper => lower ++ operator (if closed then "..=" else "..") ++ upper
  | .reference mutable inner => operator "&" ++ given mutable (word "mut") ++ inner.tokens
  | .paren inner => parens inner.tokens
  | .tuple [.rest] trailing => parens (operator ".." ++ given trailing (operator ","))
  | .tuple elements trailing =>
    parens (commaList (patternsTokens elements) (trailing || elements.length == 1))
  | .slice elements trailing => brackets (commaList (patternsTokens elements) trailing)
  | .tupleStructure path elements trailing =>
    path.tokens ++ parens (commaList (patternsTokens elements) trailing)
  | .structure path fields trailing none =>
    path.tokens ++ braces (commaList (fieldPatternsTokens fields) trailing)
  | .structure path fields _ (some attributes) =>
    path.tokens ++ braces (commaList (fieldPatternsTokens fields) true ++ attributes ++ operator "..")
  | .oneOf leading cases =>
    given leading (operator "|") ++ separated (operator "|") (patternsTokens cases)
  | .typed pattern type => pattern.tokens ++ operator ":" ++ type.tokens
  | .verbatim tokens => tokens

def bindingTokens : Option Pattern → Tokens
  | none => []
  | some pattern => operator "@" ++ pattern.tokens

def patternsTokens : List Pattern → List Tokens
  | [] => []
  | pattern :: rest => pattern.tokens :: patternsTokens rest

def FieldPattern.tokens : FieldPattern → Tokens
  | .mk attributes none pattern => attributes ++ pattern.tokens
  | .mk attributes (some member) pattern =>
    attributes ++ memberTokens member ++ operator ":" ++ pattern.tokens

def fieldPatternsTokens : List FieldPattern → List Tokens
  | [] => []
  | field :: rest => field.tokens :: fieldPatternsTokens rest

end

end Endpoints
