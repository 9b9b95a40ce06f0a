import Endpoints.Layout.Type
import Endpoints.Pattern.Basic

/-! The layout of patterns. -/

namespace Endpoints.Layout
open Doc (word zero space innerSpace lastComma lastCommaOrSpace uniform flexible indentation outdent
  separated list commas)

/-- A literal, a wildcard or another small pattern. -/
def isSmall : Pattern → Bool
  | .wildcard => true
  | .value (.ident "const" :: _) => false
  | .value _ => true
  | _ => false

section
variable (kept : Kept)

mutual

def patternDocs : Pattern → Docs
  | .attributed attributes inner => kept.attributes attributes ++ patternDocs inner
  | .name byReference mutable name binding =>
    (if byReference then word "ref " else []) ++ (if mutable then word "mut " else []) ++ word name
      ++ bindingDocs binding
  | .wildcard => word "_"
  | .rest => word ".."
  | .value tokens => kept.expression tokens
  | .path path => typeAt kept .expression path
  | .call path delimiter content => macroCall (pathDocs kept .plain path) delimiter content
  | .range lower closed upper =>
    rangeEnd lower ++ word (if closed then "..=" else "..") ++ rangeEnd upper
  | .reference mutable inner =>
    word "&" ++ (if mutable then word "mut " else []) ++ patternDocs inner
  | .paren inner => word "(" ++ patternDocs inner ++ word ")"
  | .tuple [element] trailing =>
    word "("
      ++ uniform indentation (outdent (zero :: patternDocs element
        ++ (if trailing then word "," else []) ++ [zero]))
      ++ word ")"
  | .tuple elements _ => word "(" ++ list (patternsDocs elements) ++ word ")"
  | .slice elements _ => word "[" ++ commas lastComma (patternsDocs elements) ++ word "]"
  | .tupleStructure path elements _ =>
    typeAt kept .expression path ++ word "(" ++ list (patternsDocs elements) ++ word ")"
  | .structure path fields _ open? =>
    uniform indentation (typeAt kept .expression path ++ word " \x7b"
      ++ outdent (innerSpace :: fieldPatternsDocs open?.isSome fields
        ++ (match open? with
          | some attributes => kept.attributes attributes ++ word ".." ++ [space]
          | none => [])))
      ++ word "\x7d"
  | .oneOf _ cases =>
    .box 0 (!cases.all isSmall) (separated [space, .text "| "] (patternsDocs cases)) :: []
  | .typed pattern ty => patternDocs pattern ++ word ": " ++ typeDocs kept ty
  | .verbatim tokens => [.unsupported ("Pat::Verbatim `" ++ tokens.text ++ "`")]
where
  rangeEnd (tokens : Tokens) : Docs := if tokens.isEmpty then [] else kept.expression tokens

def bindingDocs : Option Pattern → Docs
  | none => []
  | some pattern => word " @ " ++ patternDocs pattern

def patternsDocs : List Pattern → List Docs
  | [] => []
  | pattern :: rest => patternDocs pattern :: patternsDocs rest

def fieldPatternsDocs (goesOn : Bool) : List FieldPattern → Docs
  | [] => []
  | [.mk attributes name pattern] =>
    kept.attributes attributes ++ ((name.map fun name => word name ++ word ": ").getD [])
      ++ patternDocs pattern ++ (if goesOn then [.text ",", space] else [lastCommaOrSpace])
  | .mk attributes name pattern :: rest =>
    kept.attributes attributes ++ ((name.map fun name => word name ++ word ": ").getD [])
      ++ patternDocs pattern ++ [.text ",", space] ++ fieldPatternsDocs goesOn rest

end

end

end Endpoints.Layout
