import Endpoints.Documentation
import Endpoints.Layout.Type

/-! The layout of attributes. Documentation is written as a comment where a comment can hold it. -/

namespace Endpoints.Layout
open Doc (word space hard)

def trimSpaces (line : List Char) : List Char :=
  (line.reverse.dropWhile (· == ' ')).reverse

def trimLineEnds (text : List Char) : List Char :=
  match cut : text.dropWhile (· ≠ '\n') with
  | [] => text
  | _ :: rest =>
    have shorter : rest.length < text.length := by
      have := (List.dropWhile_sublist (fun c => decide (c ≠ '\n')) (l := text)).length_le
      rw [cut] at this
      simp only [List.length_cons] at this
      omega
    trimSpaces (text.takeWhile (· ≠ '\n')) ++ '\n' :: trimLineEnds rest
  termination_by text.length

/-- Whether a text has as many comment ends as comment starts, `depth` starts being open, each end after
its start. A slash at the very end would join the end of the comment. -/
def nestsComments (depth : Nat) : List Char → Bool
  | '/' :: '*' :: rest => nestsComments (depth + 1) rest
  | '*' :: '/' :: rest => depth > 0 && nestsComments (depth - 1) rest
  | _ :: rest => nestsComments depth rest
  | [] => depth == 0

def fitsBlockComment (text : List Char) : Bool :=
  nestsComments 0 text && text.getLast? ≠ some '/'

def startsWithAny (characters : List Char) (text : List Char) : Bool :=
  text.head?.any characters.contains

/-- A comment that holds a documentation text. -/
def documentationComment? (inner : Bool) (text : String) : Option String :=
  let characters := text.toList
  if !characters.contains '\n' && (inner || !startsWithAny ['/'] characters) then
    some ((if inner then "//!" else "///") ++ String.ofList (trimSpaces characters))
  else if fitsBlockComment characters && (inner || !startsWithAny ['*', '/'] characters) then
    some ((if inner then "/*!" else "/**") ++ String.ofList (trimLineEnds characters) ++ "*/")
  else none

def plainComment? (text : String) : Option String :=
  let characters := text.toList
  if !characters.contains '\n' then some ("//" ++ String.ofList (trimSpaces characters))
  else if fitsBlockComment characters && !startsWithAny ['*', '!'] characters then
    some ("/*" ++ String.ofList (trimLineEnds characters) ++ "*/")
  else none

/-- The comment that an attribute is written as, where it is. -/
def comment? (self : Attribute) : Option String :=
  match self.path, self.body with
  | [.ident "doc"], .value [.literal literal] =>
    (Text.Quoted.decode literal).bind (documentationComment? self.inner)
  | [.ident "comment"], .value [.literal literal] => (Text.Quoted.decode literal).bind plainComment?
  | _, _ => none

section
variable (kept : Kept)

def attributeBodyDocs : AttributeBody → Docs
  | .none => []
  | .list delimiter content => attributeGroup delimiter content
  | .value tokens => word " = " ++ kept.expression tokens

def attributeDocs (self : Attribute) : Docs :=
  match comment? self with
  | some comment => word comment ++ [hard]
  | none =>
    word (if self.inner then "#!" else "#") ++ word "[" ++ compactTokens self.path
      ++ attributeBodyDocs kept self.body ++ word "]" ++ [space]

def outerDocs (attributes : List Attribute) : Docs :=
  (attributes.filter (!·.inner)).flatMap (attributeDocs kept)

def innerDocs (attributes : List Attribute) : Docs :=
  (attributes.filter (·.inner)).flatMap (attributeDocs kept)

end

end Endpoints.Layout
