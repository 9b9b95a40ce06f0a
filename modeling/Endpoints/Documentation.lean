import Endpoints.Text.Blank
import Endpoints.Text.Quoted
import Endpoints.Text.Word
import Endpoints.Type.Attribute

/-! The documentation of a declaration and the tags in it. A tag is a line that starts with `@` after
blanks and at most one `*`. -/

namespace Endpoints

/-- The text of `#[doc = "…"]`. A documentation comment is such an attribute. -/
def Attribute.documentation? (self : Attribute) : Option String :=
  match self.path, self.body with
  | [.ident "doc"], .value [.literal literal] => Text.Quoted.decode literal
  | _, _ => none

/-- The lines of documentation, in order. -/
structure Documentation where
  lines : List String
  deriving DecidableEq, Repr

namespace Documentation

def ofAttributes (attributes : List Attribute) : Documentation :=
  ⟨(attributes.filterMap Attribute.documentation?).flatMap Text.lines⟩

/-- A line without the blanks around it and without one `*` at its start. -/
def plainLine (line : List Char) : List Char :=
  match Text.trimEnd (Text.trimStart line) with
  | '*' :: rest => Text.trimStart rest
  | plain => plain

def tag? (line : String) : Option String :=
  match plainLine line.toList with
  | '@' :: rest => some (String.ofList ('@' :: rest))
  | _ => none

def tags (documentation : Documentation) : List String :=
  documentation.lines.filterMap tag?

def startsWithWord (word text : List Char) : Bool :=
  word.isPrefixOf text && !(text.drop word.length).head?.any Text.isWordCharacter

def isEndpointTag (tag : String) : Bool :=
  ["@GET", "@POST", "@PUT", "@DELETE"].any fun name => startsWithWord name.toList tag.toList

def hasEndpointTag (documentation : Documentation) : Bool :=
  documentation.tags.any isEndpointTag

end Documentation

end Endpoints
