import Endpoints.Type.Tokens
import Endpoints.Text.Replace

/-! The text of a type as a person writes it: `&some::Pointer`, `Option<Vec<u8>>`. What has no rule of
its own is printed from its tokens with fewer blanks. -/

namespace Endpoints
open Text

/-- The text of tokens without the blanks around `::`, `<`, `>` and after `&`. -/
def compactText (tokens : Tokens) : String :=
  replace (replace (replace (replace (replace tokens.text " :: " "::") ":: " "::") " < " "<") " >" ">")
    "& " "&"

mutual

def Ty.text : Ty → String
  | .array element length => "[" ++ element.text ++ "; " ++ compactText length ++ "]"
  | .implementing bounds _ => "impl " ++ String.intercalate " + " (boundTexts bounds)
  | .inferred => "_"
  | .never => "!"
  | .paren inner => "(" ++ inner.text ++ ")"
  | .path path => path.text
  | .pointer mutable target => (if mutable then "*mut " else "*const ") ++ target.text
  | .reference lifetime mutable target =>
    "&" ++ (match lifetime with
      | some name => "'" ++ name ++ " "
      | none => "") ++ (if mutable then "mut " else "") ++ target.text
  | .slice element => "[" ++ element.text ++ "]"
  | .traitObject _ bounds _ => "dyn " ++ String.intercalate " + " (boundTexts bounds)
  | .tuple [element] _ => "(" ++ element.text ++ ",)"
  | .tuple elements _ => "(" ++ String.intercalate ", " (typeTexts elements) ++ ")"
  | .function binder qualifiers inputs trailing variadic output =>
    compactText (Ty.function binder qualifiers inputs trailing variadic output).tokens
  | .qualified self ofTrait segments => compactText (Ty.qualified self ofTrait segments).tokens
  | .call path delimiter content => compactText (Ty.call path delimiter content).tokens
  | .verbatim tokens => compactText tokens

def typeTexts : List Ty → List String
  | [] => []
  | type :: rest => type.text :: typeTexts rest

def Path.text : Path → String
  | .mk isGlobal segments =>
    (if isGlobal then "::" else "") ++ String.intercalate "::" (segmentTexts segments)

def segmentTexts : List Segment → List String
  | [] => []
  | segment :: rest => segment.text :: segmentTexts rest

def Segment.text : Segment → String
  | .mk name arguments => name ++ arguments.text

def Arguments.text : Arguments → String
  | .none => ""
  | .angle turbofish arguments _ =>
    (if turbofish then "::" else "") ++ "<" ++ String.intercalate ", " (argumentTexts arguments) ++ ">"
  | .call inputs _ none => "(" ++ String.intercalate ", " (typeTexts inputs) ++ ")"
  | .call inputs _ (some output) =>
    "(" ++ String.intercalate ", " (typeTexts inputs) ++ ") -> " ++ output.text

def argumentTexts : List Argument → List String
  | [] => []
  | argument :: rest => argument.text :: argumentTexts rest

/-- The arguments of an associated type are left out. -/
def Argument.text : Argument → String
  | .lifetime name => "'" ++ name
  | .type type => type.text
  | .associatedType name _ type => name ++ " = " ++ type.text
  | .const value => compactText value
  | .associatedConst name arguments value =>
    compactText (Argument.associatedConst name arguments value).tokens.2
  | .constraint name arguments bounds trailing =>
    compactText (Argument.constraint name arguments bounds trailing).tokens.2

def boundTexts : List Bound → List String
  | [] => []
  | bound :: rest => bound.text :: boundTexts rest

/-- Parentheses and `for<…>` binders are left out. -/
def Bound.text : Bound → String
  | .ofTrait _ optional _ path => (if optional then "?" else "") ++ path.text
  | .lifetime name => "'" ++ name
  | .capturing lifetimes parameters trailing =>
    compactText (Bound.capturing lifetimes parameters trailing).tokens
  | .verbatim tokens => compactText tokens

end

end Endpoints
