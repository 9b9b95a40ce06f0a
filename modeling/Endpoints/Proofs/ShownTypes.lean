import Endpoints.Proofs.TypeTexts

/-! What the text of a type shows. Some parts of a type have no place in its text, and some have one only as tokens.
The text tells the rest apart where it is tidy: names are names, and what is printed from tokens is closed and looks
like nothing else. -/

namespace Endpoints

/-- A constant as the one token that its text is. -/
def Tokens.constant (tokens : Tokens) : Tokens :=
  let text := compactText tokens
  if text.toList.head?.any fun c => c.isAlpha || c == '_' then [.ident text] else [.literal text]

theorem Ty.text_verbatim (tokens : Tokens) : (Ty.verbatim tokens).text = compactText tokens := by rw [Ty.text]

/-- What is printed from its tokens, as its text. -/
def Ty.spelled (tokens : Tokens) : Ty := .verbatim [.literal (compactText tokens)]

mutual

/-- The type without the separators at the ends of its lists. With `all` there is nothing else left out of it, and
without it only what its text shows is kept. -/
def Ty.kept (all : Bool) : Ty → Ty
  | .array element length => .array (element.kept all) (if all then length else length.constant)
  | .function binder qualifiers inputs trailing variadic output =>
    if all then .function binder qualifiers (inputsKept all inputs) false variadic (outputKept all output)
    else .spelled (Ty.function binder qualifiers inputs trailing variadic output).tokens
  | .implementing bounds _ => .implementing (boundsKept all bounds) false
  | .inferred => .inferred
  | .never => .never
  | .paren inner => .paren (inner.kept all)
  | .path path => .path (path.kept all)
  | .qualified self none segments =>
    if all then .qualified (self.kept all) none (segmentsKept all segments)
    else .spelled (Ty.qualified self none segments).tokens
  | .qualified self (some ofTrait) segments =>
    if all then .qualified (self.kept all) (some (ofTrait.kept all)) (segmentsKept all segments)
    else .spelled (Ty.qualified self (some ofTrait) segments).tokens
  | .pointer mutable target => .pointer mutable (target.kept all)
  | .reference lifetime mutable target => .reference lifetime mutable (target.kept all)
  | .slice element => .slice (element.kept all)
  | .traitObject keyword bounds _ => .traitObject (keyword || !all) (boundsKept all bounds) false
  | .tuple elements _ => .tuple (typesKept all elements) false
  | .call path delimiter content =>
    if all then .call (path.kept all) delimiter content else .spelled (Ty.call path delimiter content).tokens
  | .verbatim tokens => if all then .verbatim tokens else .spelled tokens

def FunctionInput.kept (all : Bool) : FunctionInput → FunctionInput
  | .mk attributes name type => .mk attributes name (type.kept all)

def inputsKept (all : Bool) : List FunctionInput → List FunctionInput
  | [] => []
  | input :: rest => input.kept all :: inputsKept all rest

def typesKept (all : Bool) : List Ty → List Ty
  | [] => []
  | type :: rest => type.kept all :: typesKept all rest

def outputKept (all : Bool) : Option Ty → Option Ty
  | none => none
  | some type => some (type.kept all)

def Path.kept (all : Bool) : Path → Path
  | .mk isGlobal segments => .mk isGlobal (segmentsKept all segments)

def segmentsKept (all : Bool) : List Segment → List Segment
  | [] => []
  | segment :: rest => segment.kept all :: segmentsKept all rest

def Segment.kept (all : Bool) : Segment → Segment
  | .mk name arguments => .mk name (arguments.kept all)

def Arguments.kept (all : Bool) : Arguments → Arguments
  | .none => .none
  | .angle turbofish arguments _ => .angle turbofish (argumentsKept all arguments) false
  | .call inputs _ output => .call (typesKept all inputs) false (outputKept all output)

def argumentsKept (all : Bool) : List Argument → List Argument
  | [] => []
  | argument :: rest => argument.kept all :: argumentsKept all rest

def Argument.kept (all : Bool) : Argument → Argument
  | .lifetime name => .lifetime name
  | .type type => .type (type.kept all)
  | .const value => .const (if all then value else value.constant)
  | .associatedType name arguments type =>
    .associatedType name (if all then arguments.kept all else .none) (type.kept all)
  | .associatedConst name arguments value =>
    if all then .associatedConst name (arguments.kept all) value
    else .type (.spelled (Argument.associatedConst name arguments value).tokens.2)
  | .constraint name arguments bounds trailing =>
    if all then .constraint name (arguments.kept all) (boundsKept all bounds) false
    else .type (.spelled (Argument.constraint name arguments bounds trailing).tokens.2)

def boundsKept (all : Bool) : List Bound → List Bound
  | [] => []
  | bound :: rest => bound.kept all :: boundsKept all rest

def Bound.kept (all : Bool) : Bound → Bound
  | .ofTrait parenthesized optional binder path =>
    if all then .ofTrait parenthesized optional binder (path.kept all)
    else .ofTrait false optional [] (path.kept all)
  | .lifetime name => .lifetime name
  | .capturing lifetimes parameters trailing =>
    if all then .capturing lifetimes parameters false
    else .verbatim [.literal (compactText (Bound.capturing lifetimes parameters trailing).tokens)]
  | .verbatim tokens => .verbatim (if all then tokens else [.literal (compactText tokens)])

end

/-- The type up to the separators at the ends of lists. -/
def Ty.untrailed (ty : Ty) : Ty := ty.kept true

/-- What the text of a type shows of it. -/
def Ty.shown (ty : Ty) : Ty := ty.kept false

/-- A type with nothing that its text leaves out, and nothing that is printed from its tokens but constants of one
token. -/
def Ty.IsWhole (ty : Ty) : Prop := ty.shown = ty.untrailed

namespace TypeText
open Nesting

/-- What a type or an argument that is printed from its tokens has to look like. -/
def isSpelled (tokens : Tokens) : Bool :=
  let text := (compactText tokens).toList
  decide (Standalone text) && kindOf text == .spelled

def isConstant (tokens : Tokens) : Bool :=
  let text := (compactText tokens).toList
  decide (Closed separators text) && constantLike text && !lifetimeLike text

def isSpelledBound (tokens : Tokens) : Bool :=
  let text := (compactText tokens).toList
  decide (Closed boundSeparators text) && text.head?.any (fun c => !(['?', '\'', '='].contains c)) && !pathLike text

end TypeText

open Nesting TypeText

/-- Arguments that an arrow and a type end. -/
def Arguments.hasOutput : Arguments → Bool
  | .call _ _ (some _) => true
  | _ => false

mutual

def Ty.isTidy : Ty → Bool
  | .array element length => element.isTidy && decide (Enclosable (compactText length).toList)
  | .function binder qualifiers inputs trailing variadic output =>
    isSpelled (Ty.function binder qualifiers inputs trailing variadic output).tokens
  | .implementing bounds _ | .traitObject _ bounds _ => boundsTidy bounds
  | .inferred | .never => true
  | .paren inner | .pointer _ inner | .slice inner => inner.isTidy
  | .path path => path.isTidy
  | .qualified self ofTrait segments => isSpelled (Ty.qualified self ofTrait segments).tokens
  | .reference lifetime _ target => lifetime.all (isWord ·.toList) && target.isTidy
  | .tuple elements _ => typesTidy elements
  | .call path delimiter content => isSpelled (Ty.call path delimiter content).tokens
  | .verbatim tokens => isSpelled tokens

def typesTidy : List Ty → Bool
  | [] => true
  | type :: rest => type.isTidy && typesTidy rest

def Path.isTidy : Path → Bool
  | .mk _ segments => !segments.isEmpty && segmentsTidy segments

/-- A type that an arrow gives ends the path. -/
def segmentsTidy : List Segment → Bool
  | [] => true
  | segment :: rest => segment.isTidy && (rest.isEmpty || !segment.arguments.hasOutput) && segmentsTidy rest

def Segment.isTidy : Segment → Bool
  | .mk name arguments => isName name && arguments.isTidy

/-- A type that an arrow gives is no sum. -/
def Arguments.isTidy : Arguments → Bool
  | .none => true
  | .angle _ arguments _ => argumentsTidy arguments
  | .call inputs _ none => typesTidy inputs
  | .call inputs _ (some output) =>
    typesTidy inputs && output.isTidy && decide (Closed boundSeparators output.text.toList)

def argumentsTidy : List Argument → Bool
  | [] => true
  | argument :: rest => argument.isTidy && argumentsTidy rest

def Argument.isTidy : Argument → Bool
  | .lifetime name => isWord name.toList
  | .type type => type.isTidy
  | .const value => isConstant value
  | .associatedType name _ type => isName name && type.isTidy
  | .associatedConst name arguments value => isSpelled (Argument.associatedConst name arguments value).tokens.2
  | .constraint name arguments bounds trailing =>
    isSpelled (Argument.constraint name arguments bounds trailing).tokens.2

def boundsTidy : List Bound → Bool
  | [] => true
  | bound :: rest => bound.isTidy && boundsTidy rest

def Bound.isTidy : Bound → Bool
  | .ofTrait _ _ _ path => path.isTidy
  | .lifetime name => isWord name.toList
  | .capturing lifetimes parameters trailing => isSpelledBound (Bound.capturing lifetimes parameters trailing).tokens
  | .verbatim tokens => isSpelledBound tokens

end

/-- A type whose text can be taken apart. -/
def Ty.Tidy (ty : Ty) : Prop := ty.isTidy = true

end Endpoints
