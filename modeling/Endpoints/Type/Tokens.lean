import Endpoints.Type.Basic

/-! The tokens of types, paths and bounds. In angle brackets lifetimes come before all else. -/

namespace Endpoints
open Tokens

/-- Parts of a list, each with whether a comma follows it. -/
def withCommas (trailing : Bool) : List (Bool × Tokens) → List (Bool × Tokens × Bool)
  | [] => []
  | [(lifetime, part)] => [(lifetime, part, trailing)]
  | (lifetime, part) :: rest => (lifetime, part, true) :: withCommas trailing rest

/-- Parts with the commas that follow them, and whether one may follow directly: at the start or after a
comma. A part after one without a comma gets one before it. -/
def spread (settled : Bool) : List (Bool × Tokens × Bool) → Tokens
  | [] => []
  | (_, part, comma) :: rest =>
    (if settled then [] else operator ",") ++ part ++ given comma (operator ",") ++ spread comma rest

/-- The parts of a list in angle brackets, those that are lifetimes first. -/
def lifetimesFirst (parts : List (Bool × Tokens)) (trailing : Bool) : Tokens :=
  let marked := withCommas trailing parts
  let lifetimes := marked.filter (·.1)
  let settled := match lifetimes.getLast? with
    | some (_, _, comma) => comma
    | none => true
  lifetimes.flatMap (fun (_, part, comma) => part ++ given comma (operator ","))
    ++ spread settled (marked.filter (!·.1))

def plusList (bounds : List Tokens) (trailing : Bool) : Tokens :=
  separated (operator "+") bounds ++ given (trailing && !bounds.isEmpty) (operator "+")

mutual

def Ty.tokens : Ty → Tokens
  | .array element length => brackets (element.tokens ++ operator ";" ++ length)
  | .function binder qualifiers inputs trailing variadic output =>
    let inputs := commaList (inputsTokens inputs) (trailing || !variadic.isEmpty)
    binder ++ qualifiers ++ word "fn" ++ parens (inputs ++ variadic) ++ outputTokens output
  | .implementing bounds trailing => word "impl" ++ plusList (boundsTokens bounds) trailing
  | .inferred => word "_"
  | .never => operator "!"
  | .paren inner => parens inner.tokens
  | .path path => path.tokens
  | .qualified self none segments =>
    operator "<" ++ self.tokens ++ operator ">" ++ operator "::"
      ++ separated (operator "::") (segmentsTokens segments)
  | .qualified self (some ofTrait) segments =>
    operator "<" ++ self.tokens ++ word "as" ++ ofTrait.tokens ++ operator ">" ++ operator "::"
      ++ separated (operator "::") (segmentsTokens segments)
  | .pointer mutable target =>
    operator "*" ++ word (if mutable then "mut" else "const") ++ target.tokens
  | .reference name mutable target =>
    operator "&" ++ ((name.map Tokens.lifetime).getD []) ++ given mutable (word "mut") ++ target.tokens
  | .slice element => brackets element.tokens
  | .traitObject keyword bounds trailing =>
    given keyword (word "dyn") ++ plusList (boundsTokens bounds) trailing
  | .tuple [element] _ => parens (element.tokens ++ operator ",")
  | .tuple elements trailing => parens (commaList (typesTokens elements) trailing)
  | .call path delimiter content => path.tokens ++ operator "!" ++ [.group delimiter content]
  | .verbatim tokens => tokens

def FunctionInput.tokens : FunctionInput → Tokens
  | .mk attributes name type =>
    attributes ++ (match name with
      | some name => word name ++ operator ":"
      | none => []) ++ type.tokens

def inputsTokens : List FunctionInput → List Tokens
  | [] => []
  | input :: rest => input.tokens :: inputsTokens rest

def typesTokens : List Ty → List Tokens
  | [] => []
  | type :: rest => type.tokens :: typesTokens rest

def outputTokens : Option Ty → Tokens
  | none => []
  | some type => operator "->" ++ type.tokens

def Path.tokens : Path → Tokens
  | .mk isGlobal segments =>
    given isGlobal (operator "::") ++ separated (operator "::") (segmentsTokens segments)

def segmentsTokens : List Segment → List Tokens
  | [] => []
  | segment :: rest => segment.tokens :: segmentsTokens rest

def Segment.tokens : Segment → Tokens
  | .mk name arguments => word name ++ arguments.tokens

def Arguments.tokens : Arguments → Tokens
  | .none => []
  | .angle turbofish arguments trailing =>
    given turbofish (operator "::") ++ operator "<"
      ++ lifetimesFirst (argumentsTokens arguments) trailing ++ operator ">"
  | .call inputs trailing output =>
    parens (commaList (typesTokens inputs) trailing) ++ outputTokens output

def argumentsTokens : List Argument → List (Bool × Tokens)
  | [] => []
  | argument :: rest => argument.tokens :: argumentsTokens rest

/-- The tokens of an argument, and whether it is a lifetime. -/
def Argument.tokens : Argument → Bool × Tokens
  | .lifetime name => (true, Tokens.lifetime name)
  | .type type => (false, type.tokens)
  | .const value => (false, value)
  | .associatedType name arguments type =>
    (false, word name ++ arguments.tokens ++ operator "=" ++ type.tokens)
  | .associatedConst name arguments value =>
    (false, word name ++ arguments.tokens ++ operator "=" ++ value)
  | .constraint name arguments bounds trailing =>
    (false, word name ++ arguments.tokens ++ operator ":" ++ plusList (boundsTokens bounds) trailing)

def boundsTokens : List Bound → List Tokens
  | [] => []
  | bound :: rest => bound.tokens :: boundsTokens rest

def Bound.tokens : Bound → Tokens
  | .ofTrait parenthesized optional binder path =>
    let inner := given optional (operator "?") ++ binder ++ path.tokens
    if parenthesized then parens inner else inner
  | .lifetime name => Tokens.lifetime name
  | .capturing lifetimes parameters trailing =>
    word "use" ++ operator "<"
      ++ lifetimesFirst (lifetimes.map (fun name => (true, Tokens.lifetime name))
        ++ parameters.map (fun name => (false, word name))) trailing
      ++ operator ">"
  | .verbatim tokens => tokens

end

end Endpoints
