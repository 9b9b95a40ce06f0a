import Endpoints.Type.Attribute

/-! Reading types, paths and bounds. -/

namespace Endpoints
open Reader

/-- Whether another bound may follow a plus. -/
def startsBound (tokens : Tokens) : Bool :=
  tokens.startsAnyWord || tokens.startsOperator "::" || tokens.startsOperator "?"
    || tokens.startsLifetime || tokens.startsGroup .parenthesis

def startsConstBound (tokens : Tokens) : Bool :=
  tokens.startsGroup .bracket || tokens.startsWord "const"

section
variable (nested : Nested)

/-- An expression that may stand among type arguments: a literal, a name or a block. -/
def constArgument : Reader Tokens := do
  if ← ahead Tokens.startsLiteral then literal
  else if ← ahead Tokens.startsAnyWord then return Tokens.word (← name)
  else if ← ahead (Tokens.startsGroup .brace) then nested.block
  else fail "expected literal, identifier, or curly braces"

/-- A lifetime declared by a binder or a list of generics, with its bounds. -/
def lifetimeParameter : Reader Tokens := do
  let attributes ← outerAttributes nested
  let declared ← lifetime
  let bounds ← if ← operator? ":" then
      chainedUntil (fun tokens => tokens.isEmpty || tokens.startsOperator "," || tokens.startsOperator ">")
        "+" lifetime
    else pure .nil
  return attributesTokens attributes ++ Tokens.lifetime declared
    ++ Tokens.given (!bounds.items.isEmpty)
      (Tokens.operator ":" ++ plusList (bounds.items.map Tokens.lifetime) bounds.trailing)

def binder : Reader Tokens := do
  if ← word? "for" then
    operator "<"
    let declared ← separatedUntil (·.startsOperator ">") "," (lifetimeParameter nested)
    operator ">"
    return Tokens.word "for" ++ Tokens.operator "<"
      ++ Tokens.commaList declared.items declared.trailing ++ Tokens.operator ">"
  else return []

def output (plus : Bool) : Reader (Option Ty) := do
  if ← operator? "->" then return some (← nested.type plus) else return none

/-- What follows `=` or `:` after the name of an associated item, if either does. -/
def associatedArgument? (name : String) (arguments : Arguments) : Reader (Option Argument) := do
  if ← operator? "=" then
    if ← ahead fun tokens => tokens.startsLiteral || tokens.startsGroup .brace then
      return some (.associatedConst name arguments (← constArgument nested))
    else
      return some (.associatedType name arguments (← nested.type true))
  else if ← operator? ":" then
    let bounds ← chainedUntil (fun tokens => tokens.startsOperator "," || tokens.startsOperator ">")
      "+" nested.bound
    return some (.constraint name arguments bounds.items bounds.trailing)
  else return none

def argument : Reader Argument := do
  if ← ahead fun tokens => tokens.startsLifetime && !tokens.afterFirst.startsOperator "+" then
    return .lifetime (← lifetime)
  if ← ahead fun tokens => tokens.startsLiteral || tokens.startsGroup .brace then
    return .const (← constArgument nested)
  let type ← nested.type true
  match type with
  | .path (.mk false [.mk name arguments]) =>
    match arguments with
    | .call .. => return .type type
    | _ => return (← associatedArgument? nested name arguments).getD (.type type)
  | _ => return .type type

def angleArguments (turbofish : Bool) : Reader Arguments := do
  operator "<"
  let arguments ← separatedUntil (·.startsOperator ">") "," (argument nested)
  operator ">"
  return .angle turbofish arguments.items arguments.trailing

/-- A segment of a path. In an expression its arguments need `::` before them. -/
def segment (inExpression : Bool) : Reader Segment := do
  if ← ahead fun tokens => pathWords.any (tokens.startsWord ·) then
    return .mk (← anyWord) .none
  let name ← if ← ahead (Tokens.startsWord "Self") then anyWord else name
  if ← ahead fun tokens => !inExpression && tokens.startsOperator "<"
      && !tokens.startsOperator "<=" && !tokens.startsOperator "<<=" then
    return .mk name (← angleArguments nested false)
  else if ← ahead fun tokens => tokens.startsOperator "::" && (tokens.skip 2).startsOperator "<" then
    operator "::"
    return .mk name (← angleArguments nested true)
  else return .mk name .none

/-- Further segments of a path. Parentheses after `::` are left alone. -/
def moreSegments (inExpression : Bool) : Reader (List Segment) :=
  whileAhead (fun tokens => tokens.startsOperator "::" && !(tokens.skip 2).startsGroup .parenthesis) do
    operator "::"
    segment nested inExpression

def path (inExpression : Bool) : Reader Path := do
  let isGlobal ← operator? "::"
  let first ← segment nested inExpression
  let more ← moreSegments nested inExpression
  return .mk isGlobal (first :: more)

def pathType (inExpression : Bool) : Reader Ty := do
  if ← operator? "<" then
    let self ← nested.type true
    let ofTrait ← if ← word? "as" then pure (some (← path nested false)) else pure none
    operator ">"
    operator "::"
    let segments ← chain "::" (fun _ => true) (segment nested inExpression)
    return .qualified self ofTrait segments.items
  else return .path (← path nested inExpression)

def callArguments : Reader Arguments := do
  let inputs ← group .parenthesis (commaList (nested.type true))
  return .call inputs.items inputs.trailing (← output nested false)

/-- The last segment of a path with the arguments of a function trait. -/
def withCall (arguments : Arguments) : List Segment → List Segment
  | [] => []
  | [.mk name _] => [.mk name arguments]
  | segment :: rest => segment :: withCall arguments rest

/-- The path of a bound, whose last segment may take parenthesised arguments. -/
def boundPath : Reader Path := do
  let path ← path nested false
  let plain := path.segments.getLast?.any (·.arguments.isNone)
  if ← ahead fun tokens => plain && (tokens.startsGroup .parenthesis
      || tokens.startsOperator "::" && (tokens.skip 2).startsGroup .parenthesis) then
    let _ ← operator? "::"
    let arguments ← callArguments nested
    return .mk path.isGlobal (withCall arguments path.segments)
  else return path

/-- A trait in a bound, or nothing when it is qualified by `const`. -/
def traitBound? (parenthesized allowConst : Bool) : Reader (Option Bound) := do
  let binderBefore ← binder nested
  let conditional ← ahead (Tokens.startsGroup .bracket)
  if conditional then
    group .bracket (word "const")
    unless allowConst do reject "`[const]` is not allowed here"
  let unconditional ← word? "const"
  if unconditional && !allowConst then reject "`const` is not allowed here"
  let optional ← operator? "?"
  let binderAfter ← if optional && binderBefore.isEmpty then binder nested else pure []
  let path ← boundPath nested
  let binder := binderBefore ++ binderAfter
  if optional && !binder.isEmpty then reject "a bound with `?` takes no `for<…>` binder"
  if conditional || unconditional then return none
  return some (.ofTrait parenthesized optional binder path)

/-- The generics in `use<…>`. -/
def capturing : Reader Bound := do
  word "use"
  operator "<"
  let captured ← separatedUntil (·.startsOperator ">") "," do
    if ← ahead Tokens.startsLifetime then return (true, ← lifetime)
    else if ← ahead (Tokens.startsWord "Self") then return (false, ← anyWord)
    else return (false, ← name)
  operator ">"
  return .capturing ((captured.items.filter (·.1)).map (·.2))
    ((captured.items.filter (!·.1)).map (·.2)) captured.trailing

def bound (allowCaptures allowConst : Bool) : Reader Bound := do
  if ← ahead Tokens.startsLifetime then return .lifetime (← lifetime)
  if ← ahead (Tokens.startsWord "use") then
    let captures ← capturing
    unless allowCaptures do reject "`use<...>` precise capturing syntax is not allowed here"
    return captures
  let inParentheses ← ahead (Tokens.startsGroup .parenthesis)
  let (read, tokens) ← withTokens
    (if inParentheses then group .parenthesis (traitBound? nested true allowConst)
     else traitBound? nested false allowConst)
  return read.getD (.verbatim tokens)

def bounds (plus allowCaptures allowConst : Bool) : Reader (Separated Bound) := do
  if plus then
    chain "+" (fun tokens => startsBound tokens || allowConst && startsConstBound tokens)
      (bound nested allowCaptures allowConst)
  else return ⟨[← bound nested allowCaptures allowConst], false⟩

/-- Whether a bound is more than a lifetime or a capture. -/
def Bound.isTrait : Bound → Bool
  | .ofTrait .. => true
  | .verbatim _ => true
  | _ => false

/-- The bounds of a trait object, of which one has to be a trait. -/
def objectBounds (plus : Bool) : Reader (Separated Bound) := do
  let bounds ← bounds nested plus false false
  unless bounds.items.any Bound.isTrait do
    reject "at least one trait is required for an object type"
  return bounds

def moreBounds (first : Bound) : Reader (List Bound) := do
  let rest ← whileAhead (·.startsOperator "+") do
    operator "+"
    bound nested false false
  return first :: rest

/-- A trait object that starts with a bound in parentheses, if `inner` can be that bound. -/
def parenthesizedBound? : Ty → Option Bound
  | .path path => some (.ofTrait true false [] path)
  | .traitObject false [.ofTrait _ optional binder path] false => some (.ofTrait true optional binder path)
  | .traitObject false [other] false => some other
  | _ => none

/-- A type that starts with parentheses. -/
def parenthesizedType (plus : Bool) : Reader Ty := do
  let content ← rawGroup .parenthesis
  if content.isEmpty then return .tuple [] false
  if content.startsLifetime then
    let bounds ← within content (objectBounds nested true)
    return .paren (.traitObject false bounds.items bounds.trailing)
  if content.startsOperator "?" then
    let first ← within content (traitBound? nested true false)
    let bounds ← moreBounds nested (first.getD (.verbatim content))
    return .traitObject false bounds false
  let elements ← within content (commaList (nested.type true))
  match elements with
  | ⟨[inner], false⟩ =>
    let joined ← ahead fun tokens => plus && tokens.startsOperator "+"
    match joined, parenthesizedBound? inner with
    | true, some first => return .traitObject false (← moreBounds nested first) false
    | _, _ => return .paren inner
  | ⟨elements, trailing⟩ => return .tuple elements trailing

/-- A calling convention before `fn`, with the word `unsafe` before it, or nothing. -/
def functionQualifiers : Reader Tokens := do
  let isUnsafe ← word? "unsafe"
  let hasConvention ← word? "extern"
  let convention ← if hasConvention then attempt textLiteral else pure none
  return Tokens.given isUnsafe (Tokens.word "unsafe")
    ++ Tokens.given hasConvention (Tokens.word "extern")
    ++ (match convention with
      | some text => [.literal text]
      | none => [])

def functionInput (isFirst : Bool) (attributes : Tokens) : Reader FunctionInput := do
  let mutableSelf ← ahead fun tokens =>
    isFirst && tokens.startsWord "mut" && (tokens.skip 1).startsWord "self"
  if mutableSelf then
    word "mut"
    if ← ahead fun tokens => (tokens.skip 1).startsOperator ":"
        && !(tokens.skip 1).startsOperator "::" then
      word "self"
      operator ":"
      let type ← nested.type true
      return .mk attributes none (.verbatim
        (Tokens.word "mut" ++ Tokens.word "self" ++ Tokens.operator ":" ++ type.tokens))
    word "self"
    return .mk attributes none (.verbatim (Tokens.word "mut" ++ Tokens.word "self"))
  let named ← ahead fun tokens =>
    (tokens.startsName || tokens.startsWord "_" || isFirst && tokens.startsWord "self")
      && (tokens.skip 1).startsOperator ":" && !(tokens.skip 1).startsOperator "::"
  if named then
    let name ← anyWord
    operator ":"
    return .mk attributes (some name) (← nested.type true)
  else return .mk attributes none (← nested.type true)

def startsOpenEnd (tokens : Tokens) : Bool :=
  tokens.startsOperator "..." || (tokens.startsName || tokens.startsWord "_")
    && (tokens.skip 1).startsOperator ":" && (tokens.skip 2).startsOperator "..."

def openEnd (attributes : Tokens) : Reader Tokens := do
  let named ← if ← ahead Tokens.startsAnyWord then
      let name ← anyWord
      operator ":"
      pure (Tokens.word name ++ Tokens.operator ":")
    else pure []
  operator "..."
  let comma ← operator? ","
  return attributes ++ named ++ Tokens.operator "..." ++ Tokens.given comma (Tokens.operator ",")

/-- The inputs of a function pointer up to the end, and an open end if there is one. -/
def functionInputsFuel (isFirst : Bool) : Nat → Reader (List FunctionInput × Bool × Tokens)
  | 0 => reject "unexpected token"
  | fuel + 1 => do
    if ← atEnd then return ([], true, [])
    let attributes ← outerAttributes nested
    if ← ahead startsOpenEnd then
      return ([], true, ← openEnd (attributesTokens attributes))
    let input ← functionInput nested isFirst (attributesTokens attributes)
    if ← atEnd then return ([input], false, [])
    operator ","
    let (rest, trailing, variadic) ← functionInputsFuel false fuel
    return (input :: rest, trailing, variadic)

def functionType (binder : Tokens) : Reader Ty := do
  let qualifiers ← functionQualifiers
  word "fn"
  let (inputs, trailing, variadic) ← group .parenthesis fun tokens =>
    functionInputsFuel nested true (tokens.length + 1) tokens
  return .function binder qualifiers inputs (trailing && !inputs.isEmpty) variadic
    (← output nested false)

/-- A type that starts with a path, after its binder. -/
def namedType (binder : Tokens) (plus : Bool) : Reader Ty := do
  let type ← pathType nested false
  match type with
  | .path path =>
    if ← ahead fun tokens => tokens.startsOperator "!" && !tokens.startsOperator "!=" && path.isPlain then
      operator "!"
      let (delimiter, content) ← anyGroup
      return .call path delimiter content
    if ← ahead fun tokens => !binder.isEmpty || plus && tokens.startsOperator "+" then
      let first := Bound.ofTrait false false binder path
      let more ← if plus then tail "+" startsBound (bound nested false false) else pure .nil
      return .traitObject false (first :: more.items) more.trailing
    else return type
  | _ => return type

/-- Whether what a pointer points to can be changed. -/
def pointerMutability : Reader Bool := do
  if ← word? "const" then return false
  else if ← word? "mut" then return true
  else fail "expected `const` or `mut`"

/-- What may start a type. -/
def typeOpenings : String :=
  "expected one of: `for`, parentheses, `fn`, `unsafe`, `extern`, identifier, `::`, `<`, `dyn`, "
    ++ "square brackets, `*`, `&`, `!`, `impl`, `_`, lifetime"

/-- Whether a type may follow a binder. -/
def followsBinder (tokens : Tokens) : Bool :=
  tokens.startsName || ["fn", "unsafe", "extern", "super", "self", "Self", "crate"].any
    (tokens.startsWord ·)

/-- A type. Without `plus`, bounds joined by `+` are left to what follows. -/
def type (plus : Bool) : Reader Ty := do
  let hasBinder ← ahead (Tokens.startsWord "for")
  let binder ← binder nested
  if hasBinder && !(← ahead followsBinder) then fail "expected identifier"
  if ← ahead fun tokens => !hasBinder && tokens.startsGroup .parenthesis then
    parenthesizedType nested plus
  else if ← ahead fun tokens => ["fn", "unsafe", "extern"].any (tokens.startsWord ·) then
    functionType nested binder
  else if ← ahead fun tokens => tokens.startsName || startsPathWord tokens
      || tokens.startsOperator "::" || tokens.startsOperator "<" then
    namedType nested binder plus
  else if ← word? "dyn" then
    let (bounds, tokens) ← withTokens do
      let pointer ← operator? "*"
      return (pointer, ← objectBounds nested plus)
    if bounds.1 then return .verbatim (Tokens.word "dyn" ++ tokens)
    else return .traitObject true bounds.2.items bounds.2.trailing
  else if ← ahead (Tokens.startsGroup .bracket) then
    group .bracket do
      let element ← nested.type true
      if ← operator? ";" then return .array element (← nested.expression)
      else return .slice element
  else if ← operator? "*" then
    let mutable ← pointerMutability
    return .pointer mutable (← nested.type false)
  else if ← operator? "&" then
    let name ← lifetime?
    let mutable ← word? "mut"
    return .reference name mutable (← nested.type false)
  else if ← ahead fun tokens => tokens.startsOperator "!" && !tokens.startsOperator "=" then
    operator "!"
    return .never
  else if ← word? "impl" then
    let bounds ← bounds nested plus true true
    unless bounds.items.any Bound.isTrait do reject "at least one trait must be specified"
    return .implementing bounds.items bounds.trailing
  else if ← word? "_" then return .inferred
  else if ← ahead Tokens.startsLifetime then
    let bounds ← objectBounds nested true
    return .traitObject false bounds.items bounds.trailing
  else fail typeOpenings

end

end Endpoints
