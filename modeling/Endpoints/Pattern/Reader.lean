import Endpoints.Type.Reader

/-! Reading patterns. -/

namespace Endpoints
open Reader

def member : Reader String := fun tokens =>
  match tokens with
  | .literal text :: rest =>
    if text.toList.all Char.isDigit then .ok (text, rest)
    else .error ⟨false, "expected identifier or integer"⟩
  | _ =>
    if tokens.startsName then name tokens
    else .error ⟨tokens.isEmpty, "expected identifier or integer"⟩

def isPosition (member : String) : Bool := member.toList.head?.any Char.isDigit

def startsAlternative (tokens : Tokens) : Bool :=
  tokens.startsOperator "|" && !tokens.startsOperator "||" && !tokens.startsOperator "|="

/-- Whether a range in a pattern has no upper end. -/
def endsRange (tokens : Tokens) : Bool :=
  tokens.isEmpty || tokens.startsOperator "|" || tokens.startsOperator "="
    || tokens.startsOperator ":" && !tokens.startsOperator "::" || tokens.startsOperator ","
    || tokens.startsOperator ";" || tokens.startsWord "if"

/-- The dots of a range, and whether its upper end belongs to it. Three dots are an old form. -/
def rangeDots (old : Bool) : Reader Bool := do
  if ← operator? "..=" then return true
  else if ← ahead (Tokens.startsOperator "...") then
    if old then
      operator "..."
      return true
    else fail "expected `..` or `..=`"
  else
    operator ".."
    return false

def startsPathPattern (tokens : Tokens) : Bool :=
  let next := tokens.skip 1
  tokens.startsName && (next.startsOperator "::" || next.startsOperator "!" || next.startsGroup .brace
      || next.startsGroup .parenthesis || next.startsOperator "..")
    || tokens.startsWord "self" && next.startsOperator "::"
    || tokens.startsOperator "::" || tokens.startsOperator "<"
    || tokens.startsWord "Self" || tokens.startsWord "super" || tokens.startsWord "crate"

section
variable (nested : Nested)

def constBlock : Reader Tokens := do
  word "const"
  return Tokens.word "const" ++ (← nested.block)

def rangeEnd : Reader (Option Tokens) := do
  if ← ahead endsRange then return none
  else if ← ahead Tokens.startsLiteral then return some (← literal)
  else if ← ahead fun tokens => tokens.startsName || startsPathWord tokens
      || tokens.startsOperator "::" || tokens.startsOperator "<" then
    return some (← pathType nested true).tokens
  else if ← ahead (Tokens.startsWord "const") then return some (← constBlock nested)
  else fail "expected literal, identifier, `::`, `<`, or `const`"

/-- A range after its lower end. -/
def rangeFrom (lower : Tokens) : Reader Pattern := do
  let closed ← rangeDots true
  match ← rangeEnd nested with
  | some upper => return .range lower closed upper
  | none =>
    if closed then fail "expected range upper bound" else return .range lower false []

def patternList : Reader (Separated Pattern) := commaList (nested.pattern true)

def fieldPattern (attributes : Tokens) : Reader FieldPattern := do
  let boxed ← word? "box"
  let byReference ← word? "ref"
  let mutable ← word? "mut"
  let plain := !(boxed || byReference || mutable)
  let member ← if plain then member else name
  if isPosition member || plain && (← ahead (Tokens.startsOperator ":")) then
    operator ":"
    return .mk attributes (some member) (← nested.pattern true)
  let pattern := Pattern.name byReference mutable member none
  if boxed then
    return .mk attributes none (.verbatim (Tokens.word "box" ++ pattern.tokens))
  else return .mk attributes none pattern

/-- The fields of a structure pattern up to the end or to `..`. -/
def fieldPatternsFuel : Nat → Reader (List FieldPattern × Bool × Option Tokens)
  | 0 => reject "unexpected token"
  | fuel + 1 => do
    if ← atEnd then return ([], true, none)
    let attributes ← outerAttributes nested
    if ← operator? ".." then return ([], true, some (attributesTokens attributes))
    let field ← fieldPattern nested (attributesTokens attributes)
    if ← atEnd then return ([field], false, none)
    operator ","
    let (rest, trailing, open?) ← fieldPatternsFuel fuel
    return (field :: rest, trailing, open?)

def pathPattern : Reader Pattern := do
  let type ← pathType nested true
  let call ← ahead fun tokens => match type with
    | .path path => tokens.startsOperator "!" && !tokens.startsOperator "!=" && path.isPlain
    | _ => false
  match call, type with
  | true, .path path =>
    operator "!"
    let (delimiter, content) ← anyGroup
    return .call path delimiter content
  | _, _ =>
    if ← ahead (Tokens.startsGroup .brace) then
      let (fields, trailing, open?) ← group .brace fun tokens =>
        fieldPatternsFuel nested (tokens.length + 1) tokens
      return .structure type fields (trailing && !fields.isEmpty) open?
    else if ← ahead (Tokens.startsGroup .parenthesis) then
      let elements ← group .parenthesis (patternList nested)
      return .tupleStructure type elements.items elements.trailing
    else if ← ahead (Tokens.startsOperator "..") then rangeFrom nested type.tokens
    else return .path type

/-- A pattern that is a literal, a constant block or a range that starts with one. -/
def valuePattern : Reader Pattern := do
  match ← rangeEnd nested with
  | none => fail "expected literal"
  | some tokens =>
    if ← ahead (Tokens.startsOperator "..") then rangeFrom nested tokens
    else return .value tokens

def namePattern : Reader Pattern := do
  let byReference ← word? "ref"
  let mutable ← word? "mut"
  let name ← if ← ahead (Tokens.startsWord "self") then anyWord else name
  if ← operator? "@" then
    return .name byReference mutable name (some (← nested.pattern false))
  else return .name byReference mutable name none

def isRest : Pattern → Bool
  | .rest => true
  | _ => false

/-- Whether a pattern is a range without one of its ends. -/
def isHalfOpen : Pattern → Bool
  | .range lower _ upper => lower.isEmpty || upper.isEmpty
  | _ => false

def parenthesizedPattern : Reader Pattern := do
  let elements ← group .parenthesis (patternList nested)
  match elements with
  | ⟨[inner], false⟩ => if isRest inner then return .tuple [inner] false else return .paren inner
  | ⟨elements, trailing⟩ => return .tuple elements trailing

def singlePattern : Reader Pattern := do
  if ← ahead startsPathPattern then pathPattern nested
  else if ← word? "_" then return .wildcard
  else if ← word? "box" then
    let inner ← nested.pattern false
    return .verbatim (Tokens.word "box" ++ inner.tokens)
  else if ← ahead fun tokens => tokens.startsOperator "-" || tokens.startsLiteral
      || tokens.startsWord "const" then valuePattern nested
  else if ← ahead fun tokens => tokens.startsWord "ref" || tokens.startsWord "mut"
      || tokens.startsWord "self" || tokens.startsName then namePattern nested
  else if ← operator? "&" then
    let mutable ← word? "mut"
    return .reference mutable (← nested.pattern false)
  else if ← ahead (Tokens.startsGroup .parenthesis) then parenthesizedPattern nested
  else if ← ahead (Tokens.startsGroup .bracket) then
    let elements ← group .bracket (patternList nested)
    if elements.items.any isHalfOpen then
      reject "range pattern is not allowed unparenthesized inside slice pattern"
    return .slice elements.items elements.trailing
  else if ← ahead fun tokens => tokens.startsOperator ".." && !tokens.startsOperator "..." then
    let closed ← rangeDots false
    match ← rangeEnd nested with
    | some upper => return .range [] closed upper
    | none => if closed then fail "expected range upper bound" else return .rest
  else fail "expected a pattern"

def pattern (alternatives : Bool) : Reader Pattern := do
  if alternatives then
    let leading ← operator? "|"
    let first ← singlePattern nested
    let more ← whileAhead startsAlternative do
      operator "|"
      singlePattern nested
    if leading || !more.isEmpty then return .oneOf leading (first :: more) else return first
  else singlePattern nested

end

end Endpoints
