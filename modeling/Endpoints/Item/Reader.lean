import Endpoints.Expr.Reader
import Endpoints.Item.Tokens

/-! Reading signatures and items. -/

namespace Endpoints
open Reader

section
variable (grammar : Grammar)

local instance : Coe Grammar Nested := ⟨Grammar.nested⟩

def visibility : Reader Visibility := do
  if !(← word? "pub") then return .inherited
  match ← ahead List.head? with
  | some (.group .parenthesis [.ident name]) =>
    if ["crate", "self", "super"].contains name then
      advance
      return .inside false (Tokens.word name)
    else return .everywhere
  | some (.group .parenthesis (.ident "in" :: _)) =>
    group .parenthesis do
      word "in"
      return .inside true (← plainPath)
  | _ => return .everywhere

/-! Generics -/

def typeParameter (attributes : List Attribute) : Reader GenericParameter := do
  let more ← outerAttributes grammar.nested
  let declared ← name
  let bounds ← if ← operator? ":" then
      chainedUntil (fun tokens => tokens.isEmpty || tokens.startsOperator "," || tokens.startsOperator ">"
        || tokens.startsOperator "=") "+" (bound grammar.nested false true)
    else pure .nil
  let default ← if ← operator? "=" then pure (some (← grammar.nested.type true)) else pure none
  return .type (attributes ++ more) declared bounds default

def constParameter (attributes : List Attribute) : Reader GenericParameter := do
  word "const"
  let declared ← name
  operator ":"
  let type ← grammar.nested.type true
  let default ← if ← operator? "=" then pure (some (← constArgument grammar.nested)) else pure none
  return .const attributes declared type default

def lifetimeGeneric (attributes : List Attribute) : Reader GenericParameter := do
  let declared ← lifetime
  let bounds ← if ← operator? ":" then
      chainedUntil (fun tokens => tokens.isEmpty || tokens.startsOperator "," || tokens.startsOperator ">")
        "+" lifetime
    else pure .nil
  return .lifetime attributes declared bounds

def genericParameter : Reader GenericParameter := do
  let attributes ← outerAttributes grammar.nested
  if ← ahead Tokens.startsLifetime then lifetimeGeneric attributes
  else if ← ahead Tokens.startsName then typeParameter grammar attributes
  else if ← ahead (Tokens.startsWord "const") then constParameter grammar attributes
  else if ← word? "_" then return .type attributes "_" .nil none
  else fail "expected one of: lifetime, identifier, `const`"

def genericParameters : Reader (Separated GenericParameter × Bool) := do
  if ← operator? "<" then
    let parameters ← separatedUntil (·.startsOperator ">") "," (genericParameter grammar)
    operator ">"
    return (parameters, true)
  else return (.nil, false)

/-- Where a list of constraints or bounds stops. -/
def endsConstraints (tokens : Tokens) : Bool :=
  tokens.isEmpty || tokens.startsGroup .brace || tokens.startsOperator "," || tokens.startsOperator ";"
    || tokens.startsOperator ":" && !tokens.startsOperator "::" || tokens.startsOperator "="

def predicate : Reader Predicate := do
  if ← ahead fun tokens => tokens.startsLifetime && tokens.afterFirst.startsOperator ":" then
    let constrained ← lifetime
    operator ":"
    return .lifetime constrained (← chainedUntil endsConstraints "+" lifetime)
  else
    let binder ← binder grammar.nested
    let type ← grammar.nested.type true
    operator ":"
    return .type binder type (← chainedUntil endsConstraints "+" (bound grammar.nested false true))

/-- Constraints after `where`, if it is there. -/
def constraints : Reader (Option (Separated Predicate)) := do
  if ← word? "where" then return some (← chainedUntil endsConstraints "," (predicate grammar))
  else return none

/-! Signatures -/

def receiver (attributes : List Attribute) : Reader Receiver := do
  let reference ← if ← operator? "&" then pure (some (← lifetime?)) else pure none
  let mutable ← word? "mut"
  word "self"
  let type ← if reference.isNone && (← operator? ":") then pure (some (← grammar.nested.type true))
    else pure none
  return ⟨attributes, reference, mutable, type⟩

def input (attributes : List Attribute) : Reader (Input ⊕ Variadic) := do
  match ← attempt (receiver grammar attributes) with
  | some receiver => return .inl (.receiver receiver)
  | none =>
    if ← ahead fun tokens => tokens.startsName && (tokens.skip 1).startsOperator "<" then
      return .inl (.parameter attributes .wildcard (← grammar.nested.type true))
    let pattern ← grammar.nested.pattern false
    operator ":"
    if ← operator? "..." then
      let comma ← if ← atEnd then pure false else do
        operator ","
        pure true
      return .inr ⟨attributes, some pattern, comma⟩
    return .inl (.parameter attributes pattern (← grammar.nested.type true))

def Input.isReceiver : Input → Bool
  | .receiver _ => true
  | .parameter .. => false

/-- The inputs of a function up to the end or to an open end. A receiver may only come first. -/
def inputsFuel (isFirst received : Bool) : Nat → Reader (List Input × Bool × Option Variadic)
  | 0 => reject "unexpected token"
  | fuel + 1 => do
    if ← atEnd then return ([], true, none)
    let attributes ← outerAttributes grammar.nested
    if ← operator? "..." then
      let comma ← if ← atEnd then pure false else do
        operator ","
        pure true
      return ([], true, some ⟨attributes, none, comma⟩)
    match ← input grammar attributes with
    | .inr variadic => return ([], true, some variadic)
    | .inl first =>
      if first.isReceiver && received then reject "unexpected second method receiver"
      if first.isReceiver && !isFirst then reject "unexpected method receiver"
      if ← atEnd then return ([first], false, none)
      operator ","
      let (rest, trailing, variadic) ← inputsFuel false (received || first.isReceiver) fuel
      return (first :: rest, trailing, variadic)

def convention : Reader (Option (Option String)) := do
  if ← word? "extern" then return some (← attempt textLiteral) else return none

def signature : Reader Signature := do
  let isConst ← word? "const"
  let isAsync ← word? "async"
  let isUnsafe ← word? "unsafe"
  let convention ← convention
  word "fn"
  let declared ← name
  let (parameters, _) ← genericParameters grammar
  let (inputs, trailing, variadic) ← group .parenthesis fun tokens =>
    inputsFuel grammar true false (tokens.length + 1) tokens
  let output ← output grammar.nested true
  return {
    isConst, isAsync, isUnsafe, convention, name := declared
    generics := ⟨parameters, ← constraints grammar⟩
    inputs := ⟨inputs, trailing && variadic.isNone && !inputs.isEmpty⟩, variadic, output }

/-- Whether a signature starts here. In a foreign block it may start with `safe`. -/
def startsSignature (safe : Bool) (tokens : Tokens) : Bool :=
  let without (name : String) (tokens : Tokens) : Tokens :=
    if tokens.startsWord name then tokens.skip 1 else tokens
  let tokens := without "async" (without "const" tokens)
  let tokens := if safe && tokens.startsWord "safe" then tokens.skip 1 else without "unsafe" tokens
  let tokens := if tokens.startsWord "extern" then
      if (tokens.skip 1).startsText then tokens.skip 2 else tokens.skip 1
    else tokens
  tokens.startsWord "fn"

def body : Reader (List Attribute × Tokens) := do
  let block ← grammar.block true
  return (block.attributes, statementsTokens block.statements)

/-! Traits -/

def traitMethod : Reader TraitMethod := do
  let attributes ← outerAttributes grammar.nested
  let signature ← signature grammar
  if ← ahead (Tokens.startsGroup .brace) then
    let (inner, body) ← body grammar
    return ⟨attributes ++ inner, signature, some body⟩
  else if ← operator? ";" then return ⟨attributes, signature, none⟩
  else fail "expected curly braces or `;`"

def startsMacro (tokens : Tokens) : Bool :=
  tokens.startsName || tokens.startsWord "self" || tokens.startsWord "super"
    || tokens.startsWord "crate" || tokens.startsOperator "::"

/-- A macro call that stands as an item, with a semicolon unless it is in braces. -/
def macroItem (named : Bool) : Reader Tokens := do
  let path ← plainPath
  operator "!"
  let declared ← if named && (← ahead fun tokens => tokens.startsName || tokens.startsWord "try") then
      pure (Tokens.word (← anyWord))
    else pure []
  let (delimiter, content) ← anyGroup
  let semicolon ← if delimiter = .brace then pure [] else do
    operator ";"
    pure (Tokens.operator ";")
  return path ++ Tokens.operator "!" ++ declared ++ [.group delimiter content] ++ semicolon

/-- A constant: its value may be missing only where it is declared. -/
def constItem : Reader Tokens := do
  word "const"
  let declared ← if ← word? "_" then pure "_" else name
  let (parameters, _) ← genericParameters grammar
  operator ":"
  let type ← grammar.nested.type true
  let value ← if ← operator? "=" then pure (Tokens.operator "=" ++ (← grammar.nested.expression))
    else pure []
  let generics : Generics := ⟨parameters, ← constraints grammar⟩
  operator ";"
  return Tokens.word "const" ++ Tokens.word declared ++ generics.tokens ++ Tokens.operator ":"
    ++ type.tokens ++ value ++ generics.whereTokens ++ Tokens.operator ";"

/-- A type declared or defined. Constraints stand before or after its definition. -/
def typeItem (before after : Bool) : Reader Tokens := do
  word "type"
  let declared ← name
  let (parameters, _) ← genericParameters grammar
  let bounds ← if ← operator? ":" then
      separatedUntil (fun tokens => tokens.startsWord "where" || tokens.startsOperator "="
        || tokens.startsOperator ";") "+" (bound grammar.nested false true)
    else pure .nil
  let early ← if before then constraints grammar else pure none
  let definition ← if ← operator? "=" then
      pure (Tokens.operator "=" ++ (← grammar.nested.type true).tokens)
    else pure []
  let late ← if after && early.isNone then constraints grammar else pure none
  operator ";"
  let earlyGenerics : Generics := ⟨parameters, early⟩
  let lateGenerics : Generics := ⟨parameters, late⟩
  return Tokens.word "type" ++ Tokens.word declared ++ earlyGenerics.tokens ++ boundedBy bounds
    ++ earlyGenerics.whereTokens ++ definition ++ lateGenerics.whereTokens ++ Tokens.operator ";"

def traitItem : Reader TraitItem := do
  let start ← remaining
  let attributes ← outerAttributes grammar.nested
  let visibility ← visibility
  let isDefault ← word? "default"
  let plain := !isDefault && (match visibility with
    | .inherited => true
    | _ => false)
  let before := attributesTokens attributes ++ visibility.tokens
    ++ Tokens.given isDefault (Tokens.word "default")
  if ← ahead (startsSignature false) then
    if plain then
      restart start
      return .method (← traitMethod grammar)
    else
      let method ← traitMethod grammar
      return .other (before ++ method.tokens)
  else if ← ahead (Tokens.startsWord "const") then return .other (before ++ (← constItem grammar))
  else if ← ahead (Tokens.startsWord "type") then return .other (before ++ (← typeItem grammar false true))
  else if plain && (← ahead startsMacro) then return .other (before ++ (← macroItem false))
  else fail "expected one of: `fn`, `const`, `type`, identifier, `self`, `super`, `crate`, `::`"

def supertraits : Reader (Separated Bound) := do
  if ← operator? ":" then
    separatedUntil (fun tokens => tokens.startsWord "where" || tokens.startsGroup .brace) "+"
      (bound grammar.nested false true)
  else return .nil

def traitAfter (attributes : List Attribute) : Reader TraitDeclaration := do
  let visibility ← visibility
  let isUnsafe ← word? "unsafe"
  let isAuto ← word? "auto"
  word "trait"
  let declared ← name
  let (parameters, _) ← genericParameters grammar
  let supertraits ← supertraits grammar
  let constraints ← constraints grammar
  let (inner, items) ← group .brace do
    let inner ← innerAttributes grammar.nested
    return (inner, ← all (traitItem grammar))
  return {
    attributes := attributes ++ inner, visibility, isUnsafe, isAuto, name := declared
    generics := ⟨parameters, constraints⟩, supertraits, items }

def traitDeclaration : Reader TraitDeclaration := do
  let attributes ← outerAttributes grammar.nested
  traitAfter grammar attributes

/-! Other items -/

def namedField : Reader Field := do
  let attributes ← outerAttributes grammar.nested
  let visibility ← visibility
  let declared ← if ← word? "_" then pure "_" else name
  operator ":"
  return ⟨attributes, visibility, declared, ← grammar.nested.type true⟩

def namedFields : Reader (Separated Field) := group .brace (commaList (namedField grammar))

def namedFieldsTokens : Reader Tokens := do
  let fields ← namedFields grammar
  return Tokens.braces (Tokens.commaList (fields.items.map Field.tokens) fields.trailing)

def tupleFields : Reader Tokens := do
  let fields ← group .parenthesis (commaList do
    let attributes ← outerAttributes grammar.nested
    let visibility ← visibility
    let type ← grammar.nested.type true
    return attributesTokens attributes ++ visibility.tokens ++ type.tokens)
  return Tokens.parens (Tokens.commaList fields.items fields.trailing)

def structureItem (attributes : List Attribute) (visibility : Visibility) : Reader Item := do
  word "struct"
  let declared ← name
  let (parameters, _) ← genericParameters grammar
  let early ← constraints grammar
  let generics : Generics := ⟨parameters, early⟩
  let before := attributesTokens attributes ++ visibility.tokens ++ Tokens.word "struct"
    ++ Tokens.word declared ++ generics.tokens
  if ← ahead (Tokens.startsGroup .brace) then
    return .structure ⟨attributes, visibility, declared, generics, ← namedFields grammar⟩
  else if ← ahead fun tokens => early.isNone && tokens.startsGroup .parenthesis then
    let fields ← tupleFields grammar
    let generics : Generics := ⟨parameters, ← constraints grammar⟩
    operator ";"
    return .other (before ++ fields ++ generics.whereTokens ++ Tokens.operator ";")
  else if ← operator? ";" then
    return .other (before ++ generics.whereTokens ++ Tokens.operator ";")
  else fail "expected one of: `where`, parentheses, curly braces, `;`"

/-- A variant of an enumeration. A visibility before it is dropped. -/
def variant : Reader Tokens := do
  let attributes ← outerAttributes grammar.nested
  let _ ← visibility
  let declared ← name
  let fields ← if ← ahead (Tokens.startsGroup .brace) then namedFieldsTokens grammar
    else if ← ahead (Tokens.startsGroup .parenthesis) then tupleFields grammar
    else pure []
  let value ← if ← operator? "=" then pure (Tokens.operator "=" ++ (← grammar.nested.expression))
    else pure []
  return attributesTokens attributes ++ Tokens.word declared ++ fields ++ value

def enumerationItem : Reader Tokens := do
  word "enum"
  let declared ← name
  let (parameters, _) ← genericParameters grammar
  let generics : Generics := ⟨parameters, ← constraints grammar⟩
  let variants ← group .brace (commaList (variant grammar))
  return Tokens.word "enum" ++ Tokens.word declared ++ generics.tokens ++ generics.whereTokens
    ++ Tokens.braces (Tokens.commaList variants.items variants.trailing)

def unionItem : Reader Tokens := do
  word "union"
  let declared ← name
  let (parameters, _) ← genericParameters grammar
  let generics : Generics := ⟨parameters, ← constraints grammar⟩
  return Tokens.word "union" ++ Tokens.word declared ++ generics.tokens ++ generics.whereTokens
    ++ (← namedFieldsTokens grammar)

/-- A static variable. In a foreign block and where it is only declared, its value is missing. -/
def staticItem : Reader Tokens := do
  word "static"
  let mutable ← word? "mut"
  let declared ← name
  let type ← if ← operator? ":" then pure (Tokens.operator ":" ++ (← grammar.nested.type true).tokens)
    else if ← ahead (Tokens.startsOperator "=") then pure []
    else fail "expected `:`"
  let value ← if ← operator? "=" then pure (Tokens.operator "=" ++ (← grammar.nested.expression))
    else pure []
  operator ";"
  return Tokens.word "static" ++ Tokens.given mutable (Tokens.word "mut") ++ Tokens.word declared
    ++ type ++ value ++ Tokens.operator ";"

/-- What a `use` names. A group may hold paths from the root where `root` holds. -/
def useTreeFuel (root : Bool) : Nat → Reader Tokens
  | 0 => reject "unexpected token"
  | fuel + 1 => do
    if ← ahead fun tokens => tokens.startsName || pathWords.any (tokens.startsWord ·) then
      let first ← anyWord
      if ← operator? "::" then
        return Tokens.word first ++ Tokens.operator "::" ++ (← useTreeFuel false fuel)
      else if ← word? "as" then
        let renamed ← if ← word? "_" then pure "_" else name
        return Tokens.word first ++ Tokens.word "as" ++ Tokens.word renamed
      else return Tokens.word first
    else if ← operator? "*" then return Tokens.operator "*"
    else if ← ahead (Tokens.startsGroup .brace) then
      let trees ← group .brace (commaList do
        let fromRoot ← if root then operator? "::" else pure false
        let tree ← useTreeFuel (root && !fromRoot) fuel
        return Tokens.given fromRoot (Tokens.operator "::") ++ tree)
      return Tokens.braces (Tokens.commaList trees.items trees.trailing)
    else fail "expected one of: identifier, `self`, `super`, `crate`, `try`, `*`, curly braces"

def useItem : Reader Tokens := do
  word "use"
  let fromRoot ← operator? "::"
  let tree ← fun tokens => useTreeFuel (!fromRoot) (Tokens.count tokens + 1) tokens
  operator ";"
  return Tokens.word "use" ++ Tokens.given fromRoot (Tokens.operator "::") ++ tree
    ++ Tokens.operator ";"

def externCrate : Reader Tokens := do
  word "extern"
  word "crate"
  let crate ← if ← word? "self" then pure "self" else name
  let renamed ← if ← word? "as" then do
      let renamed ← if ← word? "_" then pure "_" else name
      pure (Tokens.word "as" ++ Tokens.word renamed)
    else pure []
  operator ";"
  return Tokens.word "extern" ++ Tokens.word "crate" ++ Tokens.word crate ++ renamed
    ++ Tokens.operator ";"

/-- A function declared in a foreign block, or defined there. -/
def foreignFunction : Reader Tokens := do
  let (_, tokens) ← withTokens do
    let safe ← ahead (Tokens.startsWord "safe")
    if safe then advance
    let _ ← signature grammar
    if ← ahead (Tokens.startsGroup .brace) then
      let _ ← body grammar
      pure ()
    else operator ";"
  return tokens

def foreignItem : Reader Tokens := do
  let attributes ← outerAttributes grammar.nested
  let visibility ← visibility
  let before := attributesTokens attributes ++ visibility.tokens
  let inherited := visibility.tokens.isEmpty
  let qualifiedStatic ← ahead fun tokens =>
    (tokens.startsWord "unsafe" || tokens.startsWord "safe") && (tokens.skip 1).startsWord "static"
  if ← ahead (startsSignature true) then return before ++ (← foreignFunction grammar)
  else if qualifiedStatic then
    let qualifier ← anyWord
    return before ++ Tokens.word qualifier ++ (← staticItem grammar)
  else if ← ahead (Tokens.startsWord "static") then return before ++ (← staticItem grammar)
  else if ← ahead (Tokens.startsWord "type") then return before ++ (← typeItem grammar true true)
  else if inherited && (← ahead startsMacro) then return before ++ (← macroItem false)
  else fail "expected one of: `fn`, `static`, `type`, identifier, `self`, `super`, `crate`, `::`"

def foreignBlock : Reader Tokens := do
  let isUnsafe ← word? "unsafe"
  let convention ← convention
  let (inner, items) ← group .brace do
    let inner ← innerAttributes grammar.nested
    return (inner, ← all (foreignItem grammar))
  return Tokens.given isUnsafe (Tokens.word "unsafe") ++ conventionTokens convention
    ++ Tokens.braces (attributesTokens inner ++ items.flatten)

def functionAfter (attributes : List Attribute) (visibility : Visibility) (isDefault : Bool) :
    Reader FunctionDeclaration := do
  let signature ← signature grammar
  let (inner, body) ← body grammar
  return ⟨attributes ++ inner, visibility, isDefault, signature, body⟩

def functionItem (attributes : List Attribute) (visibility : Visibility) : Reader Item := do
  let start ← remaining
  let signature ← signature grammar
  if ← operator? ";" then
    return .other (attributesTokens attributes ++ visibility.tokens ++ signature.tokens
      ++ Tokens.operator ";")
  else
    restart start
    return .function (← functionAfter grammar attributes visibility false)

def implementationItem : Reader ImplementationItem := do
  let attributes ← outerAttributes grammar.nested
  let visibility ← visibility
  let isDefault ← if ← ahead fun tokens => tokens.startsWord "default"
      && !(tokens.skip 1).startsOperator "!" then word? "default" else pure false
  let before := attributesTokens attributes ++ visibility.tokens
    ++ Tokens.given isDefault (Tokens.word "default")
  let plain := !isDefault && visibility.tokens.isEmpty
  if ← ahead (startsSignature false) then
    let start ← remaining
    let signature ← signature grammar
    if ← operator? ";" then return .other (before ++ signature.tokens ++ Tokens.operator ";")
    restart start
    return .function (← functionAfter grammar attributes visibility isDefault)
  else if ← ahead (Tokens.startsWord "const") then return .other (before ++ (← constItem grammar))
  else if ← ahead (Tokens.startsWord "type") then return .other (before ++ (← typeItem grammar false true))
  else if plain && (← ahead startsMacro) then return .other (before ++ (← macroItem false))
  else fail "expected one of: `default`, `fn`, `const`, `type`, identifier, `self`, `super`, `crate`, `::`"

/-- Whether angle brackets after `impl` declare generics and start no type. -/
def startsGenerics (tokens : Tokens) : Bool :=
  let next := tokens.skip 1
  let third := next.afterFirst
  tokens.startsOperator "<" && (next.startsOperator ">" || next.startsOperator "#"
    || (next.startsLifetime || next.startsName)
      && (third.startsOperator ">" || third.startsOperator ","
        || third.startsOperator ":" && !third.startsOperator "::" || third.startsOperator "=")
    || next.startsWord "const")

/-- An implementation, kept as tokens when it has a visibility or is for a type that is no path. -/
def implementation (attributes : List Attribute) (visibility : Visibility) : Reader Item := do
  let isDefault ← word? "default"
  let isUnsafe ← word? "unsafe"
  word "impl"
  let (parameters, _) ← if ← ahead startsGenerics then genericParameters grammar
    else pure (.nil, false)
  let isConst ← ahead fun tokens => tokens.startsWord "const"
    || tokens.startsOperator "?" && (tokens.skip 1).startsWord "const"
  if isConst then
    let _ ← operator? "?"
    word "const"
  let denied ← if ← ahead fun tokens => tokens.startsOperator "!"
      && !(tokens.skip 1).startsGroup .brace then operator? "!" else pure false
  let first ← grammar.nested.type true
  let forType ← word? "for"
  let type ← if forType then grammar.nested.type true else pure first
  if denied && !forType then reject "inherent impls cannot be negative"
  let constraints ← constraints grammar
  let (inner, items) ← group .brace do
    let inner ← innerAttributes grammar.nested
    return (inner, ← all (implementationItem grammar))
  let ofTrait := match forType, first with
    | true, .path path => some (denied, path)
    | _, _ => none
  let whole : Implementation :=
    ⟨attributes ++ inner, isDefault, isUnsafe, ⟨parameters, constraints⟩, ofTrait, type, items⟩
  if isConst || !visibility.tokens.isEmpty || forType && ofTrait.isNone then
    return .other (visibility.tokens ++ whole.tokens)
  else return .implementation whole

def macroDefinition : Reader Tokens := do
  let (_, tokens) ← withTokens do
    word "macro"
    let _ ← name
    if ← ahead (Tokens.startsGroup .parenthesis) then advance
    let _ ← rawGroup .brace
  return tokens

def traitAlias : Reader Tokens := do
  word "trait"
  let declared ← name
  let (parameters, _) ← genericParameters grammar
  operator "="
  let bounds ← separatedUntil (fun tokens => tokens.startsWord "where" || tokens.startsOperator ";") "+"
    (bound grammar.nested false true)
  let generics : Generics := ⟨parameters, ← constraints grammar⟩
  operator ";"
  return Tokens.word "trait" ++ Tokens.word declared ++ generics.tokens ++ Tokens.operator "="
    ++ plusList (boundsTokens bounds.items) bounds.trailing ++ generics.whereTokens
    ++ Tokens.operator ";"

def traitOrAlias (attributes : List Attribute) (visibility : Visibility) (start : Tokens) :
    Reader Item := do
  let isAlias ← fun tokens => match (do
      word "trait"
      let _ ← name
      let _ ← genericParameters grammar
      ahead (Tokens.startsOperator "=") : Reader Bool) tokens with
    | .ok (found, _) => .ok (found, tokens)
    | .error error => .error error
  if isAlias then
    return .other (attributesTokens attributes ++ visibility.tokens ++ (← traitAlias grammar))
  else
    restart start
    return .trait (← traitAfter grammar attributes)

/-- An item after its attributes, with readers for the items of modules. -/
def itemAfter (inner : Reader Item) (attributes : List Attribute) : Reader Item := do
  let start ← remaining
  let visibility ← visibility
  let tokens ← remaining
  let next := tokens.skip 1
  let before := attributesTokens attributes ++ visibility.tokens
  let inherited := visibility.tokens.isEmpty
  if startsSignature false tokens then functionItem grammar attributes visibility
  else if tokens.startsWord "extern" then
    if next.startsWord "crate" then return .other (before ++ (← externCrate))
    else return .other (before ++ (← foreignBlock grammar))
  else if tokens.startsWord "use" then return .other (before ++ (← useItem))
  else if tokens.startsWord "static" then return .other (before ++ (← staticItem grammar))
  else if tokens.startsWord "const" then return .other (before ++ (← constItem grammar))
  else if tokens.startsWord "mod" || tokens.startsWord "unsafe" && next.startsWord "mod" then
    let isUnsafe ← word? "unsafe"
    word "mod"
    let declared ← if ← word? "try" then pure "try" else name
    if ← operator? ";" then return .module attributes visibility isUnsafe declared none
    let (more, items) ← group .brace do
      let more ← innerAttributes grammar.nested
      return (more, ← all inner)
    return .module (attributes ++ more) visibility isUnsafe declared (some items)
  else if tokens.startsWord "unsafe" then
    if next.startsWord "trait" || next.startsWord "auto" && (next.skip 1).startsWord "trait" then
      restart start
      return .trait (← traitAfter grammar attributes)
    else if next.startsWord "impl" then implementation grammar attributes visibility
    else if next.startsWord "extern" then return .other (before ++ (← foreignBlock grammar))
    else fail "expected one of: `trait`, `auto`, `impl`, `extern`, `mod`"
  else if tokens.startsWord "type" then return .other (before ++ (← typeItem grammar true false))
  else if tokens.startsWord "struct" then structureItem grammar attributes visibility
  else if tokens.startsWord "enum" then return .other (before ++ (← enumerationItem grammar))
  else if tokens.startsWord "union" && next.startsName then
    return .other (before ++ (← unionItem grammar))
  else if tokens.startsWord "trait" then traitOrAlias grammar attributes visibility start
  else if tokens.startsWord "auto" && next.startsWord "trait" then
    restart start
    return .trait (← traitAfter grammar attributes)
  else if tokens.startsWord "impl" || tokens.startsWord "default" && !next.startsOperator "!" then
    implementation grammar attributes visibility
  else if tokens.startsWord "macro" then return .other (before ++ (← macroDefinition))
  else if inherited && startsMacro tokens then return .other (before ++ (← macroItem true))
  else fail ("expected one of: `fn`, `extern`, `use`, `static`, `const`, `unsafe`, `mod`, `type`, "
    ++ "`struct`, `enum`, `union`, `trait`, `auto`, `impl`, `default`, `macro`, identifier, `self`, "
    ++ "`super`, `crate`, `::`")

/-- An item; modules are nested at most `fuel` deep. -/
def itemFuel : Nat → Reader Item
  | 0 => reject "unexpected token"
  | fuel + 1 => do
    let attributes ← outerAttributes grammar.nested
    itemAfter grammar (itemFuel fuel) attributes

def item : Reader Item := fun tokens => itemFuel grammar (Tokens.count tokens + 1) tokens

def sourceFile : Reader SourceFile := do
  let attributes ← innerAttributes grammar.nested
  return ⟨attributes, ← all (item grammar)⟩

end

end Endpoints
