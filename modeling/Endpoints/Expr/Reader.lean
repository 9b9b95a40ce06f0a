import Endpoints.Pattern.Reader
import Endpoints.Expr.Tokens

/-! Reading expressions and statements. Operators bind by their precedence; comparisons do not chain,
and a range is no operand of what follows it. -/

namespace Endpoints
open Reader

abbrev Precedence := Nat

namespace Precedence

def lowest : Precedence := 0
def assignment : Precedence := 1
def range : Precedence := 2
def disjunction : Precedence := 3
def conjunction : Precedence := 4
def comparison : Precedence := 6
def cast : Precedence := 13

end Precedence

/-- The binary operators with their precedence. An operator stands before those it starts with. -/
def binaryOperators : List (String × Precedence) :=
  [("+=", 1), ("-=", 1), ("*=", 1), ("/=", 1), ("%=", 1), ("^=", 1), ("&=", 1), ("|=", 1),
   ("<<=", 1), (">>=", 1), ("&&", 4), ("||", 3), ("<<", 10), (">>", 10), ("==", 6), ("<=", 6),
   ("!=", 6), (">=", 6), ("+", 11), ("-", 11), ("*", 12), ("/", 12), ("%", 12), ("^", 8), ("&", 9),
   ("|", 7), ("<", 6), (">", 6)]

def binaryOperator? (tokens : Tokens) : Option (String × Precedence) :=
  binaryOperators.find? fun (symbol, _) => tokens.startsOperator symbol

def precedenceOf (symbol : String) : Precedence :=
  ((binaryOperators.find? (·.1 == symbol)).map (·.2)).getD Precedence.lowest

def startsAssignment (tokens : Tokens) : Bool :=
  tokens.startsOperator "=" && !tokens.startsOperator "=>"

/-- The precedence of the operator that follows, the lowest when none does. -/
def nextPrecedence (tokens : Tokens) : Precedence :=
  match binaryOperator? tokens with
  | some (_, precedence) => precedence
  | none =>
    if startsAssignment tokens then Precedence.assignment
    else if tokens.startsOperator ".." then Precedence.range
    else if tokens.startsWord "as" then Precedence.cast
    else Precedence.lowest

/-- The grammar of what is nested in an expression. Where `structures` does not hold, a brace after a
path belongs to what encloses the expression. A block may start with attributes of what encloses it
where `inner` holds. `continued` goes on after a left operand, `early` stops
after an expression that ends a statement by itself, and an item is read with its attributes. -/
structure Grammar where
  nested : Nested
  expression : (structures : Bool) → Reader Expr
  unary : (structures : Bool) → Reader Expr
  continued : Expr → (structures : Bool) → Precedence → Reader Expr
  early : Reader Expr
  block : (inner : Bool) → Reader Block
  item : Reader Tokens

def Expr.isRange : Expr → Bool
  | .range .. => true
  | _ => false

def Expr.isComparison : Expr → Bool
  | .binary _ symbol _ => precedenceOf symbol == Precedence.comparison
  | _ => false

def Expr.withAttributes (attributes : List Attribute) (value : Expr) : Expr :=
  if attributes.isEmpty then value else .attributed attributes value

/-- Whether the last token of an expression is a group in braces. -/
def Expr.endsWithBrace (value : Expr) : Bool :=
  match value.tokens.getLast? with
  | some (.group .brace _) => true
  | _ => false

def startsExpression (tokens : Tokens) : Bool :=
  tokens.startsAnyWord || tokens.startsGroup .parenthesis || tokens.startsGroup .bracket
    || tokens.startsGroup .brace || tokens.startsLiteral
    || tokens.startsOperator "!" && !tokens.startsOperator "!="
    || tokens.startsOperator "-" && !tokens.startsOperator "-=" && !tokens.startsOperator "->"
    || tokens.startsOperator "*" && !tokens.startsOperator "*="
    || tokens.startsOperator "|" && !tokens.startsOperator "|="
    || tokens.startsOperator "&" && !tokens.startsOperator "&="
    || tokens.startsOperator ".."
    || tokens.startsOperator "<" && !tokens.startsOperator "<=" && !tokens.startsOperator "<<="
    || tokens.startsOperator "::" || tokens.startsLifetime || tokens.startsOperator "#"

/-- What may follow the dots of a range that has no upper end. -/
def endsOpenRange (structures : Bool) (tokens : Tokens) : Bool :=
  tokens.isEmpty || tokens.startsOperator "," || tokens.startsOperator ";"
    || tokens.startsOperator "." && !tokens.startsOperator ".." || tokens.startsOperator "?"
    || tokens.startsOperator "=>" || !structures && tokens.startsGroup .brace
    || ["=", "+", "/", "%", "^", ">", "<=", "!=", "-=", "*=", "&=", "|=", "<<="].any
      (tokens.startsOperator ·)
    || tokens.startsWord "as"

def startsField (tokens : Tokens) : Bool :=
  tokens.startsOperator "." && !tokens.startsOperator ".."

def castFollower (tokens : Tokens) : Option String :=
  if startsField tokens then
    let next := tokens.skip 1
    if next.startsWord "await" then some "`.await`"
    else if next.startsName && ((next.skip 1).startsGroup .parenthesis
        || (next.skip 1).startsOperator "::") then some "a method call"
    else some "a field access"
  else if tokens.startsOperator "?" then some "`?`"
  else if tokens.startsGroup .bracket then some "indexing"
  else if tokens.startsGroup .parenthesis then some "a function call"
  else none

/-- Whether a closure starts here, apart from its opening bar. -/
def startsClosure (tokens : Tokens) : Bool :=
  let next := tokens.skip 1
  tokens.startsOperator "|" || tokens.startsWord "move"
    || tokens.startsWord "for" && next.startsOperator "<"
      && ((next.skip 1).startsLifetime || (next.skip 1).startsOperator ">")
    || tokens.startsWord "const" && !next.startsGroup .brace
    || tokens.startsWord "static"
    || tokens.startsWord "async" && (next.startsOperator "|" || next.startsWord "move")

def startsPathExpression (tokens : Tokens) : Bool :=
  tokens.startsName || startsPathWord tokens || tokens.startsOperator "::" || tokens.startsOperator "<"
    || tokens.startsWord "try"
      && ((tokens.skip 1).startsOperator "!" || (tokens.skip 1).startsOperator "::")

/-- The positions in a literal such as `0.1`, which a lexer cuts as one number. -/
def positions (text : String) : List String :=
  (text.splitOn ".").filter (!·.isEmpty)

section
variable (grammar : Grammar)

def exprList : Reader (Separated Expr) := commaList (grammar.expression true)

/-- A right operand: what follows belongs to it as long as it binds more tightly. -/
def operandFuel (structures : Bool) (precedence : Precedence) : Nat → Expr → Reader Expr
  | 0, _ => reject "unexpected token"
  | fuel + 1, value => do
    let next ← ahead nextPrecedence
    if next > precedence || next == precedence && precedence == Precedence.assignment then
      let before ← ahead List.length
      let value ← grammar.continued value structures next
      if (← ahead List.length) == before then return value
      else operandFuel structures precedence fuel value
    else return value

def operand (structures : Bool) (precedence : Precedence) : Reader Expr := do
  let first ← grammar.unary structures
  fun tokens => operandFuel grammar structures precedence (tokens.length + 1) first tokens

/-- What follows the dots of a range. -/
def rangeUpper (structures closed : Bool) : Reader (Option Expr) := do
  if !closed && (← ahead (endsOpenRange structures)) then return none
  else return some (← operand grammar structures Precedence.range)

/-- Goes on after a left operand with operators of at least a precedence. -/
def continuedFuel (structures : Bool) (base : Precedence) : Nat → Expr → Reader Expr
  | 0, _ => reject "unexpected token"
  | fuel + 1, left => do
    if left.isRange then return left
    match ← ahead binaryOperator? with
    | some (symbol, precedence) =>
      if precedence < base then return left
      if precedence == Precedence.comparison && left.isComparison then
        fail "comparison operators cannot be chained"
      operator symbol
      let right ← operand grammar structures precedence
      continuedFuel structures base fuel (.binary left symbol right)
    | none =>
      if ← ahead fun tokens => decide (base ≤ Precedence.assignment) && startsAssignment tokens then
        operator "="
        let right ← operand grammar structures Precedence.assignment
        continuedFuel structures base fuel (.assign left right)
      else if ← ahead fun tokens => decide (base ≤ Precedence.range) && tokens.startsOperator ".." then
        let closed ← rangeDots false
        continuedFuel structures base fuel
          (.range (some left) closed (← rangeUpper grammar structures closed))
      else if ← ahead fun tokens => decide (base ≤ Precedence.cast) && tokens.startsWord "as" then
        word "as"
        let type ← grammar.nested.type false
        if let some follower ← ahead castFollower then
          reject ("casts cannot be followed by " ++ follower)
        continuedFuel structures base fuel (.cast left type)
      else return left

def continued (left : Expr) (structures : Bool) (base : Precedence) : Reader Expr := fun tokens =>
  continuedFuel grammar structures base (tokens.length + 1) left tokens

/-- A member after a dot: a field, a method call or `await`. -/
def dotted (base : Expr) : Reader Expr := do
  operator "."
  match ← ahead List.head? with
  | some (.literal text) =>
    if text.toList.contains '.' then
      advance
      let base := (positions text).foldl .field base
      if text.endsWith "." then
        let name ← member
        return .field base name
      else return base
    else
      let position ← member
      return .field base position
  | _ =>
    if ← word? "await" then return .await base
    let name ← member
    let turbofish ← if ← ahead (Tokens.startsOperator "::") then do
        operator "::"
        angleArguments grammar.nested true
      else pure .none
    if !turbofish.isNone || (← ahead (Tokens.startsGroup .parenthesis)) then
      let arguments ← group .parenthesis (exprList grammar)
      return .methodCall base name turbofish arguments.items arguments.trailing
    else return .field base name

/-- Calls, members, indices and `?` after an expression. -/
def trailersFuel : Nat → Expr → Reader Expr
  | 0, _ => reject "unexpected token"
  | fuel + 1, base => do
    if ← ahead (Tokens.startsGroup .parenthesis) then
      let arguments ← group .parenthesis (exprList grammar)
      trailersFuel fuel (.call base arguments.items arguments.trailing)
    else if ← ahead fun tokens => startsField tokens && !base.isRange then
      trailersFuel fuel (← dotted grammar base)
    else if ← ahead (Tokens.startsGroup .bracket) then
      let position ← group .bracket (grammar.expression true)
      trailersFuel fuel (.index base position)
    else if ← ahead fun tokens => tokens.startsOperator "?" && !base.isRange then
      operator "?"
      trailersFuel fuel (.propagate base)
    else return base

def trailers (base : Expr) : Reader Expr := fun tokens =>
  trailersFuel grammar (tokens.length + 1) base tokens

def label? : Reader (Option String) := do
  match ← lifetime? with
  | some name =>
    operator ":"
    return some name
  | none => return none

def fieldValuesFuel : Nat → Reader (List FieldValue × Bool × Option (Option Expr))
  | 0 => reject "unexpected token"
  | fuel + 1 => do
    if ← atEnd then return ([], true, none)
    if ← operator? ".." then
      if ← atEnd then return ([], true, some none)
      else return ([], true, some (some (← grammar.expression true)))
    let attributes ← outerAttributes grammar.nested
    let name ← member
    let value ← if isPosition name || (← ahead (Tokens.startsOperator ":")) then do
        operator ":"
        pure (some (← grammar.expression true))
      else pure none
    let field := FieldValue.mk attributes name value
    if ← atEnd then return ([field], false, none)
    operator ","
    let (rest, trailing, base) ← fieldValuesFuel fuel
    return (field :: rest, trailing, base)

/-- A path, and the macro call or structure that it starts. -/
def pathExpression (structures : Bool) : Reader Expr := do
  let type ← pathType grammar.nested true
  let call ← ahead fun tokens => match type with
    | .path path => tokens.startsOperator "!" && !tokens.startsOperator "!=" && path.isPlain
    | _ => false
  match call, type with
  | true, .path path =>
    operator "!"
    let (delimiter, content) ← anyGroup
    return .macroCall path delimiter content
  | _, _ =>
    if ← ahead fun tokens => structures && tokens.startsGroup .brace then
      let (fields, trailing, base) ← group .brace fun tokens =>
        fieldValuesFuel grammar (tokens.length + 1) tokens
      return .structure type fields (trailing && !fields.isEmpty) base
    else return .path type

/-- What stands in parentheses: nothing, one expression, or a tuple. -/
def parenthesized : Reader Expr := do
  let elements ← group .parenthesis (exprList grammar)
  match elements with
  | ⟨[inner], false⟩ => return .paren inner
  | ⟨elements, trailing⟩ => return .tuple elements trailing

/-- What stands in brackets: elements, or an element and how often it comes. -/
def bracketed : Reader Expr :=
  group .bracket do
    if ← atEnd then return .array [] false
    let first ← grammar.expression true
    if ← operator? ";" then return .repeated first (← grammar.expression true)
    if ← atEnd then return .array [first] false
    if !(← operator? ",") then fail "expected `,` or `;`"
    let rest ← exprList grammar
    return .array (first :: rest.items) (rest.trailing || rest.items.isEmpty)

def closureInput : Reader Pattern := do
  let attributes ← outerAttributes grammar.nested
  let inner ← grammar.nested.pattern false
  let typed ← if ← operator? ":" then pure (Pattern.typed inner (← grammar.nested.type true))
    else pure inner
  return if attributes.isEmpty then typed else .attributed (attributesTokens attributes) typed

def closure (structures : Bool) : Reader Expr := do
  let binder ← binder grammar.nested
  let isConst ← word? "const"
  let isStatic ← word? "static"
  let isAsync ← word? "async"
  let moving ← word? "move"
  operator "|"
  let inputs ← separatedUntil (·.startsOperator "|") "," (closureInput grammar)
  operator "|"
  let qualifiers := binder ++ Tokens.given isConst (Tokens.word "const")
    ++ Tokens.given isStatic (Tokens.word "static") ++ Tokens.given isAsync (Tokens.word "async")
    ++ Tokens.given moving (Tokens.word "move")
  if ← operator? "->" then
    let output ← grammar.nested.type true
    let body ← grammar.block false
    return .closure qualifiers inputs.items inputs.trailing (some output) (.block none body)
  else
    return .closure qualifiers inputs.items inputs.trailing none (← grammar.expression structures)

/-- The value after `return`, `break` or `yield`, if one follows. -/
def value? (structures : Bool) : Reader (Option Expr) := do
  if ← ahead fun tokens => startsExpression tokens && (structures || !tokens.startsGroup .brace) then
    return some (← grammar.expression structures)
  else return none

def breakExpression (structures : Bool) : Reader Expr := do
  word "break"
  let label ← lifetime?
  if ← ahead fun tokens => label.isSome && tokens.startsOperator ":" then reject "parentheses required"
  return .breakLoop label (← value? grammar structures)

def conditionalFuel : Nat → Reader Expr
  | 0 => reject "unexpected token"
  | fuel + 1 => do
    word "if"
    let condition ← grammar.expression false
    let body ← grammar.block false
    if ← word? "else" then
      if ← ahead (Tokens.startsWord "if") then
        return .conditional condition body (some (← conditionalFuel fuel))
      else if ← ahead (Tokens.startsGroup .brace) then
        return .conditional condition body (some (.block none (← grammar.block false)))
      else fail "expected `if` or curly braces"
    else return .conditional condition body none

def conditional : Reader Expr := fun tokens => conditionalFuel grammar (tokens.length + 1) tokens

/-- One arm of a match. A comma has to follow a body that does not end by itself. -/
def arm : Reader Arm := do
  let attributes ← outerAttributes grammar.nested
  let pattern ← grammar.nested.pattern true
  let guard ← if ← word? "if" then pure (some (← grammar.expression true)) else pure none
  operator "=>"
  let body ← grammar.early
  let comma ← operator? ","
  if !comma && !body.isBlockLike && !(← atEnd) then fail "expected `,`"
  return .mk attributes pattern guard body comma

def choice : Reader Expr := do
  word "match"
  let subject ← grammar.expression false
  let (attributes, arms) ← group .brace do
    let attributes ← innerAttributes grammar.nested
    return (attributes, ← all (arm grammar))
  return .choice subject attributes arms

def forLoop (label : Option String) : Reader Expr := do
  word "for"
  let pattern ← grammar.nested.pattern true
  word "in"
  let source ← grammar.expression false
  return .forLoop label pattern source (← grammar.block true)

def whileLoop (label : Option String) : Reader Expr := do
  word "while"
  let condition ← grammar.expression false
  return .whileLoop label condition (← grammar.block true)

def loop (label : Option String) : Reader Expr := do
  word "loop"
  return .loop label (← grammar.block true)

/-- A loop or a block, with a label if one is there. -/
def labeled : Reader Expr := do
  let label ← label?
  if ← ahead (Tokens.startsWord "while") then whileLoop grammar label
  else if ← ahead (Tokens.startsWord "for") then forLoop grammar label
  else if ← ahead (Tokens.startsWord "loop") then loop grammar label
  else if ← ahead (Tokens.startsGroup .brace) then return .block label (← grammar.block true)
  else fail "expected loop or block expression"

/-- Whether a `for` here starts a closure and no loop. -/
def startsBinder (tokens : Tokens) : Bool :=
  let next := tokens.skip 1
  next.startsOperator "<" && ((next.skip 1).startsLifetime || (next.skip 1).startsOperator ">")

/-- An expression that ends a statement by itself, or nothing. -/
def blockLike? : Reader (Option Expr) := do
  let tokens ← remaining
  let next := tokens.skip 1
  if tokens.startsWord "if" then return some (← conditional grammar)
  else if tokens.startsWord "while" then return some (← whileLoop grammar none)
  else if tokens.startsWord "for" && !startsBinder tokens then return some (← forLoop grammar none)
  else if tokens.startsWord "loop" then return some (← loop grammar none)
  else if tokens.startsWord "match" then return some (← choice grammar)
  else if tokens.startsWord "try" && next.startsGroup .brace then
    word "try"
    return some (.tryBlock (← grammar.block false))
  else if tokens.startsWord "unsafe" then
    word "unsafe"
    return some (.unsafeBlock (← grammar.block true))
  else if tokens.startsWord "const" && next.startsGroup .brace then
    word "const"
    return some (.constBlock (← grammar.block true))
  else if tokens.startsGroup .brace then return some (.block none (← grammar.block true))
  else if tokens.startsLifetime then return some (← labeled grammar)
  else return none

/-- An expression without operators, members or calls around it. -/
def atom (structures : Bool) : Reader Expr := do
  let tokens ← remaining
  let next := tokens.skip 1
  if tokens.startsLiteral then return .literal (← literal)
  else if tokens.startsWord "async" && (next.startsGroup .brace
      || next.startsWord "move" && (next.skip 1).startsGroup .brace) then
    word "async"
    let moving ← word? "move"
    return .asyncBlock moving (← grammar.block false)
  else if tokens.startsWord "try" && next.startsGroup .brace then
    word "try"
    return .tryBlock (← grammar.block false)
  else if startsClosure tokens then closure grammar structures
  else if startsPathExpression tokens then pathExpression grammar structures
  else if tokens.startsGroup .parenthesis then parenthesized grammar
  else if tokens.startsWord "break" then breakExpression grammar structures
  else if ← word? "continue" then return .continueLoop (← lifetime?)
  else if ← word? "return" then return .returning (← value? grammar structures)
  else if tokens.startsGroup .bracket then bracketed grammar
  else if ← word? "let" then
    let pattern ← grammar.nested.pattern true
    operator "="
    let first ← grammar.unary structures
    return .binding pattern (← grammar.continued first structures Precedence.comparison)
  else if ← word? "yield" then return .yielding (← value? grammar true)
  else if tokens.startsOperator ".." then
    let closed ← rangeDots false
    return .range none closed (← rangeUpper grammar structures closed)
  else if ← word? "_" then return .inferred
  else
    match ← blockLike? grammar with
    | some value => return value
    | none => fail "expected an expression"

/-- An expression with the operators before it and the members and calls after it. -/
def unary (structures : Bool) : Reader Expr := do
  let attributes ← outerAttributes grammar.nested
  if ← operator? "&" then
    let raw ← ahead fun tokens => tokens.startsWord "raw"
      && ((tokens.skip 1).startsWord "mut" || (tokens.skip 1).startsWord "const")
    if raw then
      word "raw"
      let mutable ← word? "mut"
      if !mutable then word "const"
      return .withAttributes attributes (.rawAddress mutable (← grammar.unary structures))
    else
      let mutable ← word? "mut"
      return .withAttributes attributes (.reference mutable (← grammar.unary structures))
  else
    match ← ahead fun tokens => ["*", "!", "-"].find? (tokens.startsOperator ·) with
    | some symbol =>
      operator symbol
      return .withAttributes attributes (.unary symbol (← grammar.unary structures))
    | none =>
      let value ← trailers grammar (← atom grammar structures)
      if value.isRange && !attributes.isEmpty then
        reject "attributes are not allowed on range expressions starting with `..`"
      return .withAttributes attributes value

def expression (structures : Bool) : Reader Expr := do
  let first ← unary grammar structures
  continued grammar first structures Precedence.lowest

/-- An expression at the start of a statement or after the arrow of an arm. -/
def early : Reader Expr := do
  let attributes ← outerAttributes grammar.nested
  let first ← match ← blockLike? grammar with
    | some value => pure value
    | none => grammar.unary true
  if !first.isBlockLike then
    return .withAttributes attributes (← continued grammar first true Precedence.lowest)
  else if ← ahead fun tokens => startsField tokens || tokens.startsOperator "?" then
    let base ← trailers grammar first
    return .withAttributes attributes (← continued grammar base true Precedence.lowest)
  else return .withAttributes attributes first

def startsItem (tokens : Tokens) : Bool :=
  let next := tokens.skip 1
  let third := tokens.skip 2
  ["pub", "extern", "use", "fn", "mod", "type", "struct", "enum", "trait", "impl", "macro"].any
      (tokens.startsWord ·)
    || tokens.startsWord "crate" && !next.startsOperator "::"
    || tokens.startsWord "static" && (next.startsWord "mut" || next.startsName)
    || tokens.startsWord "const" && !(next.startsGroup .brace || next.startsWord "static"
      || next.startsWord "async" && !(third.startsWord "unsafe" || third.startsWord "extern"
        || third.startsWord "fn")
      || next.startsWord "move" || next.startsOperator "|")
    || tokens.startsWord "unsafe" && !next.startsGroup .brace
    || tokens.startsWord "async" && ["unsafe", "extern", "fn"].any (next.startsWord ·)
    || tokens.startsWord "union" && next.startsName
    || tokens.startsWord "auto" && next.startsWord "trait"
    || tokens.startsWord "default" && (next.startsWord "unsafe" || next.startsWord "impl")

/-- What a macro call at the start of a statement is: an item with a name of its own, or a statement in
braces. -/
inductive MacroStatement where
  | none
  | item
  | braced
  deriving DecidableEq

def macroStatement (tokens : Tokens) : MacroStatement :=
  match pathOfWords tokens with
  | .ok (_, after) =>
    let next := after.skip 1
    if !after.startsOperator "!" then .none
    else if next.startsName || next.startsWord "try" then .item
    else if next.startsGroup .brace
        && !(startsField (next.skip 1) || (next.skip 1).startsOperator "?") then .braced
    else .none
  | .error _ => .none

def bindStatement (attributes : List Attribute) : Reader Statement := do
  word "let"
  let pattern ← grammar.nested.pattern false
  let type ← if ← operator? ":" then pure (some (← grammar.nested.type true)) else pure none
  let value ← if ← operator? "=" then pure (some (← grammar.expression true)) else pure none
  let mayDiverge := value.any (!·.endsWithBrace)
  let otherwise ← if mayDiverge && (← word? "else") then pure (some (← grammar.block false)) else pure none
  operator ";"
  return .bind attributes pattern type value otherwise

/-- Attributes at the start of a statement belong to its leftmost part. -/
def expressionStatement (attributes : List Attribute) : Reader Statement := do
  let value ← early grammar
  let semicolon ← operator? ";"
  match value with
  | .macroCall path delimiter content =>
    if semicolon || delimiter = .brace then
      return .macroCall attributes path delimiter content semicolon
    else return .expression (.withAttributes attributes value) semicolon
  | _ => return .expression (.withAttributes attributes value) semicolon

def statement : Reader Statement := do
  if ← operator? ";" then return .empty
  let start ← remaining
  let attributes ← outerAttributes grammar.nested
  let kind ← ahead macroStatement
  if kind = .braced then
    let (isGlobal, words) ← pathOfWords
    operator "!"
    let (delimiter, content) ← anyGroup
    let semicolon ← operator? ";"
    return .macroCall attributes (.ofWords isGlobal words) delimiter content semicolon
  else if ← ahead (Tokens.startsWord "let") then bindStatement grammar attributes
  else if kind = .item || (← ahead startsItem) then
    restart start
    return .item (← grammar.item)
  else expressionStatement grammar attributes

/-- Whether a semicolon has to stand between a statement and the next one. -/
def Statement.needsSemicolon : Statement → Bool
  | .expression (.macroCall _ delimiter _) false => delimiter ≠ .brace
  | .expression value false => !value.isBlockLike
  | .macroCall _ _ delimiter _ false => delimiter ≠ .brace
  | _ => false

def statementsFuel : Nat → Reader (List Statement)
  | 0 => reject "unexpected token"
  | fuel + 1 => do
    if ← atEnd then return []
    let first ← statement grammar
    if first.needsSemicolon && !(← atEnd) then fail "unexpected token, expected `;`"
    return first :: (← statementsFuel fuel)

def statements : Reader (List Statement) := fun tokens =>
  statementsFuel grammar (tokens.length + 1) tokens

/-- A block in braces, with the attributes of what encloses it at its start where `inner` holds. -/
def block (inner : Bool) : Reader Block :=
  group .brace do
    let attributes ← if inner then innerAttributes grammar.nested else pure []
    return .mk attributes (← statements grammar)

end

end Endpoints
