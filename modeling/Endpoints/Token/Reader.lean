import Endpoints.Token.Basic

/-! Readers take a prefix of a token sequence and give a value for it, or say what they expected
instead. What a group holds is a sequence of its own, which a reader has to use up. -/

namespace Endpoints

/-- Why a token sequence was refused: `reason` tells what was expected, and `atEnd` that nothing was
left there. -/
structure ReadError where
  atEnd : Bool
  reason : String
  deriving DecidableEq, Repr

def ReadError.message (error : ReadError) : String :=
  (if error.atEnd then "unexpected end of input, " else "") ++ error.reason

namespace Tokens

/-- Whether the tokens start with an operator. Only its inner characters have to be joined, so `<` is
found at the start of `<<`. -/
def startsOperatorOf : List Char → Tokens → Bool
  | [], _ => true
  | [last], .punct symbol _ :: _ => symbol == last
  | c :: more, .punct symbol spacing :: rest =>
    symbol == c && spacing == .joint && startsOperatorOf more rest
  | _ :: _, _ => false

def startsOperator (spelling : String) (tokens : Tokens) : Bool :=
  startsOperatorOf spelling.toList tokens

def startsWord (name : String) : Tokens → Bool
  | .ident other :: _ => other == name
  | _ => false

def startsGroup (delimiter : Delimiter) : Tokens → Bool
  | .group other _ :: _ => other = delimiter
  | _ => false

def startsLifetime : Tokens → Bool
  | .punct '\'' .joint :: .ident _ :: _ => true
  | _ => false

def startsAnyWord : Tokens → Bool
  | .ident _ :: _ => true
  | _ => false

def keywords : List String :=
  ["_", "abstract", "as", "async", "await", "become", "box", "break", "const", "continue", "crate",
   "do", "dyn", "else", "enum", "extern", "false", "final", "fn", "for", "if", "impl", "in", "let",
   "loop", "macro", "match", "mod", "move", "mut", "override", "priv", "pub", "ref", "return",
   "Self", "self", "static", "struct", "super", "trait", "true", "try", "type", "typeof", "unsafe",
   "unsized", "use", "virtual", "where", "while", "yield"]

def startsName : Tokens → Bool
  | .ident name :: _ => !keywords.contains name
  | _ => false

/-- Whether a literal comes next: a literal token, a negated number, `true` or `false`. -/
def startsLiteral : Tokens → Bool
  | .literal _ :: _ => true
  | .ident name :: _ => name == "true" || name == "false"
  | .punct '-' _ :: .literal text :: _ => text.toList.head?.any Char.isDigit
  | _ => false

/-- A literal that is a quoted or raw text. -/
def isTextLiteral (literal : String) : Bool :=
  match literal.toList with
  | '"' :: _ => true
  | 'r' :: _ => true
  | _ => false

def startsText : Tokens → Bool
  | .literal text :: _ => isTextLiteral text
  | _ => false

def skip (count : Nat) (tokens : Tokens) : Tokens := tokens.drop count

/-- What follows the first token. A lifetime counts as one token. -/
def afterFirst : Tokens → Tokens
  | .punct '\'' .joint :: .ident _ :: rest => rest
  | _ :: rest => rest
  | [] => []

end Tokens

/-- Values with a separator between neighbours, and whether one comes after the last. -/
structure Separated (α : Type) where
  items : List α
  trailing : Bool
  deriving Repr, Inhabited

def Separated.nil {α : Type} : Separated α := ⟨[], false⟩

def Reader (α : Type) : Type := Tokens → Except ReadError (α × Tokens)

namespace Reader

variable {α β : Type}

instance : Monad Reader where
  pure value := fun tokens => .ok (value, tokens)
  bind reader next := fun tokens =>
    match reader tokens with
    | .ok (value, rest) => next value rest
    | .error error => .error error

def fail (reason : String) : Reader α := fun tokens =>
  .error ⟨tokens.isEmpty, reason⟩

/-- Fails with a reason that stands for itself also at the end. -/
def reject (reason : String) : Reader α := fun _ => .error ⟨false, reason⟩

def ahead (look : Tokens → α) : Reader α := fun tokens => .ok (look tokens, tokens)

def restart (tokens : Tokens) : Reader Unit := fun _ => .ok ((), tokens)

def atEnd : Reader Bool := ahead List.isEmpty

def remaining : Reader Tokens := fun tokens => .ok (tokens, tokens)

def advance : Reader Unit := fun tokens => .ok ((), tokens.drop 1)

/-- The value of a reader if it succeeds; otherwise nothing is taken. -/
def attempt (reader : Reader α) : Reader (Option α) := fun tokens =>
  match reader tokens with
  | .ok (value, rest) => .ok (some value, rest)
  | .error _ => .ok (none, tokens)

def withTokens (reader : Reader α) : Reader (α × Tokens) := fun tokens =>
  match reader tokens with
  | .ok (value, rest) => .ok ((value, tokens.take (tokens.length - rest.length)), rest)
  | .error error => .error error

def operator? (spelling : String) : Reader Bool := fun tokens =>
  if tokens.startsOperator spelling then .ok (true, tokens.drop spelling.length)
  else .ok (false, tokens)

def operator (spelling : String) : Reader Unit := do
  unless (← operator? spelling) do reject ("expected `" ++ spelling ++ "`")

def word? (name : String) : Reader Bool := fun tokens =>
  if tokens.startsWord name then .ok (true, tokens.drop 1) else .ok (false, tokens)

def word (name : String) : Reader Unit := do
  unless (← word? name) do fail ("expected `" ++ name ++ "`")

/-- Any word, keywords included. -/
def anyWord : Reader String := fun tokens =>
  match tokens with
  | .ident name :: rest => .ok (name, rest)
  | _ => .error ⟨tokens.isEmpty, "expected ident"⟩

/-- A word that is no keyword. -/
def name : Reader String := fun tokens =>
  match tokens with
  | .ident name :: rest =>
    if Tokens.keywords.contains name then
      .error ⟨false, "expected identifier, found keyword `" ++ name ++ "`"⟩
    else .ok (name, rest)
  | _ => .error ⟨tokens.isEmpty, "expected identifier"⟩

def lifetime : Reader String := fun tokens =>
  match tokens with
  | .punct '\'' .joint :: .ident name :: rest => .ok (name, rest)
  | _ => .error ⟨tokens.isEmpty, "expected lifetime"⟩

def lifetime? : Reader (Option String) := do
  if (← ahead Tokens.startsLifetime) then return some (← lifetime) else return none

def literal : Reader Tokens := fun tokens =>
  match tokens with
  | .literal text :: rest => .ok ([.literal text], rest)
  | .ident "true" :: rest => .ok ([.ident "true"], rest)
  | .ident "false" :: rest => .ok ([.ident "false"], rest)
  | .punct '-' _ :: .literal text :: rest =>
    if text.toList.head?.any Char.isDigit then .ok ([.punct '-' .alone, .literal text], rest)
    else .error ⟨false, "expected literal"⟩
  | _ => .error ⟨tokens.isEmpty, "expected literal"⟩

def textLiteral : Reader String := fun tokens =>
  match tokens with
  | .literal text :: rest =>
    if Tokens.isTextLiteral text then .ok (text, rest) else .error ⟨false, "expected string literal"⟩
  | _ => .error ⟨tokens.isEmpty, "expected string literal"⟩

def groupNames : Delimiter → String
  | .parenthesis => "expected parentheses"
  | .bracket => "expected square brackets"
  | .brace => "expected curly braces"

def closers : Delimiter → String
  | .parenthesis => ")"
  | .bracket => "]"
  | .brace => "\x7d"

def group (delimiter : Delimiter) (reader : Reader α) : Reader α := fun tokens =>
  match tokens with
  | .group other content :: rest =>
    if other = delimiter then
      match reader content with
      | .ok (value, []) => .ok (value, rest)
      | .ok (_, _ :: _) =>
        .error ⟨false, "unexpected token, expected `" ++ closers delimiter ++ "`"⟩
      | .error error => .error error
    else .error ⟨false, groupNames delimiter⟩
  | _ => .error ⟨tokens.isEmpty, groupNames delimiter⟩

def rawGroup (delimiter : Delimiter) : Reader Tokens := fun tokens =>
  match tokens with
  | .group other content :: rest =>
    if other = delimiter then .ok (content, rest) else .error ⟨false, groupNames delimiter⟩
  | _ => .error ⟨tokens.isEmpty, groupNames delimiter⟩

def anyGroup : Reader (Delimiter × Tokens) := fun tokens =>
  match tokens with
  | .group delimiter content :: rest => .ok ((delimiter, content), rest)
  | _ => .error ⟨tokens.isEmpty, "expected delimiter"⟩

def everything : Reader Tokens := fun tokens => .ok (tokens, [])

/-- Values with separators, until `stop` holds, and whether a separator came last. `fuel` bounds the
number of values. -/
def separatedFuel (stop : Tokens → Bool) (separator : String) (item : Reader α) :
    Nat → Reader (List α × Bool)
  | 0 => reject "unexpected token"
  | fuel + 1 => do
    if (← ahead stop) then return ([], true)
    let first ← item
    if (← ahead stop) then return ([first], false)
    operator separator
    let (rest, trailing) ← separatedFuel stop separator item fuel
    return (first :: rest, trailing)

/-- Values that stop where `stop` holds, as a comma list in brackets does at its end. -/
def separatedUntil (stop : Tokens → Bool) (separator : String) (item : Reader α) :
    Reader (Separated α) := fun tokens =>
  match separatedFuel stop separator item (tokens.length + 1) tokens with
  | .ok ((items, trailing), rest) => .ok (⟨items, trailing && !items.isEmpty⟩, rest)
  | .error error => .error error

def commaList (item : Reader α) : Reader (Separated α) :=
  separatedUntil List.isEmpty "," item

/-- More values, each after a separator. The list ends with a separator where `go` fails after it. -/
def tailFuel (separator : String) (go : Tokens → Bool) (item : Reader α) : Nat → Reader (List α × Bool)
  | 0 => reject "unexpected token"
  | fuel + 1 => do
    if ← operator? separator then
      if ← ahead go then
        let first ← item
        let (rest, trailing) ← tailFuel separator go item fuel
        return (first :: rest, trailing)
      else return ([], true)
    else return ([], false)

def tail (separator : String) (go : Tokens → Bool) (item : Reader α) : Reader (Separated α) :=
  fun tokens =>
    match tailFuel separator go item (tokens.length + 1) tokens with
    | .ok ((items, trailing), rest) => .ok (⟨items, trailing⟩, rest)
    | .error error => .error error

/-- A value and more values, each after a separator, as long as `go` holds after it. -/
def chain (separator : String) (go : Tokens → Bool) (item : Reader α) : Reader (Separated α) := do
  let first ← item
  let rest ← tail separator go item
  return ⟨first :: rest.items, rest.trailing⟩

/-- Values that go on only after a separator. `stop` may end the list before any of them. -/
def chainedUntil (stop : Tokens → Bool) (separator : String) (item : Reader α) :
    Reader (Separated α) := do
  if ← ahead stop then return .nil
  chain separator (fun tokens => !stop tokens) item

def whileFuel (go : Tokens → Bool) (item : Reader α) : Nat → Reader (List α)
  | 0 => reject "unexpected token"
  | fuel + 1 => do
    if (← ahead go) then
      let first ← item
      let rest ← whileFuel go item fuel
      return first :: rest
    else return []

def whileAhead (go : Tokens → Bool) (item : Reader α) : Reader (List α) := fun tokens =>
  whileFuel go item (tokens.length + 1) tokens

def all (item : Reader α) : Reader (List α) :=
  whileAhead (fun tokens => !tokens.isEmpty) item

/-- Reads all of a token sequence that stands elsewhere, such as what a group holds. -/
def within (content : Tokens) (reader : Reader α) : Reader α := fun tokens =>
  match reader content with
  | .ok (value, []) => .ok (value, tokens)
  | .ok (_, _ :: _) => .error ⟨false, "unexpected token"⟩
  | .error error => .error error

def run (reader : Reader α) (tokens : Tokens) : Except ReadError α :=
  match reader tokens with
  | .ok (value, []) => .ok value
  | .ok (_, _ :: _) => .error ⟨false, "unexpected token"⟩
  | .error error => .error error

end Reader

end Endpoints
