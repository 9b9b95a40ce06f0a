import Endpoints.Directive.Reader
import Endpoints.Item.Source
import Endpoints.Text.Similarity

/-! The arguments of the attribute that asks for a builder in place. The only one there is names the
runtime module: `runtime = path`, where the path may stand in a text literal. -/

namespace Endpoints

/-- What an argument says beside its name. -/
inductive ArgumentValue where
  | word
  | list (content : Tokens)
  | value (expression : Expr)

/-- A literal that stands alone, or a name. -/
inductive AttributeArgument where
  | bare
  | named (name : String) (value : ArgumentValue)

inductive ArgumentError where
  | unreadable (error : ReadError)
  | unknownName (name : String)
  | repeatedName (name : String)
  | unexpectedFormat (format : String)
  | unexpectedType (type : String)
  | unknownText (text : String)
  deriving DecidableEq, Repr

def ArgumentError.message : ArgumentError → String
  | .unreadable error => error.message
  | .unknownName name =>
    "Unknown field: `" ++ name ++ "`"
      ++ (if Text.mayBeMeantFor name "runtime" then ". Did you mean `runtime`?" else "")
  | .repeatedName name => "Duplicate field `" ++ name ++ "`"
  | .unexpectedFormat format => "Unexpected meta-item format `" ++ format ++ "`"
  | .unexpectedType type => "Unexpected type `" ++ type ++ "`"
  | .unknownText text => "Unknown literal value `" ++ text ++ "`"

def literalKind (literal : Tokens) : String :=
  match literal with
  | [.ident _] => "bool"
  | [.literal text] => ofCharacters text.toList
  | [_, .literal text] => ofCharacters text.toList
  | _ => "verbatim"
where
  /-- A number with a point, or with an exponent that no base precedes, is no whole number. -/
  number (text : List Char) : String :=
    match text with
    | '0' :: 'x' :: _ => "int"
    | '0' :: 'o' :: _ => "int"
    | '0' :: 'b' :: _ => "int"
    | _ =>
      let afterDigits := text.dropWhile fun c => c.isDigit || c == '_'
      match afterDigits with
      | '.' :: _ => "float"
      | c :: next =>
        if (c == 'e' || c == 'E')
            && next.head?.any (fun d => d.isDigit || d == '+' || d == '-' || d == '_') then "float"
        else "int"
      | [] => "int"
  ofCharacters (text : List Char) : String :=
    match text with
    | '"' :: _ => "string"
    | 'r' :: _ => "string"
    | 'b' :: '\'' :: _ => "byte"
    | 'b' :: _ => "byte string"
    | 'c' :: _ => "unknown"
    | '\'' :: _ => "char"
    | _ => number text

def Expr.kindName : Expr → String
  | .attributed _ inner => inner.kindName
  | .array .. => "array"
  | .assign .. => "assign"
  | .asyncBlock .. => "async"
  | .await _ => "await"
  | .binary .. => "binary"
  | .block .. => "block"
  | .breakLoop .. => "break"
  | .call .. => "call"
  | .cast .. => "cast"
  | .closure .. => "closure"
  | .constBlock _ => "const"
  | .continueLoop _ => "continue"
  | .field .. => "field"
  | .forLoop .. => "for_loop"
  | .conditional .. => "if"
  | .index .. => "index"
  | .inferred => "infer"
  | .binding .. => "let"
  | .literal _ => "lit"
  | .loop .. => "loop"
  | .macroCall .. => "macro"
  | .choice .. => "match"
  | .methodCall .. => "method_call"
  | .paren _ => "paren"
  | .path _ => "path"
  | .range .. => "range"
  | .rawAddress .. => "unknown"
  | .reference .. => "reference"
  | .repeated .. => "repeat"
  | .returning _ => "return"
  | .structure .. => "struct"
  | .propagate _ => "try"
  | .tryBlock _ => "try_block"
  | .tuple .. => "tuple"
  | .unary .. => "unary"
  | .unsafeBlock _ => "unsafe"
  | .verbatim _ => "verbatim"
  | .whileLoop .. => "while"
  | .yielding _ => "yield"

namespace AttributeArgument
open Reader

section
variable (grammar : Grammar)

/-- A value after `=`. A literal that ends the arguments is taken with its sign. -/
def valueReader : Reader Expr := do
  match ← attempt (do
      let value ← literal
      if ← atEnd then return value else fail "unexpected token") with
  | some value => return .literal value
  | none =>
    if ← ahead fun tokens => tokens.startsOperator "#" && (tokens.skip 1).startsGroup .bracket then
      fail "unexpected attribute inside of attribute"
    expression grammar true

/-- A name, and what it says. The name is that of a path without its leading `::`. -/
def namedReader : Reader AttributeArgument := do
  let name ← if ← word? "unsafe" then pure "unsafe" else do
    let (_, words) ← pathOfWords
    pure (String.intercalate "::" words)
  match ← attempt anyGroup with
  | some (_, content) => return .named name (.list content)
  | none =>
    if ← operator? "=" then return .named name (.value (← valueReader grammar))
    else return .named name .word

def reader : Reader AttributeArgument := do
  let tokens ← remaining
  let next := tokens.skip 1
  let isBoolean := tokens.startsWord "true" || tokens.startsWord "false"
  if tokens.startsLiteral && !(isBoolean && next.startsOperator "=") then
    let _ ← literal
    return .bare
  else if tokens.startsAnyWord || tokens.startsOperator "::" && (tokens.skip 2).startsAnyWord then
    namedReader grammar
  else fail "expected identifier or literal"

def listReader : Reader (List AttributeArgument) := do
  return (← commaList (reader grammar)).items

end

def readList (tokens : Tokens) : Except ArgumentError (List AttributeArgument) :=
  (tokens.readAll listReader).mapError .unreadable

/-- The path without the type that a qualified path starts from. -/
def pathOf : Ty → Option Path
  | .path path => some path
  | .qualified _ none segments => some (.mk true segments)
  | .qualified _ (some ofTrait) segments => some (.mk ofTrait.isGlobal (ofTrait.segments ++ segments))
  | _ => none

def path (value : ArgumentValue) : Except ArgumentError Path :=
  match value with
  | .word => .error (.unexpectedFormat "word")
  | .list content =>
    match readList content with
    | .error error => .error error
    | .ok _ => .error (.unexpectedFormat "list")
  | .value (.literal given) =>
    if literalKind given = "string" then
      let text := (Text.Quoted.decode given.text).getD ""
      (readPath text).mapError fun _ => .unknownText text
    else .error (.unexpectedType (literalKind given))
  | .value (.path ty) =>
    match pathOf ty with
    | some path => .ok path
    | none => .error (.unexpectedType "path")
  | .value expression => .error (.unexpectedType expression.kindName)

/-- The runtime path that arguments give, if they do, and the faults among them, in order. `seen` holds
once a runtime path has been given. -/
def runtimeOf (seen : Bool) : List AttributeArgument → Option Path × List ArgumentError
  | [] => (none, [])
  | .bare :: rest =>
    let (found, faults) := runtimeOf seen rest
    (found, .unexpectedFormat "literal" :: faults)
  | .named name value :: rest =>
    if name = "runtime" then
      let (found, faults) := runtimeOf true rest
      if seen then (found, .repeatedName name :: faults)
      else match path value with
        | .ok path => (some path, faults)
        | .error fault => (found, fault :: faults)
    else
      let (found, faults) := runtimeOf seen rest
      (found, .unknownName name :: faults)

/-- The runtime path that the tokens of an attribute give, or the faults in them. -/
def runtime (tokens : Tokens) : Except (List ArgumentError) Path :=
  match readList tokens with
  | .error fault => .error [fault]
  | .ok arguments =>
    match runtimeOf false arguments with
    | (found, []) => .ok (found.getD defaultRuntime)
    | (_, faults) => .error faults

end AttributeArgument

end Endpoints
