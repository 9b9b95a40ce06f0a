import Endpoints.Expr.Tokens
import Endpoints.Layout.Attribute
import Endpoints.Layout.Pattern

/-! The layout of expressions and statements. A chain of members and calls is one box, so that it is
written on one line or with each member on a line of its own. -/

namespace Endpoints

namespace Expr

/-- An expression that brings its own lines, so that no line is broken around it. -/
def bringsLines : Expr → Bool
  | .array .. | .asyncBlock .. | .block .. | .closure .. | .constBlock _ | .structure .. | .tryBlock _
  | .tuple .. | .unsafeBlock _ => true
  | .attributed _ (.closure ..) => true
  | _ => false

/-- Whether an expression, when it is broken, ends on a line of its own. -/
def endsOnOwnLine : Expr → Bool
  | .assign .. | .await _ | .binary .. | .cast .. | .field .. | .index .. | .methodCall .. => true
  | .attributed _ inner | .call inner .. | .binding _ inner | .paren inner | .reference _ inner
  | .rawAddress _ inner | .propagate inner | .unary _ inner | .breakLoop _ (some inner)
  | .range _ _ (some inner) | .returning (some inner) | .yielding (some inner) => inner.endsOnOwnLine
  | _ => false

/-- Whether a semicolon may be added after an expression that ends a block. -/
def takesSemicolon : Expr → Bool
  | .assign .. | .breakLoop .. | .continueLoop _ | .returning _ | .yielding _ => true
  | .binary _ operator _ =>
    ["+=", "-=", "*=", "/=", "%=", "^=", "&=", "|=", "<<=", ">>="].contains operator
  | .attributed _ inner => inner.takesSemicolon
  | _ => false

/-- Whether a semicolon after a statement is dropped. -/
def dropsSemicolon : Expr → Bool
  | .forLoop .. | .whileLoop .. | .conditional _ _ none => true
  | .conditional _ _ (some otherwise) => otherwise.dropsSemicolon
  | .attributed _ inner => inner.dropsSemicolon
  | _ => false

/-- A name of at most four bytes: a member after it stays on its line. -/
def isShortName : Expr → Bool
  | .path (.path named) => named.name?.any (·.utf8ByteSize ≤ 4)
  | _ => false

end Expr

namespace Layout
open Doc (word zero space hard blank innerSpace innerHard fixed lastComma lastCommaOrSpace uniform
  uniformUpTo flexible indentation outdent separated list single commas body)

/-- Where an expression stands: anywhere, at the start of a line, or as the start of a chain of members,
which may in turn stand at the start of a line. -/
inductive ExprPlace where
  | plain
  | start
  | chain (start : Bool)
  deriving DecidableEq

namespace ExprPlace

def isStart : ExprPlace → Bool
  | .plain => false
  | .start => true
  | .chain atStart => atStart

/-- The place of an expression at the start of one at this place. -/
def inner (place : ExprPlace) : ExprPlace := if place.isStart then .start else .plain

/-- An expression that goes on a chain, in a box of its own unless the chain goes on. -/
def chained (place : ExprPlace) (docs : Docs) : Docs :=
  match place with
  | .chain _ => docs
  | _ => uniform indentation docs

/-- An expression that starts a chain, in a box that takes back the indentation of the chain. -/
def whole (place : ExprPlace) (docs : Docs) : Docs :=
  match place with
  | .chain _ => uniform (-indentation) docs
  | _ => docs

end ExprPlace

def labelDocs (label : Option String) : Docs :=
  match label with
  | some name => lifetime name ++ word ": "
  | none => []

def targetDocs (label : Option String) : Docs :=
  match label with
  | some name => blank ++ lifetime name
  | none => []

/-- The gap before a member, which a short name at the start of a line does not leave. -/
def memberGap (place : ExprPlace) (base : Expr) : Docs :=
  if place.isStart && base.isShortName then [] else [zero]

def condition (value : Expr) (docs : Docs) : Docs :=
  uniform 0 (docs ++ (if value.endsOnOwnLine then [space] else blank))

def braced (lines : Docs) : Docs :=
  word "\x7b" ++ [fixed] ++ uniform indentation (body lines) ++ word "\x7d"

def linesInBraces (lines : Docs) : Docs :=
  if lines.isEmpty then word "\x7b\x7d" else word "\x7b" ++ body lines ++ word "\x7d"

/-- An expression after an arrow or the inputs of a closure, in braces where its line is broken. -/
def inBraces (value : Expr) (comma : Bool) (docs : Docs) : Docs :=
  uniform indentation (.gap { before := "\x7b" } :: docs
    ++ [.gap {
      shift := -indentation
      before := if value.takesSemicolon then ";" else ""
      after := "\x7d"
      instead := if comma then "," else "" }])

/-- What the arrow of an arm points to, if it is no block. -/
def armValue (value : Expr) (docs : Docs) : Docs := [fixed] ++ inBraces value (!value.isBlockLike) docs

section
variable (kept : Kept)

mutual

def exprDocs (place : ExprPlace) : Expr → Docs
  | .attributed attributes inner => outerDocs kept attributes ++ exprDocs place inner
  | .array elements _ => place.whole (word "[" ++ list (exprsDocs elements) ++ word "]")
  | .assign target value =>
    place.whole (flexible 0 (exprDocs .plain target ++ word " = " ++ [fixed]
      ++ exprDocs .plain value))
  | .asyncBlock moving block =>
    place.whole (word "async " ++ (if moving then word "move " else [])
      ++ uniform indentation (smallBlockDocs block))
  | .await base =>
    place.chained (exprDocs (.chain place.isStart) base ++ memberGap place base ++ word ".await")
  | .binary left symbol right =>
    place.whole (flexible indentation (flexible (-indentation) (exprDocs .plain left)
      ++ [space] ++ word symbol ++ blank ++ exprDocs .plain right))
  | .block label block =>
    place.whole (labelDocs label ++ uniform indentation (smallBlockDocs block))
  | .breakLoop label value =>
    place.whole (word "break" ++ targetDocs label ++ valueDocs value)
  | .call function arguments _ =>
    let calledPlace := match place with
      | .chain _ => .chain false
      | _ => place.inner
    exprDocs calledPlace function ++ word "(" ++ callDocs arguments ++ word ")"
  | .cast value ty =>
    place.whole (flexible indentation (flexible (-indentation) (exprDocs .plain value)
      ++ [space] ++ word "as " ++ typeDocs kept ty))
  | .closure qualifiers inputs _ output value =>
    place.whole ((qualifiers.flatMap fun token => word token.text ++ blank)
      ++ closureDocs inputs output value (exprDocs .plain value))
  | .constBlock block => place.whole (word "const " ++ uniform indentation (smallBlockDocs block))
  | .continueLoop label => place.whole (word "continue" ++ targetDocs label)
  | .field base name =>
    place.chained (exprDocs (.chain place.isStart) base ++ memberGap place base ++ word "." ++ word name)
  | .forLoop label pattern source block =>
    place.whole (flexible 0 (labelDocs label ++ word "for " ++ patternDocs kept pattern ++ word " in "
      ++ [fixed] ++ condition source (exprDocs .plain source) ++ braced (linesDocs block)))
  | .conditional tested block otherwise =>
    place.whole (uniform indentation (word "if " ++ condition tested (exprDocs .plain tested)
      ++ match otherwise with
        | none => linesInBraces (linesDocs block)
        | some other => smallBlockDocs block ++ word " else "
          ++ (otherwiseDocs? other).getD (exprDocs .plain other)))
  | .index base position =>
    let basePlace := match place with
      | .chain start => .chain start
      | _ => place.inner
    exprDocs basePlace base ++ word "[" ++ exprDocs .plain position ++ word "]"
  | .inferred => place.whole (word "_")
  | .binding pattern value =>
    place.whole (flexible 0 (word "let " ++ patternDocs kept pattern ++ word " = " ++ [fixed]
      ++ exprDocs .plain value))
  | .literal tokens => place.whole (compactTokens tokens)
  | .loop label block =>
    place.whole (labelDocs label ++ word "loop \x7b" ++ uniform indentation (body (linesDocs block))
      ++ word "\x7d")
  | .macroCall path delimiter content =>
    place.whole (macroCall (pathDocs kept .plain path) delimiter content)
  | .choice subject attributes arms =>
    place.whole (flexible 0 (word "match " ++ condition subject (exprDocs .plain subject)
      ++ braced (innerDocs kept attributes ++ armsDocs arms)))
  | .methodCall receiver method turbofish arguments _ =>
    let shift := if place = .start && receiver.isShortName then -indentation else 0
    place.chained (exprDocs (.chain place.isStart) receiver ++ memberGap place receiver ++ word "."
      ++ word method ++ argumentsDocs kept .expression turbofish
      ++ uniform shift (word "(" ++ callDocs arguments ++ word ")"))
  | .paren inner => place.whole (word "(" ++ exprDocs .plain inner ++ word ")")
  | .path path => place.whole (typeAt kept .expression path)
  | .range lower closed upper =>
    place.whole (optionDocs lower ++ word (if closed then "..=" else "..") ++ optionDocs upper)
  | .rawAddress mutable target =>
    place.whole (word (if mutable then "&raw mut " else "&raw const ") ++ exprDocs .plain target)
  | .reference mutable target =>
    place.whole (word "&" ++ (if mutable then word "mut " else []) ++ exprDocs .plain target)
  | .repeated element count =>
    place.whole (word "[" ++ exprDocs .plain element ++ word "; " ++ exprDocs .plain count ++ word "]")
  | .returning value => place.whole (word "return" ++ valueDocs value)
  | .structure path fields _ base =>
    place.whole (uniformUpTo 34 indentation
        (flexible (-indentation) (typeAt kept .expression path) ++ word " \x7b"
          ++ outdent (innerSpace :: fieldsDocs base.isSome fields ++ baseDocs base))
      ++ word "\x7d")
  | .propagate base =>
    let basePlace := match place with
      | .chain start => .chain start
      | _ => place.inner
    exprDocs basePlace base ++ word "?"
  | .tryBlock block => place.whole (word "try " ++ uniform indentation (smallBlockDocs block))
  | .tuple [element] _ => place.whole (word "(" ++ single (exprDocs .plain element) ++ word ")")
  | .tuple elements _ => place.whole (word "(" ++ list (exprsDocs elements) ++ word ")")
  | .unary symbol operand => place.whole (word symbol ++ exprDocs .plain operand)
  | .unsafeBlock block => place.whole (word "unsafe " ++ uniform indentation (smallBlockDocs block))
  | .verbatim tokens => [.unsupported ("Expr::Verbatim `" ++ tokens.text ++ "`")]
  | .whileLoop label tested block =>
    place.whole (labelDocs label ++ word "while " ++ condition tested (exprDocs .plain tested)
      ++ braced (linesDocs block))
  | .yielding value => place.whole (word "yield" ++ valueDocs value)
where
  closureDocs (inputs : List Pattern) (output : Option Ty) (value : Expr) (valueDocs : Docs) : Docs :=
    let inputs := (patternsDocs kept inputs)
    let listed := if inputs.isEmpty then [] else zero :: separated [.text ",", space] inputs
    match output with
    | none =>
      let bare := value.bringsLines || (match value with
        | .choice .. | .call .. => true
        | _ => false)
      uniform indentation (word "|" ++ listed ++ word "|" ++ [.gap { blanks := 1, shift := -indentation }])
        ++ [fixed] ++ (if bare then valueDocs else inBraces value false valueDocs)
    | some ty =>
      uniform indentation (word "|" ++ listed
          ++ (if inputs.isEmpty then [] else [.gap { before := ",", shift := -indentation }]) ++ word "|")
        ++ word " -> " ++ typeDocs kept ty ++ blank ++ [fixed] ++ valueDocs

def valueDocs : Option Expr → Docs
  | none => []
  | some value => blank ++ exprDocs .plain value

def optionDocs : Option Expr → Docs
  | none => []
  | some value => exprDocs .plain value

def baseDocs : Option (Option Expr) → Docs
  | none => []
  | some base => word ".." ++ optionDocs base ++ [space]

def exprsDocs : List Expr → List Docs
  | [] => []
  | value :: rest => exprDocs .plain value :: exprsDocs rest

/-- The arguments of a call. A single one that brings its own lines is put between the parentheses as it
is. -/
def callDocs : List Expr → Docs
  | [] => list []
  | [value] => if value.bringsLines then exprDocs .plain value else list [exprDocs .plain value]
  | value :: rest => list (exprDocs .plain value :: exprsDocs rest)

def fieldsDocs (goesOn : Bool) : List FieldValue → Docs
  | [] => []
  | [field] => fieldDocs field ++ (if goesOn then [.text ",", space] else [lastCommaOrSpace])
  | field :: rest => fieldDocs field ++ [.text ",", space] ++ fieldsDocs goesOn rest

def fieldDocs : FieldValue → Docs
  | .mk attributes name none => outerDocs kept attributes ++ word name
  | .mk attributes name (some value) =>
    outerDocs kept attributes ++ word name ++ word ": " ++ flexible 0 (exprDocs .plain value)

def otherwiseDocs? : Expr → Option Docs
  | .conditional tested block otherwise =>
    some (word "if " ++ condition tested (exprDocs .plain tested) ++ smallBlockDocs block
      ++ match otherwise with
        | none => []
        | some other => word " else " ++ (otherwiseDocs? other).getD (exprDocs .plain other))
  | .block _ block => some (smallBlockDocs block)
  | _ => none

def armsDocs : List Arm → Docs
  | [] => []
  | arm :: rest => armDocs arm ++ [hard] ++ armsDocs rest

def armDocs : Arm → Docs
  | .mk attributes pattern guard value _ =>
    outerDocs kept attributes
      ++ flexible 0 (patternDocs kept pattern ++ guardDocs guard ++ word " => "
        ++ (armBlockDocs? value).getD (armValue value (exprDocs .start value)))

def guardDocs : Option Expr → Docs
  | none => []
  | some tested => word " if " ++ exprDocs .plain tested

/-- A block that the arrow of an arm points to, without the braces around one expression. -/
def armBlockDocs? : Expr → Option Docs
  | .block none (.mk [] [.expression inner false]) =>
    some ((armBlockDocs? inner).getD (armValue inner (exprDocs .start inner)))
  | .block label block => some (labelDocs label ++ braced (linesDocs block))
  | .tuple [] _ => some (braced [])
  | _ => none

/-- A block in braces, on one line if it holds one expression that fits. -/
def smallBlockDocs : Block → Docs
  | .mk [] [] => word "\x7b\x7d"
  | .mk attributes [.expression value false] =>
    word "\x7b"
      ++ outdent (space :: innerDocs kept attributes ++ flexible 0 (exprDocs .start value) ++ [space])
      ++ word "\x7d"
  | .mk attributes statements =>
    word "\x7b" ++ outdent (space :: innerDocs kept attributes ++ statementsDocs statements)
      ++ word "\x7d"

def linesDocs : Block → Docs
  | .mk attributes statements => innerDocs kept attributes ++ statementsDocs statements

def statementsDocs : List Statement → Docs
  | [] => []
  | statement :: rest => statementDocs statement ++ statementsDocs rest

def statementDocs : Statement → Docs
  | .bind attributes pattern ty value none =>
    outerDocs kept attributes
      ++ flexible 0 (word "let " ++ patternDocs kept pattern ++ annotationDocs ty
        ++ initialDocs value ++ word ";")
      ++ [hard]
  | .bind attributes pattern ty value (some otherwise) =>
    outerDocs kept attributes
      ++ flexible 0 (word "let " ++ patternDocs kept pattern ++ annotationDocs ty
        ++ initialDocs value ++ [space] ++ word "else ")
      ++ [fixed] ++ uniform indentation (smallBlockDocs otherwise ++ word ";") ++ [hard]
  | .item tokens => word tokens.text ++ [hard]
  | .expression value false =>
    flexible 0 (exprDocs .start value ++ (if value.takesSemicolon then word ";" else [])) ++ [hard]
  | .expression value true =>
    flexible 0 (exprDocs .start value ++ (if value.dropsSemicolon then [] else word ";")) ++ [hard]
  | .macroCall attributes path delimiter content semicolon =>
    outerDocs kept attributes ++ macroCall (pathDocs kept .plain path) delimiter content
      ++ (if semicolon && delimiter ≠ .brace then word ";" else []) ++ [hard]
  | .empty => []
where
  annotationDocs (ty : Option Ty) : Docs :=
    match ty with
    | some ty => word ": " ++ typeDocs kept ty
    | none => []

def initialDocs : Option Expr → Docs
  | none => []
  | some value => word " = " ++ [fixed] ++ exprDocs .plain value

end

end

end Layout

end Endpoints
