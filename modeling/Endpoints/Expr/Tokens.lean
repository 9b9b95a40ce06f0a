import Endpoints.Expr.Basic

/-! The tokens of expressions and statements. -/

namespace Endpoints
open Tokens

def labelTokens (label : Option String) : Tokens :=
  match label with
  | some name => Tokens.lifetime name ++ operator ":"
  | none => []

def targetTokens (label : Option String) : Tokens :=
  (label.map Tokens.lifetime).getD []

/-- Whether an expression ends a statement or a match arm by itself. -/
def Expr.isBlockLike : Expr → Bool
  | .conditional .. | .choice .. | .block .. | .unsafeBlock _ | .whileLoop .. | .loop .. | .forLoop ..
  | .tryBlock _ | .constBlock _ => true
  | .attributed _ inner => inner.isBlockLike
  | _ => false

def typeAnnotation (type : Option Ty) : Tokens :=
  match type with
  | some type => operator ":" ++ type.tokens
  | none => []

mutual

def Expr.tokens : Expr → Tokens
  | .attributed attributes inner => attributesTokens attributes ++ inner.tokens
  | .array elements trailing => brackets (commaList (exprsTokens elements) trailing)
  | .assign target value => target.tokens ++ operator "=" ++ value.tokens
  | .asyncBlock moving body => word "async" ++ given moving (word "move") ++ body.tokens
  | .await base => base.tokens ++ operator "." ++ word "await"
  | .binary left symbol right => left.tokens ++ operator symbol ++ right.tokens
  | .block label body => labelTokens label ++ body.tokens
  | .breakLoop label value => word "break" ++ targetTokens label ++ optionTokens value
  | .call function arguments trailing =>
    function.tokens ++ parens (commaList (exprsTokens arguments) trailing)
  | .cast value type => value.tokens ++ word "as" ++ type.tokens
  | .closure qualifiers inputs trailing output body =>
    qualifiers ++ operator "|" ++ commaList (patternsTokens inputs) trailing ++ operator "|"
      ++ outputTokens output ++ body.tokens
  | .constBlock body => word "const" ++ body.tokens
  | .continueLoop label => word "continue" ++ targetTokens label
  | .field base member => base.tokens ++ operator "." ++ memberTokens member
  | .forLoop label pattern source body =>
    labelTokens label ++ word "for" ++ pattern.tokens ++ word "in" ++ source.tokens ++ body.tokens
  | .conditional condition body otherwise =>
    word "if" ++ condition.tokens ++ body.tokens ++ otherwiseTokens otherwise
  | .index base position => base.tokens ++ brackets position.tokens
  | .inferred => word "_"
  | .binding pattern value => word "let" ++ pattern.tokens ++ operator "=" ++ value.tokens
  | .literal tokens => tokens
  | .loop label body => labelTokens label ++ word "loop" ++ body.tokens
  | .macroCall path delimiter content => path.tokens ++ operator "!" ++ [.group delimiter content]
  | .choice subject attributes arms =>
    word "match" ++ subject.tokens ++ braces (attributesTokens attributes ++ armsTokens arms)
  | .methodCall receiver method turbofish arguments trailing =>
    receiver.tokens ++ operator "." ++ word method ++ turbofish.tokens
      ++ parens (commaList (exprsTokens arguments) trailing)
  | .paren inner => parens inner.tokens
  | .path path => path.tokens
  | .range lower closed upper =>
    optionTokens lower ++ operator (if closed then "..=" else "..") ++ optionTokens upper
  | .rawAddress mutable target =>
    operator "&" ++ word "raw" ++ word (if mutable then "mut" else "const") ++ target.tokens
  | .reference mutable target => operator "&" ++ given mutable (word "mut") ++ target.tokens
  | .repeated element count => brackets (element.tokens ++ operator ";" ++ count.tokens)
  | .returning value => word "return" ++ optionTokens value
  | .structure path fields trailing none =>
    path.tokens ++ braces (commaList (fieldValuesTokens fields) trailing)
  | .structure path fields _ (some base) =>
    path.tokens
      ++ braces (commaList (fieldValuesTokens fields) true ++ operator ".." ++ optionTokens base)
  | .propagate base => base.tokens ++ operator "?"
  | .tryBlock body => word "try" ++ body.tokens
  | .tuple elements trailing =>
    parens (commaList (exprsTokens elements) (trailing || elements.length == 1))
  | .unary symbol operand => operator symbol ++ operand.tokens
  | .unsafeBlock body => word "unsafe" ++ body.tokens
  | .verbatim tokens => tokens
  | .whileLoop label condition body =>
    labelTokens label ++ word "while" ++ condition.tokens ++ body.tokens
  | .yielding value => word "yield" ++ optionTokens value

def exprsTokens : List Expr → List Tokens
  | [] => []
  | value :: rest => value.tokens :: exprsTokens rest

def optionTokens : Option Expr → Tokens
  | none => []
  | some value => value.tokens

def otherwiseTokens : Option Expr → Tokens
  | none => []
  | some value => word "else" ++ value.tokens

def Block.tokens : Block → Tokens
  | .mk attributes statements => braces (attributesTokens attributes ++ statementsTokens statements)

def statementsTokens : List Statement → Tokens
  | [] => []
  | statement :: rest => statement.tokens ++ statementsTokens rest

def Statement.tokens : Statement → Tokens
  | .bind attributes pattern type value otherwise =>
    attributesTokens attributes ++ word "let" ++ pattern.tokens ++ typeAnnotation type
      ++ initialTokens value ++ elseBlockTokens otherwise ++ operator ";"
  | .item tokens => tokens
  | .expression value semicolon => value.tokens ++ given semicolon (operator ";")
  | .macroCall attributes path delimiter content semicolon =>
    attributesTokens attributes ++ path.tokens ++ operator "!" ++ [.group delimiter content]
      ++ given semicolon (operator ";")
  | .empty => operator ";"

def initialTokens : Option Expr → Tokens
  | none => []
  | some value => operator "=" ++ value.tokens

def elseBlockTokens : Option Block → Tokens
  | none => []
  | some body => word "else" ++ body.tokens

def armsTokens : List Arm → Tokens
  | [] => []
  | arm :: rest => arm.tokens ++ armsTokens rest

def Arm.tokens : Arm → Tokens
  | .mk attributes pattern guard body comma =>
    attributesTokens attributes ++ pattern.tokens ++ guardTokens guard ++ operator "=>" ++ body.tokens
      ++ given comma (operator ",")

def guardTokens : Option Expr → Tokens
  | none => []
  | some condition => word "if" ++ condition.tokens

def fieldValuesTokens : List FieldValue → List Tokens
  | [] => []
  | field :: rest => field.tokens :: fieldValuesTokens rest

def FieldValue.tokens : FieldValue → Tokens
  | .mk attributes member none => attributesTokens attributes ++ memberTokens member
  | .mk attributes member (some value) =>
    attributesTokens attributes ++ memberTokens member ++ operator ":" ++ value.tokens

end

end Endpoints
