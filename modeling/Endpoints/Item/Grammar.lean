import Endpoints.Item.Reader

/-! The grammar of source text to any depth. Each level of nesting takes at least one token, so a depth
above the number of tokens that can be held is never used up. -/

namespace Endpoints

namespace Grammar

def exhausted : Grammar where
  nested := {
    type := fun _ => .reject "nested too deeply"
    bound := .reject "nested too deeply"
    pattern := fun _ => .reject "nested too deeply"
    expression := .reject "nested too deeply"
    block := .reject "nested too deeply" }
  expression := fun _ => .reject "nested too deeply"
  unary := fun _ => .reject "nested too deeply"
  continued := fun _ _ _ => .reject "nested too deeply"
  early := .reject "nested too deeply"
  block := fun _ => .reject "nested too deeply"
  item := .reject "nested too deeply"

/-- The grammar in which what is nested is nested at most `depth` levels deep. -/
def ofDepth : Nat → Grammar
  | 0 => exhausted
  | depth + 1 => {
    nested := {
      type := fun plus tokens => Endpoints.type (ofDepth depth).nested plus tokens
      bound := fun tokens => Endpoints.bound (ofDepth depth).nested false false tokens
      pattern := fun alternatives tokens => Endpoints.pattern (ofDepth depth).nested alternatives tokens
      expression := fun tokens => (Expr.tokens <$> Endpoints.expression (ofDepth depth) true) tokens
      block := fun tokens => (Block.tokens <$> Endpoints.block (ofDepth depth) true) tokens }
    expression := fun structures tokens => Endpoints.expression (ofDepth depth) structures tokens
    unary := fun structures tokens => Endpoints.unary (ofDepth depth) structures tokens
    continued := fun left structures base tokens =>
      Endpoints.continued (ofDepth depth) left structures base tokens
    early := fun tokens => Endpoints.early (ofDepth depth) tokens
    block := fun inner tokens => Endpoints.block (ofDepth depth) inner tokens
    item := fun tokens => (Item.tokens <$> Endpoints.item (ofDepth depth)) tokens }

/-- More levels than tokens fit into any memory. It is the same for all texts, so what is read in a place
does not depend on how much stands elsewhere. -/
def deepest : Nat := 0x4000000000000000

def full : Grammar := ofDepth deepest

end Grammar

def Tokens.readAll {α : Type} (rule : Grammar → Reader α) (tokens : Tokens) : Except ReadError α :=
  (rule Grammar.full).run tokens

/-- What is said of a text with a bracket that has no partner or with an unknown lexeme. -/
def lexicalError : ReadError := ⟨false, "cannot parse string into token stream"⟩

def readText {α : Type} (rule : Grammar → Reader α) (tokens? : String → Option Tokens) (text : String) :
    Except ReadError α :=
  match tokens? text with
  | some tokens => tokens.readAll rule
  | none => .error lexicalError

end Endpoints
