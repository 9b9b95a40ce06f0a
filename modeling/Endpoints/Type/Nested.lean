import Endpoints.Token.Reader
import Endpoints.Pattern.Basic

/-! Readers for what is nested in what is being read. They are the same grammar one level deeper, so
that reading is well founded on the depth. -/

namespace Endpoints
open Reader

/-- A type is read with or without bounds joined by `+`, a pattern with or without alternatives.
Expressions and blocks are read as tokens. -/
structure Nested where
  type : (plus : Bool) → Reader Ty
  bound : Reader Bound
  pattern : (alternatives : Bool) → Reader Pattern
  expression : Reader Tokens
  block : Reader Tokens

def pathWords : List String := ["super", "self", "crate", "try"]

def startsPathWord : Tokens → Bool
  | .ident name :: _ => ["super", "self", "Self", "crate"].contains name
  | _ => false

/-- Words with `::` between them, and whether they start with `::`. -/
def pathOfWords : Reader (Bool × List String) := do
  let isGlobal ← operator? "::"
  if !(← ahead fun tokens => tokens.startsName || startsPathWord tokens) then
    let _ ← name
  let words ← chainedUntil (fun tokens => !(tokens.startsName || startsPathWord tokens)) "::" anyWord
  if words.trailing then fail "expected path segment after `::`"
  return (isGlobal, words.items)

def plainPath : Reader Tokens := do
  let (isGlobal, words) ← pathOfWords
  return Tokens.given isGlobal (Tokens.operator "::")
    ++ Tokens.separated (Tokens.operator "::") (words.map Tokens.word)

def Path.ofWords (isGlobal : Bool) (words : List String) : Path :=
  .mk isGlobal (words.map fun word => .mk word .none)

end Endpoints
