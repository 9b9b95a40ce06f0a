import Endpoints.Item.Source
import Endpoints.Layout.Item
import Endpoints.Layout.Render

/-! The layout of a source file. What is kept as tokens inside of it is read where it stands; each level
of this takes at least one token, so the depth of the grammar is never used up. -/

namespace Endpoints.Layout
open Reader
open Doc (word separated)

def plainDocs (tokens : Tokens) : Docs := word tokens.text

/-- What a rule of the grammar reads in tokens, laid out. -/
def readDocs {α : Type} (rule : Grammar → Reader α) (docs : α → Docs) (tokens : Tokens) : Docs :=
  match tokens.readAll rule with
  | .ok value => docs value
  | .error _ => plainDocs tokens

/-- The names after `for`. -/
def binderParameters (grammar : Grammar) : Reader (List GenericParameter) := do
  word "for"
  operator "<"
  let parameters ← separatedUntil (·.startsOperator ">") "," (genericParameter grammar)
  operator ">"
  return parameters.items

/-- The layout of what is kept as tokens, to a depth. -/
def keptTo : Nat → Kept
  | 0 => ⟨plainDocs, plainDocs, plainDocs, plainDocs⟩
  | depth + 1 => {
    expression := fun tokens =>
      readDocs (fun grammar => expression grammar true) (exprDocs (keptTo depth) .plain) tokens
    body := fun tokens =>
      if tokens.isEmpty then []
      else readDocs statements (statementsDocs (keptTo depth)) tokens
    attributes := fun tokens =>
      if tokens.isEmpty then []
      else readDocs (fun grammar => outerAttributes grammar.nested) (outerDocs (keptTo depth)) tokens
    binder := fun tokens =>
      if tokens.isEmpty then []
      else readDocs binderParameters (fun parameters =>
        Doc.word "for<" ++ separated (Doc.word ", ")
          (parameters.map fun parameter => (genericParameterDocs (keptTo depth) parameter).2)
          ++ Doc.word "> ") tokens }

/-- The lines of a source file, or what it holds that has no layout. -/
def file (tokens : Tokens) : Except ReadError (Except String String) := do
  let file ← SourceFile.ofTokens tokens
  return render (fileDocs (keptTo Grammar.deepest) file)

end Endpoints.Layout
