import Endpoints.Item.Grammar
import Endpoints.Token.Lexer

/-! Reading source text: whole files, and single items, methods and paths. -/

namespace Endpoints
open Reader

/-- What follows a first line that names an interpreter. A line that starts an attribute names none. -/
def dropInterpreter (text : List Char) : List Char :=
  match text with
  | '#' :: '!' :: rest =>
    if (Lexer.skip (rest.length + 1) rest).head? == some '[' then text
    else text.dropWhile (· ≠ '\n')
  | _ => text

namespace SourceFile

def ofTokens (tokens : Tokens) : Except ReadError SourceFile :=
  tokens.readAll sourceFile

def read (source : String) : Except ReadError SourceFile :=
  let text := dropInterpreter (Lexer.dropByteOrderMark source.toList)
  readText sourceFile Lexer.tokens? (String.ofList text)

end SourceFile

def readTrait (text : String) : Except ReadError TraitDeclaration :=
  readText traitDeclaration Lexer.tokens? text

/-- The method that a text declares as a trait does. -/
def readMethod (text : String) : Except ReadError TraitMethod :=
  readText traitMethod Lexer.tokens? text

def readPath (text : String) : Except ReadError Path :=
  readText (fun grammar => path grammar.nested false) Lexer.tokens? text

def defaultRuntime : Path := .mk true [.mk "restgen" .none, .mk "restclient" .none]

end Endpoints
