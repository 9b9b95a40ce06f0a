import Endpoints.Builder.Generate
import Endpoints.Expansion.Argument

/-! Generating a builder in place of an attribute on a trait. Faults stand in the code as errors that its
compiler reports. The trait is kept, so that its uses are not reported too. -/

namespace Endpoints.Expansion
open Tokens

/-- Code that makes its compiler report a message. -/
def report (message : String) : Tokens :=
  operator "::" ++ word "core" ++ operator "::" ++ word "compile_error" ++ operator "!"
    ++ braces (Builder.text message)

def readTrait (item : Tokens) : Except ReadError TraitDeclaration :=
  item.readAll traitDeclaration

/-- What replaces a trait that an attribute with the given arguments stands on. -/
def expand (arguments item : Tokens) : Except GenerationError Tokens :=
  match AttributeArgument.runtime arguments with
  | .error faults => .ok (faults.flatMap fun fault => report fault.message)
  | .ok runtime =>
    match readTrait item with
    | .error error => .ok (report error.message)
    | .ok declaration =>
      match Builder.ofTrait declaration runtime with
      | .ok generated => .ok (declaration.tokens ++ generated)
      | .error (.endpoint error) => .ok (declaration.tokens ++ report error.message)
      | .error error => .error error

end Endpoints.Expansion
