import Endpoints.Builder.Generate
import Endpoints.Layout.Source

/-! Generated source files: a banner and the generated code in lines. -/

namespace Endpoints.Builder

/-- The first lines of every generated file. -/
def banner : String :=
  "// CODE GENERATED AUTOMATICALLY WITH RESTGEN\n// THIS FILE SHOULD NOT BE EDITED BY HAND\n\n"

def file (tokens : Tokens) : Except GenerationError String :=
  match Layout.file tokens with
  | .ok (.ok text) => .ok (banner ++ text)
  | .ok (.error what) => .error (.noLayout what)
  | .error error => .error (.unreadable error)

def fileOfInterface (interface : Interface) (runtime : Path) : Except GenerationError String := do
  file (← ofInterface interface runtime)

/-- The file for all tagged interfaces of a source, if there is one. -/
def fileOfSource (source : String) (runtime : Path) : Except GenerationError (Option String) := do
  let read ← (SourceFile.read source).mapError .unreadable
  let tokens ← ofInterfaces runtime read.scan
  if read.scan.isEmpty then return none else return some (← file tokens)

end Endpoints.Builder
