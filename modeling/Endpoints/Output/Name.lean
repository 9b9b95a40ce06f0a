import Endpoints.File.Path

/-! The names of generated files. -/

namespace Endpoints.Output

/-- What ends the name of a generated file, in place of an extension. -/
def ending : String := "_restgen.rs"

def isGenerated (name : String) : Bool := ending.toList.isSuffixOf name.toList

def nameFor (name : String) : String := FileName.stem name ++ ending

/-- The path of what is generated for a file: beside the file, or in a folder that is given. -/
def pathFor (input : FilePath) (folder : Option FilePath) : FilePath :=
  let name := match input.fileName? with
    | some name => nameFor name
    | none => ending
  match folder with
  | some folder => folder.join name
  | none => input.withFileName name

def isInput (name : String) : Bool := FileName.extension? name = some "rs" && !isGenerated name

end Endpoints.Output
