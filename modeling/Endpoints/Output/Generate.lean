import Endpoints.Builder.Source
import Endpoints.File.Disk
import Endpoints.Output.Name
import Endpoints.Output.Outcome

/-! Generating one output for each input file. Inputs that are folders stand for the files below them. -/

namespace Endpoints.Output

variable {m : Type → Type} [Monad m] (disk : Disk m)

/-- The inputs that a path stands for: itself, or the files below the folder that it leads to, without those
that were generated, in the order of the names on the way. -/
def inputsAt (path : FilePath) : ExceptT Failure m (List FilePath) := do
  if ← disk.isFolder path then
    match ← disk.filesBelow path with
    | .error fault => throw (.search path fault)
    | .ok places =>
      let inputs := places.filter fun place => place.getLast?.any isInput
      return (inputs.mergeSort Place.upTo).map path.joinAll
  else return [path]

def collect : List FilePath → ExceptT Failure m (List FilePath)
  | [] => return []
  | path :: rest => do
    let first ← inputsAt disk path
    return first ++ (← collect rest)

def write (output : FilePath) (folder : Option FilePath) (code : String) : ExceptT Failure m Unit := do
  if let some folder := folder then
    if let .error fault ← disk.makeFolders folder then throw (.access folder fault)
  if let .error fault ← disk.write output (bytesOf code) then throw (.access output fault)

/-- Generates the output for an input and writes it, unless it is there already. With `check`, nothing is
written. An output that cannot be read counts as different. -/
def process (runtime : Path) (folder : Option FilePath) (check : Bool) (input : FilePath) :
    ExceptT Failure m Outcome := do
  match ← disk.readText input with
  | .error fault => throw (.access input fault)
  | .ok source =>
    match Builder.fileOfSource source runtime with
    | .error error => throw (.generation error)
    | .ok none => return .skipped
    | .ok (some code) =>
      let output := pathFor input folder
      if (← disk.readText output).toOption = some code then return .unchanged output
      else if check then return .stale output
      else
        write disk output folder code
        return .written output

end Endpoints.Output
