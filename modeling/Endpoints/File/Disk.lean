import Endpoints.File.Walk

/-! What a generator asks of the place where files are kept. A `FileTree` answers it as a state. -/

namespace Endpoints

structure Disk (m : Type → Type) where
  isFolder : FilePath → m Bool
  filesBelow : FilePath → m (Except WalkFault (List Place))
  read : FilePath → m (Except FileFault Bytes)
  write : FilePath → Bytes → m (Except FileFault Unit)
  makeFolders : FilePath → m (Except FileFault Unit)

namespace Disk

variable {m : Type → Type} [Monad m]

def readText (disk : Disk m) (path : FilePath) : m (Except FileFault String) := do
  return match ← disk.read path with
  | .error fault => .error fault
  | .ok content =>
    match textOf? content with
    | some text => .ok text
    | none => .error .notText

end Disk

/-- A tree of files that changes as it is written to. -/
def FileTree.disk : Disk (StateM FileTree) where
  isFolder path := do return (← get).isFolder path
  filesBelow path := do return (← get).filesBelow path
  read path := do return (← get).read path
  write path content := do
    match (← get).write path content with
    | .error fault => return .error fault
    | .ok changed =>
      set changed
      return .ok ()
  makeFolders path := do
    let (changed, result) := (← get).makeFolders path
    set changed
    return result

end Endpoints
