import Endpoints.Command.Run

/-! The command, on the files of the system. -/

namespace Endpoints.Command

/-- Why the system refuses. -/
def systemFault : IO.Error → FileFault
  | .noFileOrDirectory .. => .missing
  | .alreadyExists .. => .alreadyThere
  | .inappropriateType _ code _ => if code = 20 then .notFolder else .isFolder
  | error => .other (toString error)

/-- An answer of the system, or why there is none. -/
def answered {α : Type} (action : IO α) : IO (Except FileFault α) := do
  try return .ok (← action) catch error => return .error (systemFault error)

def systemIsFolder (path : FilePath) : IO Bool := do
  match ← answered (IO.FS.realPath path.text) with
  | .ok real => real.isDir
  | .error _ => return false

/-- The files below a folder, while the folders in `opened` are being walked. -/
partial def systemWalk (start : FilePath) (opened : List (String × Place)) (place : Place) :
    IO (Except WalkFault (List Place)) := do
  match ← answered (IO.FS.realPath (start.joinAll place).text) with
  | .error fault => return .error (.unreachable place fault)
  | .ok folder =>
    let opened := (folder.toString, place) :: opened
    let mut found := []
    for inside in (← folder.readDir) do
      let below := place ++ [inside.fileName]
      match ← answered (IO.FS.realPath (start.joinAll below).text) with
      | .error fault => return .error (.unreachable below fault)
      | .ok real =>
        if ← real.isDir then
          if let some (_, around) := opened.find? (·.1 = real.toString) then
            return .error (.loop below around)
          match ← systemWalk start opened below with
          | .error fault => return .error fault
          | .ok files => found := files ++ found
        else found := below :: found
    return .ok found

def systemDisk : Disk IO where
  isFolder := systemIsFolder
  filesBelow path := systemWalk path [] []
  read path := answered do return (← IO.FS.readBinFile path.text).toList
  write path content := answered (IO.FS.writeBinFile path.text ⟨content.toArray⟩)
  makeFolders path := answered (IO.FS.createDirAll path.text)

end Endpoints.Command

/-- Runs the command. -/
def main (arguments : List String) : IO UInt32 := do
  let report ← Endpoints.Command.run Endpoints.Command.systemDisk arguments
  IO.print report.output
  IO.eprint report.errors
  return report.exitCode.toUInt32
