import Endpoints.File.Access

/-! The files below a folder, also behind links. A link to a folder that is being walked ends the walk. -/

namespace Endpoints

/-- Why a walk ends early. Places are told from the folder where it started. -/
inductive WalkFault where
  /-- A link leads back to a folder that it lies in. -/
  | loop (link folder : Place)
  | unreachable (place : Place) (fault : FileFault)
  deriving DecidableEq, Repr

def WalkFault.place : WalkFault → Place
  | .loop link _ => link
  | .unreachable place _ => place

/-- Tells a fault of a walk that started at a path, and then what is behind it. -/
def WalkFault.messages (start : FilePath) : WalkFault → List String
  | .loop link folder =>
    ["File system loop found: " ++ (start.joinAll link).text ++ " points to an ancestor "
      ++ (start.joinAll folder).text]
  | .unreachable place fault =>
    ["IO error for operation on " ++ (start.joinAll place).text ++ ": " ++ fault.message, fault.message]

namespace FileTree

/-- A folder on the way of a walk. -/
structure Opened where
  /-- Where the walk sees it. -/
  shown : Place
  place : Place

/-- The folders from one down to the one that holds an entry, the innermost first. -/
def openedFor (shown folder : Place) : Place → List Opened
  | [] => []
  | [_] => [⟨shown, folder⟩]
  | name :: rest => openedFor (shown ++ [name]) (folder ++ [name]) rest ++ [⟨shown, folder⟩]

/-- The files below a folder that the walk sees at `shown`, while `outer` is open. -/
def walkWithin (tree : FileTree) : Nat → List Opened → Place → Place → Except WalkFault (List Place)
  | 0, _, _, _ => .ok []
  | depth + 1, outer, shown, folder => do
    let found ← (tree.below folder).mapM fun (names, entry) =>
      match entry with
      | .file _ => .ok [shown ++ names]
      | .folder => .ok []
      | .link _ =>
        match tree.reach (folder ++ names) with
        | .error fault => .error (.unreachable (shown ++ names) fault)
        | .ok (.vacant _) => .error (.unreachable (shown ++ names) .missing)
        | .ok (.file ..) => .ok [shown ++ names]
        | .ok (.folder place) =>
          let opened := openedFor shown folder names ++ outer
          match opened.find? (·.place = place) with
          | some around => .error (.loop (shown ++ names) around.shown)
          | none => tree.walkWithin depth opened (shown ++ names) place
    return found.flatten

/-- The files below the folder that a path leads to. No folder is behind more links than there are entries,
since those that are open differ. -/
def filesBelow (tree : FileTree) (path : FilePath) : Except WalkFault (List Place) :=
  match tree.spot path with
  | .ok (.folder place) => tree.walkWithin (tree.entries.length + 2) [] [] place
  | .ok (.file ..) => .ok [[]]
  | .ok (.vacant _) => .error (.unreachable [] .missing)
  | .error fault => .error (.unreachable [] fault)

end FileTree

end Endpoints
