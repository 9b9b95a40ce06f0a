import Endpoints.File.Tree

/-! What paths lead to, and reading and writing there. Links are followed, up to a fixed number of them. -/

namespace Endpoints

/-- Why a path cannot be used as asked. -/
inductive FileFault where
  | missing
  | alreadyThere
  | notFolder
  | isFolder
  | nameTooLong
  | tooManyLinks
  | notText
  | endsEarly
  | other (reason : String)
  deriving DecidableEq, Repr

def FileFault.message : FileFault → String
  | .missing => "No such file or directory (os error 2)"
  | .alreadyThere => "File exists (os error 17)"
  | .notFolder => "Not a directory (os error 20)"
  | .isFolder => "Is a directory (os error 21)"
  | .nameTooLong => "File name too long (os error 36)"
  | .tooManyLinks => "Too many levels of symbolic links (os error 40)"
  | .notText => "stream did not contain valid UTF-8"
  | .endsEarly => "file name contained an unexpected NUL byte"
  | .other reason => reason

def FileName.maxBytes : Nat := 255

def FilePath.maxBytes : Nat := 4095

def FileName.isTooLong (name : String) : Bool := name.utf8ByteSize > FileName.maxBytes

/-- Why a path leads nowhere in any tree. -/
def FilePath.fault? (path : FilePath) : Option FileFault :=
  if path.text.toList.contains '\x00' then some .endsEarly
  else if path.isEmpty then some .missing
  else if path.text.utf8ByteSize > FilePath.maxBytes then some .nameTooLong
  else none

/-- What a path leads to: a folder, a file, or a place in a folder where nothing is yet. -/
inductive Spot where
  | folder (place : Place)
  | file (place : Place) (content : Bytes)
  | vacant (place : Place)
  deriving DecidableEq, Repr

namespace FileTree

def maxLinks : Nat := 40

/-- Goes along parts from a folder. `follow` goes on behind a link. -/
def reachFrom (tree : FileTree) (follow : Place → List String → Except FileFault Spot) (folder : Place) :
    List String → Except FileFault Spot
  | [] => .ok (.folder folder)
  | part :: rest =>
    if FilePath.isIdle part then reachFrom tree follow folder rest
    else if part = ".." then reachFrom tree follow folder.dropLast rest
    else if FileName.isTooLong part then .error .nameTooLong
    else
      let place := folder ++ [part]
      match tree.get? place with
      | some .folder => reachFrom tree follow place rest
      | some (.file content) => if rest = [] then .ok (.file place content) else .error .notFolder
      | some (.link target) =>
        match target.parts with
        | "" :: below => follow [] (below ++ rest)
        | parts => follow folder (parts ++ rest)
      | none => if rest = [] then .ok (.vacant place) else .error .missing

/-- Goes along parts from a folder, behind no more than a number of links. -/
def reachWithin (tree : FileTree) : Nat → Place → List String → Except FileFault Spot
  | 0 => tree.reachFrom fun _ _ => .error .tooManyLinks
  | links + 1 => tree.reachFrom (tree.reachWithin links)

def reach (tree : FileTree) (parts : List String) : Except FileFault Spot :=
  tree.reachWithin maxLinks [] parts

def spot (tree : FileTree) (path : FilePath) : Except FileFault Spot :=
  match path.fault? with
  | some fault => .error fault
  | none => tree.reach path.parts

def isFolder (tree : FileTree) (path : FilePath) : Bool :=
  match tree.spot path with
  | .ok (.folder _) => true
  | _ => false

def read (tree : FileTree) (path : FilePath) : Except FileFault Bytes :=
  match tree.spot path with
  | .error fault => .error fault
  | .ok (.folder _) => .error .isFolder
  | .ok (.vacant _) => .error .missing
  | .ok (.file _ content) => .ok content

/-- Puts a content into a file, which need not be there yet. -/
def write (tree : FileTree) (path : FilePath) (content : Bytes) : Except FileFault FileTree :=
  match tree.spot path with
  | .error fault => .error fault
  | .ok (.folder _) => .error .isFolder
  | .ok (.vacant place) => .ok (tree.put place (.file content))
  | .ok (.file place _) => .ok (tree.put place (.file content))

/-- The folder that a new entry goes into, and the name of the entry there. The entry is not followed if it
is a link. Slashes at the end of the path say nothing. -/
def opening (tree : FileTree) (path : FilePath) : Except FileFault (Place × String) :=
  match path.fault? with
  | some fault => .error fault
  | none =>
    match path.parts.reverse.dropWhile (· = "") with
    | [] => .error .alreadyThere
    | name :: outer =>
      match tree.reach outer.reverse with
      | .error fault => .error fault
      | .ok (.vacant _) => .error .missing
      | .ok (.file ..) => .error .notFolder
      | .ok (.folder place) =>
        if name = "." ∨ name = ".." then .error .alreadyThere
        else if FileName.isTooLong name then .error .nameTooLong
        else .ok (place, name)

/-- Puts an entry where none is yet. -/
def add (tree : FileTree) (path : FilePath) (entry : Entry) : Except FileFault FileTree :=
  match tree.opening path with
  | .error fault => .error fault
  | .ok (folder, name) =>
    if tree.get? (folder ++ [name]) = none then .ok (tree.put (folder ++ [name]) entry)
    else .error .alreadyThere

def discard (tree : FileTree) (path : FilePath) : Except FileFault FileTree :=
  match tree.opening path with
  | .error fault => .error fault
  | .ok (folder, name) =>
    if tree.get? (folder ++ [name]) = none then .error .missing
    else .ok (tree.remove (folder ++ [name]))

/-- Makes the first of some folders, which holds none of the others: each lies in the next. Folders that were
made stay if a later one cannot be made. -/
def makeOutward (tree : FileTree) : List FilePath → FileTree × Except FileFault Unit
  | [] => (tree, .ok ())
  | path :: outer =>
    match tree.add path .folder with
    | .ok made => (made, .ok ())
    | .error .missing =>
      match tree.makeOutward outer with
      | (made, .error fault) => (made, .error fault)
      | (made, .ok ()) =>
        match made.add path .folder with
        | .ok last => (last, .ok ())
        | .error fault => (made, if made.isFolder path then .ok () else .error fault)
    | .error fault => (tree, if tree.isFolder path then .ok () else .error fault)

/-- Makes a folder and those around it that are missing. -/
def makeFolders (tree : FileTree) (path : FilePath) : FileTree × Except FileFault Unit :=
  tree.makeOutward path.outward

end FileTree

end Endpoints
