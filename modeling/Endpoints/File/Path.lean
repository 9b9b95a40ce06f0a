import Endpoints.Text.Parts

/-! Paths of files as they are written. A path keeps all its parts, also those that lead nowhere, so that
it is shown as it was given; `fileName?`, `parent?` and `join` see through them. -/

namespace Endpoints

/-- The parts of a path between its slashes. A path from the top starts with an empty part. -/
structure FilePath where
  parts : List String
  deriving DecidableEq, Repr

namespace FilePath

def ofText (text : String) : FilePath :=
  ⟨(Text.splitAt (· == '/') text.toList).map String.ofList⟩

def text (path : FilePath) : String := "/".intercalate path.parts

def empty : FilePath := ⟨[""]⟩

/-- Whether a part stays in the folder that it is read in. -/
def isIdle (part : String) : Bool := part == "" || part == "."

def isEmpty (path : FilePath) : Bool := path.parts == [] || path.parts == [""]

def reversed (path : FilePath) : List String := path.parts.reverse.dropWhile isIdle

/-- The name that a path ends with. A path that ends with `..` or at its start has none. -/
def fileName? (path : FilePath) : Option String :=
  match path.reversed with
  | [] => none
  | name :: _ => if name = ".." then none else some name

/-- The start of a path, if no part leads from there: the top, the folder that the path is read in, or
nothing. -/
def start (path : FilePath) : FilePath :=
  match path.parts with
  | "" :: _ :: _ => ⟨["", ""]⟩
  | "." :: _ => ⟨["."]⟩
  | _ => empty

/-- The path to the folder that holds what a path leads to. -/
def parent? (path : FilePath) : Option FilePath :=
  match path.reversed with
  | _ :: outer =>
    match outer.dropWhile isIdle with
    | [] => some path.start
    | kept => some ⟨kept.reverse⟩
  | [] => if path.start = ⟨["."]⟩ then some empty else none

def join (path : FilePath) (name : String) : FilePath :=
  if path.parts.getLast? = some "" then ⟨path.parts.dropLast ++ [name]⟩ else ⟨path.parts ++ [name]⟩

def joinAll (path : FilePath) (names : List String) : FilePath := names.foldl join path

def withFileName (path : FilePath) (name : String) : FilePath :=
  match path.fileName?, path.parent? with
  | some _, some parent => parent.join name
  | _, _ => path.join name

/-- A path, the folder that holds it, and so on outward, down to the first that says something. -/
def outward (path : FilePath) : List FilePath := within (path.parts.length + 1) path
where
  within : Nat → FilePath → List FilePath
    | 0, _ => []
    | depth + 1, path =>
      if path.isEmpty then []
      else path :: (match path.parent? with
        | some parent => within depth parent
        | none => [])

end FilePath

namespace FileName

/-- A name before and after its last dot, unless the dot is its first character or it has none. -/
def split? (name : String) : Option (String × String) :=
  let (extension, before) := name.toList.reverse.span (· ≠ '.')
  match before with
  | _ :: c :: rest => some (String.ofList (c :: rest).reverse, String.ofList extension.reverse)
  | _ => none

def stem (name : String) : String :=
  match split? name with
  | some (before, _) => before
  | none => name

def extension? (name : String) : Option String := (split? name).map (·.2)

end FileName

end Endpoints
