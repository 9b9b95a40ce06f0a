import Endpoints.Text.Casing

/-! Snake case: the words of a name in lower case, joined by underscores. A word ends before an
upper-case letter that follows a lower-case one, before the last of several upper-case letters when a
lower-case one follows, between a letter and a digit, and at an underscore, a hyphen or a space. -/

namespace Endpoints.Text.SnakeCase

/-- A character with the marks that belong to it. -/
structure Cluster where
  base : Char
  marks : List Char

def Cluster.characters (cluster : Cluster) : List Char :=
  cluster.base :: cluster.marks

/-- Groups each character with the marks after it. -/
def clusters : List Char → List Cluster
  | [] => []
  | c :: rest =>
    match clusters rest with
    | [] => [⟨c, []⟩]
    | next :: later =>
      if isCombiningMark next.base then ⟨c, next.characters⟩ :: later
      else ⟨c, []⟩ :: next :: later

def Cluster.varies (cluster : Cluster) : Bool :=
  cluster.characters.any fun c => changesLower c || changesUpper c

def Cluster.isUpper (cluster : Cluster) : Bool :=
  cluster.varies && !cluster.characters.any changesUpper

def Cluster.isLower (cluster : Cluster) : Bool :=
  cluster.varies && !cluster.characters.any changesLower

def Cluster.isDigit (cluster : Cluster) : Bool :=
  cluster.characters.all Char.isDigit

def Cluster.isSeparator (cluster : Cluster) : Bool :=
  cluster.marks.isEmpty && (cluster.base == '_' || cluster.base == '-' || cluster.base == ' ')

/-- Whether a word may end between two neighbours. -/
def endsBetween (left right : Cluster) : Bool :=
  (left.isLower && right.isUpper) || (left.isUpper && right.isDigit)
    || (left.isDigit && right.isUpper) || (left.isDigit && right.isLower)
    || (left.isLower && right.isDigit)

/-- Whether a run of capitals ends before `right`, which starts a new word with `next`. -/
def endsAcronym (left right : Cluster) (next : Option Cluster) : Bool :=
  left.isUpper && right.isUpper && next.any Cluster.isLower

def wordsFrom (previous : Option Cluster) (word : List Cluster) :
    List Cluster → List (List Cluster)
  | [] => [word.reverse]
  | cluster :: rest =>
    if cluster.isSeparator then word.reverse :: wordsFrom (some cluster) [] rest
    else if previous.any fun left =>
        endsBetween left cluster || endsAcronym left cluster rest.head? then
      word.reverse :: wordsFrom (some cluster) [cluster] rest
    else wordsFrom (some cluster) (cluster :: word) rest

def words (name : String) : List String :=
  ((wordsFrom none [] (clusters name.toList)).filter (!·.isEmpty)).map fun word =>
    String.ofList (word.flatMap Cluster.characters)

def convert (name : String) : String :=
  String.intercalate "_" ((words name).map lowercase)

end Endpoints.Text.SnakeCase
