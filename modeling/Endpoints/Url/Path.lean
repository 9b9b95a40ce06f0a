import Endpoints.Url.Address
import Endpoints.Url.Percent

/-! Paths in URLs: segments after slashes. -/

namespace Endpoints.UrlPath

abbrev Segment := List Char

/-- A dot, written as it is or by its number. -/
def dropDot? : List Char → Option (List Char)
  | '.' :: rest => some rest
  | '%' :: '2' :: 'e' :: rest | '%' :: '2' :: 'E' :: rest => some rest
  | _ => none

/-- A segment that stays where it is. -/
def isHere (segment : Segment) : Bool := dropDot? segment == some []

/-- A segment that goes up. -/
def isUp (segment : Segment) : Bool := (dropDot? segment).any isHere

/-- A letter and a colon or bar. -/
def isDrive : Segment → Bool
  | [letter, mark] => letter.isAlpha && (mark == ':' || mark == '|')
  | _ => false

/-- Adds a segment behind others, which are reversed. Going up stops at a drive. -/
def push (above : List Segment) (segment : Segment) : List Segment :=
  if isUp segment then
    match above with
    | [] => []
    | last :: rest => if isDrive last then last :: rest else rest
  else if isHere segment then above
  else segment :: above

/-- The segments that remain, in order. A last segment that stays or goes up leaves an empty one. -/
def walk (above : List Segment) : List Segment → List Segment
  | [] => above.reverse
  | [last] =>
    if isUp last || isHere last then ([] :: push above last).reverse else (push above last).reverse
  | segment :: rest => walk (push above segment) rest

def joined (segments : List Segment) : List Char := segments.flatMap ('/' :: ·)

def ofSegments (segments : List Segment) : List Char :=
  joined (walk [] (segments.map (Percent.encode Percent.inPath)))

def isSlash (c : Char) : Bool := c == '/' || c == '\\'

/-- A path of a scheme of the web, where a backslash is a slash. -/
def readWeb (text : List Char) : List Char :=
  match text with
  | [] => ['/']
  | c :: rest => ofSegments (Text.splitAt isSlash (if isSlash c then rest else text))

/-- A path of another scheme, which may be empty. -/
def readOther (text : List Char) : List Char :=
  match text with
  | [] => []
  | c :: rest => ofSegments (Text.splitAt (· == '/') (if c == '/' then rest else text))

/-- A drive with its colon. -/
def colonDrive (segment : Segment) : Segment :=
  match segment with
  | [letter, '|'] => if letter.isAlpha then [letter, ':'] else segment
  | _ => segment

/-- A path of a file: slashes at its front count as one, and a drive is written with a colon. -/
def readFile (text : List Char) : List Char :=
  let path := ofSegments ((Text.splitAt isSlash (text.dropWhile isSlash)).map colonDrive)
  '/' :: path.dropWhile (· == '/')

def startsWithDrive (path : List Char) : Bool :=
  isDrive ((path.drop 1).takeWhile (· != '/'))

end Endpoints.UrlPath
