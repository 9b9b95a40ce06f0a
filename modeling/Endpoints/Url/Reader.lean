import Endpoints.Url.Basic
import Endpoints.Url.Path

/-! Reading URLs. -/

namespace Endpoints.Url

/-- A text without blanks and controls at its ends, and without tabs and line breaks. -/
def clean (text : String) : List Char :=
  let isOuter (c : Char) : Bool := c.toNat ≤ 0x20
  let trimmed := ((text.toList.dropWhile isOuter).reverse.dropWhile isOuter).reverse
  trimmed.filter fun c => !(c == '\t' || c == '\n' || c == '\r')

def isSchemeCharacter (c : Char) : Bool :=
  c.isAlphanum || c == '+' || c == '-' || c == '.'

def scheme? (text : List Char) : Option (List Char × List Char) :=
  match text.takeWhile isSchemeCharacter, text.dropWhile isSchemeCharacter with
  | first :: others, ':' :: rest =>
    if first.isAlpha then some ((first :: others).map Char.toLower, rest) else none
  | _, _ => none

def cutAt (mark : Char) (text : List Char) : List Char × Option (List Char) :=
  (text.takeWhile (· != mark), (text.dropWhile (· != mark)).tail?)

/-- What stands before the last `@`, where there is one, and what stands after it. -/
def cutUserinfo (text : List Char) : Option (List Char) × List Char :=
  if text.contains '@' then
    (some ((text.reverse.dropWhile (· != '@')).drop 1).reverse,
      (text.reverse.takeWhile (· != '@')).reverse)
  else (none, text)

/-- The host, and the rest from the colon before the port. A colon between brackets is part of the
host. -/
def cutHost (inside : Bool) : List Char → List Char × List Char
  | [] => ([], [])
  | c :: rest =>
    if c == ':' && !inside then ([], c :: rest)
    else
      let (host, after) := cutHost ((inside || c == '[') && c != ']') rest
      (c :: host, after)

def readPort (web : Bool) (text : List Char) : Except UrlError (Option Nat × List Char) :=
  let digits := text.takeWhile Char.isDigit
  let rest := text.dropWhile Char.isDigit
  if rest ≠ [] ∧ (web ∨ rest.head? ≠ some '\\') then .error .badPort
  else match digits with
    | [] => .ok (none, rest)
    | _ =>
      let port := digits.foldl (fun value c => value * 10 + (c.toNat - 48)) 0
      if port < 65536 then .ok (some port, rest) else .error .badPort

def encodeUserinfo (text : List Char) : List Char × Option (List Char) :=
  let (username, password) := cutAt ':' text
  let encode := Percent.encode Percent.inUserinfo
  (encode username, (password.filter (· ≠ [])).map encode)

/-- The authority that a text spells, and what of the text belongs to the path. `followed` tells whether
anything stands after the text. -/
def readAuthority (scheme : List Char) (followed : Bool) (text : List Char) :
    Except UrlError (Authority × List Char) := do
  let web := (impliedPort? scheme).isSome
  let (userinfo, place) := cutUserinfo text
  if userinfo = some [] ∧ place = [] ∧ followed then throw .emptyHost
  let (username, password) := encodeUserinfo (userinfo.getD [])
  let (hostText, afterHost) := cutHost false place
  if web ∧ hostText = [] then throw .emptyHost
  let host ← if web then Host.read hostText else Host.readOpaque hostText
  if host = .empty ∧ afterHost ≠ [] then throw .emptyHost
  let (port, rest) ← readPort web (afterHost.drop 1)
  let authority : Authority :=
    { username, password, host, port := port.filter (some · != impliedPort? scheme) }
  if host = .empty ∧ authority.hasUserinfo then throw .emptyHost
  return (authority, rest)

/-- What follows the scheme of a file: a host after two slashes, and a path. -/
def readFile (text : List Char) : Except UrlError (Host × List Char) :=
  match text with
  | first :: second :: rest =>
    if UrlPath.isSlash first && UrlPath.isSlash second then
      let hostText := rest.takeWhile (!UrlPath.isSlash ·)
      if hostText = [] ∨ UrlPath.isDrive hostText then .ok (.empty, UrlPath.readFile rest)
      else do
        let path := UrlPath.readFile (rest.dropWhile (!UrlPath.isSlash ·))
        let host ← Host.read hostText
        let isLocal := host = .name "localhost".toList ∨ UrlPath.startsWithDrive path
        return (if isLocal then .empty else host, path)
    else .ok (.empty, UrlPath.readFile text)
  | _ => .ok (.empty, UrlPath.readFile text)

/-- Authority and path of a URL. `followed` tells whether a query or a fragment follows. -/
def readHierarchy (scheme : List Char) (followed : Bool) (text : List Char) :
    Except UrlError (Option Authority × List Char) := do
  let divided (isEnd : Char → Bool) (rest : List Char) :=
    let path := rest.dropWhile (!isEnd ·)
    (readAuthority scheme (followed || path ≠ []) (rest.takeWhile (!isEnd ·))).map fun (authority, more) =>
      (authority, more ++ path)
  if scheme = "file".toList then
    let (host, path) ← readFile text
    return (some ⟨[], none, host, none⟩, path)
  else if (impliedPort? scheme).isSome then
    let (authority, path) ← divided UrlPath.isSlash (text.dropWhile UrlPath.isSlash)
    return (some authority, UrlPath.readWeb path)
  else match text with
    | '/' :: '/' :: rest =>
      let (authority, path) ← divided (· == '/') rest
      return (some authority, UrlPath.readOther path)
    | '/' :: _ => return (none, UrlPath.readOther text)
    | _ => return (none, Percent.encode Percent.controls text)

def read (text : String) : Except UrlError Url :=
  match scheme? (clean text) with
  | none => .error .noScheme
  | some (scheme, rest) => do
    let (body, fragment) := cutAt '#' rest
    let (hierarchy, query) := cutAt '?' body
    let (authority, path) ← readHierarchy scheme (query.isSome || fragment.isSome) hierarchy
    return {
      scheme, authority, path
      query := query.map (Percent.encode (reservedInQuery scheme))
      fragment := fragment.map (Percent.encode Percent.inFragment) }

end Endpoints.Url
