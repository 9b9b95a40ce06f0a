import Endpoints.Url.Host

/-! URLs and their text. -/

namespace Endpoints

structure Authority where
  username : List Char
  /-- A password that is given is not empty. -/
  password : Option (List Char)
  host : Host
  /-- A port that is not the one that the scheme implies. -/
  port : Option Nat
  deriving DecidableEq, Repr

namespace Authority

def hasUserinfo (authority : Authority) : Bool :=
  !authority.username.isEmpty || authority.password.isSome

def text (authority : Authority) : List Char :=
  authority.username
    ++ (match authority.password with
      | some password => ':' :: password
      | none => [])
    ++ (if authority.hasUserinfo then ['@'] else [])
    ++ authority.host.text
    ++ (match authority.port with
      | some port => ':' :: (toString port).toList
      | none => [])

end Authority

/-- All parts are as they are written, with their escapes. -/
structure Url where
  scheme : List Char
  authority : Option Authority
  path : List Char
  query : Option (List Char)
  fragment : Option (List Char)
  deriving DecidableEq, Repr

namespace Url

def impliedPort? (scheme : List Char) : Option Nat :=
  if scheme = "http".toList ∨ scheme = "ws".toList then some 80
  else if scheme = "https".toList ∨ scheme = "wss".toList then some 443
  else if scheme = "ftp".toList then some 21
  else none

def reservedInQuery (scheme : List Char) : Percent.Reserved :=
  if (impliedPort? scheme).isSome || scheme = "file".toList then Percent.inWebQuery else Percent.inQuery

theorem reservedInQuery_of_web {scheme : List Char} (web : (impliedPort? scheme).isSome = true) :
    reservedInQuery scheme = Percent.inWebQuery := by
  simp [reservedInQuery, web]

/-- A URL without authority whose path would look like one has a dot in front of it. -/
def hierarchy (url : Url) : List Char :=
  match url.authority with
  | some authority => '/' :: '/' :: (authority.text ++ url.path)
  | none => if url.path.take 2 = ['/', '/'] then '/' :: '.' :: url.path else url.path

def characters (url : Url) : List Char :=
  url.scheme ++ ':' :: url.hierarchy
    ++ (match url.query with
      | some query => '?' :: query
      | none => [])
    ++ (match url.fragment with
      | some fragment => '#' :: fragment
      | none => [])

def text (url : Url) : String := String.ofList url.characters

/-- Whether the path is a text that means something to the scheme alone. -/
def isOpaque (url : Url) : Bool :=
  url.authority.isNone && url.path.head? != some '/'

/-- Replaces the query by a text, whose tabs and line breaks are dropped and in which is escaped what a query
cannot hold. An opaque path that nothing follows does not end in blanks. -/
def withQuery (url : Url) (query : Option String) : Url :=
  let written (text : String) : List Char := Percent.encode (reservedInQuery url.scheme)
    (text.toList.filter fun c => !(c == '\t' || c == '\n' || c == '\r'))
  let replaced := { url with query := query.map written }
  if query.isNone && url.fragment.isNone && url.isOpaque then
    { replaced with path := (url.path.reverse.dropWhile (· == ' ')).reverse }
  else replaced

def withoutUserinfo (url : Url) : Url :=
  { url with authority := url.authority.map fun authority =>
      { authority with username := [], password := none } }

end Url

end Endpoints
