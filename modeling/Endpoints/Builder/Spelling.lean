import Endpoints.Text.Quoted
import Endpoints.Type.Tokens

/-! Pieces of generated code. -/

namespace Endpoints.Builder
open Tokens

def words (names : List String) : Tokens := names.map .ident

def joined (names : List String) : Tokens := separated (operator "::") (names.map word)

def std (names : List String) : Tokens := operator "::" ++ joined ("std" :: names)

/-- A name below the runtime module. -/
def below (runtime : Path) (names : List String) : Tokens :=
  runtime.tokens ++ operator "::" ++ joined names

def text (value : String) : Tokens := [.literal (Text.Quoted.encode value)]

def call (function : Tokens) (arguments : List Tokens) : Tokens :=
  function ++ parens (commaList arguments false)

/-- A call whose last argument has a comma after it. -/
def longCall (function : Tokens) (arguments : List Tokens) : Tokens :=
  function ++ parens (commaList arguments true)

def member (value : Tokens) (name : String) : Tokens := value ++ operator "." ++ word name

def callOn (value : Tokens) (name : String) (arguments : List Tokens) : Tokens :=
  call (member value name) arguments

def reference (value : Tokens) : Tokens := operator "&" ++ value

def mutableReference (value : Tokens) : Tokens := operator "&" ++ word "mut" ++ value

def applied (type : Tokens) (arguments : List Tokens) : Tokens :=
  type ++ operator "<" ++ commaList arguments false ++ operator ">"

/-- A value that leaves the function when it is an error. -/
def propagated (value : Tokens) : Tokens := value ++ operator "?"

def statement (value : Tokens) : Tokens := value ++ operator ";"

def binding (name : String) (value : Tokens) : Tokens :=
  word "let" ++ word name ++ operator "=" ++ value ++ operator ";"

def mutableBinding (name : String) (value : Tokens) : Tokens :=
  words ["let", "mut", name] ++ operator "=" ++ value ++ operator ";"

def assignment (target value : Tokens) : Tokens := target ++ operator "=" ++ value ++ operator ";"

def conditional (condition body : Tokens) : Tokens := word "if" ++ condition ++ braces body

def self : Tokens := word "self"

def string : Tokens := std ["string", "String"]

def ownedText (value : String) : Tokens := call (string ++ operator "::" ++ word "from") [text value]

def shown (value : Tokens) : Tokens := call (std ["string", "ToString", "to_string"]) [reference value]

def present (value : Tokens) : Tokens := call (std ["option", "Option", "Some"]) [value]

end Endpoints.Builder
