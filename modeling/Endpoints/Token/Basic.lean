/-! Tokens of source code. A group in brackets is one token, so brackets are balanced by construction.
The text of tokens puts one space between neighbours, except after a punctuation character that is
joined to the next one. -/

namespace Endpoints

inductive Delimiter where
  | parenthesis
  | bracket
  | brace
  deriving DecidableEq, Repr, Inhabited

/-- Whether a punctuation character forms one operator with the punctuation after it. -/
inductive Spacing where
  | alone
  | joint
  deriving DecidableEq, Repr, Inhabited

/-- A raw identifier keeps its `r#`. A literal is kept as written. -/
inductive Token where
  | ident (name : String)
  | punct (symbol : Char) (spacing : Spacing)
  | literal (text : String)
  | group (delimiter : Delimiter) (content : List Token)
  deriving BEq, Repr, Inhabited

abbrev Tokens := List Token

namespace Token

def isJoint : Token → Bool
  | .punct _ .joint => true
  | _ => false

mutual

def text : Token → String
  | .ident name => name
  | .punct symbol _ => String.singleton symbol
  | .literal text => text
  | .group .parenthesis content => "(" ++ textAll content ++ ")"
  | .group .bracket content => "[" ++ textAll content ++ "]"
  | .group .brace [] => "\x7b \x7d"
  | .group .brace content => "\x7b " ++ textAll content ++ " \x7d"

def textAll : List Token → String
  | [] => ""
  | [token] => token.text
  | token :: rest => token.text ++ (if token.isJoint then "" else " ") ++ textAll rest

end

mutual

def count : Token → Nat
  | .group _ content => countAll content + 1
  | _ => 1

def countAll : List Token → Nat
  | [] => 0
  | token :: rest => token.count + countAll rest

end

end Token

namespace Tokens

def text (tokens : Tokens) : String := Token.textAll tokens

def count (tokens : Tokens) : Nat := Token.countAll tokens

/-- An operator: its characters are joined, and the last one stands alone. -/
def operatorOf : List Char → Tokens
  | [] => []
  | [last] => [.punct last .alone]
  | symbol :: rest => .punct symbol .joint :: operatorOf rest

def operator (spelling : String) : Tokens := operatorOf spelling.toList

def word (name : String) : Tokens := [.ident name]

def parens (content : Tokens) : Tokens := [.group .parenthesis content]

def brackets (content : Tokens) : Tokens := [.group .bracket content]

def braces (content : Tokens) : Tokens := [.group .brace content]

/-- A lifetime is an apostrophe joined to a name. -/
def lifetime (name : String) : Tokens := [.punct '\'' .joint, .ident name]

def separated (separator : Tokens) : List Tokens → Tokens
  | [] => []
  | [part] => part
  | part :: rest => part ++ separator ++ separated separator rest

/-- Parts with commas between them, and one after the last when `trailing` holds. -/
def commaList (parts : List Tokens) (trailing : Bool) : Tokens :=
  separated (operator ",") parts ++ (if trailing && !parts.isEmpty then operator "," else [])

def given (condition : Bool) (tokens : Tokens) : Tokens :=
  if condition then tokens else []

end Tokens

end Endpoints
