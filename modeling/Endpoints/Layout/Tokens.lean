import Endpoints.Layout.Doc
import Endpoints.Token.Basic

/-! The layout of tokens that no grammar orders: the arguments of macro calls and of attributes. -/

namespace Endpoints.Layout
open Doc (word zero space blank lastComma uniform indentation outdent)

def opener : Delimiter → String
  | .parenthesis => "("
  | .bracket => "["
  | .brace => "\x7b"

def closer : Delimiter → String
  | .parenthesis => ")"
  | .bracket => "]"
  | .brace => "\x7d"

/-- Words that are no names in the arguments of a macro call. -/
def reservedWords : List String :=
  ["as", "async", "await", "box", "break", "const", "continue", "crate", "dyn", "else", "enum",
   "extern", "fn", "for", "if", "impl", "in", "let", "loop", "macro", "match", "mod", "move", "mut",
   "pub", "ref", "return", "static", "struct", "trait", "type", "unsafe", "use", "where", "while",
   "yield"]

/-- What stands before a token, as far as it decides whether a blank comes between. -/
inductive Before where
  | start
  | variable
  | variableGroup
  | variableSeparator
  | pound
  | poundMark
  | dot
  | colon
  | colons
  | name
  | nameMark
  | group
  | other
  deriving DecidableEq

/-- Whether a blank stands before a token, and what the token is for the next one. -/
def Before.next (before : Before) (token : Token) : Bool × Before :=
  match before, token with
  | .variable, .ident _ => (false, .other)
  | .variableGroup, .punct '+' .alone => (false, .other)
  | .variableGroup, .punct '*' .alone => (false, .other)
  | .variableGroup, .punct '?' .alone => (false, .other)
  | .variableGroup, .ident _ => (false, .variableSeparator)
  | .variableGroup, .literal _ => (false, .variableSeparator)
  | .variableGroup, .punct _ .joint => (false, .variableGroup)
  | .variableGroup, .punct _ .alone => (false, .variableSeparator)
  | .variableSeparator, .punct '+' _ => (false, .other)
  | .variableSeparator, .punct '*' _ => (false, .other)
  | .pound, .punct '!' _ => (false, .poundMark)
  | .variable, .group .parenthesis _ => (false, .variableGroup)
  | .pound, .group .bracket _ => (false, .other)
  | .poundMark, .group .bracket _ => (false, .other)
  | .name, .group .parenthesis _ => (false, .group)
  | .name, .group .bracket _ => (false, .group)
  | .name, .punct '!' .alone => (false, .nameMark)
  | .nameMark, .group .parenthesis _ => (false, .other)
  | .nameMark, .group .bracket _ => (false, .other)
  | .colon, .punct ':' _ => (false, .colons)
  | _, .group .brace _ => (true, .other)
  | _, .group _ _ => (true, .group)
  | _, .ident spelling =>
    if reservedWords.contains spelling then (true, .other)
    else (before ≠ .dot && before ≠ .colons, .name)
  | _, .literal _ => (before ≠ .dot, .name)
  | _, .punct ',' _ => (false, .other)
  | _, .punct ';' _ => (false, .other)
  | _, .punct '.' _ => (before ≠ .name && before ≠ .group, .dot)
  | _, .punct ':' .joint => (before ≠ .name, .colon)
  | _, .punct '$' _ => (true, .variable)
  | _, .punct '#' _ => (true, .pound)
  | _, .punct _ _ => (true, .other)

/-- Whether no blank may follow a token. -/
def isJoined : Token → Bool
  | .punct '$' _ => true
  | .punct _ .joint => true
  | _ => false

def gapBefore (token : Token) (joined needsBlank : Bool) : Docs :=
  if joined then []
  else if needsBlank then [space]
  else match token with
    | .punct '.' _ => [zero]
    | _ => []

mutual

def argumentToken : Token → Docs
  | .ident name => word name
  | .punct symbol _ => word (String.singleton symbol)
  | .literal text => word text
  | .group delimiter [] => word (opener delimiter) ++ word (closer delimiter)
  | .group delimiter content =>
    let inside := argumentTokens .start true content
    word (opener delimiter)
      ++ (if delimiter = .brace then space :: inside ++ [space] else inside) ++ word (closer delimiter)

def argumentTokens (before : Before) (joined : Bool) : List Token → Docs
  | [] => []
  | token :: rest =>
    let (needsBlank, after) := before.next token
    gapBefore token joined needsBlank ++ argumentToken token
      ++ argumentTokens after (isJoined token) rest

end

/-- What the arguments of an attribute end with so far. -/
inductive AttributeState where
  | word
  | punctuation
  | lastComma
  deriving DecidableEq

mutual

/-- A token among the arguments of an attribute: `between` is the blank between words there, and `isLast`
says that no token follows. -/
def attributeToken (between : Doc) (isLast : Bool) (state : AttributeState) :
    Token → Docs × AttributeState
  | .ident name => ((if state = .word then [between] else []) ++ word name, .word)
  | .literal text => ((if state = .word then [between] else []) ++ word text, .word)
  | .punct symbol _ =>
    if symbol == ',' && isLast then ([lastComma], .lastComma)
    else
      ((if state = .word && symbol == '=' then blank else []) ++ word (String.singleton symbol)
        ++ (if symbol == '=' then blank else if symbol == ',' then [between] else []), .punctuation)
  | .group .parenthesis content =>
    let (inside, state) := attributeTokens space .punctuation content
    let content := zero :: inside ++ (if state = .lastComma then [] else [zero])
    (word "(" ++ uniform indentation (outdent content) ++ word ")", .punctuation)
  | .group delimiter content =>
    let (inside, _) := attributeTokens space .punctuation content
    (word (opener delimiter) ++ inside ++ word (closer delimiter), .punctuation)

def attributeTokens (between : Doc) (state : AttributeState) : List Token → Docs × AttributeState
  | [] => ([], state)
  | token :: rest =>
    let (first, state) := attributeToken between rest.isEmpty state token
    let (more, state) := attributeTokens between state rest
    (first ++ more, state)

end

def attributeGroup (delimiter : Delimiter) (content : Tokens) : Docs :=
  (attributeToken (.text " ") true .word (.group delimiter content)).1

/-- Words and `::` without blanks. -/
def compactTokens (tokens : Tokens) : Docs := tokens.map fun token => .text token.text

end Endpoints.Layout
