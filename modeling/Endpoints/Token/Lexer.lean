import Endpoints.Token.Basic
import Endpoints.Token.Literal
import Endpoints.Text.Blank

/-! Source text to tokens. Blanks and ordinary comments separate tokens and are dropped. A
documentation comment becomes the attribute it abbreviates. -/

namespace Endpoints.Lexer
open Endpoints.Text

/-- Blanks between tokens: the blanks of all scripts and the two direction marks. -/
def isSeparator (c : Char) : Bool :=
  isBlank c || c.toNat == 0x200E || c.toNat == 0x200F

/-- The length of a block comment, comments inside it included, `depth` of them being open. -/
def blockComment? (depth : Nat) : List Char → Option Nat
  | '/' :: '*' :: rest => (blockComment? (depth + 1) rest).map (· + 2)
  | '*' :: '/' :: rest => if depth ≤ 1 then some 2 else (blockComment? (depth - 1) rest).map (· + 2)
  | _ :: rest => (blockComment? depth rest).map (· + 1)
  | [] => none

def lineLength : List Char → Nat
  | [] => 0
  | '\n' :: _ => 0
  | '\r' :: '\n' :: _ => 0
  | _ :: rest => lineLength rest + 1

def startsWith (text : List Char) (opening : String) : Bool :=
  opening.toList.isPrefixOf text

def skipOne (text : List Char) : Nat :=
  match text with
  | [] => 0
  | c :: _ =>
    if isSeparator c then 1
    else if startsWith text "//" && (!startsWith text "///" || startsWith text "////")
        && !startsWith text "//!" then lineLength text
    else if startsWith text "/**/" then 4
    else if startsWith text "/*" && (!startsWith text "/**" || startsWith text "/***")
        && !startsWith text "/*!" then (blockComment? 0 text).getD 0
    else 0

def skip : Nat → List Char → List Char
  | 0, text => text
  | fuel + 1, text =>
    match skipOne text with
    | 0 => text
    | length => skip fuel (text.drop length)

/-- A documentation comment: whether it documents what encloses it, its text, and its length. -/
structure DocumentationComment where
  inner : Bool
  text : List Char
  length : Nat

def blockDocumentation? (inner : Bool) (text : List Char) : Option DocumentationComment := do
  let length ← blockComment? 0 text
  some ⟨inner, (text.take (length - 2)).drop 3, length⟩

def lineDocumentation (inner : Bool) (text : List Char) : DocumentationComment :=
  let length := lineLength (text.drop 3) + 3
  ⟨inner, (text.take length).drop 3, length⟩

/-- A carriage return stands only before a line feed. -/
def carriageReturnsPaired : List Char → Bool
  | [] => true
  | '\r' :: '\n' :: rest => carriageReturnsPaired rest
  | '\r' :: _ => false
  | _ :: rest => carriageReturnsPaired rest

def documentation? (text : List Char) : Option DocumentationComment := do
  let comment ←
    if startsWith text "//!" then some (lineDocumentation true text)
    else if startsWith text "/*!" then blockDocumentation? true text
    else if startsWith text "///" && !startsWith text "////" then some (lineDocumentation false text)
    else if startsWith text "/**" && !startsWith text "/***" then blockDocumentation? false text
    else none
  if carriageReturnsPaired comment.text then some comment else none

/-- The attribute that a documentation comment abbreviates. -/
def DocumentationComment.tokens (comment : DocumentationComment) : Tokens :=
  .punct '#' .alone :: (Tokens.given comment.inner (Tokens.operator "!")
    ++ Tokens.brackets (Tokens.word "doc" ++ Tokens.operator "="
      ++ [.literal (Quoted.encode (String.ofList comment.text))]))

def isPunctuation (c : Char) : Bool :=
  "~!@#$%^&*-=+|;:,<.>/?".toList.contains c

/-- The punctuation character a text starts with, an apostrophe included. Marks of comments are none. -/
def punctuation? : List Char → Option Char
  | [] => none
  | c :: rest =>
    if c == '/' && rest.head?.any (fun next => next == '/' || next == '*') then none
    else if isPunctuation c || c == '\'' then some c
    else none

/-- An apostrophe is punctuation where a lifetime follows. -/
def opensLifetime (afterApostrophe : List Char) : Bool :=
  match Lexeme.identifier? afterApostrophe with
  | none => false
  | some length =>
    match (afterApostrophe.drop length).head? with
    | some '\'' => false
    | some '#' => startsWith afterApostrophe "r#"
    | _ => true

/-- A token other than a group, and its length. -/
def leaf? (text : List Char) : Option (Token × Nat) :=
  match Lexeme.literal? text with
  | some length => some (.literal (String.ofList (text.take length)), length)
  | none =>
    match punctuation? text with
    | some '\'' => if opensLifetime (text.drop 1) then some (.punct '\'' .joint, 1) else none
    | some c =>
      some (.punct c (if (punctuation? (text.drop 1)).isSome then .joint else .alone), 1)
    | none =>
      if Lexeme.literalOpenings.any (startsWith text) then none
      else (Lexeme.identifier? text).map fun length =>
        (.ident (String.ofList (text.take length)), length)

/-- A group that is open: its delimiter and the tokens before it, reversed. -/
structure OpenGroup where
  delimiter : Delimiter
  before : Tokens

def opening? : Char → Option Delimiter
  | '(' => some .parenthesis
  | '[' => some .bracket
  | '\x7b' => some .brace
  | _ => none

def closing? : Char → Option Delimiter
  | ')' => some .parenthesis
  | ']' => some .bracket
  | '\x7d' => some .brace
  | _ => none

/-- Tokens of a text. `read` holds the tokens of the innermost open group, reversed. Each step takes at
least one character, so `fuel` may be any number above the length. -/
def tokensFrom (fuel : Nat) (outer : List OpenGroup) (read : Tokens) (text : List Char) :
    Option Tokens :=
  match fuel with
  | 0 => none
  | fuel + 1 =>
    let text := skip fuel text
    match documentation? text with
    | some comment =>
      tokensFrom fuel outer (comment.tokens.reverse ++ read) (text.drop comment.length)
    | none =>
      match text with
      | [] => if outer.isEmpty then some read.reverse else none
      | c :: rest =>
        match opening? c with
        | some delimiter => tokensFrom fuel (⟨delimiter, read⟩ :: outer) [] rest
        | none =>
          match closing? c with
          | some delimiter =>
            match outer with
            | [] => none
            | group :: outer =>
              if group.delimiter = delimiter then
                tokensFrom fuel outer (.group delimiter read.reverse :: group.before) rest
              else none
          | none =>
            match leaf? (c :: rest) with
            | some (token, length) => tokensFrom fuel outer (token :: read) ((c :: rest).drop length)
            | none => none

/-- A byte order mark at the start is no part of the text. -/
def dropByteOrderMark (text : List Char) : List Char :=
  match text with
  | c :: rest => if c.toNat == 0xFEFF then rest else text
  | [] => []

/-- The tokens of a text, or nothing when it has a bracket without partner or an unknown lexeme. -/
def tokens? (text : String) : Option Tokens :=
  let characters := dropByteOrderMark text.toList
  tokensFrom (characters.length + 1) [] [] characters

end Endpoints.Lexer
