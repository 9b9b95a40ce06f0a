import Endpoints.Text.Printable

/-! Quoted text: a text between double quotes with escapes for what cannot stand there. `encode` writes
one, `decode` reads any spelling that a lexer accepts. -/

namespace Endpoints.Text.Quoted

def hexDigit (value : Nat) : Char :=
  if value < 10 then Char.ofNat (48 + value) else Char.ofNat (87 + value)

def hexDigits (value : Nat) : List Char :=
  (Nat.toDigits 16 value)

def hexValue? (c : Char) : Option Nat :=
  if '0' ≤ c ∧ c ≤ '9' then some (c.toNat - 48)
  else if 'a' ≤ c ∧ c ≤ 'f' then some (c.toNat - 87)
  else if 'A' ≤ c ∧ c ≤ 'F' then some (c.toNat - 55)
  else none

def escapeNumber (c : Char) : List Char :=
  '\\' :: 'u' :: '\x7b' :: (hexDigits c.toNat ++ ['\x7d'])

/-- How a character other than NUL and the apostrophe is shown. -/
def escape (c : Char) : List Char :=
  if c == '\t' then ['\\', 't']
  else if c == '\r' then ['\\', 'r']
  else if c == '\n' then ['\\', 'n']
  else if c == '\\' then ['\\', '\\']
  else if c == '"' then ['\\', '"']
  else if isAttachingMark c then escapeNumber c
  else if isPrintable c then [c]
  else escapeNumber c

/-- The characters between the quotes. NUL is `\0`, and `\x00` where an octal digit follows. -/
def encodeCharacters : List Char → List Char
  | [] => []
  | c :: rest =>
    let shown :=
      if c.toNat == 0 then
        match rest with
        | next :: _ => if '0' ≤ next ∧ next ≤ '7' then "\\x00".toList else "\\0".toList
        | [] => "\\0".toList
      else escape c
    shown ++ encodeCharacters rest

def encode (text : String) : String :=
  String.ofList ('"' :: (encodeCharacters text.toList ++ ['"']))

/-- The quoted form in messages, where NUL is `\0` whatever follows. -/
def display (text : String) : String :=
  let shown (c : Char) : List Char := if c.toNat == 0 then ['\\', '0'] else escape c
  String.ofList ('"' :: (text.toList.flatMap shown ++ ['"']))

/-- Reads the hexadecimal digits of an escape by number up to its closing brace. Underscores between
digits do not count. -/
def readNumber (value : Nat) : List Char → Option (Nat × List Char)
  | [] => none
  | '\x7d' :: rest => some (value, rest)
  | '_' :: rest => readNumber value rest
  | c :: rest =>
    match hexValue? c with
    | some digit => readNumber (value * 16 + digit) rest
    | none => none

/-- Blanks that a line continuation skips. -/
def isContinuationBlank (c : Char) : Bool :=
  c == ' ' || c == '\t' || c == '\n' || c == '\r'

theorem readNumber_length {value : Nat} {text : List Char} {result : Nat × List Char}
    (found : readNumber value text = some result) : result.2.length < text.length := by
  fun_induction readNumber value text with
  | case1 => simp at found
  | case2 value rest => simp_all; subst found; simp
  | case3 value rest ih => have := ih found; simp; omega
  | case4 value c rest _ _ digit _ ih => have := ih found; simp; omega
  | case5 => simp at found

theorem length_dropWhile_le (p : Char → Bool) (text : List Char) :
    (text.dropWhile p).length ≤ text.length :=
  (List.dropWhile_sublist p).length_le

/-- The text that the characters after an opening quote stand for, and what follows the closing quote.
A line break of two characters counts as one line feed, and a backslash at the end of a line skips the
blanks after it. -/
def decodeCharacters (text : List Char) : Option (List Char × List Char) :=
  match text with
  | [] => none
  | '"' :: rest => some ([], rest)
  | '\r' :: '\n' :: rest => (decodeCharacters rest).map fun (value, after) => ('\n' :: value, after)
  | '\\' :: 'x' :: high :: low :: rest =>
    match hexValue? high, hexValue? low with
    | some h, some l =>
      (decodeCharacters rest).map fun (value, after) => (Char.ofNat (h * 16 + l) :: value, after)
    | _, _ => none
  | '\\' :: 'u' :: '\x7b' :: digits =>
    match found : readNumber 0 digits with
    | some (code, rest) =>
      have := readNumber_length found
      (decodeCharacters rest).map fun (value, after) => (Char.ofNat code :: value, after)
    | none => none
  | '\\' :: c :: rest =>
    if c == '\n' || c == '\r' then
      have := length_dropWhile_le isContinuationBlank rest
      decodeCharacters (rest.dropWhile isContinuationBlank)
    else
      let meant := if c == 'n' then '\n' else if c == 'r' then '\r' else if c == 't' then '\t'
        else if c == '0' then '\x00' else c
      (decodeCharacters rest).map fun (value, after) => (meant :: value, after)
  | c :: rest => (decodeCharacters rest).map fun (value, after) => (c :: value, after)
  termination_by text.length
  decreasing_by all_goals simp_all; try omega

/-- Cuts a raw text at the quote that is followed by as many number signs as opened it. -/
def decodeRaw (hashes : Nat) : List Char → Option (List Char × List Char)
  | [] => none
  | c :: rest =>
    if c == '"' && (rest.take hashes == List.replicate hashes '#') then
      some ([], rest.drop hashes)
    else
      (decodeRaw hashes rest).map fun (value, after) => (c :: value, after)

/-- The text a literal stands for, when it is a quoted or raw text, without its suffix. -/
def decode (literal : String) : Option String :=
  match literal.toList with
  | '"' :: rest => (decodeCharacters rest).map (String.ofList ·.1)
  | 'r' :: rest =>
    let hashes := (rest.takeWhile (· == '#')).length
    match rest.drop hashes with
    | '"' :: body => (decodeRaw hashes body).map (String.ofList ·.1)
    | _ => none
  | _ => none

end Endpoints.Text.Quoted
