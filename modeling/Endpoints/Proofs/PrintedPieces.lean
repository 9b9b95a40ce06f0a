import Endpoints.Proofs.LexedNumbers

/-! The pieces that a printed type is made of. They tell the text and, with the spacing of its marks, the tokens that
the text is cut into; where words and numbers are set apart from what follows them, the two agree. -/

namespace Endpoints
open Lexer Lexeme

/-- A part of a printed text. -/
inductive Piece where
  | word (name : String)
  | lifetime (name : String)
  | number (text : String)
  | mark (symbol : Char)
  | blank
  | group (delimiter : Delimiter) (content : List Piece)

/-- The bracket that opens a group. -/
def Delimiter.opens : Delimiter → Char
  | .parenthesis => '('
  | .bracket => '['
  | .brace => '\x7b'

/-- The bracket that closes a group. -/
def Delimiter.closes : Delimiter → Char
  | .parenthesis => ')'
  | .bracket => ']'
  | .brace => '\x7d'

namespace Piece

mutual

def text : Piece → List Char
  | .word name => name.toList
  | .lifetime name => '\'' :: name.toList
  | .number text => text.toList
  | .mark symbol => [symbol]
  | .blank => [' ']
  | .group delimiter content => delimiter.opens :: (textAll content ++ [delimiter.closes])

def textAll : List Piece → List Char
  | [] => []
  | piece :: rest => piece.text ++ textAll rest

end

/-- Whether pieces start with a mark, which a mark before them is joined to. -/
def joins : List Piece → Bool
  | .mark _ :: _ => true
  | .lifetime _ :: _ => true
  | _ => false

mutual

/-- The tokens of a piece; a mark is joined to what follows where `joined` holds. -/
def tokens (joined : Bool) : Piece → Tokens
  | .word name => Tokens.word name
  | .lifetime name => Tokens.lifetime name
  | .number text => [.literal text]
  | .mark symbol => [.punct symbol (if joined then .joint else .alone)]
  | .blank => []
  | .group delimiter content => [.group delimiter (tokensAll content)]

def tokensAll : List Piece → Tokens
  | [] => []
  | piece :: rest => piece.tokens (joins rest) ++ tokensAll rest

end

/-- What sets a word or a number apart that stands before it. -/
def Parts (rest : List Piece) : Prop := Parted (textAll rest)

/-- Pieces that can be told apart in their text. -/
inductive Fits : List Piece → Prop where
  | nil : Fits []
  | word {name rest} (word : IsWord name) (parts : Parts rest) (more : Fits rest) : Fits (.word name :: rest)
  | lifetime {name rest} (word : IsWord name) (parts : Parts rest) (more : Fits rest) : Fits (.lifetime name :: rest)
  | number {text rest} (whole : isWholeNumber text = true) (parts : Parts rest) (more : Fits rest) :
      Fits (.number text :: rest)
  | mark {symbol rest} (punctuation : isPunctuation symbol = true) (slash : symbol ≠ '/') (more : Fits rest) :
      Fits (.mark symbol :: rest)
  | blank {rest} (more : Fits rest) : Fits (.blank :: rest)
  | group {delimiter content rest} (inside : Fits content) (more : Fits rest) : Fits (.group delimiter content :: rest)

section Append
variable {first second : List Piece}

theorem textAll_append : textAll (first ++ second) = textAll first ++ textAll second := by
  induction first with
  | nil => rfl
  | cons piece rest ih => rw [List.cons_append, textAll, textAll, ih, List.append_assoc]

theorem parts_nil : Parts [] := nofun

theorem Parts.append (parts : Parts first) (also : Parts second) : Parts (first ++ second) := by
  intro c start
  rw [textAll_append] at start
  cases spelled : textAll first with
  | nil =>
    rw [spelled, List.nil_append] at start
    exact also c start
  | cons d more =>
    rw [spelled, List.cons_append] at start
    exact parts c (by rw [spelled]; exact start)

theorem Fits.append (fits : Fits first) (also : Fits second) (parts : Parts second) : Fits (first ++ second) := by
  induction fits with
  | nil => exact also
  | word word apart _ ih => exact .word word (apart.append parts) ih
  | lifetime word apart _ ih => exact .lifetime word (apart.append parts) ih
  | number whole apart _ ih => exact .number whole (apart.append parts) ih
  | mark punctuation slash _ ih => exact .mark punctuation slash ih
  | blank _ ih => exact .blank ih
  | group inside _ _ ih => exact .group inside ih

end Append

end Piece

namespace Lexer
open Piece

/-- What may follow the pieces of a group or of a whole text. -/
def Closes (rest : List Char) : Prop := ∀ c ∈ rest.head?, c ∈ [')', ']', '\x7d']

theorem closes_nil : Closes [] := nofun

theorem closes_cons (delimiter : Delimiter) (rest : List Char) : Closes (delimiter.closes :: rest) := by
  rintro _ ⟨⟩
  cases delimiter <;> decide

variable {pieces : List Piece} {rest : List Char}

theorem parted_textAll (parts : Parts pieces) (closes : Closes rest) : Parted (textAll pieces ++ rest) := by
  have among : [')', ']', '\x7d'] ⊆ parting := by decide
  cases spelled : textAll pieces with
  | nil => exact fun c start => among (closes c start)
  | cons d more =>
    intro c start
    exact parts c (by rw [spelled]; exact start)

theorem isSome_punctuation?_of_not {c : Char} (other : isPunctuation c = false) (apostrophe : c ≠ '\'')
    (more : List Char) : (punctuation? (c :: more)).isSome = false := by
  simp [punctuation?, other, apostrophe]

theorem isSome_punctuation?_textAll (fits : Fits pieces) (closes : Closes rest) :
    (punctuation? (textAll pieces ++ rest)).isSome = joins pieces := by
  cases fits with
  | nil =>
    cases rest with
    | nil => rfl
    | cons c more =>
      have none : ∀ c ∈ [')', ']', '\x7d'], isPunctuation c = false ∧ c ≠ '\'' := forall_of_all (by decide)
      obtain ⟨other, apostrophe⟩ := none c (closes c rfl)
      exact isSome_punctuation?_of_not other apostrophe more
  | word word =>
    obtain ⟨first, more, spelled, start, -⟩ := exists_of_isWord word
    obtain ⟨-, other, -, apostrophe, -⟩ := ne_of_isIdentifierStart start
    rw [textAll, text, spelled]
    exact isSome_punctuation?_of_not other apostrophe _
  | lifetime => simp [textAll, text, punctuation?, joins]
  | number whole =>
    obtain ⟨first, more, spelled, digit⟩ := isDigit_of_isWholeNumber whole
    have other : isPunctuation first = false ∧ first ≠ '\'' := by
      have none : ∀ c ∈ '\'' :: "~!@#$%^&*-=+|;:,<.>/?".toList, c.isDigit = false := forall_of_all (by decide)
      constructor
      · refine Bool.eq_false_iff.mpr fun mark => ?_
        have among : first ∈ "~!@#$%^&*-=+|;:,<.>/?".toList := List.contains_iff_mem.mp mark
        exact absurd (digit.symm.trans (none first (.tail _ among))) (by decide)
      · rintro rfl
        cases digit
    rw [textAll, text, spelled]
    exact isSome_punctuation?_of_not other.1 other.2 _
  | mark punctuation slash => simp [textAll, text, punctuation?, joins, punctuation, slash]
  | blank => exact isSome_punctuation?_of_not (by decide) (by decide) _
  | @group delimiter =>
    rw [textAll, text]
    exact isSome_punctuation?_of_not (by cases delimiter <;> decide) (by cases delimiter <;> decide) _

theorem Cut.blank {outer : List OpenGroup} {read tokens : Tokens} {text : List Char}
    (cut : Cut outer read text tokens) : Cut outer read (' ' :: text) tokens := by
  have wider {gap : List Char} (passed : Gap gap) : Gap (' ' :: gap) := .separator (by decide) passed
  cases cut with
  | done passed => exact .done (wider passed)
  | leaf passed solid single found more => exact .leaf (wider passed) solid single found more
  | opens passed solid opening more => exact .opens (wider passed) solid opening more
  | closes passed solid closing more => exact .closes (wider passed) solid closing more

/-- A token that starts here and is neither a bracket nor a blank. -/
theorem Cut.next {outer : List OpenGroup} {read tokens : Tokens} {c : Char} {lexeme rest : List Char} {token : Token}
    (solid : IsSolid c) (single : opening? c = none ∧ closing? c = none)
    (found : leaf? (c :: (lexeme ++ rest)) = some (token, lexeme.length + 1))
    (more : Cut outer (token :: read) rest tokens) : Cut outer read (c :: (lexeme ++ rest)) tokens :=
  @Cut.leaf outer read [] c lexeme rest token tokens .nil solid single found more

/-- Pieces that fit are cut into their tokens, at the end of a text or before a bracket that closes a group. -/
theorem cut_of_fits (fits : Fits pieces) {outer : List OpenGroup} {read tokens : Tokens} (closes : Closes rest)
    (cut : Cut outer ((tokensAll pieces).reverse ++ read) rest tokens) :
    Cut outer read (textAll pieces ++ rest) tokens := by
  induction fits generalizing outer read rest with
  | nil => exact cut
  | word word parts _ ih =>
    have found := leaf?_of_isWord word (endsWord_of_parted (parted_textAll parts closes))
    obtain ⟨first, more, spelled, start, -⟩ := exists_of_isWord word
    obtain ⟨solid, single⟩ := solid_of_isIdentifierStart start
    rw [textAll, text, List.append_assoc]
    rw [spelled] at found ⊢
    exact .next solid single found (ih closes (by simpa [tokensAll, Piece.tokens, Tokens.word] using cut))
  | lifetime word parts _ ih =>
    have ends := endsWord_of_parted (parted_textAll parts closes)
    have found := leaf?_of_isWord word ends
    have mark := leaf?_of_lifetime word ends
    obtain ⟨first, more, spelled, start, -⟩ := exists_of_isWord word
    obtain ⟨solid, single⟩ := solid_of_isIdentifierStart start
    rw [textAll, text, List.cons_append, List.cons_append, List.append_assoc]
    refine @Cut.next outer read tokens '\'' [] _ _ (by decide) (by decide) mark ?_
    rw [spelled] at found ⊢
    exact .next solid single found (ih closes (by simpa [tokensAll, Piece.tokens, Tokens.lifetime] using cut))
  | number whole parts _ ih =>
    have found := leaf?_of_isWholeNumber whole (parted_textAll parts closes)
    obtain ⟨first, more, spelled, digit⟩ := isDigit_of_isWholeNumber whole
    obtain ⟨solid, single⟩ := @solid_of Char.isDigit (by decide) (by decide) _ digit
    rw [textAll, text, List.append_assoc]
    rw [spelled] at found ⊢
    exact .next solid single found (ih closes (by simpa [tokensAll, Piece.tokens] using cut))
  | @mark symbol pieces punctuation slash fits ih =>
    have found := leaf?_of_mark punctuation slash (textAll pieces ++ rest)
    rw [isSome_punctuation?_textAll fits closes] at found
    have plain : (isPunctuation symbol && symbol != '/') = true := by simp [punctuation, slash]
    obtain ⟨solid, single⟩ := @solid_of (fun c => isPunctuation c && c != '/') (by decide) (by decide) _ plain
    exact @Cut.next outer read tokens symbol [] _ _ solid single found
      (ih closes (by simpa [tokensAll, Piece.tokens] using cut))
  | blank _ ih => exact (ih closes cut).blank
  | @group delimiter content pieces inside more ihInside ih =>
    have opens : IsSolid delimiter.opens ∧ opening? delimiter.opens = some delimiter := by
      cases delimiter <;> decide
    have closing : IsSolid delimiter.closes ∧ opening? delimiter.closes = none ∧
        closing? delimiter.closes = some delimiter := by
      cases delimiter <;> decide
    have after : Cut outer (.group delimiter (tokensAll content) :: read) (textAll pieces ++ rest) tokens :=
      ih closes (by simpa [tokensAll, Piece.tokens] using cut)
    have left : Cut (⟨delimiter, read⟩ :: outer) ((tokensAll content).reverse ++ [])
        (delimiter.closes :: (textAll pieces ++ rest)) tokens :=
      @Cut.closes outer ⟨delimiter, read⟩ _ [] _ _ _ .nil closing.1 closing.2 (by simpa using after)
    have whole := ihInside (closes_cons delimiter _) left
    rw [textAll, text]
    exact @Cut.opens outer read [] _ _ delimiter tokens .nil opens.1 opens.2 (by simpa using whole)

theorem not_byteOrderMark (fits : Fits pieces) {c : Char} (start : c ∈ (textAll pieces).head?) : c.toNat ≠ 0xFEFF := by
  have other {kind : Char → Bool} (none : kind (Char.ofNat 0xFEFF) = false) (holds : kind c = true) :
      c.toNat ≠ 0xFEFF := fun same => by
    rw [← Char.ofNat_toNat c, same, none] at holds
    cases holds
  cases fits with
  | nil => cases start
  | word word =>
    obtain ⟨first, more, spelled, letter, -⟩ := exists_of_isWord word
    rw [textAll, text, spelled] at start
    cases start
    exact other (by decide +kernel) letter
  | lifetime =>
    cases start
    decide
  | number whole =>
    obtain ⟨first, more, spelled, digit⟩ := isDigit_of_isWholeNumber whole
    rw [textAll, text, spelled] at start
    cases start
    exact other (by decide) digit
  | mark punctuation =>
    cases start
    exact other (by decide) punctuation
  | blank =>
    cases start
    decide
  | @group delimiter =>
    cases start
    cases delimiter <;> decide

theorem tokens?_of_fits (fits : Fits pieces) : tokens? (String.ofList (textAll pieces)) = some (tokensAll pieces) := by
  have done : Cut [] ((tokensAll pieces).reverse ++ []) [] (tokensAll pieces) := by
    have last := @Cut.done (tokensAll pieces).reverse [] .nil
    rwa [List.reverse_reverse, ← List.append_nil (tokensAll pieces).reverse] at last
  have cut := cut_of_fits fits closes_nil done
  rw [List.append_nil] at cut
  exact tokens?_of_cut (fun c start => not_byteOrderMark fits start) cut

end Lexer

end Endpoints
