import Endpoints.Proofs.LexedTexts
import Endpoints.Text.Utf8

/-! How a text is cut into tokens. Separators and ordinary comments before a token are passed over, and each
token is taken from where it starts; the steps come without a bound on their number. -/

namespace Endpoints.Lexer

/-- A character that neither separates tokens nor opens a comment. -/
def IsSolid (c : Char) : Prop := isSeparator c = false ∧ c ≠ '/'

instance (c : Char) : Decidable (IsSolid c) := inferInstanceAs (Decidable (_ ∧ _))

theorem skip_of_solid {c : Char} (solid : IsSolid c) (fuel : Nat) (rest : List Char) :
    skip fuel (c :: rest) = c :: rest := by
  have still : skipOne (c :: rest) = 0 := by
    simp [skipOne, startsWith, List.isPrefixOf, solid.1, Ne.symm solid.2]
  cases fuel with
  | zero => rfl
  | succ fuel => simp [skip, still]

theorem documentation?_of_solid {c : Char} (solid : IsSolid c) (rest : List Char) :
    documentation? (c :: rest) = none := by
  simp [documentation?, startsWith, List.isPrefixOf, Ne.symm solid.2]

def separatorCodes : List Nat :=
  [9, 10, 11, 12, 13, 0x20, 0x85, 0xA0, 0x1680, 0x2000, 0x2001, 0x2002, 0x2003, 0x2004, 0x2005, 0x2006,
    0x2007, 0x2008, 0x2009, 0x200A, 0x200E, 0x200F, 0x2028, 0x2029, 0x202F, 0x205F, 0x3000]

theorem mem_separatorCodes {c : Char} (separates : isSeparator c = true) : c.toNat ∈ separatorCodes := by
  simp only [isSeparator, Text.isBlank, Bool.or_eq_true, Bool.and_eq_true, decide_eq_true_eq, beq_iff_eq]
    at separates
  simp only [separatorCodes, List.mem_cons, List.not_mem_nil, or_false]
  omega

theorem eq_false_of_separator {property : Char → Bool}
    (each : ∀ code ∈ separatorCodes, property (Char.ofNat code) = false) {c : Char}
    (separates : isSeparator c = true) : property c = false := by
  simpa using each c.toNat (mem_separatorCodes separates)

/-- The rest of a block comment, `depth` comments being open. It ends with the mark that closes the last. -/
inductive Commented : Nat → List Char → Prop where
  | last : Commented 1 ['*', '/']
  | closes {depth rest} (more : Commented (depth + 1) rest) : Commented (depth + 2) ('*' :: '/' :: rest)
  | opens {depth rest} (more : Commented (depth + 1) rest) : Commented depth ('/' :: '*' :: rest)
  | other {depth c d rest} (mark : [c, d] ∉ [['/', '*'], ['*', '/']]) (more : Commented depth (d :: rest)) :
      Commented depth (c :: d :: rest)

/-- What follows the mark of a comment that documents nothing. A further mark makes it documentation, and one
more, or the end of the comment, an ordinary comment again. -/
def IsOrdinary (mark : Char) (body : List Char) : Prop :=
  body.head? ≠ some '!' ∧ (body.head? = some mark → body[1]? = some mark ∨ body[1]? = some '/')

/-- Separators and ordinary comments. -/
inductive Gap : List Char → Prop where
  | nil : Gap []
  | separator {c rest} (separates : isSeparator c = true) (more : Gap rest) : Gap (c :: rest)
  | line {body rest} (unbroken : ∀ c ∈ body, c ≠ '\n' ∧ c ≠ '\r') (ordinary : IsOrdinary '/' body)
      (more : Gap ('\n' :: rest)) : Gap ('/' :: '/' :: (body ++ '\n' :: rest))
  | block {body rest} (closed : Commented 1 body) (ordinary : IsOrdinary '*' body) (more : Gap rest) :
      Gap ('/' :: '*' :: (body ++ rest))

theorem blockComment?_of_commented {depth : Nat} {body : List Char} (commented : Commented depth body)
    (rest : List Char) : blockComment? depth (body ++ rest) = some body.length := by
  induction commented with
  | last => simp [blockComment?]
  | closes _ ih => simp [blockComment?, ih]
  | opens _ ih => simp [blockComment?, ih]
  | @other depth c d more mark _ ih =>
    simp only [List.mem_cons, List.cons.injEq, List.not_mem_nil, or_false, and_true, not_or] at mark
    rw [List.cons_append, List.cons_append, blockComment?, ← List.cons_append, ih]
    · rfl
    · rintro _ rfl same
      exact mark.1 ⟨rfl, (List.cons.inj same).1⟩
    · rintro _ rfl same
      exact mark.2 ⟨rfl, (List.cons.inj same).1⟩

theorem lineLength_of_unbroken {body : List Char} (unbroken : ∀ c ∈ body, c ≠ '\n' ∧ c ≠ '\r') (rest : List Char) :
    lineLength (body ++ '\n' :: rest) = body.length := by
  induction body with
  | nil => rfl
  | cons c body ih =>
    obtain ⟨⟨feed, carriage⟩, unbroken⟩ := List.forall_mem_cons.mp unbroken
    rw [List.cons_append, lineLength, ih unbroken]
    · rfl
    · exact feed
    · intro _ same
      exact absurd same carriage

theorem skipOne_line {body : List Char} (unbroken : ∀ c ∈ body, c ≠ '\n' ∧ c ≠ '\r') (ordinary : IsOrdinary '/' body)
    (rest : List Char) : skipOne ('/' :: '/' :: body ++ '\n' :: rest) = body.length + 2 := by
  have slash : isSeparator '/' = false := by decide
  have whole : lineLength ('/' :: '/' :: body ++ '\n' :: rest) = body.length + 2 := by
    simp [lineLength, lineLength_of_unbroken unbroken]
  obtain ⟨inner, marked⟩ := ordinary
  have starts : (startsWith ('/' :: '/' :: body ++ '\n' :: rest) "//" &&
      (!startsWith ('/' :: '/' :: body ++ '\n' :: rest) "///" ||
        startsWith ('/' :: '/' :: body ++ '\n' :: rest) "////") &&
      !startsWith ('/' :: '/' :: body ++ '\n' :: rest) "//!") = true := by
    match body with
    | [] => simp [startsWith, List.isPrefixOf]
    | [c] =>
      have other : c ≠ '/' ∧ c ≠ '!' := by simpa [and_comm] using And.intro inner marked
      simp [startsWith, List.isPrefixOf, other.1.symm, other.2.symm]
    | c :: d :: _ =>
      have other : c ≠ '!' ∧ (c = '/' → d = '/') := by simpa using And.intro inner marked
      by_cases more : c = '/'
      · simp [startsWith, List.isPrefixOf, more, other.2 more]
      · simp [startsWith, List.isPrefixOf, Ne.symm more, other.1.symm]
  simp only [List.cons_append] at whole starts ⊢
  unfold skipOne
  simp only [slash, starts, whole]
  rfl

theorem skipOne_block {body : List Char} (closed : Commented 1 body) (ordinary : IsOrdinary '*' body)
    (rest : List Char) : skipOne ('/' :: '*' :: body ++ rest) = body.length + 2 := by
  have slash : isSeparator '/' = false := by decide
  have whole : blockComment? 0 ('/' :: '*' :: body ++ rest) = some (body.length + 2) := by
    simp [blockComment?, blockComment?_of_commented closed]
  obtain ⟨inner, marked⟩ := ordinary
  have line : startsWith ('/' :: '*' :: body ++ rest) "//" = false := by simp [startsWith, List.isPrefixOf]
  obtain ⟨c, d, more, rfl⟩ : ∃ c d more, body = c :: d :: more := by cases closed <;> exact ⟨_, _, _, rfl⟩
  have other : c ≠ '!' ∧ (c = '*' → d = '*' ∨ d = '/') := by simpa using And.intro inner marked
  by_cases empty : c = '*' ∧ d = '/'
  · obtain ⟨rfl, rfl⟩ := empty
    obtain rfl : more = [] := by
      cases closed with
      | last => rfl
      | other mark => simp at mark
    have short : startsWith ('/' :: '*' :: ['*', '/'] ++ rest) "/**/" = true := by simp [startsWith, List.isPrefixOf]
    simp only [List.cons_append] at line short ⊢
    unfold skipOne
    simp only [slash, line, short]
    rfl
  · have short : startsWith ('/' :: '*' :: c :: d :: more ++ rest) "/**/" = false := by
      simp only [not_and] at empty
      simpa [startsWith, List.isPrefixOf] using fun first : '*' = c => Ne.symm (empty first.symm)
    have starts : (startsWith ('/' :: '*' :: c :: d :: more ++ rest) "/*" &&
        (!startsWith ('/' :: '*' :: c :: d :: more ++ rest) "/**" ||
          startsWith ('/' :: '*' :: c :: d :: more ++ rest) "/***") &&
        !startsWith ('/' :: '*' :: c :: d :: more ++ rest) "/*!") = true := by
      by_cases again : c = '*'
      · have next : d = '*' := (other.2 again).resolve_right fun last => empty ⟨again, last⟩
        simp [startsWith, List.isPrefixOf, again, next]
      · simp [startsWith, List.isPrefixOf, Ne.symm again, other.1.symm]
    simp only [List.cons_append] at line short starts whole ⊢
    unfold skipOne
    simp only [slash, line, short, starts, whole]
    rfl

theorem skip_of_skipOne {text rest : List Char} (one : skipOne (text ++ rest) = text.length)
    (some : 0 < text.length) (fuel : Nat) : skip (fuel + 1) (text ++ rest) = skip fuel rest := by
  rw [skip, one]
  split
  next none => omega
  next => rw [List.drop_left]

theorem skip_of_gap {gap text : List Char} (passed : Gap gap) (solid : ∀ c ∈ text.head?, IsSolid c) {fuel : Nat}
    (enough : gap.length ≤ fuel) : skip fuel (gap ++ text) = text := by
  induction passed generalizing fuel with
  | nil =>
    cases text with
    | nil => cases fuel <;> rfl
    | cons c rest => exact skip_of_solid (solid c rfl) fuel rest
  | @separator c rest separates _ ih =>
    obtain ⟨fuel, rfl⟩ := Nat.exists_eq_add_of_le' (Nat.le_trans (Nat.le_add_left 1 rest.length) enough)
    have one : skipOne ([c] ++ (rest ++ text)) = [c].length := by simp [skipOne, separates]
    rw [List.cons_append]
    refine (skip_of_skipOne one (by simp) fuel).trans (ih ?_)
    simpa using enough
  | @line body rest unbroken ordinary _ ih =>
    obtain ⟨fuel, rfl⟩ : ∃ before, fuel = before + 1 := Nat.exists_eq_add_of_le' (by simp at enough; omega)
    have one : skipOne (('/' :: '/' :: body) ++ '\n' :: (rest ++ text)) = ('/' :: '/' :: body).length :=
      skipOne_line unbroken ordinary _
    have split : '/' :: '/' :: (body ++ '\n' :: rest) ++ text = ('/' :: '/' :: body) ++ '\n' :: (rest ++ text) := by
      simp
    rw [split]
    refine (skip_of_skipOne one (by simp) fuel).trans (ih ?_)
    simp at enough ⊢
    omega
  | @block body rest closed ordinary _ ih =>
    obtain ⟨fuel, rfl⟩ : ∃ before, fuel = before + 1 := Nat.exists_eq_add_of_le' (by simp at enough; omega)
    have one : skipOne (('/' :: '*' :: body) ++ (rest ++ text)) = ('/' :: '*' :: body).length :=
      skipOne_block closed ordinary _
    have split : '/' :: '*' :: (body ++ rest) ++ text = ('/' :: '*' :: body) ++ (rest ++ text) := by simp
    rw [split]
    refine (skip_of_skipOne one (by simp) fuel).trans (ih ?_)
    simp at enough
    omega

/-- How tokens are cut from a text, after those that are read and inside the groups that are open. -/
inductive Cut : List OpenGroup → Tokens → List Char → Tokens → Prop where
  | done {read gap} (passed : Gap gap) : Cut [] read gap read.reverse
  | leaf {outer read gap c lexeme rest token tokens} (passed : Gap gap) (solid : IsSolid c)
      (single : opening? c = none ∧ closing? c = none)
      (found : leaf? (c :: (lexeme ++ rest)) = some (token, lexeme.length + 1))
      (more : Cut outer (token :: read) rest tokens) : Cut outer read (gap ++ c :: (lexeme ++ rest)) tokens
  | opens {outer read gap c rest delimiter tokens} (passed : Gap gap) (solid : IsSolid c)
      (opening : opening? c = some delimiter) (more : Cut (⟨delimiter, read⟩ :: outer) [] rest tokens) :
      Cut outer read (gap ++ c :: rest) tokens
  | closes {outer group read gap c rest tokens} (passed : Gap gap) (solid : IsSolid c)
      (closing : opening? c = none ∧ closing? c = some group.delimiter)
      (more : Cut outer (.group group.delimiter read.reverse :: group.before) rest tokens) :
      Cut (group :: outer) read (gap ++ c :: rest) tokens

theorem tokensFrom_of_gap {gap rest : List Char} {c : Char} (passed : Gap gap) (solid : IsSolid c) {fuel : Nat}
    (enough : gap.length ≤ fuel) (outer : List OpenGroup) (read : Tokens) :
    tokensFrom (fuel + 1) outer read (gap ++ c :: rest) = tokensFrom (fuel + 1) outer read (c :: rest) := by
  have first : ∀ d ∈ (c :: rest).head?, IsSolid d := by
    rintro _ ⟨⟩
    exact solid
  rw [tokensFrom, tokensFrom, skip_of_gap passed first enough, skip_of_solid solid]

/-- Cutting needs at most as many steps as the text has characters, and one for its end. -/
theorem tokensFrom_of_cut {outer : List OpenGroup} {read tokens : Tokens} {text : List Char}
    (cut : Cut outer read text tokens) {fuel : Nat} (enough : text.length ≤ fuel) :
    tokensFrom (fuel + 1) outer read text = some tokens := by
  -- A step takes at least the character that its token starts with, which leaves enough for the rest.
  induction cut generalizing fuel with
  | @done read gap passed =>
    have skipped : skip fuel gap = [] := by
      simpa using @skip_of_gap gap [] passed (by simp) fuel enough
    simp [tokensFrom, skipped, documentation?, startsWith]
  | leaf passed solid single found _ ih =>
    simp only [List.length_append, List.length_cons] at enough
    rw [tokensFrom_of_gap passed solid (by omega), tokensFrom]
    simp only [skip_of_solid solid, documentation?_of_solid solid, single, found, List.drop_succ_cons, List.drop_left]
    obtain ⟨fuel, rfl⟩ := Nat.exists_eq_add_of_le' (show 1 ≤ fuel by omega)
    exact ih (by omega)
  | opens passed solid opening _ ih =>
    simp only [List.length_append, List.length_cons] at enough
    rw [tokensFrom_of_gap passed solid (by omega), tokensFrom]
    simp only [skip_of_solid solid, documentation?_of_solid solid, opening]
    obtain ⟨fuel, rfl⟩ := Nat.exists_eq_add_of_le' (show 1 ≤ fuel by omega)
    exact ih (by omega)
  | closes passed solid closing _ ih =>
    simp only [List.length_append, List.length_cons] at enough
    rw [tokensFrom_of_gap passed solid (by omega), tokensFrom]
    simp only [skip_of_solid solid, documentation?_of_solid solid, closing, if_true]
    obtain ⟨fuel, rfl⟩ := Nat.exists_eq_add_of_le' (show 1 ≤ fuel by omega)
    exact ih (by omega)

theorem tokens?_of_cut {text : List Char} {tokens : Tokens} (mark : ∀ c ∈ text.head?, c.toNat ≠ 0xFEFF)
    (cut : Cut [] [] text tokens) : tokens? (String.ofList text) = some tokens := by
  have whole : dropByteOrderMark text = text := by
    cases text with
    | nil => rfl
    | cons c rest => simp [dropByteOrderMark, mark c rfl]
  unfold tokens?
  rw [String.toList_ofList, whole]
  exact tokensFrom_of_cut cut (Nat.le_refl _)

theorem leaf?_at (rest : List Char) : ∃ spacing, leaf? ('@' :: rest) = some (.punct '@' spacing, 1) := by
  have literal : Lexeme.literal? ('@' :: rest) = none := by
    have digit : '@'.isDigit = false := by decide
    have hex : Text.Quoted.hexValue? '@' = none := by decide
    simp [Lexeme.literal?, Lexeme.quoted?, Lexeme.character?, Lexeme.number, Lexeme.floatDigits?,
      Lexeme.integerDigits?, Lexeme.baseDigits?, digit, hex]
  have mark : punctuation? ('@' :: rest) = some '@' := by
    have punctuation : isPunctuation '@' = true := by decide
    simp [punctuation?, punctuation]
  simp [leaf?, literal, mark]

theorem not_isIdentifierStart {c : Char}
    (other : c.isDigit = true ∨ isPunctuation c = true ∨ c ∈ ['"', '\'']) : Text.isIdentifierStart c = false := by
  rcases other with digit | punctuation | quotation
  · have ascii : c.toNat < 128 := by
      simp only [Char.isDigit, Bool.and_eq_true, decide_eq_true_eq] at digit
      exact Nat.lt_of_le_of_lt (UInt32.le_iff_toNat_le.mp digit.2) (by decide)
    have none : c.isDigit = true → Text.isIdentifierStart c = false := forall_ascii (by decide) ascii
    exact none digit
  · have none : "~!@#$%^&*-=+|;:,<.>/?".toList.any Text.isIdentifierStart = false := by decide
    exact Bool.eq_false_iff.mpr (List.any_eq_false.mp none c (by simpa [isPunctuation] using punctuation))
  · have none : ['"', '\''].any Text.isIdentifierStart = false := by decide
    exact Bool.eq_false_iff.mpr (List.any_eq_false.mp none c quotation)

theorem ne_of_isIdentifierStart {first : Char} (start : Text.isIdentifierStart first = true) :
    first.isDigit = false ∧ isPunctuation first = false ∧ first ≠ '"' ∧ first ≠ '\'' ∧ first ≠ '/' ∧ first ≠ '#' := by
  have other : ¬ (first.isDigit = true ∨ isPunctuation first = true ∨ first ∈ ['"', '\'']) := fun other => by
    rw [not_isIdentifierStart other] at start
    cases start
  simp only [List.mem_cons, List.not_mem_nil, or_false, not_or, Bool.not_eq_true] at other
  obtain ⟨digit, punctuation, quote, apostrophe⟩ := other
  refine ⟨digit, punctuation, quote, apostrophe, ?_, ?_⟩
  · rintro rfl
    revert punctuation
    decide
  · rintro rfl
    revert punctuation
    decide

theorem punctuation?_of_isIdentifierStart {first : Char} (start : Text.isIdentifierStart first = true)
    (rest : List Char) : punctuation? (first :: rest) = none := by
  obtain ⟨_, punctuation, _, apostrophe, slash, _⟩ := ne_of_isIdentifierStart start
  simp [punctuation?, punctuation, apostrophe, slash]

theorem exists_of_isIdentifier {name : String} (identifier : Text.isIdentifier name = true) :
    ∃ first rest, name.toList = first :: rest ∧ Text.isIdentifierStart first = true ∧
      ∀ c ∈ rest, Text.isIdentifierContinue c = true := by
  unfold Text.isIdentifier at identifier
  split at identifier
  next => cases identifier
  next first rest spelled =>
    rw [Bool.and_eq_true, List.all_eq_true] at identifier
    exact ⟨first, rest, spelled, identifier⟩

theorem name?_of_identifier {name : String} {rest : List Char} (identifier : Text.isIdentifier name = true)
    (ends : ∀ c ∈ rest.head?, Text.isIdentifierContinue c = false) :
    Lexeme.name? (name.toList ++ rest) = some name.toList.length := by
  obtain ⟨first, word, spelled, start, goesOn⟩ := exists_of_isIdentifier identifier
  have whole : (word ++ rest).takeWhile Text.isIdentifierContinue = word := by
    rw [List.takeWhile_append_of_pos goesOn]
    cases rest with
    | nil => simp
    | cons c rest => simp [ends c rfl]
  rw [spelled, List.cons_append, Lexeme.name?, if_pos start, whole]
  rfl

/-- A word that is no prefix of a literal. -/
def isPlainWord (name : String) : Bool :=
  Text.isIdentifier name && !name.toList.head?.any ['r', 'b', 'c'].contains

theorem exists_of_isPlainWord {name : String} (plain : isPlainWord name = true) :
    Text.isIdentifier name = true ∧ ∃ first word, name.toList = first :: word ∧
      Text.isIdentifierStart first = true ∧ first ≠ 'r' ∧ first ≠ 'b' ∧ first ≠ 'c' := by
  simp only [isPlainWord, Bool.and_eq_true, Bool.not_eq_true'] at plain
  obtain ⟨named, free⟩ := plain
  obtain ⟨first, word, spelled, start, _⟩ := exists_of_isIdentifier named
  exact ⟨named, first, word, spelled, start, by simpa [spelled] using free⟩

theorem leaf?_of_isPlainWord {name : String} {rest : List Char} (plain : isPlainWord name = true)
    (ends : ∀ c ∈ rest.head?, Text.isIdentifierContinue c = false) :
    leaf? (name.toList ++ rest) = some (.ident name, name.toList.length) := by
  obtain ⟨named, first, word, spelled, start, free⟩ := exists_of_isPlainWord plain
  obtain ⟨digit, _, quote, apostrophe, _⟩ := ne_of_isIdentifierStart start
  have length := name?_of_identifier named ends
  have whole : String.ofList (first :: word) = name := by rw [← spelled, String.ofList_toList]
  rw [spelled, List.cons_append] at length ⊢
  have literal : Lexeme.literal? (first :: (word ++ rest)) = none := by
    simp [Lexeme.literal?, Lexeme.quoted?, Lexeme.character?, Lexeme.number_of_not_digit digit, free, quote,
      apostrophe]
  have opening : Lexeme.literalOpenings.any (startsWith (first :: (word ++ rest))) = false := by
    simp [Lexeme.literalOpenings, startsWith, List.isPrefixOf, free, Ne.symm]
  have cut : Lexeme.identifier? (first :: (word ++ rest)) = some (first :: word).length := by
    unfold Lexeme.identifier?
    split
    next same => exact absurd (List.cons.inj same).1 free.1
    next => exact length
  simp [leaf?, literal, punctuation?_of_isIdentifierStart start, opening, cut, whole]

/-- A quoted text is one token where no word follows it at once. -/
theorem leaf?_encode (text : String) {rest : List Char}
    (ends : ∀ c ∈ rest.head?, Text.isIdentifierStart c = false) :
    leaf? ((Text.Quoted.encode text).toList ++ rest) =
      some (.literal (Text.Quoted.encode text), (Text.Quoted.encode text).toList.length) := by
  have suffix : Lexeme.suffix rest = 0 := by
    cases rest with
    | nil => rfl
    | cons c rest => simp [Lexeme.suffix, Lexeme.name?, ends c rfl]
  have closed := Lexeme.length?_of_spells (Text.Quoted.spells_encodeCharacters text.toList) rest
  have spelled : (Text.Quoted.encode text).toList ++ rest =
      '"' :: (Text.Quoted.encodeCharacters text.toList ++ '"' :: rest) := by
    simp [Text.Quoted.encode]
  have length : (Text.Quoted.encode text).toList.length =
      (Text.Quoted.encodeCharacters text.toList).length + 1 + 1 := by
    simp [Text.Quoted.encode]
  have literal : Lexeme.literal? ((Text.Quoted.encode text).toList ++ rest) =
      some (Text.Quoted.encode text).toList.length := by
    have after : ((Text.Quoted.encode text).toList ++ rest).drop (Text.Quoted.encode text).toList.length = rest :=
      List.drop_left
    rw [length, spelled] at after
    rw [length, spelled]
    simp only [Lexeme.literal?, Lexeme.quoted?, closed, Lexeme.withSuffix, Option.map_some, after, suffix]
    rfl
  simp [leaf?, literal]

theorem head_of_gap {gap : List Char} (passed : Gap gap) {property : Char → Bool} {c : Char} (rest : List Char)
    (each : ∀ code ∈ separatorCodes, property (Char.ofNat code) = false) (slash : property '/' = false)
    (next : property c = false) : ∀ d ∈ (gap ++ c :: rest).head?, property d = false := by
  rintro d first
  cases passed with
  | nil =>
    obtain rfl : c = d := by simpa using first
    exact next
  | @separator e _ separates =>
    obtain rfl : e = d := by simpa using first
    exact eq_false_of_separator each separates
  | line | block =>
    obtain rfl : '/' = d := by simpa using first
    exact slash

/-- Characters of a kind that no separator, bracket or slash is of start a token. -/
theorem solid_of {kind : Char → Bool} (apart : ∀ code ∈ separatorCodes, kind (Char.ofNat code) = false)
    (marks : ['/', '(', '[', '\x7b', ')', ']', '\x7d'].any kind = false) {c : Char} (holds : kind c = true) :
    IsSolid c ∧ opening? c = none ∧ closing? c = none := by
  have solid : isSeparator c = false := Bool.eq_false_iff.mpr fun separates => by
    have none : kind c = false := eq_false_of_separator apart separates
    rw [holds] at none
    cases none
  have other : c ∉ ['/', '(', '[', '\x7b', ')', ']', '\x7d'] := fun among => List.any_eq_false.mp marks c among holds
  simp only [List.mem_cons, List.not_mem_nil, or_false, not_or] at other
  refine ⟨⟨solid, other.1⟩, ?_, ?_⟩
  · unfold opening?
    split <;> simp_all
  · unfold closing?
    split <;> simp_all

theorem solid_of_isIdentifierStart {c : Char} (start : Text.isIdentifierStart c = true) :
    IsSolid c ∧ opening? c = none ∧ closing? c = none :=
  solid_of (by decide +kernel) (by decide) start

namespace Cut

variable {outer : List OpenGroup} {read : Tokens} {gap rest : List Char}

theorem mark (passed : Gap gap) : ∃ spacing, ∀ tokens, Cut outer (.punct '@' spacing :: read) rest tokens →
    Cut outer read (gap ++ '@' :: rest) tokens := by
  obtain ⟨spacing, found⟩ := leaf?_at rest
  have solid : IsSolid '@' := ⟨by decide, by decide⟩
  exact ⟨spacing, fun tokens more => @leaf outer read gap '@' [] rest _ tokens passed solid ⟨rfl, rfl⟩ found more⟩

theorem word {name : String} {tokens : Tokens} (passed : Gap gap) (plain : isPlainWord name = true)
    (ends : ∀ c ∈ rest.head?, Text.isIdentifierContinue c = false)
    (more : Cut outer (.ident name :: read) rest tokens) :
    Cut outer read (gap ++ (name.toList ++ rest)) tokens := by
  have found := leaf?_of_isPlainWord plain ends
  obtain ⟨_, first, word, spelled, start, _⟩ := exists_of_isPlainWord plain
  obtain ⟨solid, single⟩ := solid_of_isIdentifierStart start
  rw [spelled] at found ⊢
  exact .leaf passed solid single found more

theorem quoted {text : String} {tokens : Tokens} (passed : Gap gap)
    (ends : ∀ c ∈ rest.head?, Text.isIdentifierStart c = false)
    (more : Cut outer (.literal (Text.Quoted.encode text) :: read) rest tokens) :
    Cut outer read (gap ++ ((Text.Quoted.encode text).toList ++ rest)) tokens := by
  have found := leaf?_encode text ends
  obtain ⟨body, spelled⟩ : ∃ body, (Text.Quoted.encode text).toList = '"' :: body := ⟨_, String.toList_ofList⟩
  have solid : IsSolid '"' := ⟨by decide, by decide⟩
  rw [spelled] at found ⊢
  exact .leaf passed solid ⟨rfl, rfl⟩ found more

end Cut

end Endpoints.Lexer
