import Endpoints.Proofs.LexerSteps

/-! The tokens that types are made of: words, raw or not, lifetimes, marks and whole numbers. Each is cut as one token
where what follows does not go on with it. -/

namespace Endpoints.Lexer

/-- A word of source text: an identifier, or one that is marked as raw. -/
inductive IsWord : String → Prop where
  | plain {name} (identifier : Text.isIdentifier name = true) : IsWord name
  | raw {name} (identifier : Text.isIdentifier name = true) (free : name ∉ Lexeme.neverRaw) : IsWord ("r#" ++ name)

/-- What does not go on with a literal that a word before it would open. -/
def Quiet (text : List Char) : Prop := ∀ c ∈ text.head?, c ∉ ['"', '\'', '#']

/-- What does not go on with a word. -/
structure EndsWord (text : List Char) : Prop where
  quiet : Quiet text
  ends : ∀ c ∈ text.head?, Text.isIdentifierContinue c = false

theorem isWord_of_identifier? {text : List Char} {length : Nat} (found : Lexeme.identifier? text = some length) :
    IsWord (String.ofList (text.take length)) := by
  unfold Lexeme.identifier? at found
  split at found
  next rest =>
    simp only [Option.bind_eq_bind, Option.bind_eq_some_iff, Option.ite_none_left_eq_some,
      Option.some.injEq] at found
    obtain ⟨length, named, free, rfl⟩ := found
    have spelled : String.ofList (('r' :: '#' :: rest).take (length + 2)) =
        "r#" ++ String.ofList (rest.take length) := by
      apply String.toList_inj.mp
      simp
    rw [spelled]
    exact .raw (isIdentifier_of_name? named) (by simpa using free)
  next => exact .plain (isIdentifier_of_name? found)

theorem isWord_of_leaf? {text : List Char} {name : String} {length : Nat}
    (found : leaf? text = some (.ident name, length)) : IsWord name := by
  obtain ⟨named, rfl⟩ := word_of_leaf? found
  exact isWord_of_identifier? named

theorem quiet_append {word rest : List Char} (goesOn : ∀ c ∈ word, Text.isIdentifierContinue c = true)
    (quiet : Quiet rest) : Quiet (word ++ rest) := by
  cases word with
  | nil => exact quiet
  | cons c word =>
    rintro _ ⟨⟩ among
    have continues := goesOn c List.mem_cons_self
    have none : ['"', '\'', '#'].any Text.isIdentifierContinue = false := by decide
    exact List.any_eq_false.mp none c among continues

theorem raw?_of_quiet {quotation : Lexeme.Quotation} {text : List Char} (quiet : Quiet text) :
    Lexeme.raw? quotation text = none := by
  cases text with
  | nil => simp [Lexeme.raw?]
  | cons c rest =>
    have other : c ≠ '"' ∧ c ≠ '\'' ∧ c ≠ '#' := by simpa using quiet c rfl
    simp [Lexeme.raw?, other]

/-- The characters of a word that is not marked, and what follows it: no literal opens with them. -/
structure OpensNothing (first : Char) (tail : List Char) : Prop where
  start : Text.isIdentifierStart first = true
  quiet : Quiet tail
  further : ∀ more, tail = 'r' :: more → Quiet more

theorem opensNothing_of_identifier {first : Char} {word rest : List Char} (start : Text.isIdentifierStart first = true)
    (goesOn : ∀ c ∈ word, Text.isIdentifierContinue c = true) (ends : EndsWord rest) :
    OpensNothing first (word ++ rest) := by
  refine ⟨start, quiet_append goesOn ends.quiet, fun more starts => ?_⟩
  cases word with
  | nil =>
    have letter : Text.isIdentifierContinue 'r' = true := by decide
    have stops : Text.isIdentifierContinue 'r' = false := ends.ends 'r' (by rw [← List.nil_append rest, starts]; rfl)
    exact absurd (letter.symm.trans stops) (by decide)
  | cons c word =>
    obtain ⟨rfl, rfl⟩ := List.cons.inj starts
    exact quiet_append (List.forall_mem_cons.mp goesOn).2 ends.quiet

namespace OpensNothing

variable {first : Char} {tail : List Char}

theorem literal?_eq_none (opens : OpensNothing first tail) : Lexeme.literal? (first :: tail) = none := by
  obtain ⟨start, quiet, further⟩ := opens
  obtain ⟨digit, _, quote, apostrophe, _⟩ := ne_of_isIdentifierStart start
  have quoted : Lexeme.quoted? (first :: tail) = none := by
    unfold Lexeme.quoted?
    split
    next same => exact absurd (List.cons.inj same).1 quote
    next rest same =>
      obtain ⟨_, rfl⟩ := List.cons.inj same
      rw [raw?_of_quiet quiet]
      rfl
    next rest same =>
      obtain ⟨_, rfl⟩ := List.cons.inj same
      exact absurd (quiet '"' rfl) (by simp)
    next rest same =>
      obtain ⟨_, rfl⟩ := List.cons.inj same
      rw [raw?_of_quiet (further rest rfl)]
      rfl
    next rest same =>
      obtain ⟨_, rfl⟩ := List.cons.inj same
      exact absurd (quiet '"' rfl) (by simp)
    next rest same =>
      obtain ⟨_, rfl⟩ := List.cons.inj same
      rw [raw?_of_quiet (further rest rfl)]
      rfl
    next => rfl
  have character : Lexeme.character? (first :: tail) = none := by
    unfold Lexeme.character?
    split
    next rest same =>
      obtain ⟨_, rfl⟩ := List.cons.inj same
      exact absurd (quiet '\'' rfl) (by simp)
    next same => exact absurd (List.cons.inj same).1 apostrophe
    next => rfl
  simp [Lexeme.literal?, quoted, character, Lexeme.number_of_not_digit digit]

theorem noOpening (opens : OpensNothing first tail) :
    Lexeme.literalOpenings.any (startsWith (first :: tail)) = false := by
  obtain ⟨start, quiet, further⟩ := opens
  have other : ∀ c more, tail = c :: more → c ≠ '"' ∧ c ≠ '\'' ∧ c ≠ '#' := by
    rintro c more rfl
    simpa using quiet c rfl
  have behind : ∀ c more, tail = 'r' :: c :: more → c ≠ '"' ∧ c ≠ '\'' ∧ c ≠ '#' := by
    rintro c more rfl
    simpa using further _ rfl c rfl
  cases tail with
  | nil => simp [Lexeme.literalOpenings, startsWith, List.isPrefixOf]
  | cons c tail =>
    obtain ⟨quote, apostrophe, sign⟩ := other c tail rfl
    cases tail with
    | nil => simp [Lexeme.literalOpenings, startsWith, List.isPrefixOf, Ne.symm quote, Ne.symm apostrophe]
    | cons d tail =>
      by_cases raw : c = 'r'
      · subst raw
        obtain ⟨quote', apostrophe', sign'⟩ := behind d tail rfl
        simp [Lexeme.literalOpenings, startsWith, List.isPrefixOf, Ne.symm quote', Ne.symm sign']
      · simp [Lexeme.literalOpenings, startsWith, List.isPrefixOf, Ne.symm quote, Ne.symm apostrophe, Ne.symm sign,
          Ne.symm raw]

end OpensNothing

theorem identifier?_of_isWord {name : String} {rest : List Char} (word : IsWord name) (ends : EndsWord rest) :
    Lexeme.identifier? (name.toList ++ rest) = some name.toList.length := by
  cases word with
  | plain identifier =>
    have length := name?_of_identifier identifier ends.ends
    obtain ⟨first, word, spelled, start, goesOn⟩ := exists_of_isIdentifier identifier
    have opens := opensNothing_of_identifier start goesOn ends
    unfold Lexeme.identifier?
    split
    next more same =>
      rw [spelled, List.cons_append] at same
      have sign : (word ++ rest).head? = some '#' := by rw [(List.cons.inj same).2, List.head?_cons]
      exact absurd (opens.quiet '#' sign) (by simp)
    next => exact length
  | @raw name identifier free =>
    have length := name?_of_identifier identifier ends.ends
    simp [Lexeme.identifier?, length, free]

theorem leaf?_of_isWord {name : String} {rest : List Char} (word : IsWord name) (ends : EndsWord rest) :
    leaf? (name.toList ++ rest) = some (.ident name, name.toList.length) := by
  have found := identifier?_of_isWord word ends
  cases word with
  | plain identifier =>
    obtain ⟨first, word, spelled, start, goesOn⟩ := exists_of_isIdentifier identifier
    have opens := opensNothing_of_identifier start goesOn ends
    have mark := punctuation?_of_isIdentifierStart start (word ++ rest)
    have whole : String.ofList (first :: word) = name := by rw [← spelled, String.ofList_toList]
    rw [spelled, List.cons_append] at found ⊢
    simp [leaf?, opens.literal?_eq_none, mark, opens.noOpening, found, whole]
  | @raw name identifier free =>
    obtain ⟨first, word, spelled, start, _⟩ := exists_of_isIdentifier identifier
    obtain ⟨_, _, quote, _, _, sign⟩ := ne_of_isIdentifierStart start
    have letter : Text.isIdentifierStart 'r' = true := by decide
    obtain ⟨digit, _⟩ := ne_of_isIdentifierStart letter
    have raw : Lexeme.raw? .text ('#' :: first :: (word ++ rest)) = none := by
      simp [Lexeme.raw?, quote, sign]
    have literal : Lexeme.literal? ('r' :: '#' :: first :: (word ++ rest)) = none := by
      simp [Lexeme.literal?, Lexeme.quoted?, Lexeme.character?, raw, Lexeme.number_of_not_digit digit]
    have mark := punctuation?_of_isIdentifierStart letter ('#' :: first :: (word ++ rest))
    have noOpening : Lexeme.literalOpenings.any (startsWith ('r' :: '#' :: first :: (word ++ rest))) = false := by
      simp [Lexeme.literalOpenings, startsWith, List.isPrefixOf, Ne.symm quote, Ne.symm sign]
    have marked : ("r#" ++ name).toList = 'r' :: '#' :: first :: word := by simp [spelled]
    have whole : String.ofList ('r' :: '#' :: first :: word) = "r#" ++ name := by rw [← marked, String.ofList_toList]
    rw [marked, List.cons_append, List.cons_append, List.cons_append] at found ⊢
    simp [leaf?, literal, mark, noOpening, found, whole]

theorem exists_of_isWord {name : String} (word : IsWord name) :
    ∃ first more, name.toList = first :: more ∧ Text.isIdentifierStart first = true ∧
      ∀ rest, Quiet rest → (more ++ rest).head? ≠ some '\'' := by
  cases word with
  | plain identifier =>
    obtain ⟨first, word, spelled, start, goesOn⟩ := exists_of_isIdentifier identifier
    refine ⟨first, word, spelled, start, fun rest quiet closes => ?_⟩
    exact absurd (quiet_append goesOn quiet '\'' closes) (by simp)
  | @raw name => exact ⟨'r', '#' :: name.toList, by simp, by decide, fun _ _ => by simp⟩

/-- An apostrophe before a word is a mark that is joined to it. -/
theorem leaf?_of_lifetime {name : String} {rest : List Char} (word : IsWord name) (ends : EndsWord rest) :
    leaf? ('\'' :: (name.toList ++ rest)) = some (.punct '\'' .joint, 1) := by
  have found := identifier?_of_isWord word ends
  have left : (name.toList ++ rest).drop name.toList.length = rest := List.drop_left
  have opens : opensLifetime (name.toList ++ rest) = true := by
    unfold opensLifetime
    simp only [found, left]
    split
    next closes => exact absurd (ends.quiet '\'' closes) (by simp)
    next sign => exact absurd (ends.quiet '#' sign) (by simp)
    next => rfl
  obtain ⟨first, more, spelled, start, open'⟩ := exists_of_isWord word
  have unclosed := open' rest ends.quiet
  have slash : first ≠ '\\' := by
    rintro rfl
    exact absurd start (by decide)
  have single : Lexeme.closedSingle? false (first :: (more ++ rest)) = none := by
    have one : Lexeme.single? false (first :: (more ++ rest)) = some 1 := by
      unfold Lexeme.single?
      split <;> simp_all
    unfold Lexeme.closedSingle?
    simp only [one, Option.bind_eq_bind, Option.bind_some, List.drop_one, List.tail_cons]
    split
    next same => exact absurd (by rw [same, List.head?_cons]) unclosed
    next => rfl
  have digit : '\''.isDigit = false := by decide
  have literal : Lexeme.literal? ('\'' :: (name.toList ++ rest)) = none := by
    rw [spelled, List.cons_append]
    simp [Lexeme.literal?, Lexeme.quoted?, Lexeme.character?, single, Lexeme.number_of_not_digit digit]
  have mark : punctuation? ('\'' :: (name.toList ++ rest)) = some '\'' := by
    simp [punctuation?]
  simp [leaf?, literal, mark, opens]

/-- A mark other than those of comments is one token, and joined to a mark that follows at once. -/
theorem leaf?_of_mark {c : Char} (punctuation : isPunctuation c = true) (slash : c ≠ '/') (rest : List Char) :
    leaf? (c :: rest) = some (.punct c (if (punctuation? rest).isSome then .joint else .alone), 1) := by
  have letters : Text.isIdentifierStart c = false := not_isIdentifierStart (.inr (.inl punctuation))
  have other {d : Char} (start : Text.isIdentifierStart d = true) : c ≠ d := by
    rintro rfl
    exact absurd (letters.symm.trans start) (by decide)
  have plain : c.isDigit = false ∧ c ≠ '"' ∧ c ≠ '\'' := by
    have none : "~!@#$%^&*-=+|;:,<.>/?".toList.all (fun c => !c.isDigit && c != '"' && c != '\'') = true := by decide
    have holds := List.all_eq_true.mp none c (by simpa [isPunctuation] using punctuation)
    simpa [and_assoc] using holds
  obtain ⟨digit, quote, apostrophe⟩ := plain
  have r := @other 'r' (by decide)
  have b := @other 'b' (by decide)
  have c' := @other 'c' (by decide)
  have literal : Lexeme.literal? (c :: rest) = none := by
    simp [Lexeme.literal?, Lexeme.quoted?, Lexeme.character?, Lexeme.number_of_not_digit digit, quote, apostrophe, r, b,
      c']
  have mark : punctuation? (c :: rest) = some c := by
    simp [punctuation?, punctuation, slash]
  simp [leaf?, literal, mark]

end Endpoints.Lexer

namespace Endpoints

/-- Tokens whose words are words of source text. -/
def Tokens.Worded (tokens : Tokens) : Prop := tokens.Each fun token => ∀ name, token = .ident name → Lexer.IsWord name

namespace Tokens.Worded

theorem of_tokens? {text : String} {tokens : Tokens} (lexed : Lexer.tokens? text = some tokens) : tokens.Worded :=
  Lexer.each_of_tokens? (fun _ _ _ found _ same => Lexer.isWord_of_leaf? (same ▸ found))
    (fun _ _ _ same => nomatch same) (fun _ same => Token.ident.inj same ▸ .plain (by decide +kernel))
    (fun _ _ same => nomatch same) lexed

end Tokens.Worded

end Endpoints
