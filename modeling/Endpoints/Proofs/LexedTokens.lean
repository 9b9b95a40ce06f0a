import Endpoints.Token.Lexer

/-! What holds of all tokens of a text. Tokens are cut from the text one by one, or come from documentation
comments; what holds of these holds of all of them, in groups too. -/

namespace Endpoints

/-- A property of all tokens that are no groups, at any depth. -/
inductive Tokens.Each (property : Token → Prop) : Tokens → Prop where
  | nil : Each property []
  | leaf {token rest} (single : ∀ delimiter content, token ≠ .group delimiter content) (holds : property token)
      (more : Each property rest) : Each property (token :: rest)
  | group {delimiter content rest} (inside : Each property content) (more : Each property rest) :
      Each property (.group delimiter content :: rest)

namespace Tokens.Each

variable {property : Token → Prop}

theorem append {first second : Tokens} (each : first.Each property) (also : second.Each property) :
    Each property (first ++ second) := by
  induction each with
  | nil => exact also
  | leaf single holds _ ih => exact .leaf single holds ih
  | group inside _ _ ih => exact .group inside ih

theorem reverse {tokens : Tokens} (each : tokens.Each property) : Each property tokens.reverse := by
  induction each with
  | nil => exact .nil
  | leaf single holds _ ih =>
    rw [List.reverse_cons]
    exact ih.append (.leaf single holds .nil)
  | group inside _ _ ih =>
    rw [List.reverse_cons]
    exact ih.append (.group inside .nil)

theorem of_mem {tokens : Tokens} (each : tokens.Each property) {token : Token} (member : token ∈ tokens)
    (single : ∀ delimiter content, token ≠ .group delimiter content) : property token := by
  induction each with
  | nil => cases member
  | leaf _ holds _ ih =>
    rcases List.mem_cons.mp member with rfl | later
    · exact holds
    · exact ih later
  | group _ _ _ ih =>
    rcases List.mem_cons.mp member with rfl | later
    · exact absurd rfl (single _ _)
    · exact ih later

theorem content_of_mem {tokens : Tokens} (each : tokens.Each property) {delimiter : Delimiter} {content : Tokens}
    (member : .group delimiter content ∈ tokens) : Each property content := by
  induction each with
  | nil => cases member
  | leaf single _ _ ih =>
    rcases List.mem_cons.mp member with same | later
    · exact absurd same.symm (single _ _)
    · exact ih later
  | group inside _ _ ih =>
    rcases List.mem_cons.mp member with same | later
    · cases same
      exact inside
    · exact ih later

end Tokens.Each

namespace Lexer

theorem isIdentifier_of_name? {text : List Char} {length : Nat} (found : Lexeme.name? text = some length) :
    Text.isIdentifier (String.ofList (text.take length)) = true := by
  cases text with
  | nil => cases found
  | cons first rest =>
    simp only [Lexeme.name?, Option.ite_none_right_eq_some, Option.some.injEq] at found
    obtain ⟨start, rfl⟩ := found
    have taken : rest.take (rest.takeWhile Text.isIdentifierContinue).length =
        rest.takeWhile Text.isIdentifierContinue :=
      (List.prefix_iff_eq_take.mp (List.takeWhile_prefix _)).symm
    simp [Text.isIdentifier, start, taken, List.all_takeWhile]

/-- A token other than a group is a literal, a mark or a word. -/
theorem leaf?_cases {text : List Char} {token : Token} {length : Nat}
    (found : leaf? text = some (token, length)) :
    (Lexeme.literal? text = some length ∧ token = .literal (String.ofList (text.take length))) ∨
      (∃ mark spacing, punctuation? text = some mark ∧ token = .punct mark spacing ∧ length = 1) ∨
      (Lexeme.identifier? text = some length ∧ token = .ident (String.ofList (text.take length))) := by
  unfold leaf? at found
  split at found
  next whole =>
    cases found
    exact .inl ⟨whole, rfl⟩
  next =>
    split at found
    next apostrophe =>
      split at found
      next =>
        cases found
        exact .inr (.inl ⟨_, _, apostrophe, rfl, rfl⟩)
      next => cases found
    next _ mark =>
      cases found
      exact .inr (.inl ⟨_, _, mark, rfl, rfl⟩)
    next =>
      split at found
      next => cases found
      next =>
        obtain ⟨_, word, same⟩ := Option.map_eq_some_iff.mp found
        cases same
        exact .inr (.inr ⟨word, rfl⟩)

theorem leaf?_ne_group {text : List Char} {token : Token} {length : Nat}
    (found : leaf? text = some (token, length)) (delimiter : Delimiter) (content : Tokens) :
    token ≠ .group delimiter content := by
  rcases leaf?_cases found with ⟨_, rfl⟩ | ⟨_, _, _, rfl, _⟩ | ⟨_, rfl⟩ <;> nofun

theorem literal_of_leaf? {text : List Char} {literal : String} {length : Nat}
    (found : leaf? text = some (.literal literal, length)) :
    Lexeme.literal? text = some length ∧ literal = String.ofList (text.take length) := by
  rcases leaf?_cases found with ⟨whole, same⟩ | ⟨_, _, _, same, _⟩ | ⟨_, same⟩
  · exact ⟨whole, Token.literal.inj same⟩
  · cases same
  · cases same

theorem word_of_leaf? {text : List Char} {name : String} {length : Nat}
    (found : leaf? text = some (.ident name, length)) :
    Lexeme.identifier? text = some length ∧ name = String.ofList (text.take length) := by
  rcases leaf?_cases found with ⟨_, same⟩ | ⟨_, _, _, same, _⟩ | ⟨word, same⟩
  · cases same
  · cases same
  · exact ⟨word, Token.ident.inj same⟩

variable {property : Token → Prop}

/-- A documentation comment becomes marks, one word and one literal. -/
theorem DocumentationComment.each_tokens (mark : ∀ symbol spacing, property (.punct symbol spacing))
    (word : property (.ident "doc")) (literal : ∀ text, property (.literal (Text.Quoted.encode text)))
    (comment : DocumentationComment) : Tokens.Each property comment.tokens := by
  have spelled : "!".toList = ['!'] ∧ "=".toList = ['='] := by decide
  have inside : Tokens.Each property (Tokens.brackets (Tokens.word "doc" ++ Tokens.operator "="
      ++ [.literal (Text.Quoted.encode (String.ofList comment.text))])) := by
    refine .group (.leaf nofun word ?_) .nil
    simp only [Tokens.operator, spelled, Tokens.operatorOf]
    exact .leaf nofun (mark _ _) (.leaf nofun (literal _) .nil)
  refine .leaf nofun (mark _ _) (.append ?_ inside)
  cases comment.inner with
  | false => exact .nil
  | true =>
    simp only [Tokens.given, Tokens.operator, spelled, Tokens.operatorOf]
    exact .leaf nofun (mark _ _) .nil

theorem each_of_tokensFrom
    (leaf : ∀ text token length, leaf? text = some (token, length) → property token)
    (documentation : ∀ comment : DocumentationComment, Tokens.Each property comment.tokens)
    {fuel : Nat} {outer : List OpenGroup} {read tokens : Tokens} {text : List Char} (each : read.Each property)
    (around : ∀ group ∈ outer, Tokens.Each property group.before)
    (lexed : tokensFrom fuel outer read text = some tokens) : tokens.Each property := by
  induction fuel generalizing outer read text with
  | zero => cases lexed
  | succ fuel ih =>
    rw [tokensFrom] at lexed
    split at lexed
    next comment _ => exact ih ((documentation comment).reverse.append each) around lexed
    next =>
      split at lexed
      next =>
        split at lexed
        next =>
          obtain rfl := Option.some.inj lexed
          exact each.reverse
        next => cases lexed
      next c rest _ =>
        split at lexed
        next delimiter _ => exact ih .nil (List.forall_mem_cons.mpr ⟨each, around⟩) lexed
        next =>
          split at lexed
          next delimiter _ =>
            split at lexed
            next => cases lexed
            next group outer =>
              split at lexed
              next =>
                obtain ⟨before, around⟩ := List.forall_mem_cons.mp around
                exact ih (.group each.reverse before) around lexed
              next => cases lexed
          next =>
            split at lexed
            next token length found =>
              exact ih (.leaf (leaf?_ne_group found) (leaf _ _ _ found) each) around lexed
            next => cases lexed

theorem each_of_tokens? (leaf : ∀ text token length, leaf? text = some (token, length) → property token)
    (mark : ∀ symbol spacing, property (.punct symbol spacing)) (word : property (.ident "doc"))
    (literal : ∀ text, property (.literal (Text.Quoted.encode text))) {text : String} {tokens : Tokens}
    (lexed : tokens? text = some tokens) : tokens.Each property :=
  each_of_tokensFrom leaf (DocumentationComment.each_tokens mark word literal) .nil (by simp) lexed

end Lexer

end Endpoints
