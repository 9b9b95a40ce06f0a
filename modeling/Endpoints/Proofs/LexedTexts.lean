import Endpoints.Item.Grammar
import Endpoints.Proofs.LexedTokens
import Endpoints.Proofs.TextLiterals
import Mathlib.Data.List.TakeWhile

/-! The text literals among the tokens of a source text. Each of them means exactly one text, with its escapes
undone, and the quoted form of a text is lexed as one literal that means it. -/

namespace Endpoints.Text.Quoted

/-- Nowhere in the characters does a quote stand before as many number signs. -/
def Unclosed (hashes : Nat) (body : List Char) : Prop :=
  ∀ front back, body = front ++ '"' :: back → ¬ List.replicate hashes '#' <+: back

/-- What a text literal stands for. What follows the closing quote is its suffix, which says nothing. -/
inductive Means : List Char → List Char → Prop where
  | quoted {body value : List Char} (suffix : List Char) (spelled : Spells body value) :
      Means ('"' :: (body ++ '"' :: suffix)) value
  | raw {hashes : Nat} {body : List Char} (suffix : List Char) (unclosed : Unclosed hashes body) :
      Means ('r' :: (List.replicate hashes '#' ++
        '"' :: (body ++ '"' :: (List.replicate hashes '#' ++ suffix)))) body

theorem replicate_prefix_of_append {count : Nat} {front back : List Char}
    (starts : List.replicate count '#' <+: front ++ '"' :: back) : List.replicate count '#' <+: front := by
  induction front generalizing count with
  | nil =>
    cases count with
    | zero => exact List.prefix_refl _
    | succ count => simp [List.replicate_succ] at starts
  | cons c front ih =>
    cases count with
    | zero => exact List.nil_prefix
    | succ count =>
      rw [List.replicate_succ, List.cons_append, List.cons_prefix_cons] at starts
      rw [List.replicate_succ, List.cons_prefix_cons]
      exact ⟨starts.1, ih starts.2⟩

theorem take_eq_replicate_iff {count : Nat} {text : List Char} :
    (text.take count == List.replicate count '#') = true ↔ List.replicate count '#' <+: text := by
  rw [beq_iff_eq, List.prefix_iff_eq_take, List.length_replicate, eq_comm]

theorem Unclosed.tail {hashes : Nat} {c : Char} {body : List Char} (unclosed : Unclosed hashes (c :: body)) :
    Unclosed hashes body :=
  fun front back split => unclosed (c :: front) back (by rw [split, List.cons_append])

theorem Unclosed.cons {hashes : Nat} {c : Char} {body : List Char} (unclosed : Unclosed hashes body)
    (goesOn : c = '"' → ¬ List.replicate hashes '#' <+: body) : Unclosed hashes (c :: body) := by
  intro front back split
  cases front with
  | nil =>
    obtain ⟨rfl, rfl⟩ := List.cons.inj split
    exact goesOn rfl
  | cons d front => exact unclosed front back (List.cons.inj split).2

theorem decodeRaw_of_unclosed {hashes : Nat} {body : List Char} (unclosed : Unclosed hashes body) (rest : List Char) :
    decodeRaw hashes (body ++ '"' :: (List.replicate hashes '#' ++ rest)) = some (body, rest) := by
  induction body with
  | nil => simp [decodeRaw]
  | cons c body ih =>
    have goesOn : (c == '"' && (body ++ '"' :: (List.replicate hashes '#' ++ rest)).take hashes ==
        List.replicate hashes '#') = false := by
      rw [Bool.and_eq_false_iff, ← Bool.not_eq_true, ← Bool.not_eq_true, take_eq_replicate_iff, beq_iff_eq]
      by_cases quote : c = '"'
      · subst quote
        exact .inr fun closes => unclosed [] body rfl (replicate_prefix_of_append closes)
      · exact .inl quote
    rw [List.cons_append, decodeRaw, goesOn]
    simp [ih unclosed.tail]

theorem decode_of_means {literal : String} {value : List Char} (means : Means literal.toList value) :
    decode literal = some (String.ofList value) := by
  unfold decode
  generalize literal.toList = characters at means
  cases means with
  | quoted suffix spelled => simp [decodeCharacters_of_spells spelled]
  | @raw hashes body suffix unclosed =>
    have signs : (List.replicate hashes '#' ++
        '"' :: (value ++ '"' :: (List.replicate hashes '#' ++ suffix))).takeWhile (· == '#') =
          List.replicate hashes '#' := by
      rw [List.takeWhile_append_of_pos (by simp)]
      simp
    simp [signs, decodeRaw_of_unclosed unclosed]

theorem means_encode (text : String) : Means (encode text).toList text.toList := by
  rw [encode, String.toList_ofList]
  exact .quoted [] (spells_encodeCharacters _)

end Endpoints.Text.Quoted

namespace Endpoints.Lexeme
open Text.Quoted

/-- What is read of a raw text runs up to the first quote with enough signs. -/
theorem exists_unclosed {hashes : Nat} {text : List Char} {length : Nat}
    (found : rawBody? .text hashes text = some length) :
    ∃ body after, text = body ++ '"' :: (List.replicate hashes '#' ++ after) ∧ Unclosed hashes body ∧
      length = body.length + 1 + hashes := by
  fun_induction rawBody? .text hashes text generalizing length with
  | case1 => cases found
  | case2 rest closes =>
    cases found
    obtain ⟨after, split⟩ := take_eq_replicate_iff.mp closes
    refine ⟨[], after, by rw [split]; rfl, ?_, by simp [Nat.add_comm]⟩
    intro front back split
    cases front <;> cases split
  | case3 rest goesOn ih =>
    obtain ⟨more, others, rfl⟩ := Option.map_eq_some_iff.mp found
    obtain ⟨body, after, rfl, unclosed, rfl⟩ := ih others
    refine ⟨'"' :: body, after, rfl, unclosed.cons fun _ starts => ?_, by simp; omega⟩
    exact goesOn (take_eq_replicate_iff.mpr (starts.trans (List.prefix_append _ _)))
  | case4 rest ih =>
    obtain ⟨more, others, rfl⟩ := Option.map_eq_some_iff.mp found
    obtain ⟨body, after, rfl, unclosed, rfl⟩ := ih others
    have feed : Unclosed hashes ('\n' :: body) := unclosed.cons fun same => absurd same (by decide)
    exact ⟨'\r' :: '\n' :: body, after, rfl, feed.cons fun same => absurd same (by decide), by simp; omega⟩
  | case5 => cases found
  | case6 => cases found
  | case7 c rest quote _ _ _ ih =>
    obtain ⟨more, others, rfl⟩ := Option.map_eq_some_iff.mp found
    obtain ⟨body, after, rfl, unclosed, rfl⟩ := ih others
    exact ⟨c :: body, after, rfl, unclosed.cons fun same => absurd same quote, by simp; omega⟩

theorem exists_take_append {front : List Char} (rest : List Char) {length : Nat} (covers : front.length ≤ length) :
    ∃ more, (front ++ rest).take length = front ++ more :=
  ⟨rest.take (length - front.length), by rw [List.take_append, List.take_of_length_le covers]⟩

theorem exists_means_of_quoted {body : List Char} {length whole : Nat}
    (found : Quotation.text.length? .body body = some length) (covers : length + 1 ≤ whole) :
    ∃ value, Means (('"' :: body).take whole) value := by
  obtain ⟨inner, value, after, rfl, spelled⟩ := exists_spells found
  rw [length?_of_spells spelled] at found
  cases found
  have split : '"' :: (inner ++ '"' :: after) = '"' :: (inner ++ ['"']) ++ after := by simp
  obtain ⟨more, taken⟩ : ∃ more, ('"' :: (inner ++ ['"']) ++ after).take whole = '"' :: (inner ++ ['"']) ++ more :=
    exists_take_append after (by simpa using covers)
  refine ⟨value, ?_⟩
  rw [split, taken]
  simpa using Means.quoted more spelled

theorem exists_means_of_raw {text : List Char} {length whole : Nat} (found : raw? .text text = some length)
    (covers : length + 1 ≤ whole) : ∃ value, Means (('r' :: text).take whole) value := by
  unfold raw? at found
  simp only [Option.ite_none_left_eq_some] at found
  obtain ⟨_, found⟩ := found
  split at found
  next body opens =>
    obtain ⟨inside, read, rfl⟩ := Option.map_eq_some_iff.mp found
    obtain ⟨inner, after, rfl, unclosed, rfl⟩ := exists_unclosed read
    generalize counted : (text.takeWhile (· == '#')).length = hashes at *
    have signs : text.takeWhile (· == '#') = List.replicate hashes '#' :=
      List.eq_replicate_iff.mpr ⟨counted, fun c member => by simpa using List.mem_takeWhile_imp member⟩
    have front : text.take hashes = List.replicate hashes '#' := by
      rw [← counted, ← List.prefix_iff_eq_take.mp (List.takeWhile_prefix _), signs, List.length_replicate]
    have split : 'r' :: text = 'r' :: (List.replicate hashes '#' ++
        '"' :: (inner ++ '"' :: List.replicate hashes '#')) ++ after := by
      rw [← List.take_append_drop hashes text, front, opens]
      simp
    obtain ⟨more, taken⟩ : ∃ more, ('r' :: text).take whole = 'r' :: (List.replicate hashes '#' ++
        '"' :: (inner ++ '"' :: List.replicate hashes '#')) ++ more := by
      rw [split]
      refine exists_take_append after ?_
      simp at covers ⊢
      omega
    refine ⟨inner, ?_⟩
    rw [taken]
    simpa using Means.raw more unclosed
  next => cases found

theorem baseDigits?_of_not_digit {c : Char} (other : c.isDigit = false) (rest : List Char) :
    baseDigits? 10 true (c :: rest) = none := by
  have tens : ∀ digit, Text.Quoted.hexValue? c = some digit → ¬ digit < 10 := by
    intro digit hex
    unfold Text.Quoted.hexValue? at hex
    split at hex
    next digits =>
      have isDigit : c.isDigit = true := by
        simp only [Char.isDigit, Bool.and_eq_true, decide_eq_true_eq]
        exact digits
      rw [isDigit] at other
      cases other
    next =>
      split at hex
      next letters =>
        have least : 97 ≤ c.toNat := UInt32.le_iff_toNat_le.mp letters.1
        cases hex
        omega
      next =>
        obtain ⟨letters, same⟩ := Option.ite_none_right_eq_some.mp hex
        have least : 65 ≤ c.toNat := UInt32.le_iff_toNat_le.mp letters.1
        cases same
        omega
  unfold baseDigits?
  by_cases under : c = '_'
  · simp [under]
  · cases hex : Text.Quoted.hexValue? c with
    | none => simp [under, other]
    | some digit => simp [under, other, tens digit hex]

theorem number_of_not_digit {c : Char} (other : c.isDigit = false) (rest : List Char) : number (c :: rest) = none := by
  have whole : integerDigits? (c :: rest) = baseDigits? 10 true (c :: rest) := by
    unfold integerDigits?
    split
    next same =>
      cases same
      cases other
    next same =>
      cases same
      cases other
    next same =>
      cases same
      cases other
    next => rfl
  simp [number, floatDigits?, other, whole, baseDigits?_of_not_digit]

theorem exists_means_of_literal? {text : List Char} {length : Nat} (found : literal? text = some length)
    (isText : Tokens.isTextLiteral (String.ofList (text.take length)) = true) :
    ∃ value, Means (text.take length) value := by
  have starts : ∃ rest, text = '"' :: rest ∨ text = 'r' :: rest := by
    unfold Tokens.isTextLiteral at isText
    rw [String.toList_ofList] at isText
    cases text with
    | nil => simp at isText
    | cons c rest =>
      cases length with
      | zero => simp at isText
      | succ length =>
        rw [List.take_succ_cons] at isText
        split at isText
        next same => exact ⟨rest, .inl (by rw [(List.cons.inj same).1])⟩
        next same => exact ⟨rest, .inr (by rw [(List.cons.inj same).1])⟩
        next => cases isText
  obtain ⟨rest, rfl | rfl⟩ := starts
  · have digit : '"'.isDigit = false := by decide
    have alone : literal? ('"' :: rest) = quoted? ('"' :: rest) := by
      simp [literal?, character?, number_of_not_digit digit]
    rw [alone] at found
    simp only [quoted?, Option.map_eq_some_iff] at found
    obtain ⟨_, ⟨inside, read, rfl⟩, rfl⟩ := found
    exact exists_means_of_quoted read (Nat.le_add_right _ _)
  · have digit : 'r'.isDigit = false := by decide
    have alone : literal? ('r' :: rest) = quoted? ('r' :: rest) := by
      simp [literal?, character?, number_of_not_digit digit]
    rw [alone] at found
    simp only [quoted?, Option.map_eq_some_iff] at found
    obtain ⟨_, ⟨inside, read, rfl⟩, rfl⟩ := found
    exact exists_means_of_raw read (Nat.le_add_right _ _)

end Endpoints.Lexeme

namespace Endpoints.Lexer
open Text.Quoted

/-- A text literal that means a text, or another token. -/
def IsMeaningful (token : Token) : Prop :=
  ∀ literal, token = .literal literal → Tokens.isTextLiteral literal = true → ∃ value, Means literal.toList value

theorem meaningful_of_tokens? {text : String} {tokens : Tokens} (lexed : tokens? text = some tokens) :
    tokens.Each IsMeaningful := by
  refine each_of_tokens? (fun text token length found => ?_) (fun _ _ => nofun) (fun _ => nofun)
    (fun text => ?_) lexed
  · rintro literal rfl isText
    obtain ⟨whole, rfl⟩ := literal_of_leaf? found
    rw [String.toList_ofList]
    exact Lexeme.exists_means_of_literal? whole isText
  · rintro _ ⟨⟩ _
    exact ⟨_, means_encode text⟩

end Endpoints.Lexer
