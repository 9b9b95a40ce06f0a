import Endpoints.Proofs.LexedWords

/-! Whole numbers in source text. A number without a point and an exponent ends before each of the characters that may
follow a word or a number in a type. -/

namespace Endpoints.Lexeme

/-- The characters that may follow a word or a number directly. -/
def parting : List Char := [')', ']', '\x7d', ' ', '(', '[', '\x7b', ',', ';', ':', '<', '>']

/-- What follows a word or a number without going on with it. -/
def Parted (text : List Char) : Prop := ∀ c ∈ text.head?, c ∈ parting

theorem forall_of_all {characters : List Char} {property : Char → Prop} [DecidablePred property]
    (all : (characters.all fun c => decide (property c)) = true) : ∀ c ∈ characters, property c :=
  fun c member => of_decide_eq_true (List.all_eq_true.mp all c member)

theorem stops_of_parting : ∀ c ∈ parting, Text.isIdentifierStart c = false ∧ Text.isIdentifierContinue c = false ∧
    Text.Quoted.hexValue? c = none ∧ isDigitOrUnderscore c = false ∧
    c ∉ ['_', '.', '+', '-', 'e', 'E', 'x', 'o', 'b', '"', '\'', '#'] := forall_of_all (by decide)

def isWholeNumber (text : String) : Bool :=
  (floatDigits? text.toList).isNone && number text.toList == some text.toList.length

theorem isDigit_of_isWholeNumber {text : String} (whole : isWholeNumber text = true) :
    ∃ first more, text.toList = first :: more ∧ first.isDigit = true := by
  simp only [isWholeNumber, Bool.and_eq_true, beq_iff_eq] at whole
  cases spelled : text.toList with
  | nil =>
    rw [spelled] at whole
    cases whole.2
  | cons first more =>
    refine ⟨first, more, rfl, ?_⟩
    by_contra other
    rw [spelled, number_of_not_digit (Bool.eq_false_iff.mpr other)] at whole
    cases whole.2

theorem not_mem_of_baseDigits? {base : Nat} {empty : Bool} {text : List Char} {length : Nat}
    (found : baseDigits? base empty text = some length) : ' ' ∉ text.take length := by
  induction text generalizing empty length with
  | nil => simp
  | cons c rest ih =>
    by_cases blank : c = ' '
    · subst blank
      have hex : Text.Quoted.hexValue? ' ' = none := by decide
      have none : length = 0 := by
        cases empty <;> simp_all [baseDigits?]
      simp [none]
    · have further {more : Bool} (found : (baseDigits? base more rest).map (· + 1) = some length) :
          ' ' ∉ (c :: rest).take length := by
        obtain ⟨count, read, rfl⟩ := Option.map_eq_some_iff.mp found
        simp [Ne.symm blank, ih read]
      rw [baseDigits?] at found
      split at found
      · split at found
        · cases found
        · exact further found
      · split at found
        · split at found
          · cases found
          · exact further found
        · split at found
          · split at found
            · exact further found
            · split at found
              · cases found
              · cases found
                exact List.not_mem_nil
          · split at found
            · cases found
            · cases found
              exact List.not_mem_nil

theorem not_mem_of_integerDigits? {text : List Char} {length : Nat} (found : integerDigits? text = some length) :
    ' ' ∉ text.take length := by
  have marked {base : Nat} {mark : Char} {rest : List Char} (plain : mark ≠ ' ')
      (found : (baseDigits? base true rest).map (· + 2) = some length) : ' ' ∉ ('0' :: mark :: rest).take length := by
    obtain ⟨count, read, rfl⟩ := Option.map_eq_some_iff.mp found
    simp [Ne.symm plain, not_mem_of_baseDigits? read]
  unfold integerDigits? at found
  split at found
  · exact marked (by decide) found
  · exact marked (by decide) found
  · exact marked (by decide) found
  · exact not_mem_of_baseDigits? found

theorem not_mem_of_suffix (text : List Char) : ' ' ∉ text.take (suffix text) := by
  cases text with
  | nil => simp
  | cons first rest =>
    by_cases start : Text.isIdentifierStart first = true
    · have continues : ' ' ∉ rest.takeWhile Text.isIdentifierContinue := fun member =>
        absurd (List.mem_takeWhile_imp member) (by decide)
      have other : ' ' ≠ first := by
        rintro rfl
        exact absurd start (by decide)
      have taken : rest.take (rest.takeWhile Text.isIdentifierContinue).length =
          rest.takeWhile Text.isIdentifierContinue := List.prefix_iff_eq_take.mp (List.takeWhile_prefix _) |>.symm
      simp [suffix, name?, start, other, taken, continues]
    · simp [suffix, name?, start]

theorem blankless_of_isWholeNumber {text : String} (whole : isWholeNumber text = true) : ' ' ∉ text.toList := by
  simp only [isWholeNumber, Bool.and_eq_true, beq_iff_eq, Option.isNone_iff_eq_none] at whole
  obtain ⟨pointless, counted⟩ := whole
  unfold number at counted
  simp only [pointless, Option.bind_none, Option.bind_eq_some_iff, closedNumber?, Option.ite_none_left_eq_some,
    Option.some.injEq] at counted
  obtain ⟨digits, found, -, length⟩ := counted
  rw [withSuffix] at length
  have split : text.toList =
      text.toList.take digits ++ (text.toList.drop digits).take (suffix (text.toList.drop digits)) := by
    rw [← List.take_add, length, List.take_length]
  rw [split, List.mem_append, not_or]
  exact ⟨not_mem_of_integerDigits? found, not_mem_of_suffix _⟩

variable {rest : List Char} (parted : Parted rest)
include parted

theorem takeWhile_parted {property : Char → Bool} (stops : ∀ c ∈ parting, property c = false) (text : List Char) :
    (text ++ rest).takeWhile property = text.takeWhile property := by
  have none : rest.takeWhile property = [] := by
    cases rest with
    | nil => rfl
    | cons c rest => simp [stops c (parted c rfl)]
  rw [List.takeWhile_append, none]
  split
  next whole =>
    rw [List.append_nil]
    exact (List.IsPrefix.eq_of_length (List.takeWhile_prefix property) whole).symm
  next => rfl

theorem suffix_parted (text : List Char) : suffix (text ++ rest) = suffix text := by
  have named : name? (text ++ rest) = name? text := by
    cases text with
    | nil =>
      cases rest with
      | nil => rfl
      | cons c rest => simp [name?, (stops_of_parting c (parted c rfl)).1]
    | cons first text =>
      rw [List.cons_append, name?, name?, takeWhile_parted parted fun c member => (stops_of_parting c member).2.1]
  rw [suffix, suffix, named]

theorem exponent?_parted (signed valued : Bool) (text : List Char) :
    exponent? signed valued (text ++ rest) = exponent? signed valued text := by
  induction text generalizing signed valued with
  | nil =>
    cases rest with
    | nil => rfl
    | cons c rest =>
      obtain ⟨-, -, -, digit, others⟩ := stops_of_parting c (parted c rfl)
      simp only [isDigitOrUnderscore, Bool.or_eq_false_iff] at digit
      simp_all [exponent?]
  | cons c text ih => simp only [List.cons_append, exponent?, ih]

theorem baseDigits?_parted (base : Nat) (empty : Bool) (text : List Char) :
    baseDigits? base empty (text ++ rest) = baseDigits? base empty text := by
  induction text generalizing empty with
  | nil =>
    cases rest with
    | nil => rfl
    | cons c rest =>
      obtain ⟨-, -, hex, digit, others⟩ := stops_of_parting c (parted c rfl)
      simp only [isDigitOrUnderscore, Bool.or_eq_false_iff] at digit
      simp_all [baseDigits?]
  | cons c text ih => simp only [List.cons_append, baseDigits?, ih]

theorem integerDigits?_parted {text : List Char} (filled : text ≠ []) :
    integerDigits? (text ++ rest) = integerDigits? text := by
  obtain ⟨first, text, rfl⟩ := List.exists_cons_of_ne_nil filled
  have digits := baseDigits?_parted parted
  cases text with
  | nil =>
    have one : integerDigits? [first] = baseDigits? 10 true [first] := by
      unfold integerDigits?
      split <;> simp_all
    have more : integerDigits? ([first] ++ rest) = baseDigits? 10 true ([first] ++ rest) := by
      unfold integerDigits?
      cases rest with
      | nil => split <;> simp_all
      | cons c rest =>
        have others := (stops_of_parting c (parted c rfl)).2.2.2.2
        split <;> simp_all
    rw [one, more, digits]
  | cons second text =>
    by_cases hexadecimal : first = '0' ∧ second = 'x'
    · obtain ⟨rfl, rfl⟩ := hexadecimal
      exact congrArg (Option.map (· + 2)) (digits 16 true text)
    by_cases octal : first = '0' ∧ second = 'o'
    · obtain ⟨rfl, rfl⟩ := octal
      exact congrArg (Option.map (· + 2)) (digits 8 true text)
    by_cases binary : first = '0' ∧ second = 'b'
    · obtain ⟨rfl, rfl⟩ := binary
      exact congrArg (Option.map (· + 2)) (digits 2 true text)
    have decimal (more : List Char) :
        integerDigits? (first :: second :: more) = baseDigits? 10 true (first :: second :: more) := by
      unfold integerDigits?
      split <;> simp_all
    rw [decimal, List.cons_append, List.cons_append, decimal]
    exact digits 10 true (first :: second :: text)

/-- A point or an exponent that is not there does not come with what follows. -/
theorem floatDigits?_parted {text : List Char} (whole : floatDigits? text = none) :
    floatDigits? (text ++ rest) = none := by
  cases text with
  | nil =>
    cases rest with
    | nil => rfl
    | cons c rest =>
      have digit := (stops_of_parting c (parted c rfl)).2.2.2.1
      simp only [isDigitOrUnderscore, Bool.or_eq_false_iff] at digit
      simp [floatDigits?, digit.1]
  | cons first text =>
    have digits := takeWhile_parted parted (fun c member => (stops_of_parting c member).2.2.2.1) text
    have length : (text.takeWhile isDigitOrUnderscore).length + 1 ≤ (first :: text).length :=
      Nat.succ_le_succ (List.takeWhile_sublist _).length_le
    simp only [floatDigits?] at whole
    simp only [List.cons_append, floatDigits?, digits]
    simp only [← List.cons_append, List.drop_append_of_le_length length]
    split
    next => rfl
    next digit =>
      rw [if_neg digit] at whole
      cases left : (first :: text).drop ((text.takeWhile isDigitOrUnderscore).length + 1) with
      | nil =>
        cases rest with
        | nil => rfl
        | cons c rest =>
          have others := (stops_of_parting c (parted c rfl)).2.2.2.2
          simp_all
      | cons mark more =>
        simp only [left] at whole
        simp only [List.cons_append]
        split
        next afterPoint same =>
          obtain ⟨rfl, rfl⟩ := List.cons.inj same
          by_cases stands : (more.head?.any fun c => c == '.' || Text.isIdentifierStart c) = true
          · have behind : (more ++ rest).head? = more.head? := by
              cases more with
              | nil => cases stands
              | cons => rfl
            rw [behind, if_pos stands]
          · simp only [stands, Bool.false_eq_true, if_false] at whole
            split at whole
            · split at whole <;> cases whole
            · cases whole
        next c afterMark other same =>
          obtain ⟨rfl, rfl⟩ := List.cons.inj same
          rw [exponent?_parted parted]
          split at whole
          next point => exact (other (List.cons.inj point).1).elim
          next exponent =>
            obtain ⟨rfl, rfl⟩ := List.cons.inj exponent
            exact whole
          next none => cases none
        next => rfl

theorem number_parted {text : String} (whole : isWholeNumber text = true) :
    number (text.toList ++ rest) = some text.toList.length := by
  obtain ⟨first, more, spelled, -⟩ := isDigit_of_isWholeNumber whole
  simp only [isWholeNumber, Bool.and_eq_true, beq_iff_eq, Option.isNone_iff_eq_none] at whole
  obtain ⟨pointless, counted⟩ := whole
  have filled : text.toList ≠ [] := by simp [spelled]
  unfold number at counted ⊢
  simp only [pointless, floatDigits?_parted parted pointless, integerDigits?_parted parted filled, Option.bind_none,
    Option.bind_eq_some_iff, closedNumber?, Option.ite_none_left_eq_some, Option.some.injEq] at counted ⊢
  obtain ⟨digits, found, -, length⟩ := counted
  have within : digits ≤ text.toList.length := by
    rw [← length]
    exact Nat.le_add_right _ _
  have same : withSuffix (text.toList ++ rest) digits = text.toList.length := by
    rw [← length, withSuffix, withSuffix, List.drop_append_of_le_length within, suffix_parted parted]
  refine ⟨digits, found, ?_, same⟩
  rw [same, List.drop_left]
  cases rest with
  | nil => simp
  | cons c rest => simp [(stops_of_parting c (parted c rfl)).2.1]

end Endpoints.Lexeme

namespace Endpoints.Lexer
open Lexeme

theorem endsWord_of_parted {rest : List Char} (parted : Parted rest) : EndsWord rest where
  quiet c member among := by
    have others := (stops_of_parting c (parted c member)).2.2.2.2
    simp only [List.mem_cons, List.not_mem_nil, or_false] at among
    rcases among with rfl | rfl | rfl <;> simp at others
  ends c member := (stops_of_parting c (parted c member)).2.1

theorem leaf?_of_isWholeNumber {text : String} {rest : List Char} (whole : isWholeNumber text = true)
    (parted : Parted rest) : leaf? (text.toList ++ rest) = some (.literal text, text.toList.length) := by
  obtain ⟨first, more, spelled, digit⟩ := isDigit_of_isWholeNumber whole
  have counted := number_parted parted whole
  have other {c : Char} (letter : c.isDigit = false) : first ≠ c := by
    rintro rfl
    exact absurd (digit.symm.trans letter) (by decide)
  have quote := @other '"' rfl
  have r := @other 'r' rfl
  have b := @other 'b' rfl
  have c' := @other 'c' rfl
  have apostrophe := @other '\'' rfl
  have literal : literal? (text.toList ++ rest) = some text.toList.length := by
    rw [spelled, List.cons_append] at counted ⊢
    simp [literal?, quoted?, character?, counted, quote, r, b, c', apostrophe]
  simp [leaf?, literal]

end Endpoints.Lexer
