import Endpoints.Token.Literal
import Mathlib.Algebra.Group.Nat.Defs

/-! Text literals. What stands between the quotes spells a text, character by character or by escapes; a
lexeme that is read as a text literal spells one text, and every text is spelled by its quoted form. -/

namespace Endpoints.Text.Quoted

theorem decodeCharacters_byte {high low : Char} {h l : Nat} (first : hexValue? high = some h)
    (second : hexValue? low = some l) (rest : List Char) :
    decodeCharacters ('\\' :: 'x' :: high :: low :: rest) =
      (decodeCharacters rest).map fun (value, after) => (Char.ofNat (h * 16 + l) :: value, after) := by
  rw [decodeCharacters]
  simp only [first, second]

/-- The escapes of one character. -/
def marks : List (Char × Char) :=
  [('n', '\n'), ('r', '\r'), ('t', '\t'), ('0', '\x00'), ('\\', '\\'), ('\'', '\''), ('"', '"')]

/-- Blanks that a backslash hides at the end of a line. A carriage return is one only before a line feed. -/
inductive Hidden : List Char → Prop where
  | nil : Hidden []
  | blank {c rest} (blank : c ∈ [' ', '\t', '\n']) (more : Hidden rest) : Hidden (c :: rest)
  | carriage {rest} (more : Hidden rest) : Hidden ('\r' :: '\n' :: rest)

/-- The code that hexadecimal digits spell after `count` digits that spell `value`. Underscores after a digit
do not count, and of the digits there are at most six. -/
inductive Digits : Nat → Nat → List Char → Nat → Prop where
  | done {count value} (some : 0 < count) (scalar : Lexeme.isScalar value = true) : Digits count value [] value
  | underscore {count value rest code} (some : 0 < count) (more : Digits count value rest code) :
      Digits count value ('_' :: rest) code
  | digit {count value c digit rest code} (hex : hexValue? c = some digit) (few : count < 6)
      (more : Digits (count + 1) (value * 16 + digit) rest code) : Digits count value (c :: rest) code

/-- What the characters between two quotes stand for. -/
inductive Spells : List Char → List Char → Prop where
  | nil : Spells [] []
  | plain {c text value} (plain : c ∉ ['"', '\\', '\r']) (more : Spells text value) :
      Spells (c :: text) (c :: value)
  | lineEnd {text value} (more : Spells text value) : Spells ('\r' :: '\n' :: text) ('\n' :: value)
  | mark {c meant text value} (known : (c, meant) ∈ marks) (more : Spells text value) :
      Spells ('\\' :: c :: text) (meant :: value)
  | byte {high low h l text value} (first : hexValue? high = some h) (small : h < 8)
      (second : hexValue? low = some l) (more : Spells text value) :
      Spells ('\\' :: 'x' :: high :: low :: text) (Char.ofNat (h * 16 + l) :: value)
  | number {digits code text value} (number : Digits 0 0 digits code) (more : Spells text value) :
      Spells ('\\' :: 'u' :: '\x7b' :: (digits ++ '\x7d' :: text)) (Char.ofNat code :: value)
  | hidden {blanks text value} (hidden : Hidden blanks) (lineEnd : ∃ c ∈ blanks.head?, c = '\n' ∨ c = '\r')
      (ends : ∀ c ∈ text.head?, isContinuationBlank c = false) (more : Spells text value) :
      Spells ('\\' :: (blanks ++ text)) value

theorem decodeCharacters_plain {c : Char} (plain : c ∉ ['"', '\\', '\r']) (rest : List Char) :
    decodeCharacters (c :: rest) = (decodeCharacters rest).map fun (value, after) => (c :: value, after) := by
  simp only [List.mem_cons, List.not_mem_nil, or_false, not_or] at plain
  obtain ⟨quote, backslash, carriage⟩ := plain
  rw [decodeCharacters]
  · exact quote
  · intro next same
    exact absurd same carriage
  · intro _ _ _ same
    exact absurd same backslash
  · intro _ same
    exact absurd same backslash
  · intro _ _ same
    exact absurd same backslash

theorem decodeCharacters_mark {c meant : Char} (known : (c, meant) ∈ marks) (rest : List Char) :
    decodeCharacters ('\\' :: c :: rest) =
      (decodeCharacters rest).map fun (value, after) => (meant :: value, after) := by
  have other : c ≠ 'x' ∧ c ≠ 'u' ∧ (c == '\n' || c == '\r') = false ∧
      (if c == 'n' then '\n' else if c == 'r' then '\r' else if c == 't' then '\t'
        else if c == '0' then '\x00' else c) = meant := by
    have each : ∀ mark ∈ marks, mark.1 ≠ 'x' ∧ mark.1 ≠ 'u' ∧ (mark.1 == '\n' || mark.1 == '\r') = false ∧
        (if mark.1 == 'n' then '\n' else if mark.1 == 'r' then '\r' else if mark.1 == 't' then '\t'
          else if mark.1 == '0' then '\x00' else mark.1) = mark.2 := by decide
    exact each _ known
  obtain ⟨notByte, notNumber, noLineEnd, meant⟩ := other
  rw [decodeCharacters]
  · simp only [noLineEnd, meant]
    rfl
  · intro _ _ _ same
    exact absurd same notByte
  · intro _ same
    exact absurd same notNumber

theorem decodeCharacters_number {digits rest : List Char} {code : Nat}
    (read : readNumber 0 digits = some (code, rest)) :
    decodeCharacters ('\\' :: 'u' :: '\x7b' :: digits) =
      (decodeCharacters rest).map fun (value, after) => (Char.ofNat code :: value, after) := by
  rw [decodeCharacters]
  split
  next found => rw [read] at found; cases found; rfl
  next found => rw [read] at found; cases found

theorem decodeCharacters_hidden {c : Char} (lineEnd : c = '\n' ∨ c = '\r') (rest : List Char) :
    decodeCharacters ('\\' :: c :: rest) = decodeCharacters (rest.dropWhile isContinuationBlank) := by
  have other : c ≠ 'x' ∧ c ≠ 'u' := by rcases lineEnd with rfl | rfl <;> decide
  rw [decodeCharacters]
  · rcases lineEnd with rfl | rfl <;> rfl
  · intro _ _ _ same
    exact absurd same other.1
  · intro _ same
    exact absurd same other.2

theorem ne_of_hexValue? {c : Char} {digit : Nat} (hex : hexValue? c = some digit) : c ≠ '_' ∧ c ≠ '\x7d' := by
  have under : hexValue? '_' = none := by decide
  have close : hexValue? '\x7d' = none := by decide
  constructor <;> rintro rfl
  · rw [under] at hex
    cases hex
  · rw [close] at hex
    cases hex

theorem readNumber_of_digits {count value code : Nat} {digits : List Char} (spelled : Digits count value digits code)
    (rest : List Char) : readNumber value (digits ++ '\x7d' :: rest) = some (code, rest) := by
  induction spelled with
  | done => rw [List.nil_append, readNumber]
  | underscore _ _ ih => rw [List.cons_append, readNumber, ih]
  | digit hex _ _ ih =>
    obtain ⟨under, close⟩ := ne_of_hexValue? hex
    rw [List.cons_append, readNumber]
    · simp only [hex, ih]
    · intro same
      exact absurd same close
    · intro same
      exact absurd same under

theorem dropWhile_of_hidden {blanks text : List Char} (hidden : Hidden blanks)
    (ends : ∀ c ∈ text.head?, isContinuationBlank c = false) (rest : List Char) :
    (blanks ++ (text ++ '"' :: rest)).dropWhile isContinuationBlank = text ++ '"' :: rest := by
  induction hidden with
  | nil =>
    cases text with
    | nil => rfl
    | cons c text => simp [ends c rfl]
  | @blank c _ blank _ ih =>
    have each : [' ', '\t', '\n'].all isContinuationBlank = true := by decide
    have skipped : isContinuationBlank c = true := List.all_eq_true.mp each c blank
    rw [List.cons_append, List.dropWhile_cons_of_pos skipped, ih]
  | carriage _ ih =>
    rw [List.cons_append, List.cons_append, List.dropWhile_cons_of_pos (by decide),
      List.dropWhile_cons_of_pos (by decide), ih]

theorem decodeCharacters_of_spells {text value : List Char} (spelled : Spells text value) (rest : List Char) :
    decodeCharacters (text ++ '"' :: rest) = some (value, rest) := by
  induction spelled with
  | nil => rw [List.nil_append, decodeCharacters]
  | plain plain _ ih => rw [List.cons_append, decodeCharacters_plain plain, ih, Option.map_some]
  | lineEnd _ ih => rw [List.cons_append, List.cons_append, decodeCharacters, ih, Option.map_some]
  | mark known _ ih => rw [List.cons_append, List.cons_append, decodeCharacters_mark known, ih, Option.map_some]
  | byte first _ second _ ih =>
    simp only [List.cons_append]
    rw [decodeCharacters_byte first second, ih, Option.map_some]
  | number number _ ih =>
    simp only [List.cons_append, List.append_assoc]
    rw [decodeCharacters_number (readNumber_of_digits number _), ih, Option.map_some]
  | @hidden blanks text value hidden lineEnd ends _ ih =>
    obtain ⟨c, first, lineEnd⟩ := lineEnd
    obtain ⟨others, rfl⟩ := List.head?_eq_some_iff.mp first
    have skipped := dropWhile_of_hidden hidden ends rest
    have blank : isContinuationBlank c = true := by rcases lineEnd with rfl | rfl <;> rfl
    rw [List.cons_append, List.dropWhile_cons_of_pos blank] at skipped
    simp only [List.cons_append, List.append_assoc]
    rw [decodeCharacters_hidden lineEnd, skipped, ih]

end Endpoints.Text.Quoted

namespace Endpoints.Lexeme
open Text.Quoted

/-- A character after which the text goes on. -/
theorem Quotation.length?_of_next {quotation : Quotation} {reading next : Reading} {c : Char}
    (step : quotation.next reading c = some next) (goesOn : next ≠ .closed) (rest : List Char) :
    quotation.length? reading (c :: rest) = (quotation.length? next rest).map (· + 1) := by
  rw [length?, step]
  cases next with
  | closed => exact absurd rfl goesOn
  | _ => rfl

theorem length?_of_digits {count value code : Nat} {digits : List Char} (spelled : Digits count value digits code)
    (rest : List Char) :
    Quotation.text.length? (.number count value) (digits ++ '\x7d' :: rest) =
      (Quotation.text.length? .body rest).map (· + (digits.length + 1)) := by
  induction spelled with
  | @done count value some scalar =>
    have step : Quotation.text.next (.number count value) '\x7d' = Option.some .body := by
      simp [Quotation.next, some, scalar]
    exact Quotation.length?_of_next step nofun rest
  | @underscore count value _ _ some _ ih =>
    have step : Quotation.text.next (.number count value) '_' = Option.some (.number count value) := by
      simp [Quotation.next, some]
    rw [List.cons_append, Quotation.length?_of_next step nofun, ih, Option.map_map]
    rfl
  | @digit count value c digit _ _ hex few _ ih =>
    obtain ⟨under, close⟩ := ne_of_hexValue? hex
    have step : Quotation.text.next (.number count value) c = some (.number (count + 1) (value * 16 + digit)) := by
      simp [Quotation.next, under, close, hex, Nat.ne_of_lt few]
    rw [List.cons_append, Quotation.length?_of_next step nofun, ih, Option.map_map]
    rfl

/-- What ends the blanks after a hidden line end is read as anywhere else. -/
theorem length?_continuation {c : Char} (solid : isContinuationBlank c = false) (rest : List Char) :
    Quotation.text.length? .continuation (c :: rest) = Quotation.text.length? .body (c :: rest) := by
  have same : Quotation.text.next .continuation c = Quotation.text.next .body c := by
    simp only [isContinuationBlank, Bool.or_eq_false_iff, beq_eq_false_iff_ne] at solid
    simp [Quotation.next, solid]
  rw [Quotation.length?, Quotation.length?, same]

theorem length?_of_hidden {blanks text : List Char} (hidden : Hidden blanks)
    (ends : ∀ c ∈ text.head?, isContinuationBlank c = false) (rest : List Char) :
    Quotation.text.length? .continuation (blanks ++ (text ++ '"' :: rest)) =
      (Quotation.text.length? .body (text ++ '"' :: rest)).map (· + blanks.length) := by
  induction hidden with
  | nil =>
    have stays : Quotation.text.length? .continuation (text ++ '"' :: rest) =
        Quotation.text.length? .body (text ++ '"' :: rest) := by
      cases text with
      | nil => exact length?_continuation (by decide) rest
      | cons c text => exact length?_continuation (ends c rfl) _
    rw [List.nil_append, stays]
    simp
  | @blank c blanks blank _ ih =>
    have step : Quotation.text.next .continuation c = some .continuation := by
      revert c
      simp [Quotation.next]
    rw [List.cons_append, Quotation.length?_of_next step nofun, ih, Option.map_map]
    rfl
  | carriage _ ih =>
    have carriage : Quotation.text.next .continuation '\r' = some .continuationCarriage := rfl
    have feed : Quotation.text.next .continuationCarriage '\n' = some .continuation := rfl
    rw [List.cons_append, List.cons_append, Quotation.length?_of_next carriage nofun,
      Quotation.length?_of_next feed nofun, ih, Option.map_map, Option.map_map]
    rfl

theorem length?_backslash (rest : List Char) :
    Quotation.text.length? .body ('\\' :: rest) = (Quotation.text.length? .escape rest).map (· + 1) := by
  have starts : Quotation.text.next .body '\\' = some .escape := rfl
  exact Quotation.length?_of_next starts nofun rest

theorem length?_of_spells {text value : List Char} (spelled : Spells text value) (rest : List Char) :
    Quotation.text.length? .body (text ++ '"' :: rest) = some (text.length + 1) := by
  induction spelled with
  | nil => rfl
  | @plain c text value plain _ ih =>
    have within : Quotation.text.next .body c = some .body := by
      simp at plain
      simp [Quotation.next, Quotation.inBody, plain]
    rw [List.cons_append, Quotation.length?_of_next within nofun, ih]
    rfl
  | lineEnd _ ih =>
    have carriage : Quotation.text.next .body '\r' = some .afterCarriage := rfl
    have feed : Quotation.text.next .afterCarriage '\n' = some .body := rfl
    simp only [List.cons_append]
    rw [Quotation.length?_of_next carriage nofun, Quotation.length?_of_next feed nofun, ih]
    rfl
  | @mark c _ _ _ known _ ih =>
    have each : ∀ mark ∈ marks, Quotation.text.next .escape mark.1 = some .body := by
      simp [marks, Quotation.next]
    simp only [List.cons_append]
    rw [length?_backslash, Quotation.length?_of_next (each _ known) nofun, ih]
    rfl
  | @byte high low h _ _ _ first small second _ ih =>
    have letter : Quotation.text.next .escape 'x' = some .hexHigh := rfl
    have upper : Quotation.text.next .hexHigh high = some (.hexLow h) := by
      simp [Quotation.next, first, Nat.not_le.mpr small]
    have lower : Quotation.text.next (.hexLow h) low = some .body := by
      simp [Quotation.next, second]
    simp only [List.cons_append]
    rw [length?_backslash, Quotation.length?_of_next letter nofun, Quotation.length?_of_next upper nofun,
      Quotation.length?_of_next lower nofun, ih]
    rfl
  | number number _ ih =>
    have letter : Quotation.text.next .escape 'u' = some .numberOpen := rfl
    have opens : Quotation.text.next .numberOpen '\x7b' = some (.number 0 0) := rfl
    simp only [List.cons_append, List.append_assoc]
    rw [length?_backslash, Quotation.length?_of_next letter nofun, Quotation.length?_of_next opens nofun,
      length?_of_digits number, ih]
    simp
    omega
  | @hidden blanks text value hidden lineEnd ends _ ih =>
    have after {blanks : List Char} (hidden : Hidden blanks) := length?_of_hidden hidden ends rest
    simp only [List.cons_append, List.append_assoc]
    rw [length?_backslash]
    cases hidden with
    | nil => simp at lineEnd
    | @blank c blanks blank more =>
      obtain rfl : c = '\n' := by
        obtain ⟨_, ⟨⟩, rfl | rfl⟩ := lineEnd
        · rfl
        · exact absurd blank (by decide)
      have feed : Quotation.text.next .escape '\n' = some .continuation := rfl
      rw [List.cons_append, Quotation.length?_of_next feed nofun, after more, ih]
      simp
      omega
    | carriage more =>
      have carriage : Quotation.text.next .escape '\r' = some .continuationCarriage := rfl
      have feed : Quotation.text.next .continuationCarriage '\n' = some .continuation := rfl
      rw [List.cons_append, List.cons_append, Quotation.length?_of_next carriage nofun,
        Quotation.length?_of_next feed nofun, after more, ih]
      simp
      omega

/-- A reading that comes to its end takes a step, which closes the text or after which the reading goes on. -/
theorem Quotation.exists_next {quotation : Quotation} {reading : Reading} {text : List Char} {length : Nat}
    (found : quotation.length? reading text = some length) :
    ∃ c rest next, text = c :: rest ∧ quotation.next reading c = some next ∧
      (next = .closed ∧ length = 1 ∨
        next ≠ .closed ∧ ∃ more, quotation.length? next rest = some more ∧ length = more + 1) := by
  cases text with
  | nil => cases found
  | cons c rest =>
    rw [length?] at found
    split at found
    next => cases found
    next step =>
      cases found
      exact ⟨c, rest, .closed, rfl, step, .inl ⟨rfl, rfl⟩⟩
    next next goesOn step =>
      obtain ⟨more, others, rfl⟩ := Option.map_eq_some_iff.mp found
      exact ⟨c, rest, next, rfl, step, .inr ⟨goesOn, more, others, rfl⟩⟩

/-- A step that cannot close the text. -/
theorem Quotation.exists_step {quotation : Quotation} {reading : Reading} {text : List Char} {length : Nat}
    (found : quotation.length? reading text = some length) (within : ∀ c, quotation.next reading c ≠ some .closed) :
    ∃ c rest next more, text = c :: rest ∧ quotation.next reading c = some next ∧
      quotation.length? next rest = some more ∧ length = more + 1 := by
  obtain ⟨c, rest, next, rfl, step, ⟨rfl, rfl⟩ | ⟨_, more, others, rfl⟩⟩ := exists_next found
  · exact absurd step (within c)
  · exact ⟨c, rest, next, more, rfl, step, others, rfl⟩

theorem Quotation.exists_awaited (awaited : Char) (next : Reading) {reading : Reading} {text : List Char}
    {length : Nat} (awaits : ∀ c, Quotation.text.next reading c = if c == awaited then some next else none)
    (goesOn : next ≠ .closed) (found : Quotation.text.length? reading text = some length) :
    ∃ rest more, text = awaited :: rest ∧ Quotation.text.length? next rest = some more ∧ length = more + 1 := by
  obtain ⟨c, rest, _, more, rfl, step, others, rfl⟩ := Quotation.exists_step found (by
    intro c
    rw [awaits]
    split
    · exact fun closed => goesOn (Option.some.inj closed)
    · nofun)
  rw [awaits, Option.ite_none_right_eq_some] at step
  obtain ⟨same, reading⟩ := step
  obtain rfl : c = awaited := by simpa using same
  cases reading
  exact ⟨rest, more, rfl, others, rfl⟩

theorem exists_digits {count value : Nat} {text : List Char} {length : Nat} (few : count ≤ 6)
    (found : Quotation.text.length? (.number count value) text = some length) :
    ∃ digits code after rest, text = digits ++ '\x7d' :: after ∧ Digits count value digits code ∧
      Quotation.text.length? .body after = some rest ∧ rest < length := by
  induction text generalizing count value length with
  | nil => cases found
  | cons c text ih =>
    obtain ⟨_, _, next, more, same, step, others, rfl⟩ := Quotation.exists_step found (by
      intro c
      simp only [Quotation.next]
      split
      · nofun
      · split
        · split <;> nofun
        · cases hexValue? c <;> simp)
    cases same
    simp only [Quotation.next, Bool.and_eq_true, beq_iff_eq, decide_eq_true_eq] at step
    split at step
    next under =>
      cases step
      obtain ⟨rfl, some⟩ := under
      obtain ⟨digits, code, after, rest, rfl, spelled, last, less⟩ := ih few others
      exact ⟨_, code, after, rest, rfl, .underscore some spelled, last, by omega⟩
    next =>
      split at step
      next close =>
        obtain ⟨rfl, some⟩ := close
        obtain ⟨scalar, same⟩ := Option.ite_none_right_eq_some.mp step
        cases same
        exact ⟨[], value, text, more, rfl, .done some (by simpa using scalar), others, by omega⟩
      next =>
        cases hex : hexValue? c with
        | none => simp [hex] at step
        | some digit =>
          rw [hex] at step
          simp only [Option.bind_eq_bind, Option.bind_some, Option.ite_none_left_eq_some] at step
          obtain ⟨room, same⟩ := step
          cases same
          obtain ⟨digits, code, after, rest, rfl, spelled, last, less⟩ := ih (by omega) others
          exact ⟨c :: digits, code, after, rest, rfl, .digit hex (by omega) spelled, last, by omega⟩

theorem exists_hidden {text : List Char} {length : Nat}
    (found : Quotation.text.length? .continuation text = some length) :
    ∃ blanks after rest, text = blanks ++ after ∧ Hidden blanks ∧
      (∀ c ∈ after.head?, isContinuationBlank c = false) ∧
        Quotation.text.length? .body after = some rest ∧ rest ≤ length := by
  induction length using Nat.strongRecOn generalizing text with
  | ind length ih =>
    cases text with
    | nil => cases found
    | cons c text =>
      cases solid : isContinuationBlank c with
      | false =>
        rw [length?_continuation solid] at found
        refine ⟨[], c :: text, length, rfl, .nil, ?_, found, Nat.le_refl _⟩
        rintro _ ⟨⟩
        exact solid
      | true =>
        by_cases carriage : c = '\r'
        · subst carriage
          have first : Quotation.text.next .continuation '\r' = some .continuationCarriage := rfl
          rw [Quotation.length?_of_next first nofun] at found
          obtain ⟨more, others, rfl⟩ := Option.map_eq_some_iff.mp found
          obtain ⟨rest, more, rfl, onward, rfl⟩ :=
            Quotation.exists_awaited '\n' .continuation (fun _ => rfl) nofun others
          obtain ⟨blanks, after, rest, rfl, hidden, ends, last, less⟩ := ih more (by omega) onward
          exact ⟨_, after, rest, rfl, .carriage hidden, ends, last, by omega⟩
        · have blank : c ∈ [' ', '\t', '\n'] := by
            simpa [isContinuationBlank, carriage, or_assoc] using solid
          have each : ∀ c ∈ [' ', '\t', '\n'], Quotation.text.next .continuation c = some .continuation := by
            simp [Quotation.next]
          rw [Quotation.length?_of_next (each c blank) nofun] at found
          obtain ⟨more, others, rfl⟩ := Option.map_eq_some_iff.mp found
          obtain ⟨blanks, after, rest, rfl, hidden, ends, last, less⟩ := ih more (by omega) others
          exact ⟨_, after, rest, rfl, .blank blank hidden, ends, last, by omega⟩

/-- A text that starts with a piece of a spelled one, and goes on with characters that are read as its rest. -/
def Begins (text : List Char) (length : Nat) : Prop :=
  ∃ piece meant rest more, text = piece ++ rest ∧ Quotation.text.length? .body rest = some more ∧ more < length ∧
    ∀ body value after, rest = body ++ '"' :: after → Spells body value → Spells (piece ++ body) (meant ++ value)

theorem Begins.mono {text : List Char} {length more : Nat} (begins : Begins text length) (le : length ≤ more) :
    Begins text more := by
  obtain ⟨piece, meant, rest, further, same, last, less, spells⟩ := begins
  exact ⟨piece, meant, rest, further, same, last, Nat.lt_of_lt_of_le less le, spells⟩

theorem begins_hidden {front text : List Char} {length : Nat} (lineEnd : front = ['\n'] ∨ front = ['\r', '\n'])
    (found : Quotation.text.length? .continuation text = some length) :
    Begins ('\\' :: (front ++ text)) (length + 1) := by
  obtain ⟨blanks, after, rest, rfl, hidden, ends, last, less⟩ := exists_hidden found
  refine ⟨'\\' :: (front ++ blanks), [], after, rest, by simp, last, by omega, ?_⟩
  rintro body value _ rfl spells
  have whole : Hidden (front ++ blanks) := by
    rcases lineEnd with rfl | rfl
    · exact .blank (by simp) hidden
    · exact .carriage hidden
  have head : ∃ c ∈ (front ++ blanks).head?, c = '\n' ∨ c = '\r' := by
    rcases lineEnd with rfl | rfl <;> simp
  have solid : ∀ c ∈ body.head?, isContinuationBlank c = false := by
    intro c first
    obtain ⟨others, rfl⟩ := List.head?_eq_some_iff.mp first
    exact ends c rfl
  exact Spells.hidden whole head solid spells

theorem begins_byte {text : List Char} {length : Nat} (found : Quotation.text.length? .hexHigh text = some length) :
    Begins ('\\' :: 'x' :: text) (length + 2) := by
  obtain ⟨high, rest, _, more, rfl, step, others, rfl⟩ := Quotation.exists_step found (by
    intro c
    simp only [Quotation.next]
    cases hexValue? c <;> simp)
  obtain ⟨h, first, within⟩ := Option.bind_eq_some_iff.mp step
  obtain ⟨small, reading⟩ := Option.ite_none_left_eq_some.mp within
  cases reading
  obtain ⟨low, rest, _, more, rfl, step, others, rfl⟩ := Quotation.exists_step others (by
    intro c
    simp only [Quotation.next]
    cases hexValue? c <;> simp)
  obtain ⟨l, second, within⟩ := Option.bind_eq_some_iff.mp step
  obtain ⟨_, reading⟩ := Option.ite_none_left_eq_some.mp within
  cases reading
  refine ⟨['\\', 'x', high, low], [Char.ofNat (h * 16 + l)], rest, more, rfl, others, by omega, ?_⟩
  rintro body value _ rfl spells
  exact .byte first (by simpa using small) second spells

theorem begins_number {text : List Char} {length : Nat}
    (found : Quotation.text.length? .numberOpen text = some length) :
    Begins ('\\' :: 'u' :: text) (length + 2) := by
  obtain ⟨rest, more, rfl, others, rfl⟩ :=
    Quotation.exists_awaited '\x7b' (.number 0 0) (fun _ => rfl) nofun found
  obtain ⟨digits, code, after, rest, rfl, spelled, last, less⟩ := exists_digits (by decide) others
  refine ⟨'\\' :: 'u' :: '\x7b' :: (digits ++ ['\x7d']), [Char.ofNat code], after, rest, by simp, last,
    by omega, ?_⟩
  rintro body value _ rfl spells
  simpa using Spells.number spelled spells

/-- A character after a backslash that starts no longer escape is the mark of one. -/
theorem exists_mark {c : Char} {next : Reading} (step : Quotation.text.next .escape c = some next)
    (short : c ∉ ['x', 'u', '\n', '\r']) : next = .body ∧ ∃ meant, (c, meant) ∈ marks := by
  simp only [List.mem_cons, List.not_mem_nil, or_false, not_or] at short
  obtain ⟨byte, number, feed, carriage⟩ := short
  simp only [Quotation.next, beq_iff_eq, byte, number, feed, carriage, if_false, Bool.or_eq_true] at step
  have marked : (c = '0' ∨ ((((c = 'n' ∨ c = 'r') ∨ c = 't') ∨ c = '\\') ∨ c = '\'') ∨ c = '"') ∧
      next = .body := by
    split at step
    next zero => exact ⟨.inl zero, (Option.some.inj step).symm⟩
    next =>
      obtain ⟨mark, reading⟩ := Option.ite_none_right_eq_some.mp step
      exact ⟨.inr mark, (Option.some.inj reading).symm⟩
  obtain ⟨zero | (((((mark | mark) | mark) | mark) | mark) | mark), body⟩ := marked
  all_goals exact ⟨body, by simp [marks, *]⟩

theorem begins_escape {text : List Char} {length : Nat}
    (found : Quotation.text.length? .escape text = some length) : Begins ('\\' :: text) (length + 1) := by
  obtain ⟨c, rest, next, more, rfl, step, others, rfl⟩ := Quotation.exists_step found (by
    intro c
    simp only [Quotation.next]
    repeat' split
    all_goals simp)
  by_cases byte : c = 'x'
  · subst byte
    cases step
    exact begins_byte others
  by_cases number : c = 'u'
  · subst number
    cases step
    exact begins_number others
  by_cases feed : c = '\n'
  · subst feed
    cases step
    exact (begins_hidden (.inl rfl) others).mono (by omega)
  by_cases carriage : c = '\r'
  · subst carriage
    cases step
    obtain ⟨rest, more, rfl, onward, rfl⟩ :=
      Quotation.exists_awaited '\n' .continuation (fun _ => rfl) nofun others
    exact (begins_hidden (.inr rfl) onward).mono (by omega)
  · obtain ⟨rfl, meant, known⟩ := exists_mark step (by simp [byte, number, feed, carriage])
    refine ⟨['\\', c], [meant], rest, more, rfl, others, by omega, ?_⟩
    rintro body value _ rfl spells
    exact .mark known spells

theorem exists_spells {text : List Char} {length : Nat}
    (found : Quotation.text.length? .body text = some length) :
    ∃ body value after, text = body ++ '"' :: after ∧ Spells body value := by
  -- An escape takes several characters at once, so the induction is on how many are read.
  induction length using Nat.strongRecOn generalizing text with
  | ind length ih =>
    have further (begins : Begins text length) :
        ∃ body value after, text = body ++ '"' :: after ∧ Spells body value := by
      obtain ⟨piece, meant, rest, more, rfl, others, less, spells⟩ := begins
      obtain ⟨body, value, after, rfl, spelled⟩ := ih more less others
      exact ⟨piece ++ body, meant ++ value, after, by rw [List.append_assoc], spells body value after rfl spelled⟩
    obtain ⟨c, rest, next, rfl, step, closed⟩ := Quotation.exists_next found
    by_cases quote : c = '"'
    · subst quote
      exact ⟨[], [], rest, rfl, .nil⟩
    by_cases carriage : c = '\r'
    · subst carriage
      cases step
      obtain ⟨ends, _⟩ | ⟨_, more, others, rfl⟩ := closed
      · cases ends
      obtain ⟨rest, more, rfl, onward, rfl⟩ := Quotation.exists_awaited '\n' .body (fun _ => rfl) nofun others
      exact further ⟨['\r', '\n'], ['\n'], rest, more, rfl, onward, by omega, fun _ _ _ _ spells => .lineEnd spells⟩
    by_cases backslash : c = '\\'
    · subst backslash
      cases step
      obtain ⟨ends, _⟩ | ⟨_, more, others, rfl⟩ := closed
      · cases ends
      exact further (begins_escape others)
    · have plain : next = .body := by
        simp only [Quotation.next, Quotation.inBody, beq_iff_eq, quote, carriage, backslash, if_false] at step
        exact (Option.some.inj step).symm
      subst plain
      obtain ⟨ends, _⟩ | ⟨_, more, others, rfl⟩ := closed
      · cases ends
      exact further ⟨[c], [c], rest, more, rfl, others, by omega,
        fun _ _ _ _ spells => .plain (by simp [quote, carriage, backslash]) spells⟩

end Endpoints.Lexeme

namespace Endpoints.Text.Quoted

theorem hexValue?_digitChar : ∀ digit < 16, hexValue? digit.digitChar = some digit := by decide

theorem digits_toDigits {number count value : Nat} {rest : List Char} {code : Nat}
    (few : count + (Nat.toDigits 16 number).length ≤ 6)
    (more : Digits (count + (Nat.toDigits 16 number).length)
      (value * 16 ^ (Nat.toDigits 16 number).length + number) rest code) :
    Digits count value (Nat.toDigits 16 number ++ rest) code := by
  induction number using Nat.strongRecOn generalizing rest with
  | ind number ih =>
    by_cases last : number < 16
    · rw [Nat.toDigits_of_lt_base last] at few more ⊢
      simp only [List.length_singleton, Nat.pow_one] at few more
      exact .digit (hexValue?_digitChar number last) (by omega) more
    · rw [Nat.toDigits_of_base_le (by decide) (Nat.not_lt.mp last)] at few more ⊢
      rw [List.length_append, List.length_singleton] at few more
      rw [List.append_assoc]
      refine ih (number / 16) (by omega) (by omega) ?_
      refine .digit (hexValue?_digitChar _ (Nat.mod_lt _ (by decide))) (by omega) ?_
      have joined : (value * 16 ^ (Nat.toDigits 16 (number / 16)).length + number / 16) * 16 + number % 16 =
          value * 16 ^ ((Nat.toDigits 16 (number / 16)).length + 1) + number := by
        rw [Nat.pow_succ, ← Nat.mul_assoc]
        omega
      rw [joined]
      exact more

theorem digits_hexDigits (c : Char) : Digits 0 0 (hexDigits c.toNat) c.toNat := by
  have small : c.toNat < 16 ^ 6 := by
    have bound : c.toNat < 0x110000 := by
      rcases c.valid with low | high
      · exact Nat.lt_trans low (by decide)
      · exact high.2
    omega
  have few : (Nat.toDigits 16 c.toNat).length ≤ 6 := (Nat.length_toDigits_le_iff (by decide) (by decide)).mpr small
  have scalar : Lexeme.isScalar c.toNat = true := by
    rcases c.valid with low | high
    · simp [Lexeme.isScalar]
      exact .inl low
    · simp [Lexeme.isScalar]
      exact .inr high
  have some : 0 < (Nat.toDigits 16 c.toNat).length := List.length_pos_iff.mpr Nat.toDigits_ne_nil
  have all : Digits 0 0 (Nat.toDigits 16 c.toNat ++ []) c.toNat := by
    refine digits_toDigits (by omega) ?_
    rw [Nat.zero_mul, Nat.zero_add, Nat.zero_add]
    exact .done some scalar
  rwa [List.append_nil] at all

/-- A character that is shown with an escape or as itself, before what spells the rest. -/
theorem spells_escape {c : Char} {text value : List Char} (more : Spells text value) :
    Spells (escape c ++ text) (c :: value) := by
  have byNumber : Spells (escapeNumber c ++ text) (c :: value) := by
    have spelled := Spells.number (digits_hexDigits c) more
    rw [Char.ofNat_toNat] at spelled
    simpa [escapeNumber] using spelled
  have marked {letter : Char} (same : (letter, c) ∈ marks) : Spells (['\\', letter] ++ text) (c :: value) :=
    .mark same more
  unfold escape
  split
  · next same => exact marked (by simp_all [marks])
  split
  · next same => exact marked (by simp_all [marks])
  split
  · next same => exact marked (by simp_all [marks])
  split
  · next same => exact marked (by simp_all [marks])
  split
  · next same => exact marked (by simp_all [marks])
  split
  · exact byNumber
  split
  · exact .plain (by simp_all) more
  · exact byNumber

theorem spells_encodeCharacters (value : List Char) : Spells (encodeCharacters value) value := by
  induction value with
  | nil => exact .nil
  | cons c rest ih =>
    unfold encodeCharacters
    dsimp only
    split
    · next null =>
      obtain rfl : c = '\x00' := Char.toNat_inj.mp (by simpa using null)
      have short : Spells ("\\0".toList ++ encodeCharacters rest) ('\x00' :: rest) := .mark (by decide) ih
      have long : Spells ("\\x00".toList ++ encodeCharacters rest) ('\x00' :: rest) :=
        @Spells.byte '0' '0' 0 0 _ _ (by decide) (by decide) (by decide) ih
      split
      · split
        · exact long
        · exact short
      · exact short
    · exact spells_escape ih

end Endpoints.Text.Quoted
