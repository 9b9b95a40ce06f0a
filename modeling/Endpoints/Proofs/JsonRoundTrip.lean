import Endpoints.Client.Content
import Endpoints.Proofs.AddressRoundTrip
import Endpoints.Proofs.SettingOrder

/-! JSON values that are written are read again, where no machine number is among them and the nesting is
within the limit of the reader. -/

namespace Endpoints

theorem Keyed.put_of_above {α : Type} {key : String} {keyed : Keyed α} (above : ∀ entry ∈ keyed, entry.1 < key)
    (value : α) : keyed.put key value = keyed ++ [(key, value)] := by
  induction keyed with
  | nil => rfl
  | cons first rest ih =>
    obtain ⟨less, others⟩ := List.forall_mem_cons.mp above
    rw [put, if_neg (String.lt_asymm less), if_neg (String.ne_of_lt less).symm, ih others]
    rfl

namespace Json

section
variable {α : Type} (spell : α → Bytes)

def behindCommas (values : List α) : Bytes := values.flatMap fun value => 0x2c :: spell value

/-- What is spelled one by one, with a comma between each two. -/
def joined : List α → Bytes
  | [] => []
  | value :: others => spell value ++ behindCommas spell others

theorem behindCommas_cons (value : α) (others : List α) (rest : Bytes) : behindCommas spell (value :: others) ++ rest =
    0x2c :: (spell value ++ (behindCommas spell others ++ rest)) := by
  rw [behindCommas, List.flatMap_cons, List.append_assoc]
  rfl

theorem length_le_behindCommas (values : List α) : values.length ≤ (behindCommas spell values).length := by
  induction values with
  | nil => exact Nat.le_refl 0
  | cons value others ih =>
    have split := congrArg List.length (behindCommas_cons spell value others [])
    simp only [List.append_nil, List.length_cons, List.length_append] at split ⊢
    omega

theorem length_le_joined (values : List α) : values.length ≤ (joined spell values).length + 1 := by
  cases values with
  | nil => exact Nat.zero_le 1
  | cons value others =>
    have later := length_le_behindCommas spell others
    simp only [joined, List.length_cons, List.length_append]
    omega

theorem length_spell_le_joined {value : α} {values : List α} (member : value ∈ values) :
    (spell value).length ≤ (joined spell values).length := by
  cases values with
  | nil => cases member
  | cons first others =>
    rw [joined, List.length_append]
    rcases List.mem_cons.mp member with rfl | later
    · exact Nat.le_add_right _ _
    · have inside : 0x2c :: spell value <:+: behindCommas spell others :=
        List.infix_of_mem_flatten (List.mem_map_of_mem later)
      have length := inside.length_le
      rw [List.length_cons] at length
      omega

end

def entryText (entry : String × Json) : Bytes := quote entry.1 ++ 0x3a :: entry.2.bytes

theorem itemBytes_eq (items : List Json) : itemBytes items = joined bytes items := by
  induction items with
  | nil => rfl
  | cons item others ih => cases others <;> simp_all [itemBytes, joined, behindCommas]

theorem entryBytes_eq (entries : List (String × Json)) : entryBytes entries = joined entryText entries := by
  induction entries with
  | nil => rfl
  | cons entry others ih => cases others <;> simp_all [entryBytes, joined, behindCommas, entryText]

end Json

namespace JsonReader

theorem escape_short {byte meant : UInt8} (short : shortEscape? byte = some meant) (rest : Bytes) :
    escape (byte :: rest) = .ok ([meant], rest) := by
  have different : (byte == 0x75) = false := by
    refine beq_false_of_ne fun same => ?_
    rw [same] at short
    cases short
  simp [escape, different, short]

theorem escape_number {value : Nat} (control : value < 32) (rest : Bytes) :
    escape (asciiBytes ['u', '0', '0', Text.Quoted.hexDigit (value / 16), Text.Quoted.hexDigit (value % 16)] ++ rest) =
      .ok ([UInt8.ofNat value], rest) := by
  have digits : ∀ value < 32, fourDigits? 0x30 0x30 (UInt8.ofNat (Text.Quoted.hexDigit (value / 16)).toNat)
      (UInt8.ofNat (Text.Quoted.hexDigit (value % 16)).toNat) = some value := by decide
  have code : (Char.ofNat value).toNat = value := toNat_ofNat (by omega)
  have spelled : bytesOf (String.singleton (Char.ofNat value)) = [UInt8.ofNat value] := by
    have single : ∀ c ∈ [Char.ofNat value], c.toNat < 128 := by
      intro c member
      rw [List.mem_singleton.mp member, code]
      omega
    rw [String.singleton_eq_ofList, bytesOf_ascii single, List.map_cons, List.map_nil, code]
  have unit : codeUnit (asciiBytes ['0', '0', Text.Quoted.hexDigit (value / 16), Text.Quoted.hexDigit (value % 16)] ++
      rest) = .ok (value, rest) := by
    change codeUnit (0x30 :: 0x30 :: _ :: _ :: rest) = _
    rw [codeUnit, digits value control]
  change unicodeEscape (asciiBytes ['0', '0', _, _] ++ rest) = _
  rw [unicodeEscape, unit]
  simp only [bind, Except.bind, pure, Except.pure, spelled]
  rw [if_neg (by omega), if_neg (by omega)]

theorem textBytes_escape {before bytes meant after : Bytes} (read : escape bytes = .ok (meant, after)) :
    textBytes before (0x5c :: bytes) = textBytes (meant.reverse ++ before) after := by
  rw [textBytes]
  simp only [show ((0x5c : UInt8) == 0x22) = false from rfl, show ((0x5c : UInt8) == 0x5c) = true from rfl, if_true,
    Bool.false_eq_true, if_false]
  split
  · next failed => simp [read] at failed
  · next found =>
    obtain ⟨rfl, rfl⟩ := Prod.mk.inj (Except.ok.inj (read.symm.trans found))
    rfl

theorem textBytes_plain {byte : UInt8} (quote : byte ≠ 0x22) (backslash : byte ≠ 0x5c) (text : ¬ byte < 0x20)
    (before rest : Bytes) : textBytes before (byte :: rest) = textBytes (byte :: before) rest := by
  rw [textBytes, if_neg (mt eq_of_beq quote), if_neg (mt eq_of_beq backslash), if_neg text]

theorem textBytes_escapeByte (before : Bytes) (byte : UInt8) (rest : Bytes) :
    textBytes before (Json.escapeByte byte ++ rest) = textBytes (byte :: before) rest := by
  have short {letter meant : UInt8} (found : shortEscape? letter = some meant) :
      textBytes before (0x5c :: letter :: rest) = textBytes (meant :: before) rest :=
    textBytes_escape (escape_short found rest)
  fun_cases Json.escapeByte byte with
  | case1 same | case2 _ same | case3 _ _ same | case4 _ _ _ same | case5 _ _ _ _ same | case6 _ _ _ _ _ same
  | case7 _ _ _ _ _ _ same =>
    rw [eq_of_beq same]
    exact short rfl
  | case8 _ _ _ _ _ _ _ control =>
    have read := escape_number (UInt8.lt_iff_toNat_lt.mp control) rest
    rw [UInt8.ofNat_toNat] at read
    exact textBytes_escape read
  | case9 quote backslash _ _ _ _ _ text =>
    exact textBytes_plain (mt beq_of_eq quote) (mt beq_of_eq backslash) text before rest

theorem text_quote (spelled : String) (rest : Bytes) :
    text ((bytesOf spelled).flatMap Json.escapeByte ++ 0x22 :: rest) = .ok (spelled, rest) := by
  have escaped (bytes before : Bytes) :
      textBytes before (bytes.flatMap Json.escapeByte ++ 0x22 :: rest) = .ok (before.reverse ++ bytes, rest) := by
    induction bytes generalizing before with
    | nil =>
      rw [List.flatMap_nil, List.nil_append, textBytes]
      simp
    | cons byte more ih =>
      rw [List.flatMap_cons, List.append_assoc, textBytes_escapeByte, ih]
      simp
  rw [text, escaped]
  simp only [bind, Except.bind, List.reverse_nil, List.nil_append, textOf?_bytesOf]
  rfl

/-- What may follow a value: nothing that could belong to a number. -/
def Ends (rest : Bytes) : Prop :=
  ∀ byte ∈ rest.head?, isDigit byte = false ∧ isExponentMark byte = false ∧ byte ≠ 0x2e

theorem ends_nil : Ends [] := nofun

theorem ends_cons {byte : UInt8} (mark : byte = 0x2c ∨ byte = 0x5d ∨ byte = 0x7d) (rest : Bytes) :
    Ends (byte :: rest) := by
  intro first here
  obtain rfl := Option.some.inj here
  rcases mark with rfl | rfl | rfl <;> decide

theorem ends_behindCommas {α : Type} (spell : α → Bytes) (values : List α) {mark : UInt8}
    (closes : mark = 0x2c ∨ mark = 0x5d ∨ mark = 0x7d) (rest : Bytes) :
    Ends (Json.behindCommas spell values ++ mark :: rest) := by
  cases values with
  | nil => exact ends_cons closes rest
  | cons value others => exact ends_cons (.inl rfl) _

def digitByte (digit : Nat) : UInt8 := UInt8.ofNat digit.digitChar.toNat

theorem asciiBytes_digitChar (digit : Nat) (more : List Char) (rest : Bytes) :
    asciiBytes (digit.digitChar :: more) ++ rest = digitByte digit :: (asciiBytes more ++ rest) := rfl

theorem isDigit_digitByte {digit : Nat} (small : digit < 10) :
    isDigit (digitByte digit) = true ∧ digitValue (digitByte digit) = digit := by
  have each : ∀ digit < 10, isDigit (digitByte digit) = true ∧ digitValue (digitByte digit) = digit := by decide
  exact each digit small

theorem digitsBelow_digitByte {limit value digit : Nat} (small : digit < 10) (below : value * 10 + digit < limit)
    (rest : Bytes) : digitsBelow limit value (digitByte digit :: rest) = digitsBelow limit (value * 10 + digit) rest := by
  obtain ⟨isDigit, same⟩ := isDigit_digitByte small
  rw [digitsBelow, isDigit, same, Bool.true_and, if_pos (decide_eq_true below)]

theorem digitsBelow_toDigits {limit number : Nat} (below : number < limit) (rest : Bytes) :
    digitsBelow limit 0 (asciiBytes (Nat.toDigits 10 number) ++ rest) = digitsBelow limit number rest := by
  induction number using Nat.strongRecOn generalizing rest with
  | ind number ih =>
    rw [Nat.toDigits_eq_if (by decide)]
    split
    · next small =>
      have step := digitsBelow_digitByte small (show 0 * 10 + number < limit by omega) rest
      rw [Nat.zero_mul, Nat.zero_add] at step
      exact step
    · have front := ih (number / 10) (by omega) (by omega) (digitByte (number % 10) :: rest)
      have last : number / 10 * 10 + number % 10 = number := Nat.div_add_mod' number 10
      have step := digitsBelow_digitByte (Nat.mod_lt number (by decide))
        (show number / 10 * 10 + number % 10 < limit by omega) rest
      rw [last] at step
      rw [asciiBytes, List.map_append, List.append_assoc]
      exact front.trans step

theorem digitsBelow_of_ends {rest : Bytes} (ends : Ends rest) (limit value : Nat) :
    digitsBelow limit value rest = (value, rest) := by
  cases rest with
  | nil => rfl
  | cons byte rest =>
    obtain ⟨noDigit, _⟩ := ends byte rfl
    rw [digitsBelow, noDigit, Bool.false_and, if_neg Bool.false_ne_true]

theorem afterDigits_of_ends {rest : Bytes} (ends : Ends rest) (positive : Bool) (significand : Nat) :
    afterDigits positive significand 0 rest = .ok (wholeNumber positive significand, rest) := by
  cases rest with
  | nil => rfl
  | cons byte rest =>
    obtain ⟨_, noExponent, noPoint⟩ := ends byte rfl
    unfold afterDigits
    split
    · next same => exact absurd (List.cons.inj same).1 noPoint
    · next same =>
      obtain ⟨rfl, rfl⟩ := List.cons.inj same
      rw [noExponent]
      rfl
    · next empty => cases empty

theorem unsignedNumber_toDigits {number : Nat} (fits : number < 0x10000000000000000) {rest : Bytes} (ends : Ends rest)
    (positive : Bool) : unsignedNumber positive (asciiBytes (Nat.toDigits 10 number) ++ rest) =
      .ok (wholeNumber positive number, rest) := by
  rcases Nat.eq_zero_or_pos number with rfl | above
  · have noDigit : startsWithDigit rest = false := by
      cases rest with
      | nil => rfl
      | cons byte rest => exact (ends byte rfl).1
    change (if startsWithDigit rest then faultAt .noNumber rest else afterDigits positive 0 0 rest) = _
    rw [noDigit]
    exact afterDigits_of_ends ends positive 0
  · obtain ⟨digit, more, small, greater, spelled⟩ := Text.exists_toDigits number
    obtain ⟨isDigit, same⟩ := isDigit_digitByte small
    have notZero : (digitByte digit == 0x30) = false := by
      have each : ∀ digit < 10, 0 < digit → (digitByte digit == 0x30) = false := by decide
      exact each digit small (greater above)
    have whole := digitsBelow_toDigits fits rest
    rw [digitsBelow_of_ends ends, spelled] at whole
    have step := digitsBelow_digitByte small (show 0 * 10 + digit < 0x10000000000000000 by omega)
      (asciiBytes more ++ rest)
    rw [Nat.zero_mul, Nat.zero_add] at step
    have others := step.symm.trans whole
    have unread : rest.takeWhile JsonReader.isDigit = [] ∧ rest.dropWhile JsonReader.isDigit = rest := by
      cases rest with
      | nil => exact ⟨rfl, rfl⟩
      | cons byte rest =>
        obtain ⟨noDigit, _⟩ := ends byte rfl
        exact ⟨List.takeWhile_cons_of_neg (by simp [noDigit]), List.dropWhile_cons_of_neg (by simp [noDigit])⟩
    rw [spelled]
    change unsignedNumber positive (digitByte digit :: (asciiBytes more ++ rest)) = _
    simp only [unsignedNumber, notZero, isDigit, same, others, unread, Bool.false_eq_true, if_false, if_true,
      List.length_nil]
    exact afterDigits_of_ends ends positive number

/-- A first byte that is neither a blank nor the end of a list. -/
def Starts (bytes : Bytes) : Prop := ∃ byte rest, bytes = byte :: rest ∧ isSpace byte = false ∧ byte ≠ 0x5d

theorem skipSpace_cons {byte : UInt8} (text : isSpace byte = false) (rest : Bytes) :
    skipSpace (byte :: rest) = byte :: rest :=
  List.dropWhile_cons_of_neg (by simp [text])

section
variable {α : Type} {item : JsonReader α} {spell : α → Bytes}

theorem items_first {start after rest : Bytes} {value : α} {others : List α} {fuel : Nat} (starts : Starts start)
    (read : item start = .ok (value, rest)) (later : items item fuel false rest = .ok (others, after)) :
    items item (fuel + 1) true start = .ok (value :: others, after) := by
  obtain ⟨byte, more, rfl, text, noEnd⟩ := starts
  rw [items, skipSpace_cons text]
  simp [read, later, bind, Except.bind, pure, Except.pure]

theorem items_next {start after rest : Bytes} {value : α} {others : List α} {fuel : Nat} (starts : Starts start)
    (read : item start = .ok (value, rest)) (later : items item fuel false rest = .ok (others, after)) :
    items item (fuel + 1) false (0x2c :: start) = .ok (value :: others, after) := by
  obtain ⟨byte, more, rfl, text, noEnd⟩ := starts
  have comma : skipSpace (0x2c :: byte :: more) = 0x2c :: byte :: more := rfl
  rw [items, comma]
  simp [skipSpace_cons text, noEnd, read, later, bind, Except.bind, pure, Except.pure]

theorem items_behindCommas {values : List α}
    (reads : ∀ value ∈ values, ∀ rest, Ends rest → item (spell value ++ rest) = .ok (value, rest))
    (starts : ∀ value ∈ values, ∀ rest, Starts (spell value ++ rest)) {fuel : Nat} (enough : values.length < fuel)
    (rest : Bytes) :
    items item fuel false (Json.behindCommas spell values ++ 0x5d :: rest) = .ok (values, rest) := by
  induction values generalizing fuel with
  | nil =>
    obtain ⟨fuel, rfl⟩ := Nat.exists_eq_succ_of_ne_zero (Nat.ne_of_gt enough)
    rfl
  | cons value others ih =>
    obtain ⟨fuel, rfl⟩ := Nat.exists_eq_succ_of_ne_zero (Nat.ne_of_gt (Nat.zero_lt_of_lt enough))
    obtain ⟨readsFirst, readsOthers⟩ := List.forall_mem_cons.mp reads
    obtain ⟨startsFirst, startsOthers⟩ := List.forall_mem_cons.mp starts
    have ends := ends_behindCommas spell others (.inr (.inl rfl)) rest
    have later := ih readsOthers startsOthers (Nat.lt_of_succ_lt_succ enough)
    rw [Json.behindCommas_cons]
    exact items_next (startsFirst _) (readsFirst _ ends) later

theorem items_joined {values : List α}
    (reads : ∀ value ∈ values, ∀ rest, Ends rest → item (spell value ++ rest) = .ok (value, rest))
    (starts : ∀ value ∈ values, ∀ rest, Starts (spell value ++ rest)) {fuel : Nat} (enough : values.length < fuel)
    (rest : Bytes) : items item fuel true (Json.joined spell values ++ 0x5d :: rest) = .ok (values, rest) := by
  obtain ⟨fuel, rfl⟩ := Nat.exists_eq_succ_of_ne_zero (Nat.ne_of_gt (Nat.zero_lt_of_lt enough))
  cases values with
  | nil => rfl
  | cons value others =>
    obtain ⟨readsFirst, readsOthers⟩ := List.forall_mem_cons.mp reads
    obtain ⟨startsFirst, startsOthers⟩ := List.forall_mem_cons.mp starts
    have ends := ends_behindCommas spell others (.inr (.inl rfl)) rest
    have later := items_behindCommas readsOthers startsOthers (Nat.lt_of_succ_lt_succ enough) rest
    rw [Json.joined, List.append_assoc]
    exact items_first (startsFirst _) (readsFirst _ ends) later

end

theorem skipSpace_quote (key : String) (rest : Bytes) : skipSpace (Json.quote key ++ rest) =
    0x22 :: ((bytesOf key).flatMap Json.escapeByte ++ 0x22 :: rest) := by
  rw [Json.quote, List.cons_append, skipSpace_cons rfl, List.append_assoc]
  rfl

section
variable {σ : Type} {entry : σ → String → JsonReader σ}

theorem entries_first {state next final : σ} {key : String} {bytes rest after : Bytes} {fuel : Nat}
    (read : entry state key bytes = .ok (next, rest)) (later : entries entry fuel false next rest = .ok (final, after)) :
    entries entry (fuel + 1) true state (Json.quote key ++ bytes) = .ok (final, after) := by
  rw [entries, skipSpace_quote]
  simp [text_quote, read, later, bind, Except.bind]

theorem entries_next {state next final : σ} {key : String} {bytes rest after : Bytes} {fuel : Nat}
    (read : entry state key bytes = .ok (next, rest)) (later : entries entry fuel false next rest = .ok (final, after)) :
    entries entry (fuel + 1) false state (0x2c :: (Json.quote key ++ bytes)) = .ok (final, after) := by
  rw [entries, skipSpace_cons rfl]
  simp [skipSpace_quote, text_quote, read, later, bind, Except.bind]

end

theorem value_digitByte {digit : Nat} (small : digit < 10) (fuel levels : Nat) (rest : Bytes) :
    value fuel levels (digitByte digit :: rest) =
      (unsignedNumber true (digitByte digit :: rest)).map fun (number, after) => (.number number, after) := by
  have each : ∀ digit < 10, isSpace (digitByte digit) = false ∧ (digitByte digit == 0x6e) = false ∧
      (digitByte digit == 0x74) = false ∧ (digitByte digit == 0x66) = false ∧
      (digitByte digit == 0x2d) = false := by decide
  obtain ⟨text, noNull, noTrue, noFalse, noMinus⟩ := each digit small
  rw [value.eq_def, skipSpace_cons text]
  simp only [noNull, noTrue, noFalse, noMinus, isDigit_digitByte small, Bool.false_eq_true, if_false, if_true]

theorem value_minus (fuel levels : Nat) (rest : Bytes) : value fuel levels (0x2d :: rest) =
    (unsignedNumber false rest).map fun (number, after) => (.number number, after) := by
  rw [value.eq_def, skipSpace_cons rfl]
  rfl

def storing (reader : JsonReader Json) (found : List (String × Json)) (key : String) :
    JsonReader (List (String × Json)) := fun bytes => do
  let (held, after) ← reader (← colon bytes)
  return (Keyed.put key held found, after)

theorem storing_colon {reader : JsonReader Json} {bytes after : Bytes} {held : Json}
    (found : List (String × Json)) (key : String) (read : reader bytes = .ok (held, after)) :
    storing reader found key (0x3a :: bytes) = .ok (Keyed.put key held found, after) := by
  have behind : colon (0x3a :: bytes) = .ok bytes := rfl
  simp [storing, behind, read, bind, Except.bind, pure, Except.pure]

section
variable {reader : JsonReader Json} {found pairs : List (String × Json)}

theorem storing_entryText {pair : String × Json} {rest : Bytes}
    (read : reader (pair.2.bytes ++ rest) = .ok (pair.2, rest)) (above : ∀ entry ∈ found, entry.1 < pair.1) :
    storing reader found pair.1 (0x3a :: (pair.2.bytes ++ rest)) = .ok (found ++ [pair], rest) := by
  rw [storing_colon found pair.1 read, Keyed.put_of_above above]

theorem entries_behindCommas
    (reads : ∀ pair ∈ pairs, ∀ rest, Ends rest → reader (pair.2.bytes ++ rest) = .ok (pair.2, rest))
    (ascends : Keyed.Ascending (found ++ pairs)) {fuel : Nat} (enough : pairs.length < fuel) (rest : Bytes) :
    entries (storing reader) fuel false found (Json.behindCommas Json.entryText pairs ++ 0x7d :: rest) =
      .ok (found ++ pairs, rest) := by
  induction pairs generalizing found fuel with
  | nil =>
    obtain ⟨fuel, rfl⟩ := Nat.exists_eq_succ_of_ne_zero (Nat.ne_of_gt enough)
    rw [List.append_nil]
    rfl
  | cons pair others ih =>
    obtain ⟨fuel, rfl⟩ := Nat.exists_eq_succ_of_ne_zero (Nat.ne_of_gt (Nat.zero_lt_of_lt enough))
    obtain ⟨readsFirst, readsOthers⟩ := List.forall_mem_cons.mp reads
    have ends := ends_behindCommas Json.entryText others (.inr (.inr rfl)) rest
    have above : ∀ entry ∈ found, entry.1 < pair.1 := fun entry member =>
      (List.pairwise_append.mp ascends).2.2 entry member pair List.mem_cons_self
    rw [← List.singleton_append, ← List.append_assoc] at ascends
    have later := ih readsOthers ascends (Nat.lt_of_succ_lt_succ enough)
    rw [List.append_assoc, List.singleton_append] at later
    rw [Json.behindCommas_cons, Json.entryText, List.append_assoc]
    exact entries_next (storing_entryText (readsFirst _ ends) above) later

theorem entries_joined
    (reads : ∀ pair ∈ pairs, ∀ rest, Ends rest → reader (pair.2.bytes ++ rest) = .ok (pair.2, rest))
    (ascends : Keyed.Ascending pairs) {fuel : Nat} (enough : pairs.length < fuel) (rest : Bytes) :
    entries (storing reader) fuel true [] (Json.joined Json.entryText pairs ++ 0x7d :: rest) = .ok (pairs, rest) := by
  obtain ⟨fuel, rfl⟩ := Nat.exists_eq_succ_of_ne_zero (Nat.ne_of_gt (Nat.zero_lt_of_lt enough))
  cases pairs with
  | nil => rfl
  | cons pair others =>
    obtain ⟨readsFirst, readsOthers⟩ := List.forall_mem_cons.mp reads
    have ends := ends_behindCommas Json.entryText others (.inr (.inr rfl)) rest
    have later := entries_behindCommas readsOthers (List.singleton_append ▸ ascends) (Nat.lt_of_succ_lt_succ enough) rest
    have first := storing_entryText (readsFirst _ ends) (List.forall_mem_nil _)
    rw [Json.joined, Json.entryText, List.append_assoc, List.append_assoc]
    exact entries_first first later

end

theorem value_quote (fuel levels : Nat) (spelled : String) (rest : Bytes) :
    value fuel levels (Json.quote spelled ++ rest) = .ok (.text spelled, rest) := by
  have read : (text ((bytesOf spelled).flatMap Json.escapeByte ++ 0x22 :: rest)).map
      (fun found => (Json.text found.1, found.2)) = .ok (.text spelled, rest) := by
    rw [text_quote]
    rfl
  rw [value.eq_def, skipSpace_quote]
  exact read

theorem value_list (fuel levels : Nat) (rest : Bytes) : value fuel (levels + 1) (0x5b :: rest) =
    (items (value fuel levels) fuel true rest).map fun (found, after) => (.list found, after) := by
  rw [value.eq_def, skipSpace_cons rfl]
  rfl

theorem value_object (fuel levels : Nat) (rest : Bytes) : value fuel (levels + 1) (0x7b :: rest) =
    (entries (storing (value fuel levels)) fuel true [] rest).map fun (found, after) => (.object found, after) := by
  rw [value.eq_def, skipSpace_cons rfl]
  rfl

end JsonReader

namespace Json

/-- Values without machine numbers, in which lists and objects are nested in at most as many levels. -/
inductive Nested : Nat → Json → Prop where
  | null {levels : Nat} : Nested levels .null
  | bool {levels : Nat} (value : Bool) : Nested levels (.bool value)
  | natural {levels : Nat} (value : UInt64) : Nested levels (.number (.natural value))
  | negative {levels : Nat} (distance : Fin 0x8000000000000000) : Nested levels (.number (.negative distance))
  | text {levels : Nat} (value : String) : Nested levels (.text value)
  | list {levels : Nat} {items : List Json} (each : ∀ item ∈ items, Nested levels item) :
    Nested (levels + 1) (.list items)
  | object {levels : Nat} {entries : List (String × Json)} (ascends : Keyed.Ascending entries)
    (each : ∀ entry ∈ entries, Nested levels entry.2) : Nested (levels + 1) (.object entries)

theorem bytes_natural (value : UInt64) :
    bytes (.number (.natural value)) = asciiBytes (Nat.toDigits 10 value.toNat) := by
  simp [bytes, JsonNumber.text?, Nat.repr]

theorem bytes_negative (distance : Fin 0x8000000000000000) :
    bytes (.number (.negative distance)) = 0x2d :: asciiBytes (Nat.toDigits 10 (distance.val + 1)) := by
  simp [bytes, JsonNumber.text?, Nat.repr, asciiBytes]

namespace Nested

variable {levels : Nat} {json : Json}

theorem starts (nested : Nested levels json) (rest : Bytes) : JsonReader.Starts (json.bytes ++ rest) := by
  cases nested with
  | natural value =>
    obtain ⟨digit, more, small, _, spelled⟩ := Text.exists_toDigits value.toNat
    rw [bytes_natural, spelled]
    have each : ∀ digit < 10, JsonReader.isSpace (JsonReader.digitByte digit) = false ∧
        JsonReader.digitByte digit ≠ 0x5d := by decide
    exact ⟨_, _, rfl, each digit small⟩
  | bool value => cases value <;> exact ⟨_, _, rfl, by decide⟩
  | null | negative | text | list | object => exact ⟨_, _, rfl, by decide⟩

theorem value_bytes (nested : Nested levels json) {fuel : Nat} (enough : json.bytes.length ≤ fuel) {rest : Bytes}
    (ends : JsonReader.Ends rest) : JsonReader.value fuel levels (json.bytes ++ rest) = .ok (json, rest) := by
  induction nested generalizing rest with
  | null =>
    rw [JsonReader.value.eq_def]
    rfl
  | bool value =>
    rw [JsonReader.value.eq_def]
    cases value <;> rfl
  | natural value =>
    have read := JsonReader.unsignedNumber_toDigits value.toNat_lt ends true
    obtain ⟨digit, more, small, _, spelled⟩ := Text.exists_toDigits value.toNat
    rw [spelled, JsonReader.asciiBytes_digitChar] at read
    rw [bytes_natural, spelled, JsonReader.asciiBytes_digitChar, JsonReader.value_digitByte small, read]
    simp [Except.map, JsonReader.wholeNumber]
  | negative distance =>
    have read := JsonReader.unsignedNumber_toDigits (show distance.val + 1 < 0x10000000000000000 by omega) ends false
    rw [bytes_negative, List.cons_append, JsonReader.value_minus, read]
    simp [Except.map, JsonReader.wholeNumber]
  | text value => exact JsonReader.value_quote fuel _ value rest
  | @list levels items each ih =>
    rw [bytes, List.cons_append, List.append_assoc, List.singleton_append, JsonReader.value_list]
    have length : (itemBytes items).length + 2 ≤ fuel := by
      simp only [bytes, List.length_cons, List.length_append, List.length_nil] at enough
      omega
    rw [itemBytes_eq] at length ⊢
    have count := length_le_joined bytes items
    have short : ∀ item ∈ items, item.bytes.length ≤ fuel := by
      intro item member
      have inside := length_spell_le_joined bytes member
      omega
    have read := JsonReader.items_joined (fun item member rest ends => ih item member (short item member) ends)
      (fun item member => (each item member).starts) (show items.length < fuel by omega) rest
    rw [read]
    rfl
  | @object levels entries ascends each ih =>
    rw [bytes, List.cons_append, List.append_assoc, List.singleton_append, JsonReader.value_object]
    have length : (entryBytes entries).length + 2 ≤ fuel := by
      simp only [bytes, List.length_cons, List.length_append, List.length_nil] at enough
      omega
    rw [entryBytes_eq] at length ⊢
    have count := length_le_joined entryText entries
    have short : ∀ entry ∈ entries, entry.2.bytes.length ≤ fuel := by
      intro entry member
      have inside := length_spell_le_joined entryText member
      simp only [entryText, List.length_append, List.length_cons] at inside
      omega
    have read := JsonReader.entries_joined (fun entry member rest ends => ih entry member (short entry member) ends)
      ascends (show entries.length < fuel by omega) rest
    rw [read]
    rfl

end Nested

theorem read_bytes {json : Json} (nested : Nested JsonReader.levelLimit json) : read json.bytes = .ok json := by
  have whole := nested.value_bytes (Nat.le_refl _) JsonReader.ends_nil
  rw [List.append_nil] at whole
  rw [read, JsonReader.readAll, whole]
  rfl

end Json

/-- What a value of any shape is encoded as is decoded to the value. -/
theorem ResultKind.read_bytes {json : Json} (nested : json.Nested JsonReader.levelLimit) :
    (ResultKind.json .any).read json.bytes = .ok (.json json) := by
  have same : Shape.any.read json.bytes = Json.read json.bytes := by
    rw [Shape.read, Shape.reader, Json.read]
  rw [ResultKind.read, same, Json.read_bytes nested]

end Endpoints
