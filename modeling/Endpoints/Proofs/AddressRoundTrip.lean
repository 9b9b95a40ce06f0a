import Endpoints.Proofs.Checks
import Endpoints.Url.Address
import Mathlib.Algebra.Group.Nat.Defs
import Mathlib.Data.List.Basic

/-! Addresses that are written are read again. Their parts stand between separators, and no part holds
one. -/

namespace Endpoints
open Checks

namespace Text

theorem splitAt_eq_splitOnP (isSeparator : Char → Bool) (text : List Char) :
    splitAt isSeparator text = text.splitOnP isSeparator := by
  induction text with
  | nil => rfl
  | cons c rest ih =>
    rw [splitAt, List.splitOnP_cons_eq_if_modifyHead, ih]
    split
    · rfl
    · obtain ⟨part, parts, split⟩ := List.exists_cons_of_ne_nil (List.splitOnP_ne_nil isSeparator rest)
      rw [split]
      rfl

theorem splitAt_intersperse {separator : Char} {parts : List (List Char)} (some : parts ≠ [])
    (apart : ∀ part ∈ parts, separator ∉ part) :
    splitAt (· == separator) (parts.intersperse [separator]).flatten = parts := by
  rw [splitAt_eq_splitOnP]
  exact List.splitOn_intercalate separator apart some

theorem splitAt_ne_nil (isSeparator : Char → Bool) (text : List Char) :
    splitAt isSeparator text ≠ [] := by
  rw [splitAt_eq_splitOnP]
  exact List.splitOnP_ne_nil isSeparator text

theorem subset_of_mem_splitAt {isSeparator : Char → Bool} {text part : List Char}
    (member : part ∈ splitAt isSeparator text) : part ⊆ text := by
  induction text generalizing part with
  | nil => simp_all [splitAt]
  | cons c rest ih =>
    have kept {other : List Char} (among : other ∈ splitAt isSeparator rest) : other ⊆ c :: rest :=
      List.Subset.trans (ih among) (List.subset_cons_self c rest)
    simp only [splitAt] at member
    split at member
    · rcases List.mem_cons.mp member with rfl | among
      · exact List.nil_subset _
      · exact kept among
    · split at member
      · simp_all
      · next first others found =>
        rcases List.mem_cons.mp member with rfl | among
        · exact List.cons_subset_cons c (ih (found ▸ List.mem_cons_self))
        · exact kept (found ▸ List.mem_cons_of_mem first among)

theorem not_mem_of_mem_splitAt {isSeparator : Char → Bool} {text part : List Char}
    (member : part ∈ splitAt isSeparator text) : ∀ c ∈ part, isSeparator c = false := by
  induction text generalizing part with
  | nil => simp_all [splitAt]
  | cons c rest ih =>
    simp only [splitAt] at member
    split at member
    · rcases List.mem_cons.mp member with rfl | among
      · simp
      · exact ih among
    · next inside =>
      split at member
      · simp_all
      · next first others found =>
        rcases List.mem_cons.mp member with rfl | among
        · exact List.forall_mem_cons.mpr ⟨by simpa using inside, ih (found ▸ List.mem_cons_self)⟩
        · exact ih (found ▸ List.mem_cons_of_mem first among)

theorem hexValue?_digitChar {digit : Nat} (small : digit < 16) :
    Quoted.hexValue? digit.digitChar = some digit := by
  have each : ∀ digit < 16, Quoted.hexValue? digit.digitChar = some digit := by decide
  exact each digit small

theorem valueIn?_toDigits {base : Nat} (least : 1 < base) (most : base ≤ 16) (number : Nat) :
    valueIn? base (Nat.toDigits base number) = some number := by
  induction number using Nat.strongRecOn with
  | ind number ih =>
    rw [Nat.toDigits_eq_if least]
    split
    · next small => simp [valueIn?, hexValue?_digitChar (show number < 16 by omega), small]
    · next large =>
      have front := ih (number / base) (Nat.div_lt_self (by omega) least)
      have below : number % base < base := Nat.mod_lt number (by omega)
      have last := hexValue?_digitChar (show number % base < 16 by omega)
      have whole := Nat.div_add_mod' number base
      unfold valueIn? at front ⊢
      simp [List.foldlM_append, front, last, below, whole]

theorem lt_of_foldlM {base : Nat} {step : Nat → Char → Option Nat}
    (below : ∀ value c next, step value c = some next → next < (value + 1) * base) {digits : List Char}
    {start number : Nat} (found : digits.foldlM step start = some number) :
    number < (start + 1) * base ^ digits.length := by
  induction digits generalizing start with
  | nil =>
    obtain rfl : start = number := by simpa using found
    simp
  | cons c rest ih =>
    simp only [List.foldlM_cons, Option.bind_eq_bind, Option.bind_eq_some_iff] at found
    obtain ⟨next, stepped, others⟩ := found
    calc number < (next + 1) * base ^ rest.length := ih others
      _ ≤ (start + 1) * base * base ^ rest.length := Nat.mul_le_mul_right _ (below _ _ _ stepped)
      _ = (start + 1) * base ^ (rest.length + 1) := by rw [Nat.pow_succ, Nat.mul_assoc, Nat.mul_comm base]

theorem lt_of_valueIn? {base : Nat} {digits : List Char} {number : Nat}
    (found : valueIn? base digits = some number) : number < base ^ digits.length := by
  suffices bounded : number < (0 + 1) * base ^ digits.length by simpa using bounded
  refine lt_of_foldlM (fun value c next stepped => ?_) found
  split at stepped
  · next digit _ =>
    split at stepped
    · next small =>
      obtain rfl := Option.some.inj stepped
      rw [Nat.succ_mul]
      omega
    · cases stepped
  · cases stepped

theorem mem_toDigits {base : Nat} (least : 1 < base) (most : base ≤ 16) {number : Nat} {c : Char}
    (member : c ∈ Nat.toDigits base number) : ∃ digit < base, digit.digitChar = c := by
  induction number using Nat.strongRecOn with
  | ind number ih =>
    rw [Nat.toDigits_eq_if least] at member
    split at member
    · next small => exact ⟨number, small, (List.mem_singleton.mp member).symm⟩
    · rcases List.mem_append.mp member with front | last
      · exact ih (number / base) (Nat.div_lt_self (by omega) least) front
      · exact ⟨number % base, Nat.mod_lt number (by omega), (List.mem_singleton.mp last).symm⟩

theorem exists_toDigits (number : Nat) : ∃ digit more, digit < 10 ∧ (0 < number → 0 < digit) ∧
    Nat.toDigits 10 number = digit.digitChar :: more := by
  induction number using Nat.strongRecOn with
  | ind number ih =>
    rw [Nat.toDigits_eq_if (by decide)]
    split
    · next small => exact ⟨number, [], small, fun positive => positive, rfl⟩
    · obtain ⟨digit, more, small, greater, front⟩ := ih (number / 10) (by omega)
      exact ⟨digit, more ++ [(number % 10).digitChar], small, fun _ => greater (by omega), by rw [front]; rfl⟩

end Text

namespace Ipv4

def spellByte (byte : Nat) : List Char := (toString byte).toList

theorem spellByte_eq (byte : Nat) : spellByte byte = Nat.toDigits 10 byte := by
  simp [spellByte, Nat.repr]

theorem number?_spellByte (byte : Nat) : number? (spellByte byte) = some byte := by
  rcases Nat.eq_zero_or_pos byte with rfl | positive
  · decide
  · have value := Text.valueIn?_toDigits (show 1 < 10 by decide) (by decide) byte
    obtain ⟨digit, more, small, greater, spelled⟩ := Text.exists_toDigits byte
    have notZero : digit.digitChar ≠ '0' := by
      have each : ∀ digit < 10, 0 < digit → digit.digitChar ≠ '0' := by decide
      exact each digit small (greater positive)
    rw [spelled] at value
    rw [spellByte_eq, spelled]
    unfold number?
    split
    · next empty => cases empty
    · next same => exact absurd (List.cons.inj same).1 notZero
    · next same => exact absurd (List.cons.inj same).1 notZero
    · next same => exact absurd (List.cons.inj same).1 notZero
    · exact value

theorem spellByte_digits (byte : Nat) : spellByte byte ≠ [] ∧ (spellByte byte).all Char.isDigit = true := by
  rw [spellByte_eq]
  refine ⟨Nat.toDigits_ne_nil, List.all_eq_true.mpr fun c member => ?_⟩
  exact Nat.isDigit_of_mem_toDigits (by decide) (by decide) member

def bytes (address : Nat) : List Nat :=
  [address / 16777216 % 256, address / 65536 % 256, address / 256 % 256, address % 256]

theorem text_eq (address : Nat) : text address = (((bytes address).map spellByte).intersperse ['.']).flatten := by
  simp [text, bytes, spellByte]

theorem parts_text (address : Nat) : parts (text address) = (bytes address).map spellByte := by
  have apart : ∀ part ∈ (bytes address).map spellByte, '.' ∉ part := by
    intro part member dot
    obtain ⟨byte, among, rfl⟩ := List.mem_map.mp member
    have digits := (spellByte_digits byte).2
    exact absurd (List.all_eq_true.mp digits '.' dot) (by decide)
  have split : Text.splitAt (· == '.') (text address) = (bytes address).map spellByte := by
    rw [text_eq]
    exact Text.splitAt_intersperse (by simp [bytes]) apart
  have last : ((bytes address).map spellByte).getLast? ≠ some [] := by
    have written := (spellByte_digits (address % 256)).1
    simpa [bytes] using written
  rw [parts, split]
  exact if_neg fun ends => last ends.2

theorem isClaimedBy_text (address : Nat) : isClaimedBy (text address) = true := by
  obtain ⟨some, digits⟩ := spellByte_digits (address % 256)
  have last : (parts (text address)).getLast? = Option.some (spellByte (address % 256)) := by
    rw [parts_text]
    simp [bytes]
  unfold isClaimedBy
  rw [last]
  split
  · next none => exact absurd (Option.some.inj none) some
  · next none => cases none
  · next same =>
    obtain rfl := Option.some.inj same
    rw [digits, Bool.true_or]

theorem read_text {address : Nat} (fits : address < 256 ^ 4) : read (text address) = .ok address := by
  have numbers : (parts (text address)).map number? = (bytes address).map some := by
    rw [parts_text, List.map_map]
    exact List.map_congr_left fun byte _ => number?_spellByte byte
  have below (number : Nat) : number % 256 ≤ 255 := by omega
  have small : address % 256 < 256 := Nat.mod_lt address (by decide)
  have sum : ((address / 16777216 % 256 * 256 + address / 65536 % 256) * 256 + address / 256 % 256) * 256 +
      address % 256 = address := by omega
  unfold read
  rw [numbers]
  simp [bytes, below, small, sum]

theorem foldl_bytes_lt {numbers : List Nat} (small : ∀ number ∈ numbers, number ≤ 255) (start : Nat) :
    numbers.foldl (fun value byte => value * 256 + byte) start < (start + 1) * 256 ^ numbers.length := by
  induction numbers generalizing start with
  | nil => simp
  | cons number rest ih =>
    obtain ⟨first, others⟩ := List.forall_mem_cons.mp small
    have further := ih others (start * 256 + number)
    have more : start * 256 + number + 1 ≤ (start + 1) * 256 := by omega
    calc rest.foldl (fun value byte => value * 256 + byte) (start * 256 + number)
        < (start * 256 + number + 1) * 256 ^ rest.length := further
      _ ≤ (start + 1) * 256 * 256 ^ rest.length := Nat.mul_le_mul_right _ more
      _ = (start + 1) * 256 ^ (rest.length + 1) := by rw [Nat.pow_succ, Nat.mul_assoc, Nat.mul_comm 256]

theorem lt_of_read {name : List Char} {address : Nat} (found : read name = .ok address) :
    address < 256 ^ 4 := by
  simp only [read] at found
  split at found
  · next last others reversed =>
    split at found
    · next fits =>
      obtain ⟨few, small, bounded⟩ := fits
      have all : (parts name).map number? = others.reverse ++ [some last] := by
        rw [← List.reverse_reverse ((parts name).map number?), reversed, List.reverse_cons]
      rw [all] at found few bounded
      simp only [List.length_append, List.length_reverse, List.length_singleton] at found few bounded
      rw [List.dropLast_concat] at found
      have bytes : ∀ number ∈ others.reverse.filterMap id, number ≤ 255 := by
        intro number member
        have among : some number ∈ others := by simpa using member
        simpa using List.all_eq_true.mp small _ among
      have front := foldl_bytes_lt bytes 0
      have fewer : (others.reverse.filterMap id).length ≤ others.length := by
        simpa using List.length_filterMap_le id others.reverse
      have above := Nat.pow_le_pow_right (show 0 < 256 by decide) fewer
      have rest : 5 - (others.length + 1) = 4 - others.length := by omega
      rw [rest] at found bounded
      obtain rfl := Except.ok.inj found
      generalize (others.reverse.filterMap id).foldl (fun value byte => value * 256 + byte) 0 = value at front ⊢
      calc value * 256 ^ (4 - others.length) + last
          < value * 256 ^ (4 - others.length) + 256 ^ (4 - others.length) := Nat.add_lt_add_left bounded _
        _ = (value + 1) * 256 ^ (4 - others.length) := (Nat.succ_mul _ _).symm
        _ ≤ 256 ^ others.length * 256 ^ (4 - others.length) := Nat.mul_le_mul_right _ (by omega)
        _ = 256 ^ 4 := by rw [← Nat.pow_add, Nat.add_sub_cancel' (by omega)]
    · cases found
  · cases found

end Ipv4

namespace Ipv6

def Fits (address : Ipv6) : Prop := address.length = 8 ∧ ∀ piece ∈ address, piece < 65536

theorem hexDigits_piece {piece : Nat} (small : piece < 65536) :
    Text.Quoted.hexDigits piece ≠ [] ∧ (Text.Quoted.hexDigits piece).length ≤ 4 ∧
      Text.valueIn? 16 (Text.Quoted.hexDigits piece) = some piece := by
  refine ⟨Nat.toDigits_ne_nil, ?_, Text.valueIn?_toDigits (by decide) (by decide) piece⟩
  exact (Nat.length_toDigits_le_iff (by decide) (by decide)).mpr small

theorem not_mem_hexDigits {c : Char} (outside : ∀ digit < 16, digit.digitChar ≠ c) (piece : Nat) :
    c ∉ Text.Quoted.hexDigits piece := by
  intro member
  obtain ⟨digit, small, same⟩ := Text.mem_toDigits (by decide) (by decide) member
  exact outside digit small same

theorem pieces?_hexDigits {pieces : List Nat} (small : ∀ piece ∈ pieces, piece < 65536) :
    pieces? (pieces.map Text.Quoted.hexDigits) = some pieces := by
  induction pieces with
  | nil => rfl
  | cons piece rest ih =>
    obtain ⟨first, others⟩ := List.forall_mem_cons.mp small
    obtain ⟨digits, short, value⟩ := hexDigits_piece first
    have long : ¬ (Text.Quoted.hexDigits piece = [] ∨ 4 < (Text.Quoted.hexDigits piece).length) := by
      rintro (none | many)
      · exact digits none
      · omega
    cases rest with
    | nil =>
      have noDot := not_mem_hexDigits (c := '.') (by decide) piece
      simp [pieces?, noDot, long, value]
    | cons next more =>
      have read := ih others
      rw [List.map_cons] at read ⊢
      simp [pieces?, long, value, read]

theorem joined_cons_cons (piece next : Nat) (rest : List Nat) :
    joined (piece :: next :: rest) = Text.Quoted.hexDigits piece ++ ':' :: joined (next :: rest) := by
  simp [joined]

theorem mem_joined {c : Char} {pieces : List Nat} (member : c ∈ joined pieces) :
    c = ':' ∨ ∃ digit < 16, digit.digitChar = c := by
  rcases Text.mem_of_mem_intersperse member with colon | ⟨digits, among, inside⟩
  · exact .inl (List.mem_singleton.mp colon)
  · obtain ⟨piece, _, rfl⟩ := List.mem_map.mp among
    exact .inr (Text.mem_toDigits (by decide) (by decide) inside)

theorem side?_joined {pieces : List Nat} (small : ∀ piece ∈ pieces, piece < 65536) :
    side? (joined pieces) = some pieces := by
  cases pieces with
  | nil => rfl
  | cons piece rest =>
    have apart : ∀ digits ∈ (piece :: rest).map Text.Quoted.hexDigits, ':' ∉ digits := by
      intro digits member
      obtain ⟨piece, _, rfl⟩ := List.mem_map.mp member
      exact not_mem_hexDigits (by decide) piece
    have split : Text.splitAt (· == ':') (joined (piece :: rest)) = (piece :: rest).map Text.Quoted.hexDigits :=
      Text.splitAt_intersperse (by simp) apart
    have written : joined (piece :: rest) ≠ [] := by
      intro none
      rw [none] at split
      have digits := (hexDigits_piece (small piece List.mem_cons_self)).1
      simp only [Text.splitAt, List.map_cons, List.cons.injEq] at split
      exact digits split.1.symm
    rw [side?, if_neg written, split, pieces?_hexDigits small]

theorem cut?_append_of_not_mem {digits : List Char} (apart : ':' ∉ digits) (before rest : List Char) :
    cut? before (digits ++ rest) = cut? (digits.reverse ++ before) rest := by
  induction digits generalizing before with
  | nil => rfl
  | cons c others ih =>
    obtain ⟨different, missing⟩ := List.ne_and_not_mem_of_not_mem_cons apart
    have step : cut? before (c :: (others ++ rest)) = cut? (c :: before) (others ++ rest) := by
      rw [cut?]
      intro after same _
      exact different same.symm
    rw [List.cons_append, step, ih missing]
    simp

/-- Pieces hold no two colons that stand together. -/
theorem cut?_joined_append (pieces : List Nat) (before rest : List Char) :
    cut? before (joined pieces ++ rest) = cut? ((joined pieces).reverse ++ before) rest := by
  induction pieces generalizing before with
  | nil => rfl
  | cons piece others ih =>
    have apart (piece : Nat) : ':' ∉ Text.Quoted.hexDigits piece := not_mem_hexDigits (by decide) piece
    cases others with
    | nil => simpa [joined] using cut?_append_of_not_mem (apart piece) before rest
    | cons next more =>
      -- The colon between two pieces is followed by a digit.
      have colon (before : List Char) : cut? before (':' :: (joined (next :: more) ++ rest)) =
          cut? (':' :: before) (joined (next :: more) ++ rest) := by
        rw [cut?]
        intro after _ follows
        have first : (joined (next :: more) ++ rest).head? = some ':' := by rw [follows]; rfl
        obtain ⟨digit, digits, spelled⟩ := List.exists_cons_of_ne_nil (Nat.toDigits_ne_nil (b := 16) (n := next))
        have starts : (joined (next :: more) ++ rest).head? = some digit := by
          cases more <;> simp [joined, Text.Quoted.hexDigits, spelled]
        have same : digit = ':' := Option.some.inj (starts.symm.trans first)
        have member : digit ∈ Text.Quoted.hexDigits next := by
          rw [Text.Quoted.hexDigits, spelled]
          exact List.mem_cons_self
        exact apart next (same ▸ member)
      rw [joined_cons_cons, List.append_assoc, cut?_append_of_not_mem (apart piece), List.cons_append, colon, ih]
      simp

theorem cut?_joined (pieces : List Nat) : cut? [] (joined pieces) = none := by
  have cut := cut?_joined_append pieces [] []
  rwa [List.append_nil, cut?] at cut

theorem cut?_colons (pieces : List Nat) (after : List Char) :
    cut? [] (joined pieces ++ ':' :: ':' :: after) = some (joined pieces, after) := by
  rw [cut?_joined_append, cut?]
  simp

theorem zeros_le_length (pieces : List Nat) : zeros pieces ≤ pieces.length :=
  (List.takeWhile_sublist _).length_le

theorem take_of_le_zeros {pieces : List Nat} {length : Nat} (inside : length ≤ zeros pieces) :
    pieces.take length = List.replicate length 0 := by
  induction pieces generalizing length with
  | nil =>
    obtain rfl : length = 0 := by simpa [zeros] using inside
    rfl
  | cons piece rest ih =>
    cases length with
    | zero => rfl
    | succ length =>
      by_cases zero : piece = 0
      · subst zero
        have fewer : length ≤ zeros rest := by simpa [zeros] using inside
        rw [List.take_succ_cons, ih fewer, List.replicate_succ]
      · simp [zeros, zero] at inside

/-- The run of zeros that is left out is one. -/
theorem longestZeros_le (pieces : List Nat) :
    (longestZeros pieces).2 ≤ zeros (pieces.drop (longestZeros pieces).1) := by
  have kept (starts : List Nat) (best : Nat × Nat) (found : best.2 ≤ zeros (pieces.drop best.1)) :
      let last := starts.foldl (fun (best : Nat × Nat) start =>
        let length := zeros (pieces.drop start)
        if best.2 < length then (start, length) else best) best
      last.2 ≤ zeros (pieces.drop last.1) := by
    induction starts generalizing best with
    | nil => exact found
    | cons start rest ih =>
      refine ih _ ?_
      by_cases longer : best.2 < zeros (pieces.drop start) <;> simp [longer, found]
  exact kept (List.range pieces.length) (0, 0) (Nat.zero_le _)

/-- The text between the brackets. -/
def body (address : Ipv6) : List Char :=
  if 2 ≤ (longestZeros address).2 then
    joined (address.take (longestZeros address).1) ++
      ':' :: ':' :: joined (address.drop ((longestZeros address).1 + (longestZeros address).2))
  else joined address

theorem text_eq (address : Ipv6) : text address = '[' :: (body address ++ [']']) := rfl

/-- An address is read from its text, where a run of zeros may be left out. -/
theorem read_body {address : Ipv6} (fits : address.Fits) : read (body address) = .ok address := by
  obtain ⟨eight, small⟩ := fits
  unfold body
  generalize found : longestZeros address = run
  obtain ⟨start, length⟩ := run
  split
  · next long =>
    have inside : length ≤ zeros (address.drop start) := by
      have least := longestZeros_le address
      rwa [found] at least
    have bounded := Nat.le_trans inside (zeros_le_length _)
    rw [List.length_drop, eight] at bounded
    have first : ∀ piece ∈ address.take start, piece < 65536 := fun piece member =>
      small piece (List.mem_of_mem_take member)
    have last : ∀ piece ∈ address.drop (start + length), piece < 65536 := fun piece member =>
      small piece (List.mem_of_mem_drop member)
    have noDot : (joined (address.take start)).contains '.' = false := by
      simp only [List.contains_eq_mem, decide_eq_false_iff_not]
      intro member
      rcases mem_joined member with same | ⟨digit, few, same⟩
      · exact absurd same (by decide)
      · have each : ∀ digit < 16, digit.digitChar ≠ '.' := by decide
        exact each digit few same
    have whole : address.take start ++ List.replicate length 0 ++ address.drop (start + length) = address := by
      rw [← take_of_le_zeros inside, List.append_assoc, ← List.drop_drop, List.take_append_drop,
        List.take_append_drop]
    have fewer : (address.take start).length + (address.drop (start + length)).length < 8 := by
      simp only [List.length_take, List.length_drop, eight]
      omega
    have missing : 8 - (address.take start).length - (address.drop (start + length)).length = length := by
      simp only [List.length_take, List.length_drop, eight]
      omega
    rw [read, cut?_colons]
    simp only [noDot, side?_joined first, side?_joined last, fewer, if_true, missing, whole]
    simp
  · rw [read, cut?_joined, side?_joined small]
    simp [eight]

theorem lt_of_tail? {text : List Char} {pieces : List Nat} (found : tail? text = some pieces) :
    ∀ piece ∈ pieces, piece < 65536 := by
  simp only [tail?, Option.bind_eq_bind, Option.bind_eq_some_iff] at found
  obtain ⟨numbers, read, found⟩ := found
  have small : ∀ number ∈ numbers, number ≤ 255 := by
    intro number member
    obtain ⟨digits, _, spelled⟩ := exists_of_mem_forall₂ (mapM_eq_some_iff.mp read) member
    split at spelled
    · cases spelled
    · simpa using (Option.filter_eq_some_iff.mp spelled).2
  split at found
  · next a b c d =>
    obtain rfl := Option.some.inj found
    simp only [List.forall_mem_cons, List.not_mem_nil, false_implies, implies_true, and_true] at small ⊢
    omega
  · cases found

theorem lt_of_pieces? {parts : List (List Char)} {pieces : List Nat} (found : pieces? parts = some pieces) :
    ∀ piece ∈ pieces, piece < 65536 := by
  have small {digits : List Char} {piece : Nat} (short : ¬ 4 < digits.length)
      (value : Text.valueIn? 16 digits = some piece) : piece < 65536 :=
    Nat.lt_of_lt_of_le (Text.lt_of_valueIn? value) (Nat.pow_le_pow_right (by decide) (Nat.not_lt.mp short))
  induction parts generalizing pieces with
  | nil =>
    obtain rfl := Option.some.inj found
    simp
  | cons digits rest ih =>
    cases rest with
    | nil =>
      simp only [pieces?] at found
      split at found
      · exact lt_of_tail? found
      · split at found
        · cases found
        · next short =>
          obtain ⟨piece, value, rfl⟩ := Option.map_eq_some_iff.mp found
          simpa using small (fun long => short (.inr long)) value
    | cons next more =>
      simp only [pieces?] at found
      split at found
      · cases found
      · next short =>
        split at found
        · next piece others value read =>
          obtain rfl := Option.some.inj found
          exact List.forall_mem_cons.mpr ⟨small (fun long => short (.inr long)) value, ih read⟩
        · cases found

theorem lt_of_side? {text : List Char} {pieces : List Nat} (found : side? text = some pieces) :
    ∀ piece ∈ pieces, piece < 65536 := by
  unfold side? at found
  split at found
  · obtain rfl := Option.some.inj found
    simp
  · exact lt_of_pieces? found

theorem fits_of_read {text : List Char} {address : Ipv6} (found : read text = .ok address) : address.Fits := by
  unfold read at found
  split at found
  · next before after _ =>
    split at found
    · cases found
    · split at found
      · next first last firstRead lastRead =>
        split at found
        · next few =>
          obtain rfl := Except.ok.inj found
          constructor
          · simp only [List.length_append, List.length_replicate]
            omega
          · intro piece member
            rcases List.mem_append.mp member with front | among
            · rcases List.mem_append.mp front with among | zero
              · exact lt_of_side? firstRead piece among
              · rw [List.eq_of_mem_replicate zero]
                decide
            · exact lt_of_side? lastRead piece among
        · cases found
      · cases found
  · split at found
    · next pieces read =>
      split at found
      · next eight =>
        obtain rfl := Except.ok.inj found
        exact ⟨eight, lt_of_side? read⟩
      · cases found
    · cases found

end Ipv6

end Endpoints
