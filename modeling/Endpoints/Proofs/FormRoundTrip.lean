import Endpoints.Form.Encoding
import Endpoints.Proofs.AuthorityRoundTrip
import Endpoints.Proofs.FormContents

/-! Forms that are written are read again: characters from their bytes, bytes from their escapes, texts
between `=` and `&`. -/

namespace Endpoints

namespace Utf8

theorem holds_of_bounds {least greatest : UInt8} {value : Nat} (above : least.toNat ≤ value)
    (below : value ≤ greatest.toNat) : (least ≤ UInt8.ofNat value && UInt8.ofNat value ≤ greatest) = true := by
  have small := greatest.toNat_lt
  have same : (UInt8.ofNat value).toNat = value := UInt8.toNat_ofNat_of_lt' (show value < 256 by omega)
  simp [UInt8.le_iff_toNat_le, same, above, below]

theorem takeTails_cons {least greatest : UInt8} {value : Nat} {bounds : List (UInt8 × UInt8)}
    (above : least.toNat ≤ value) (below : value ≤ greatest.toNat) (rest : Bytes) :
    takeTails ((least, greatest) :: bounds) (UInt8.ofNat value :: rest) = takeTails bounds rest := by
  rw [takeTails, if_pos (holds_of_bounds above below)]

theorem tails?_two {value : Nat} (above : 0xc2 ≤ value) (below : value < 0xe0) :
    tails? (UInt8.ofNat value) = some [(0x80, 0xbf)] := by
  have each : ∀ byte : UInt8, 0xc2 ≤ byte.toNat → byte.toNat < 0xe0 → tails? byte = some [(0x80, 0xbf)] :=
    forall_byte (by decide)
  have same : (UInt8.ofNat value).toNat = value := UInt8.toNat_ofNat_of_lt' (show value < 256 by omega)
  exact each _ (by rwa [same]) (by rwa [same])

/-- The second of three bytes keeps out what two bytes spell, and surrogates. -/
theorem tails?_three {value : Nat} (above : 0xe0 ≤ value) (below : value < 0xf0) :
    tails? (UInt8.ofNat value) =
      some [(if value = 0xe0 then 0xa0 else 0x80, if value = 0xed then 0x9f else 0xbf), (0x80, 0xbf)] := by
  have each : ∀ byte : UInt8, 0xe0 ≤ byte.toNat → byte.toNat < 0xf0 → tails? byte =
      some [(if byte.toNat = 0xe0 then 0xa0 else 0x80, if byte.toNat = 0xed then 0x9f else 0xbf), (0x80, 0xbf)] :=
    forall_byte (by decide)
  have same : (UInt8.ofNat value).toNat = value := UInt8.toNat_ofNat_of_lt' (show value < 256 by omega)
  simpa only [same] using each (UInt8.ofNat value) (by rwa [same]) (by rwa [same])

/-- The second of four bytes keeps out what three bytes spell, and what lies past the last character. -/
theorem tails?_four {value : Nat} (above : 0xf0 ≤ value) (below : value < 0xf5) :
    tails? (UInt8.ofNat value) = some [(if value = 0xf0 then 0x90 else 0x80, if value = 0xf4 then 0x8f else 0xbf),
      (0x80, 0xbf), (0x80, 0xbf)] := by
  have each : ∀ byte : UInt8, 0xf0 ≤ byte.toNat → byte.toNat < 0xf5 → tails? byte =
      some [(if byte.toNat = 0xf0 then 0x90 else 0x80, if byte.toNat = 0xf4 then 0x8f else 0xbf), (0x80, 0xbf),
        (0x80, 0xbf)] := forall_byte (by decide)
  have same : (UInt8.ofNat value).toNat = value := UInt8.toNat_ofNat_of_lt' (show value < 256 by omega)
  simpa only [same] using each (UInt8.ofNat value) (by rwa [same]) (by rwa [same])

theorem exists_step (c : Char) (rest : Bytes) :
    ∃ first others, String.utf8EncodeChar c = first :: others ∧ step first (others ++ rest) = (true, rest) := by
  have valid : c.val.toNat < 0xd800 ∨ 0xdfff < c.val.toNat ∧ c.val.toNat < 0x110000 := c.valid
  unfold String.utf8EncodeChar
  generalize c.val.toNat = value at valid ⊢
  simp only
  split
  · have ascii : ∀ value < 128, tails? (UInt8.ofNat value) = some [] := by decide
    have bounds := ascii value (by omega)
    exact ⟨_, _, rfl, by simp [step, bounds, takeTails]⟩
  · split
    · have bounds := tails?_two (show 0xc2 ≤ value / 64 % 32 + 192 by omega) (by omega)
      refine ⟨_, _, rfl, ?_⟩
      simp only [step, bounds, List.cons_append, List.nil_append]
      rw [takeTails_cons (by simp) (by simp; omega)]
      rfl
    · split
      · have bounds := tails?_three (show 0xe0 ≤ value / 4096 % 16 + 224 by omega) (by omega)
        refine ⟨_, _, rfl, ?_⟩
        simp only [step, bounds, List.cons_append, List.nil_append]
        rw [takeTails_cons, takeTails_cons (by simp) (by simp; omega)]
        · rfl
        · split
          · change 160 ≤ value / 64 % 64 + 128
            omega
          · change 128 ≤ value / 64 % 64 + 128
            omega
        · split
          · change value / 64 % 64 + 128 ≤ 159
            omega
          · change value / 64 % 64 + 128 ≤ 191
            omega
      · have bounds := tails?_four (show 0xf0 ≤ value / 262144 % 8 + 240 by omega) (by omega)
        refine ⟨_, _, rfl, ?_⟩
        simp only [step, bounds, List.cons_append, List.nil_append]
        rw [takeTails_cons, takeTails_cons (by simp) (by simp; omega), takeTails_cons (by simp) (by simp; omega)]
        · rfl
        · split
          · change 144 ≤ value / 4096 % 64 + 128
            omega
          · change 128 ≤ value / 4096 % 64 + 128
            omega
        · split
          · change value / 4096 % 64 + 128 ≤ 143
            omega
          · change value / 4096 % 64 + 128 ≤ 191
            omega

theorem decodeLossy_bytesOf (text : List Char) : decodeLossy (bytesOf (String.ofList text)) = text := by
  rw [bytesOf_ofList]
  induction text with
  | nil => rw [List.flatMap_nil, decodeLossy]
  | cons c rest ih =>
    obtain ⟨first, others, spelled, whole⟩ := exists_step c (rest.flatMap String.utf8EncodeChar)
    have taken : (first :: (others ++ rest.flatMap String.utf8EncodeChar)).take
        ((others ++ rest.flatMap String.utf8EncodeChar).length + 1 - (rest.flatMap String.utf8EncodeChar).length) =
          bytesOf (String.ofList [c]) := by
      have length : (others ++ rest.flatMap String.utf8EncodeChar).length + 1 -
          (rest.flatMap String.utf8EncodeChar).length = (first :: others).length := by
        simp only [List.length_append, List.length_cons]
        omega
      rw [length, ← List.cons_append, List.take_left, bytesOf_ofList, ← spelled]
      simp
    rw [List.flatMap_cons, spelled, List.cons_append, decodeLossy]
    simp only [whole, taken, textOf?_bytesOf, Option.getD_some, String.toList_ofList, ih, List.cons_append,
      List.nil_append]

end Utf8

namespace Percent

theorem decodeBytes_cons {byte : UInt8} (plain : byte ≠ 0x25) (rest : Bytes) :
    decodeBytes (byte :: rest) = byte :: decodeBytes rest := by
  have unescaped (high low : UInt8) : escaped? byte high low = none := by simp [escaped?, plain]
  rcases rest with _ | ⟨high, _ | ⟨low, more⟩⟩
  · rfl
  · rfl
  · rw [decodeBytes, unescaped]

/-- The code of a character of ASCII. -/
def code (c : Char) : UInt8 := UInt8.ofNat c.toNat

theorem decodeBytes_encodeByte (byte : UInt8) (rest : Bytes) :
    decodeBytes ((encodeByte byte).map code ++ rest) = byte :: decodeBytes rest := by
  have read : escaped? (code '%') (code (upperHexDigit (byte.toNat / 16))) (code (upperHexDigit (byte.toNat % 16))) =
      some byte := forall_byte (by decide) byte
  simp only [encodeByte, List.map_cons, List.map_nil, List.cons_append, List.nil_append]
  rw [decodeBytes, read]

theorem ascii_of_mem_encodeByte {byte : UInt8} {c : Char} (member : c ∈ encodeByte byte) :
    c.toNat < 128 ∧ c ≠ '+' ∧ c ≠ '&' ∧ c ≠ '=' := by
  have digit : ∀ value < 16, (upperHexDigit value).toNat < 128 ∧ upperHexDigit value ≠ '+' ∧
      upperHexDigit value ≠ '&' ∧ upperHexDigit value ≠ '=' := by decide
  simp only [encodeByte, List.mem_cons, List.not_mem_nil, or_false] at member
  rcases member with rfl | rfl | rfl
  · decide
  · exact digit _ (by have := byte.toNat_lt; omega)
  · exact digit _ (Nat.mod_lt _ (by decide))

theorem decode_flatMap {spell : UInt8 → List Char} (ascii : ∀ byte, ∀ c ∈ spell byte, c.toNat < 128)
    (read : ∀ byte rest, decodeBytes ((spell byte).map code ++ rest) = byte :: decodeBytes rest) (bytes : Bytes) :
    decode (bytes.flatMap spell) = bytes := by
  have all : ∀ c ∈ bytes.flatMap spell, c.toNat < 128 := by
    intro c member
    obtain ⟨byte, _, inside⟩ := List.mem_flatMap.mp member
    exact ascii byte c inside
  rw [decode, bytesOf_ascii all]
  change decodeBytes ((bytes.flatMap spell).map code) = bytes
  clear all
  induction bytes with
  | nil => rfl
  | cons byte rest ih => rw [List.flatMap_cons, List.map_append, read, ih]

theorem code_ofNat {byte : UInt8} (small : byte.toNat < 128) : code (Char.ofNat byte.toNat) = byte := by
  rw [code, toNat_ofNat (by omega), UInt8.ofNat_toNat]

end Percent

namespace Form

theorem of_isPlain {byte : UInt8} (plain : isPlain byte = true) : byte.toNat < 128 ∧ byte ≠ 0x25 ∧
    Char.ofNat byte.toNat ≠ '+' ∧ Char.ofNat byte.toNat ≠ '&' ∧ Char.ofNat byte.toNat ≠ '=' := by
  have found : isPlain byte = true → byte.toNat < 128 ∧ byte ≠ 0x25 ∧ Char.ofNat byte.toNat ≠ '+' ∧
      Char.ofNat byte.toNat ≠ '&' ∧ Char.ofNat byte.toNat ≠ '=' := forall_byte (by decide) byte
  exact found plain

theorem ascii_of_mem_encodeByte {byte : UInt8} {c : Char} (member : c ∈ encodeByte byte) :
    c.toNat < 128 ∧ c ≠ '&' ∧ c ≠ '=' := by
  unfold encodeByte at member
  split at member
  · next plain =>
    obtain rfl := List.mem_singleton.mp member
    obtain ⟨small, _, _, different⟩ := of_isPlain plain
    refine ⟨?_, different⟩
    rwa [toNat_ofNat (by omega)]
  · split at member
    · obtain rfl := List.mem_singleton.mp member
      decide
    · obtain ⟨small, _, different⟩ := Percent.ascii_of_mem_encodeByte member
      exact ⟨small, different⟩

/-- A byte with a `+` read as a blank. -/
def spell (byte : UInt8) : List Char := (encodeByte byte).map fun c => if c == '+' then ' ' else c

theorem decodeBytes_spell (byte : UInt8) (rest : Bytes) :
    Percent.decodeBytes ((spell byte).map Percent.code ++ rest) = byte :: Percent.decodeBytes rest := by
  unfold spell encodeByte
  split
  · next plain =>
    obtain ⟨small, noPercent, noPlus, _⟩ := of_isPlain plain
    simp only [List.map_cons, List.map_nil, beq_false_of_ne noPlus, Bool.false_eq_true, if_false,
      Percent.code_ofNat small]
    exact Percent.decodeBytes_cons noPercent rest
  · split
    · next blank =>
      obtain rfl := eq_of_beq blank
      exact Percent.decodeBytes_cons (by decide) rest
    · have kept : (Percent.encodeByte byte).map (fun c => if c == '+' then ' ' else c) = Percent.encodeByte byte := by
        refine (List.map_congr_left fun c member => ?_).trans (List.map_id _)
        have noPlus := (Percent.ascii_of_mem_encodeByte member).2.1
        rw [beq_false_of_ne noPlus]
        rfl
      rw [kept]
      exact Percent.decodeBytes_encodeByte byte rest

theorem decodeText_encodeText (text : String) : decodeText (encodeText text) = text := by
  have spelled : (encodeText text).map (fun c => if c == '+' then ' ' else c) = (bytesOf text).flatMap spell := by
    rw [encodeText, List.map_flatMap]
    rfl
  have ascii (byte : UInt8) : ∀ c ∈ spell byte, c.toNat < 128 := by
    intro c member
    obtain ⟨original, among, rfl⟩ := List.mem_map.mp member
    split
    · decide
    · exact (ascii_of_mem_encodeByte among).1
  rw [decodeText, spelled, Percent.decode_flatMap ascii decodeBytes_spell, ← String.ofList_toList (s := text),
    Utf8.decodeLossy_bytesOf]

theorem not_mem_encodeText (text : String) : '&' ∉ encodeText text ∧ '=' ∉ encodeText text := by
  constructor
  · intro member
    obtain ⟨byte, _, inside⟩ := List.mem_flatMap.mp member
    exact (ascii_of_mem_encodeByte inside).2.1 rfl
  · intro member
    obtain ⟨byte, _, inside⟩ := List.mem_flatMap.mp member
    exact (ascii_of_mem_encodeByte inside).2.2 rfl

theorem decodePair_encodePair (pair : String × String) : decodePair (encodePair pair) = pair := by
  have different : ∀ c ∈ encodeText pair.1, decide (c ≠ '=') = true := by
    intro c member
    refine decide_eq_true fun same => (not_mem_encodeText pair.1).2 (same ▸ member)
  have key : (encodePair pair).takeWhile (· ≠ '=') = encodeText pair.1 := by
    rw [encodePair, List.takeWhile_append_of_pos different]
    simp
  have value : ((encodePair pair).dropWhile (· ≠ '=')).drop 1 = encodeText pair.2 := by
    rw [encodePair, List.dropWhile_append_of_pos different]
    simp
  rw [decodePair, key, value, decodeText_encodeText, decodeText_encodeText]

theorem encodePairs_eq (pairs : List (String × String)) :
    encodePairs pairs = ((pairs.map encodePair).intersperse ['&']).flatten := by
  induction pairs with
  | nil => rfl
  | cons pair rest ih =>
    cases rest with
    | nil => simp [encodePairs]
    | cons next more =>
      rw [encodePairs, ih]
      · simp
      · simp

theorem isFree_of_mem_encode {form : Form} {c : Char} (member : c ∈ form.encode.toList) :
    Percent.isFree Percent.inWebQuery c = true := by
  have inByte (byte : UInt8) : (encodeByte byte).all (Percent.isFree Percent.inWebQuery) = true :=
    forall_byte (by decide) byte
  have inText {text : String} (member : c ∈ encodeText text) : Percent.isFree Percent.inWebQuery c = true := by
    obtain ⟨byte, _, inside⟩ := List.mem_flatMap.mp member
    exact List.all_eq_true.mp (inByte byte) c inside
  rw [encode, String.toList_ofList, encodePairs_eq] at member
  rcases Text.mem_of_mem_intersperse member with divides | ⟨part, among, inside⟩
  · obtain rfl := List.mem_singleton.mp divides
    decide
  · obtain ⟨pair, _, rfl⟩ := List.mem_map.mp among
    rcases List.mem_append.mp inside with key | value
    · exact inText key
    · rcases List.mem_cons.mp value with rfl | value
      · decide
      · exact inText value

theorem decode_encode (form : Form) : decode form.encode = form.pairs := by
  have apart : ∀ part ∈ form.pairs.map encodePair, '&' ∉ part := by
    intro part member mark
    obtain ⟨pair, _, rfl⟩ := List.mem_map.mp member
    rcases List.mem_append.mp mark with key | value
    · exact (not_mem_encodeText pair.1).1 key
    · rcases List.mem_cons.mp value with equals | value
      · exact absurd equals (by decide)
      · exact (not_mem_encodeText pair.2).1 value
  have written : ∀ part ∈ form.pairs.map encodePair, decide (part ≠ []) = true := by
    intro part member
    obtain ⟨pair, _, rfl⟩ := List.mem_map.mp member
    simp [encodePair]
  rw [decode, encode, String.toList_ofList, encodePairs_eq]
  by_cases empty : form.pairs = []
  · rw [empty]
    rfl
  · rw [Text.splitAt_intersperse (by simpa using empty) apart, List.filter_eq_self.mpr written, List.map_map]
    refine (List.map_congr_left fun pair _ => ?_).trans (List.map_id _)
    exact decodePair_encodePair pair

theorem isEmpty_encode (form : Form) : form.encode.isEmpty = form.isEmpty := by
  rw [Bool.eq_iff_iff, String.isEmpty_iff, ← pairs_eq_nil_iff]
  constructor
  · intro nothing
    rw [← decode_encode, nothing]
    rfl
  · intro none
    rw [encode, none]
    rfl

/-- The text of a form says all about it: its pairs in their order, hence the form itself, and no other form has
this text. -/
theorem encode_lossless (form : Form) :
    decode form.encode = form.pairs ∧ ofPairs (decode form.encode) = form ∧
      (∀ other : Form, other.encode = form.encode ↔ other = form) ∧ (form.encode = "" ↔ form.isEmpty = true) := by
  have read (form : Form) : ofPairs (decode form.encode) = form := by
    rw [decode_encode, ofPairs_pairs]
  refine ⟨decode_encode form, read form, ?_, by rw [← isEmpty_encode, String.isEmpty_iff]⟩
  intro other
  constructor
  · intro same
    rw [← read other, same, read]
  · intro same
    rw [same]

end Form

end Endpoints
