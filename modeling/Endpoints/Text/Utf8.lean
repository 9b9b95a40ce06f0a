/-! Bytes and the text that they spell. -/

namespace Endpoints

abbrev Bytes := List UInt8

def bytesOf (text : String) : Bytes := text.toUTF8.toList

def textOf? (bytes : Bytes) : Option String := String.fromUTF8? ⟨bytes.toArray⟩

theorem toList_byteArray (bytes : ByteArray) : bytes.toList = bytes.data.toList := by
  have loops (index : Nat) (read : List UInt8) :
      ByteArray.toList.loop bytes index read = read.reverse ++ bytes.data.toList.drop index := by
    fun_induction ByteArray.toList.loop bytes index read with
    | case1 index read more ih =>
      have inside : index < bytes.data.toList.length := by simpa using more
      have first : bytes.get! index = bytes.data.toList[index] := getElem!_pos bytes.data index more
      rw [ih, List.drop_eq_getElem_cons inside, first, List.reverse_cons, List.append_assoc]
      rfl
    | case2 index read done =>
      have past : bytes.data.toList.length ≤ index := by simpa using done
      rw [List.drop_eq_nil_of_le past, List.append_nil]
  rw [ByteArray.toList, loops]
  rfl

theorem bytesOf_eq (text : String) : bytesOf text = text.toList.flatMap String.utf8EncodeChar := by
  have spelled (characters : List Char) :
      bytesOf (String.ofList characters) = characters.flatMap String.utf8EncodeChar := by
    rw [bytesOf, toList_byteArray]
    simp [String.toUTF8, List.utf8Encode]
  rw [← spelled, String.ofList_toList]

theorem bytesOf_ofList (text : List Char) :
    bytesOf (String.ofList text) = text.flatMap String.utf8EncodeChar := by
  rw [bytesOf_eq, String.toList_ofList]

theorem bytesOf_append (first second : String) : bytesOf (first ++ second) = bytesOf first ++ bytesOf second := by
  simp [bytesOf_eq]

/-- A later character is spelled by later bytes: by a greater first byte where the spelling is longer. -/
theorem utf8EncodeChar_append_lt {first second : Char} (less : first < second) (front back : Bytes) :
    String.utf8EncodeChar first ++ front < String.utf8EncodeChar second ++ back := by
  have less : first.val.toNat < second.val.toNat := UInt32.lt_iff_toNat_lt.mp less
  have bound : second.val.toNat < 0x110000 := by
    rcases second.valid with low | high
    · exact Nat.lt_trans low (by decide)
    · exact high.2
  unfold String.utf8EncodeChar
  dsimp only
  generalize first.val.toNat = code at less
  generalize second.val.toNat = next at less bound
  -- one case for each pair of lengths; between spellings of one length the first different byte decides
  repeat' split
  all_goals
    simp (disch := omega) only [List.cons_append, List.nil_append, List.cons_lt_cons_iff,
      UInt8.lt_iff_toNat_lt, ← UInt8.toNat_inj, UInt8.toNat_ofNat', Nat.mod_eq_of_lt]
    omega

theorem bytesOf_lt_of_lt {first second : String} (less : first < second) : bytesOf first < bytesOf second := by
  have spelled (one other : List Char) (less : one < other) :
      one.flatMap String.utf8EncodeChar < other.flatMap String.utf8EncodeChar := by
    induction less with
    | @nil c rest =>
      obtain ⟨byte, bytes, spelled⟩ := List.exists_cons_of_ne_nil (String.utf8EncodeChar_ne_nil (c := c))
      rw [List.flatMap_nil, List.flatMap_cons, spelled]
      exact List.nil_lt_cons _ _
    | @rel c _ d _ below => exact utf8EncodeChar_append_lt below _ _
    | cons _ ih =>
      rw [List.flatMap_cons, List.flatMap_cons]
      exact List.append_left_lt ih
  rw [bytesOf_eq, bytesOf_eq]
  exact spelled _ _ (String.lt_iff.mp less)

/-- Texts are in the order of their bytes. -/
theorem bytesOf_lt_iff {first second : String} : bytesOf first < bytesOf second ↔ first < second := by
  refine ⟨fun below => Decidable.byContradiction fun notLess => ?_, bytesOf_lt_of_lt⟩
  by_cases after : second < first
  · exact List.lt_asymm (bytesOf_lt_of_lt after) below
  · rw [String.le_antisymm (String.not_lt.mp after) (String.not_lt.mp notLess)] at below
    exact List.lt_irrefl _ below

/-- What holds of all codes of bytes, sixteen at a time, holds of all bytes. -/
@[elab_as_elim]
theorem forall_byte {property : UInt8 → Prop} [DecidablePred property]
    (each : ((List.range 16).all fun high => (List.range 16).all fun low =>
      decide (property (UInt8.ofNat (16 * high + low)))) = true) (byte : UInt8) : property byte := by
  have bound := byte.toNat_lt
  have row := List.all_eq_true.mp each (byte.toNat / 16) (List.mem_range.mpr (by omega))
  have found := List.all_eq_true.mp row (byte.toNat % 16) (List.mem_range.mpr (by omega))
  rw [Nat.div_add_mod, UInt8.ofNat_toNat] at found
  exact of_decide_eq_true found

/-- What holds of all codes of ASCII, sixteen at a time, holds of all its characters. -/
@[elab_as_elim]
theorem forall_ascii {property : Char → Prop} [DecidablePred property]
    (each : ((List.range 8).all fun high => (List.range 16).all fun low =>
      decide (property (Char.ofNat (16 * high + low)))) = true) {c : Char} (ascii : c.toNat < 128) :
    property c := by
  have row := List.all_eq_true.mp each (c.toNat / 16) (List.mem_range.mpr (by omega))
  have found := List.all_eq_true.mp row (c.toNat % 16) (List.mem_range.mpr (by omega))
  rw [Nat.div_add_mod, Char.ofNat_toNat] at found
  exact of_decide_eq_true found

/-- The code of a character below the surrogates. -/
theorem toNat_ofNat {code : Nat} (small : code < 0xd800) : (Char.ofNat code).toNat = code := by
  rw [Char.ofNat, dif_pos (.inl small)]
  rfl

/-- A character of ASCII is spelled by one byte. -/
theorem utf8EncodeChar_of_ascii {c : Char} (ascii : c.toNat < 128) :
    String.utf8EncodeChar c = [UInt8.ofNat c.toNat] := by
  have small : c.val.toNat ≤ 127 := Nat.le_of_lt_succ ascii
  simp only [String.utf8EncodeChar, small, if_true]
  rfl

/-- Bytes of ASCII spell their own characters only. -/
theorem mem_of_mem_bytesOf {text : String} {byte : UInt8} (ascii : byte.toNat < 128) (member : byte ∈ bytesOf text) :
    Char.ofNat byte.toNat ∈ text.toList := by
  rw [bytesOf_eq] at member
  obtain ⟨c, among, written⟩ := List.mem_flatMap.mp member
  have same : c.val.toNat = byte.toNat := by
    unfold String.utf8EncodeChar at written
    simp only at written
    split at written
    · rw [List.mem_singleton.mp written, UInt8.toNat_ofNat']
      omega
    · -- All bytes of a longer spelling lie outside ASCII.
      have large : 128 ≤ byte.toNat := by
        split at written
        · simp only [List.mem_cons, List.not_mem_nil, or_false] at written
          rcases written with rfl | rfl <;> rw [UInt8.toNat_ofNat'] <;> omega
        · split at written
          · simp only [List.mem_cons, List.not_mem_nil, or_false] at written
            rcases written with rfl | rfl | rfl <;> rw [UInt8.toNat_ofNat'] <;> omega
          · simp only [List.mem_cons, List.not_mem_nil, or_false] at written
            rcases written with rfl | rfl | rfl | rfl <;> rw [UInt8.toNat_ofNat'] <;> omega
      omega
  have found : Char.ofNat byte.toNat = c := by
    rw [← same]
    exact Char.ofNat_toNat c
  rw [found]
  exact among

theorem bytesOf_ascii {text : List Char} (ascii : ∀ c ∈ text, c.toNat < 128) :
    bytesOf (String.ofList text) = text.map fun c => UInt8.ofNat c.toNat := by
  rw [bytesOf_ofList]
  induction text with
  | nil => rfl
  | cons c rest ih =>
    obtain ⟨first, others⟩ := List.forall_mem_cons.mp ascii
    rw [List.flatMap_cons, List.map_cons, utf8EncodeChar_of_ascii first, ih others]
    rfl

theorem textOf?_bytesOf (text : String) : textOf? (bytesOf text) = some text := by
  have same : (⟨(bytesOf text).toArray⟩ : ByteArray) = text.toByteArray := by
    rw [bytesOf, toList_byteArray]
    rfl
  rw [textOf?, same, String.fromUTF8?, dif_pos text.isValidUTF8]
  rfl

theorem bytesOf_of_textOf? {content : Bytes} {text : String} (spelled : textOf? content = some text) :
    bytesOf text = content := by
  unfold textOf? String.fromUTF8? at spelled
  split at spelled
  next valid =>
    cases spelled
    rw [bytesOf, toList_byteArray]
    rfl
  next => cases spelled

namespace Utf8

/-- The least and the greatest value of each byte that follows a first byte. -/
def tails? (first : UInt8) : Option (List (UInt8 × UInt8)) :=
  if first < 0x80 then some []
  else if first < 0xc2 then none
  else if first < 0xe0 then some [(0x80, 0xbf)]
  else if first == 0xe0 then some [(0xa0, 0xbf), (0x80, 0xbf)]
  else if first == 0xed then some [(0x80, 0x9f), (0x80, 0xbf)]
  else if first < 0xf0 then some [(0x80, 0xbf), (0x80, 0xbf)]
  else if first == 0xf0 then some [(0x90, 0xbf), (0x80, 0xbf), (0x80, 0xbf)]
  else if first < 0xf4 then some [(0x80, 0xbf), (0x80, 0xbf), (0x80, 0xbf)]
  else if first == 0xf4 then some [(0x80, 0x8f), (0x80, 0xbf), (0x80, 0xbf)]
  else none

/-- Takes bytes while each lies between its bounds. Gives the rest, and whether all bounds were used. -/
def takeTails : List (UInt8 × UInt8) → Bytes → Bool × Bytes
  | [], bytes => (true, bytes)
  | _ :: _, [] => (false, [])
  | (least, greatest) :: bounds, byte :: rest =>
    if least ≤ byte && byte ≤ greatest then takeTails bounds rest else (false, byte :: rest)

/-- Whether bytes start with a whole character, and what follows it, or what follows the bytes that
cannot be completed to one. -/
def step (first : UInt8) (rest : Bytes) : Bool × Bytes :=
  match tails? first with
  | some bounds => takeTails bounds rest
  | none => (false, rest)

theorem takeTails_length_le (bounds : List (UInt8 × UInt8)) (bytes : Bytes) :
    (takeTails bounds bytes).2.length ≤ bytes.length := by
  fun_induction takeTails bounds bytes with
  | case1 => exact Nat.le_refl _
  | case2 => exact Nat.le_refl _
  | case3 least greatest bounds byte rest _ ih => exact Nat.le_succ_of_le ih
  | case4 => exact Nat.le_refl _

theorem step_length_le (first : UInt8) (rest : Bytes) : (step first rest).2.length ≤ rest.length := by
  unfold step
  split
  · exact takeTails_length_le _ _
  · exact Nat.le_refl _

/-- What is left from the first byte on that spells nothing. -/
def invalidFrom (bytes : Bytes) : Bytes :=
  match bytes with
  | [] => []
  | first :: rest =>
    have := step_length_le first rest
    if (step first rest).1 then invalidFrom (step first rest).2 else first :: rest
  termination_by bytes.length

def decodeLossy (bytes : Bytes) : List Char :=
  match bytes with
  | [] => []
  | first :: rest =>
    have := step_length_le first rest
    let after := (step first rest).2
    let shown := (textOf? ((first :: rest).take (rest.length + 1 - after.length))).getD "\ufffd"
    shown.toList ++ decodeLossy after
  termination_by bytes.length

end Utf8

end Endpoints
