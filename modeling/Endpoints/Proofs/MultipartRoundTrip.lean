import Endpoints.Http.Multipart
import Endpoints.Proofs.FormRoundTrip
import Mathlib.Data.Bool.AllAny
import Mathlib.Data.List.Infix

/-! Bodies of several parts are read again: cut at the lines with the boundary, and each piece at the empty
line that ends its header. -/

namespace Endpoints

namespace Percent

theorem decode_encode {reserved : Reserved}
    (free : ∀ byte, reserved byte = false → byte.toNat < 128 ∧ byte ≠ 0x25) (text : List Char) :
    decode (encode reserved text) = bytesOf (String.ofList text) := by
  refine decode_flatMap ?_ ?_ _
  · intro byte c member
    split at member
    · exact (ascii_of_mem_encodeByte member).1
    · next unreserved =>
      obtain rfl := List.mem_singleton.mp member
      have below := (free byte (Bool.eq_false_iff.mpr unreserved)).1
      rwa [toNat_ofNat (by omega)]
  · intro byte rest
    split
    · exact decodeBytes_encodeByte byte rest
    · next unreserved =>
      obtain ⟨below, noPercent⟩ := free byte (Bool.eq_false_iff.mpr unreserved)
      rw [List.map_cons, List.map_nil, code_ofNat below]
      exact decodeBytes_cons noPercent rest

end Percent

namespace Multipart

/-- What each line with the boundary starts with, after the end of the line before. -/
def delimiter (boundary : String) : Bytes := 0x0d :: 0x0a :: 0x2d :: 0x2d :: bytesOf boundary

/-- What stands between the occurrences of a mark. -/
def split (mark bytes : Bytes) : List Bytes :=
  match bytes.dropInfix? mark with
  | some (before, after) =>
    if after.length < bytes.length then before :: split mark after else [before, after]
  | none => [bytes]
  termination_by bytes.length

def name? (field : Bytes) : Option String :=
  match field.dropPrefix? (bytesOf "name=\"") with
  | some quoted => textOf? (Percent.decodeBytes (quoted.takeWhile (· ≠ 0x22)))
  | none => do textOf? (Percent.decodeBytes (← field.dropPrefix? (bytesOf "name*=utf-8''")))

def field? (piece : Bytes) : Option (String × Bytes) := do
  let lines ← piece.dropPrefix? (bytesOf "\r\n")
  let (line, content) ← lines.dropInfix? (bytesOf "\r\n\r\n")
  let field ← line.dropPrefix? (bytesOf "Content-Disposition: form-data; ")
  return (← name? field, content)

def fields? : List Bytes → Option (List (String × Bytes))
  | [] => none
  | piece :: rest =>
    if (bytesOf "--").isPrefixOf piece then some []
    else do return (← field? piece) :: (← fields? rest)

/-- The fields of a body. What stands before the first boundary counts for nothing. -/
def decode? (boundary : String) (body : Bytes) : Option (List (String × Bytes)) :=
  fields? ((split (delimiter boundary) (bytesOf "\r\n" ++ body)).drop 1)

section
variable {mark front rest : Bytes}

theorem split_uncut (outside : ¬ mark <:+: front) : split mark front = [front] := by
  have uncut : front.dropInfix? mark = none := by
    rw [Option.eq_none_iff_forall_ne_some]
    rintro ⟨before, after⟩ found
    obtain ⟨⟨other, same, equal⟩, _⟩ := List.dropInfix?_eq_some_iff.mp found
    rw [eq_of_beq equal] at same
    exact outside ⟨before, after, same.symm⟩
  rw [split, uncut]

theorem dropInfix?_of_first (first : ∀ before tail after, front = before ++ tail → tail ≠ [] →
      tail ++ (mark ++ rest) ≠ mark ++ after) : (front ++ (mark ++ rest)).dropInfix? mark = some (front, rest) := by
  refine List.dropInfix?_eq_some_iff.mpr ⟨⟨mark, by simp, beq_self_eq_true _⟩, ?_⟩
  intro before other after same equal
  rw [eq_of_beq equal, List.append_assoc] at same
  apply Nat.le_of_not_lt
  intro shorter
  rcases List.append_eq_append_iff.mp same with ⟨tail, rfl, _⟩ | ⟨tail, split, starts⟩
  · rw [List.length_append] at shorter
    omega
  · refine first before tail after split ?_ starts.symm
    rintro rfl
    simp [split] at shorter

theorem dropInfix?_of_not_mem {first : UInt8} {others : Bytes} (absent : first ∉ front) (rest : Bytes) :
    (front ++ (first :: others ++ rest)).dropInfix? (first :: others) = some (front, rest) := by
  refine dropInfix?_of_first fun before tail after split ne_nil starts => ?_
  obtain ⟨byte, more, rfl⟩ := List.exists_cons_of_ne_nil ne_nil
  obtain ⟨rfl, _⟩ := List.cons.inj starts
  exact absent (by simp [split])

/-- A mark whose first byte is nowhere else in it is found where it is, unless it occurs before. -/
theorem dropInfix?_append {first : UInt8} {others : Bytes} (apart : first ∉ others)
    (outside : ¬ first :: others <:+: front) (rest : Bytes) :
    (front ++ (first :: others ++ rest)).dropInfix? (first :: others) = some (front, rest) := by
  refine dropInfix?_of_first fun before started after split ne_nil starts => ?_
  obtain ⟨byte, more, rfl⟩ := List.exists_cons_of_ne_nil ne_nil
  obtain ⟨rfl, overlap⟩ := List.cons.inj starts
  -- A mark that starts in front lies in it, or reaches over its end, where the mark starts again.
  rcases List.append_eq_append_iff.mp overlap with ⟨tail, rfl, again⟩ | ⟨inside, rfl, _⟩
  · cases tail with
    | nil => exact outside ⟨before, [], by simp [split]⟩
    | cons next _ =>
      obtain ⟨rfl, _⟩ := List.cons.inj again
      exact apart (by simp)
  · exact outside ⟨before, inside, by simp [split]⟩

theorem split_append {first : UInt8} {others : Bytes} (apart : first ∉ others)
    (outside : ¬ first :: others <:+: front) (rest : Bytes) :
    split (first :: others) (front ++ (first :: others ++ rest)) = front :: split (first :: others) rest := by
  rw [split, dropInfix?_append apart outside]
  have shorter : rest.length < (front ++ (first :: others ++ rest)).length := by
    simp only [List.length_append, List.length_cons]
    omega
  simp only [shorter, if_true]

theorem infix_append_iff {first : UInt8} {others : Bytes} (absent : first ∉ front) :
    first :: others <:+: front ++ rest ↔ first :: others <:+: rest := by
  induction front with
  | nil => rfl
  | cons byte more ih =>
    obtain ⟨different, later⟩ := List.ne_and_not_mem_of_not_mem_cons absent
    rw [List.cons_append, List.infix_cons_iff, ih later, List.cons_prefix_cons]
    simp [different]

end

theorem bytesOf_lineEnd : bytesOf "\r\n" = [0x0d, 0x0a] := by
  rw [bytesOf_eq]
  rfl

theorem bytesOf_emptyLine : bytesOf "\r\n\r\n" = [0x0d, 0x0a, 0x0d, 0x0a] := by
  rw [bytesOf_eq]
  rfl

theorem bytesOf_dashes : bytesOf "--" = [0x2d, 0x2d] := by
  rw [bytesOf_eq]
  rfl

theorem bytesOf_ending : bytesOf "--\r\n" = [0x2d, 0x2d, 0x0d, 0x0a] := by
  rw [bytesOf_eq]
  rfl

def nameBytes (name : String) : Bytes := bytesOf (String.ofList (Percent.encode Percent.inPathSegment name.toList))

theorem not_mem_nameBytes (name : String) : 0x0d ∉ nameBytes name ∧ 0x22 ∉ nameBytes name := by
  have each (source : UInt8) : (if Percent.inPathSegment source then Percent.encodeByte source
      else [Char.ofNat source.toNat]).all (fun c => c ≠ '\r' ∧ c ≠ '"') = true := forall_byte (by decide) source
  have plain {byte : UInt8} (ascii : byte.toNat < 128) (member : byte ∈ nameBytes name) :
      Char.ofNat byte.toNat ≠ '\r' ∧ Char.ofNat byte.toNat ≠ '"' := by
    have written := mem_of_mem_bytesOf ascii member
    rw [String.toList_ofList] at written
    obtain ⟨source, _, inside⟩ := List.mem_flatMap.mp written
    exact List.all_iff_forall_prop.mp (each source) _ inside
  exact ⟨fun member => (plain (by decide) member).1 rfl, fun member => (plain (by decide) member).2 rfl⟩

theorem decodeBytes_nameBytes (name : String) : textOf? (Percent.decodeBytes (nameBytes name)) = some name := by
  have free : ∀ byte, Percent.inPathSegment byte = false → byte.toNat < 128 ∧ byte ≠ 0x25 :=
    fun byte => forall_byte (by decide) byte
  have decoded := Percent.decode_encode free name.toList
  rw [Percent.decode, String.ofList_toList] at decoded
  rw [nameBytes, decoded, textOf?_bytesOf]

theorem bytesOf_nameField (name : String) :
    bytesOf (String.ofList (nameField name)) = bytesOf "name=\"" ++ (nameBytes name ++ [0x22]) ∨
      bytesOf (String.ofList (nameField name)) = bytesOf "name*=utf-8''" ++ nameBytes name := by
  have quote : bytesOf (String.ofList ['"']) = [0x22] := by
    rw [bytesOf_ofList]
    rfl
  unfold nameField
  simp only
  split
  · left
    rw [String.ofList_append, String.ofList_append, bytesOf_append, bytesOf_append, quote, String.ofList_toList]
    rfl
  · right
    rw [String.ofList_append, bytesOf_append, String.ofList_toList]
    rfl

theorem name?_nameField (name : String) : name? (bytesOf (String.ofList (nameField name))) = some name := by
  have decoded := decodeBytes_nameBytes name
  rcases bytesOf_nameField name with quoted | escaped
  · have unquoted : (nameBytes name ++ [0x22]).takeWhile (· ≠ 0x22) = nameBytes name := by
      have inside : ∀ byte ∈ nameBytes name, decide (byte ≠ 0x22) = true := by
        intro byte member
        exact decide_eq_true fun same => (not_mem_nameBytes name).2 (same ▸ member)
      rw [List.takeWhile_append_of_pos inside]
      simp
    rw [quoted, name?, List.dropPrefix?_append_of_beq _ (beq_self_eq_true _)]
    simp only [unquoted, decoded]
  · have other : (bytesOf "name*=utf-8''" ++ nameBytes name).dropPrefix? (bytesOf "name=\"") = none := by
      rw [bytesOf_eq, bytesOf_eq]
      rfl
    rw [escaped, name?, other, List.dropPrefix?_append_of_beq _ (beq_self_eq_true _)]
    exact decoded

def header (name : String) : Bytes :=
  bytesOf "Content-Disposition: form-data; " ++ bytesOf (String.ofList (nameField name))

theorem not_mem_header (name : String) : 0x0d ∉ header name := by
  have absent := (not_mem_nameBytes name).1
  have fixed : 0x0d ∉ bytesOf "Content-Disposition: form-data; " ∧ 0x0d ∉ bytesOf "name=\"" ∧
      0x0d ∉ bytesOf "name*=utf-8''" := by
    rw [bytesOf_eq, bytesOf_eq, bytesOf_eq]
    decide
  unfold header
  rcases bytesOf_nameField name with same | same <;> simp [same, absent, fixed]

/-- What stands between the lines with the boundary for a part. -/
def piece (field : String × Bytes) : Bytes :=
  bytesOf "\r\n" ++ (header field.1 ++ (bytesOf "\r\n\r\n" ++ field.2))

theorem field?_piece (field : String × Bytes) : field? (piece field) = some field := by
  have cut : (header field.1 ++ (bytesOf "\r\n\r\n" ++ field.2)).dropInfix? (bytesOf "\r\n\r\n") =
      some (header field.1, field.2) := by
    rw [bytesOf_emptyLine]
    exact dropInfix?_of_not_mem (not_mem_header field.1) field.2
  rw [field?, piece, List.dropPrefix?_append_of_beq _ (beq_self_eq_true _)]
  simp only [Option.bind_eq_bind, Option.bind_some, cut]
  rw [header, List.dropPrefix?_append_of_beq _ (beq_self_eq_true _)]
  simp [name?_nameField]

theorem part_eq (boundary : String) (field : String × Bytes) (rest : Bytes) :
    bytesOf "\r\n" ++ (part boundary field.1 field.2 ++ rest) =
      delimiter boundary ++ (piece field ++ (bytesOf "\r\n" ++ rest)) := by
  have ends : bytesOf "\r\nContent-Disposition: form-data; " =
      bytesOf "\r\n" ++ bytesOf "Content-Disposition: form-data; " := by
    rw [← bytesOf_append]
    rfl
  simp only [part, bytesOf_append, bytesOf_dashes, ends, bytesOf_lineEnd, delimiter, piece, header, List.cons_append,
    List.append_assoc, List.nil_append]

/-- Before the lines with the boundary there is nothing, and the last one is told by two dashes. -/
theorem body_eq (boundary : String) {parts : Keyed Bytes} (written : parts ≠ []) :
    bytesOf "\r\n" ++ body boundary parts =
      parts.flatMap (fun field => delimiter boundary ++ piece field) ++ (delimiter boundary ++ bytesOf "--\r\n") := by
  have filled : parts.isEmpty = false := by simpa using written
  rw [body, filled, if_neg Bool.false_ne_true]
  clear written filled
  induction parts with
  | nil =>
    simp only [List.flatMap_nil, List.nil_append, bytesOf_append, bytesOf_dashes, bytesOf_lineEnd, delimiter,
      List.cons_append]
  | cons field rest ih =>
    obtain ⟨name, content⟩ := field
    rw [List.flatMap_cons, List.append_assoc]
    refine (part_eq boundary (name, content) _).trans ?_
    rw [ih, List.flatMap_cons, List.append_assoc, List.append_assoc]

section
variable {boundary : String}

theorem not_mem_delimiter (line : '\r' ∉ boundary.toList) : 0x0d ∉ 0x0a :: 0x2d :: 0x2d :: bytesOf boundary := by
  have absent : 0x0d ∉ bytesOf boundary := fun member => line (mem_of_mem_bytesOf (by decide) member)
  simpa using absent

theorem not_infix_piece {field : String × Bytes} (apart : ¬ bytesOf boundary <:+: field.2) :
    ¬ delimiter boundary <:+: piece field := by
  obtain ⟨more, starts⟩ : ∃ more, header field.1 = 0x43 :: more := by
    unfold header
    rw [bytesOf_eq]
    exact ⟨_, rfl⟩
  have inHeader : 0x0d ∉ 0x0a :: header field.1 := by simpa using not_mem_header field.1
  have lineFeed : 0x0d ∉ [(0x0a : UInt8)] := by decide
  have shape : piece field = 0x0d :: ((0x0a :: header field.1) ++ 0x0d :: ([0x0a] ++ 0x0d :: ([0x0a] ++ field.2))) := by
    simp [piece, bytesOf_lineEnd, bytesOf_emptyLine]
  intro found
  rw [shape, delimiter, List.infix_cons_iff] at found
  rcases found with front | found
  · -- The header does not start with dashes.
    simp [starts, List.cons_prefix_cons] at front
  · rw [infix_append_iff inHeader, List.infix_cons_iff] at found
    rcases found with front | found
    · simp [List.cons_prefix_cons] at front
    · rw [infix_append_iff lineFeed, List.infix_cons_iff] at found
      rcases found with front | found
      · have inside : 0x2d :: 0x2d :: bytesOf boundary <+: field.2 := by simpa [List.cons_prefix_cons] using front
        exact apart ((List.suffix_append [0x2d, 0x2d] _).isInfix.trans inside.isInfix)
      · rw [infix_append_iff lineFeed] at found
        exact apart ((List.suffix_append [0x0d, 0x0a, 0x2d, 0x2d] _).isInfix.trans found)

theorem split_pieces (line : '\r' ∉ boundary.toList) {parts : Keyed Bytes}
    (apart : ∀ field ∈ parts, ¬ bytesOf boundary <:+: field.2) {front : Bytes}
    (outside : ¬ delimiter boundary <:+: front) :
    split (delimiter boundary) (front ++ (parts.flatMap (fun field => delimiter boundary ++ piece field) ++
      (delimiter boundary ++ bytesOf "--\r\n"))) = front :: (parts.map piece ++ [bytesOf "--\r\n"]) := by
  induction parts generalizing front with
  | nil =>
    have last : ¬ delimiter boundary <:+: bytesOf "--\r\n" := by
      intro found
      have dashes : 0x0d ∉ [(0x2d : UInt8), 0x2d] := by decide
      rw [bytesOf_ending] at found
      have lineEnd : delimiter boundary <:+: [0x0d, 0x0a] :=
        (infix_append_iff dashes).mp (show delimiter boundary <:+: [0x2d, 0x2d] ++ [0x0d, 0x0a] from found)
      have short := lineEnd.length_le
      simp [delimiter] at short
    rw [List.flatMap_nil, List.nil_append, delimiter, split_append (not_mem_delimiter line) outside]
    exact congrArg (front :: ·) (split_uncut last)
  | cons field rest ih =>
    obtain ⟨first, others⟩ := List.forall_mem_cons.mp apart
    rw [List.flatMap_cons, List.append_assoc, List.append_assoc, delimiter,
      split_append (not_mem_delimiter line) outside, ← delimiter, ih others (not_infix_piece first)]
    rfl

/-- The fields of a body are read from it, where the boundary occurs in none of them. -/
theorem decode?_body (line : '\r' ∉ boundary.toList) {parts : Keyed Bytes} (written : parts ≠ [])
    (apart : ∀ field ∈ parts, ¬ bytesOf boundary <:+: field.2) : decode? boundary (body boundary parts) = some parts := by
  have outside : ¬ delimiter boundary <:+: [] := fun found => nomatch List.infix_nil.mp found
  have pieces := split_pieces line apart outside
  rw [List.nil_append] at pieces
  rw [decode?, body_eq boundary written, pieces, List.drop_one, List.tail_cons]
  clear pieces written apart
  induction parts with
  | nil =>
    rw [List.map_nil, List.nil_append, fields?, if_pos]
    rw [bytesOf_eq, bytesOf_eq]
    rfl
  | cons field rest ih =>
    have goesOn : (bytesOf "--").isPrefixOf (piece field) = false := by
      rw [bytesOf_dashes, piece, bytesOf_lineEnd]
      rfl
    rw [List.map_cons, List.cons_append, fields?, goesOn, if_neg Bool.false_ne_true, field?_piece, ih]
    rfl

end

end Multipart

end Endpoints
