import Endpoints.Proofs.HostRoundTrip
import Endpoints.Url.Reader
import Mathlib.Data.List.TakeWhile

/-! Authorities that are read are read again from their text. User info is encoded already, no mark
stands in a host, and a port is written in digits. -/

namespace Endpoints
open Checks

namespace Percent

def isFree (reserved : Reserved) (c : Char) : Bool := c.toNat < 128 && !reserved (UInt8.ofNat c.toNat)

theorem encode_of_free {reserved : Reserved} {text : List Char} (free : ∀ c ∈ text, isFree reserved c = true) :
    encode reserved text = text := by
  have kept {c : Char} (member : c ∈ text) :
      c.toNat < 128 ∧ reserved (UInt8.ofNat c.toNat) = false := by
    simpa [isFree] using free c member
  rw [encode, bytesOf_ascii fun c member => (kept member).1, encodeBytes, List.flatMap_map]
  have single : text.flatMap (fun c => if reserved (UInt8.ofNat c.toNat) then encodeByte (UInt8.ofNat c.toNat)
      else [Char.ofNat (UInt8.ofNat c.toNat).toNat]) = text.flatMap fun c => [c] := by
    apply List.flatMap_congr
    intro c member
    obtain ⟨small, unreserved⟩ := kept member
    have value : (UInt8.ofNat c.toNat).toNat = c.toNat := by
      rw [UInt8.toNat_ofNat']
      omega
    rw [unreserved, value, Char.ofNat_toNat]
    rfl
  rw [single, List.flatMap_singleton']

theorem visible_of_isFree {reserved : Reserved} (blanks : ∀ byte ≤ (0x20 : UInt8), reserved byte = true) {c : Char}
    (free : isFree reserved c = true) : 0x20 < c.toNat := by
  simp only [isFree, Bool.and_eq_true, decide_eq_true_eq, Bool.not_eq_true'] at free
  obtain ⟨small, unreserved⟩ := free
  apply Nat.lt_of_not_le
  intro blank
  have held := blanks (UInt8.ofNat c.toNat) (UInt8.le_iff_toNat_le.mpr (by
    rw [UInt8.toNat_ofNat']
    have least : (0x20 : UInt8).toNat = 32 := rfl
    omega))
  rw [held] at unreserved
  cases unreserved

/-- What one place holds as it is, another one holds that escapes less. -/
theorem isFree_of_weaker {strict loose : Reserved} (weaker : ∀ byte, loose byte = true → strict byte = true)
    {c : Char} (free : isFree strict c = true) : isFree loose c = true := by
  simp only [isFree, Bool.and_eq_true, Bool.not_eq_true'] at free ⊢
  refine ⟨free.1, Bool.eq_false_iff.mpr fun held => ?_⟩
  rw [weaker _ held] at free
  exact absurd free.2 (by decide)

theorem encode_ne_nil {reserved : Reserved} {text : List Char} (ne_nil : text ≠ []) : encode reserved text ≠ [] := by
  obtain ⟨c, rest, rfl⟩ := List.exists_cons_of_ne_nil ne_nil
  have bytes : String.utf8EncodeChar c ≠ [] := by
    apply List.ne_nil_of_length_pos
    rw [String.length_utf8EncodeChar]
    exact c.utf8Size_pos
  obtain ⟨byte, others, spelled⟩ := List.exists_cons_of_ne_nil bytes
  rw [encode, bytesOf_ofList, List.flatMap_cons, spelled]
  by_cases held : reserved byte = true <;> simp [encodeBytes, held, encodeByte]

/-- What is encoded holds free characters of the text, and those of escapes. -/
theorem free_or_escape_of_mem_encode {reserved : Reserved} {text : List Char} {c : Char}
    (ascii : ∀ byte : UInt8, 128 ≤ byte.toNat → reserved byte = true) (member : c ∈ encode reserved text) :
    (c ∈ text ∧ isFree reserved c = true) ∨ c ∈ "%0123456789ABCDEF".toList := by
  obtain ⟨byte, among, written⟩ := List.mem_flatMap.mp member
  split at written
  · have digit : ∀ value < 16, upperHexDigit value ∈ "%0123456789ABCDEF".toList := by decide
    simp only [encodeByte, List.mem_cons, List.not_mem_nil, or_false] at written
    rcases written with rfl | rfl | rfl
    · exact .inr (by decide)
    · exact .inr (digit _ (by have := byte.toNat_lt; omega))
    · exact .inr (digit _ (Nat.mod_lt _ (by decide)))
  · next unreserved =>
    obtain rfl := List.mem_singleton.mp written
    have small : byte.toNat < 128 := by
      apply Nat.lt_of_not_le
      intro large
      exact unreserved (ascii byte large)
    have value : (Char.ofNat byte.toNat).toNat = byte.toNat := toNat_ofNat (by omega)
    refine .inl ⟨by simpa using mem_of_mem_bytesOf small among, ?_⟩
    simpa [isFree, value, small] using unreserved

/-- A place outside ASCII that keeps escapes as they are holds what is encoded for it. -/
theorem isFree_of_mem_encode {reserved : Reserved} {text : List Char} {c : Char}
    (ascii : ∀ byte : UInt8, 128 ≤ byte.toNat → reserved byte = true)
    (escapes : "%0123456789ABCDEF".toList.all (isFree reserved) = true)
    (member : c ∈ encode reserved text) : isFree reserved c = true := by
  rcases free_or_escape_of_mem_encode ascii member with ⟨_, free⟩ | escape
  · exact free
  · exact List.all_eq_true.mp escapes c escape

end Percent

/-- A character that neither ends an authority nor is dropped from a URL. -/
def Authority.isPlain (c : Char) : Bool := 0x20 < c.toNat && c.toNat < 0x7f && !"#/?\\".toList.contains c

namespace Host

theorem isPlain_of_isSettled {c : Char} (settled : Domain.isSettled c = true) :
    Authority.isPlain c = true ∧ c ≠ '@' ∧ c ≠ ':' ∧ c ≠ '[' := by
  simp only [Domain.isSettled, Bool.and_eq_true, Bool.not_eq_true'] at settled
  have plain : Domain.isForbidden c = false → Authority.isPlain c = true ∧ c ≠ '@' ∧ c ≠ ':' ∧ c ≠ '[' :=
    forall_ascii (by decide) (of_decide_eq_true settled.1.1)
  exact plain settled.1.2

theorem mem_body {address : Ipv6} {c : Char} (member : c ∈ Ipv6.body address) :
    c = ':' ∨ ∃ digit < 16, digit.digitChar = c := by
  unfold Ipv6.body at member
  split at member
  · rcases List.mem_append.mp member with first | others
    · exact Ipv6.mem_joined first
    · simp only [List.mem_cons] at others
      rcases others with colon | colon | last
      · exact .inl colon
      · exact .inl colon
      · exact Ipv6.mem_joined last
  · exact Ipv6.mem_joined member

namespace OfWeb

variable {host : Host}

theorem isPlain_of_mem_text (ofWeb : OfWeb host) {c : Char} (member : c ∈ host.text) :
    Authority.isPlain c = true ∧ c ≠ '@' := by
  cases ofWeb with
  | name spelling ne_nil free =>
    obtain ⟨plain, different, _⟩ := isPlain_of_isSettled (spelling.isSettled member)
    exact ⟨plain, different⟩
  | ipv4 fits =>
    obtain ⟨plain, different, _⟩ := isPlain_of_isSettled ((Ipv4.isSpelling_text _).isSettled member)
    exact ⟨plain, different⟩
  | ipv6 fits =>
    rw [text, Ipv6.text_eq] at member
    simp only [List.mem_cons, List.mem_append, List.not_mem_nil, or_false] at member
    rcases member with rfl | inside | rfl
    · decide
    · rcases mem_body inside with rfl | ⟨digit, small, rfl⟩
      · decide
      · have each : ∀ digit < 16, Authority.isPlain digit.digitChar = true ∧ digit.digitChar ≠ '@' := by decide
        exact each digit small
    · decide

theorem text_ne_nil (ofWeb : OfWeb host) : host.text ≠ [] := by
  cases ofWeb with
  | name spelling ne_nil free => exact ne_nil
  | ipv4 fits => simp [text, Ipv4.text]
  | ipv6 fits => simp [text, Ipv6.text_eq]

theorem ne_empty (ofWeb : OfWeb host) : host ≠ .empty := by
  rintro rfl
  cases ofWeb

end OfWeb

end Host

namespace Url

theorem cutAt_append {mark : Char} {front : List Char} (apart : mark ∉ front) (rest : List Char) :
    cutAt mark (front ++ rest) = (front ++ (cutAt mark rest).1, (cutAt mark rest).2) := by
  have different : ∀ c ∈ front, (c != mark) = true := fun c member =>
    bne_iff_ne.mpr fun same => apart (same ▸ member)
  rw [cutAt, List.takeWhile_append_of_pos different, List.dropWhile_append_of_pos different]
  rfl

theorem cutUserinfo_of_not_mem {place : List Char} (apart : '@' ∉ place) : cutUserinfo place = (none, place) := by
  have absent : place.contains '@' = false := by simpa using apart
  rw [cutUserinfo, absent]
  rfl

theorem cutUserinfo_append {place : List Char} (apart : '@' ∉ place) (userinfo : List Char) :
    cutUserinfo (userinfo ++ '@' :: place) = (some userinfo, place) := by
  have different : ∀ c ∈ place.reverse, (c != '@') = true := fun c member =>
    bne_iff_ne.mpr fun same => apart (same ▸ List.mem_reverse.mp member)
  have present : (userinfo ++ '@' :: place).contains '@' = true := by simp
  have reversed : (userinfo ++ '@' :: place).reverse = place.reverse ++ '@' :: userinfo.reverse := by simp
  rw [cutUserinfo, if_pos present, reversed, List.takeWhile_append_of_pos different,
    List.dropWhile_append_of_pos different]
  simp

/-- A host ends where a port starts. -/
def StartsPort (text : List Char) : Prop := text = [] ∨ text.head? = some ':'

theorem cutHost_of_startsPort {rest : List Char} (ends : StartsPort rest) : cutHost false rest = ([], rest) := by
  rcases ends with rfl | starts
  · rfl
  · cases rest with
    | nil => cases starts
    | cons c rest =>
      obtain rfl := Option.some.inj starts
      rfl

theorem cutHost_outside {name rest : List Char} (plain : ∀ c ∈ name, c ≠ ':' ∧ c ≠ '[') (ends : StartsPort rest) :
    cutHost false (name ++ rest) = (name, rest) := by
  induction name with
  | nil => exact cutHost_of_startsPort ends
  | cons c others ih =>
    obtain ⟨⟨noColon, noBracket⟩, plainOthers⟩ := List.forall_mem_cons.mp plain
    have outside : (c == ':') = false ∧ (c == '[') = false := ⟨beq_false_of_ne noColon, beq_false_of_ne noBracket⟩
    simp only [List.cons_append, cutHost, outside, Bool.false_and, Bool.false_or, Bool.false_eq_true, if_false,
      ih plainOthers]

theorem cutHost_inside {body rest : List Char} (unclosed : ']' ∉ body) (ends : StartsPort rest) :
    cutHost true (body ++ ']' :: rest) = (body ++ [']'], rest) := by
  induction body with
  | nil => simp [cutHost, cutHost_of_startsPort ends]
  | cons c others ih =>
    obtain ⟨different, unclosedOthers⟩ := List.ne_and_not_mem_of_not_mem_cons unclosed
    have inside : (c != ']') = true := bne_iff_ne.mpr (Ne.symm different)
    simp only [List.cons_append, cutHost, Bool.not_true, Bool.and_false, Bool.false_eq_true, if_false, Bool.true_or,
      Bool.true_and, inside, ih unclosedOthers]

theorem cutHost_text {host : Host} (ofWeb : host.OfWeb) {rest : List Char} (ends : StartsPort rest) :
    cutHost false (host.text ++ rest) = (host.text, rest) := by
  have plain {labels : List (List Char)} {name : List Char} (spelling : Domain.IsSpelling labels name) :
      ∀ c ∈ name, c ≠ ':' ∧ c ≠ '[' := fun c member =>
    (Host.isPlain_of_isSettled (spelling.isSettled member)).2.2
  cases ofWeb with
  | name spelling ne_nil free => exact cutHost_outside (plain spelling) ends
  | ipv4 fits => exact cutHost_outside (plain (Ipv4.isSpelling_text _)) ends
  | ipv6 fits =>
    rename_i address
    have unclosed : ']' ∉ Ipv6.body address := by
      intro member
      rcases Host.mem_body member with same | ⟨digit, small, same⟩
      · exact absurd same (by decide)
      · have each : ∀ digit < 16, digit.digitChar ≠ ']' := by decide
        exact each digit small same
    have inside := cutHost_inside unclosed ends
    simp [Host.text, Ipv6.text_eq, cutHost, inside]

theorem lt_of_readPort {web : Bool} {text rest : List Char} {port : Nat}
    (read : readPort web text = .ok (some port, rest)) : port < 65536 := by
  simp only [readPort, refuse_eq_ok_iff] at read
  obtain ⟨_, read⟩ := read
  split at read
  · cases read
  · obtain ⟨small, same⟩ := require_eq_ok_iff.mp read
    cases same
    exact small

theorem readPort_toString {port : Nat} (small : port < 65536) (web : Bool) :
    readPort web (toString port).toList = .ok (some port, []) := by
  have spelled : (toString port).toList = Nat.toDigits 10 port := by simp
  have digits : ∀ c ∈ Nat.toDigits 10 port, c.isDigit = true := fun c member =>
    Nat.isDigit_of_mem_toDigits (by decide) (by decide) member
  have all : (Nat.toDigits 10 port).takeWhile Char.isDigit = Nat.toDigits 10 port :=
    List.takeWhile_eq_self_iff.mpr digits
  have rest : (Nat.toDigits 10 port).dropWhile Char.isDigit = [] := List.dropWhile_eq_nil_iff.mpr digits
  have value : (Nat.toDigits 10 port).foldl (fun value c => value * 10 + (c.toNat - 48)) 0 = port := by
    have read := @Nat.ofDigitChars_ten_toDigits port
    simpa [Nat.ofDigitChars, Nat.mul_comm] using read
  rw [readPort, spelled, all, rest, value]
  obtain ⟨digit, others, written⟩ := List.exists_cons_of_ne_nil (Nat.toDigits_ne_nil (b := 10) (n := port))
  simp [written, small]

end Url

namespace Authority

def isUserinfo : Char → Bool := Percent.isFree Percent.inUserinfo

theorem isUserinfo_of_mem_encode {text : List Char} {c : Char}
    (member : c ∈ Percent.encode Percent.inUserinfo text) : isUserinfo c = true := by
  refine Percent.isFree_of_mem_encode ?_ ?_ member
  · exact fun byte => forall_byte (by decide) byte
  · decide

theorem isPlain_of_isUserinfo {c : Char} (held : isUserinfo c = true) :
    isPlain c = true ∧ c ≠ '@' ∧ c ≠ ':' := by
  have small : c.toNat < 128 := by
    simp only [isUserinfo, Percent.isFree, Bool.and_eq_true, decide_eq_true_eq] at held
    exact held.1
  have plain : isUserinfo c = true → isPlain c = true ∧ c ≠ '@' ∧ c ≠ ':' := forall_ascii (by decide) small
  exact plain held

/-- The authorities that schemes of the web have. -/
structure OfWeb (scheme : List Char) (authority : Authority) : Prop where
  username : ∀ c ∈ authority.username, isUserinfo c = true
  password : ∀ password ∈ authority.password, password ≠ [] ∧ ∀ c ∈ password, isUserinfo c = true
  host : authority.host.OfWeb
  port : ∀ port ∈ authority.port, port < 65536 ∧ Url.impliedPort? scheme ≠ some port

theorem ofWeb_of_readAuthority {scheme text rest : List Char} {followed : Bool} {authority : Authority}
    (web : (Url.impliedPort? scheme).isSome = true)
    (read : Url.readAuthority scheme followed text = .ok (authority, rest)) : authority.OfWeb scheme := by
  simp only [Url.readAuthority, Url.encodeUserinfo, web, throw_eq_error, error_bind, refuse_eq_ok_iff,
    bind_eq_ok_iff, if_true] at read
  obtain ⟨_, _, host, hostRead, _, ⟨port, after⟩, portRead, last⟩ := read
  obtain ⟨_, same⟩ := refuse_eq_ok_iff.mp last
  cases same
  refine ⟨fun c => isUserinfo_of_mem_encode, ?_, Host.ofWeb_of_read hostRead, ?_⟩
  · intro password given
    obtain ⟨secret, kept, rfl⟩ := Option.map_eq_some_iff.mp given
    have some : secret ≠ [] := by simpa using (Option.filter_eq_some_iff.mp kept).2
    exact ⟨Percent.encode_ne_nil some, fun c => isUserinfo_of_mem_encode⟩
  · intro number given
    obtain ⟨found, unimplied⟩ := Option.filter_eq_some_iff.mp given
    cases found
    have different : some number ≠ Url.impliedPort? scheme := by simpa using unimplied
    exact ⟨Url.lt_of_readPort portRead, Ne.symm different⟩

def userinfo (authority : Authority) : List Char :=
  authority.username ++ match authority.password with
    | some password => ':' :: password
    | none => []

def portText (authority : Authority) : List Char :=
  match authority.port with
  | some port => ':' :: (toString port).toList
  | none => []

theorem text_eq (authority : Authority) : authority.text =
    if authority.hasUserinfo then authority.userinfo ++ '@' :: (authority.host.text ++ authority.portText)
    else authority.host.text ++ authority.portText := by
  obtain ⟨username, password, host, port⟩ := authority
  by_cases held : hasUserinfo ⟨username, password, host, port⟩ = true
  · rw [if_pos held, text, if_pos held]
    cases password <;> cases port <;> simp [userinfo, portText]
  · have bare : username = [] ∧ password = none := by simpa [hasUserinfo] using held
    obtain ⟨rfl, rfl⟩ := bare
    rfl

theorem startsPort_portText (authority : Authority) : Url.StartsPort authority.portText := by
  unfold portText
  split
  · exact .inr rfl
  · exact .inl rfl

namespace OfWeb

variable {scheme : List Char} {authority : Authority}

theorem isPlain_of_mem_userinfo (ofWeb : authority.OfWeb scheme) {c : Char} (member : c ∈ authority.userinfo) :
    isPlain c = true := by
  rcases List.mem_append.mp member with user | secret
  · exact (isPlain_of_isUserinfo (ofWeb.username c user)).1
  · split at secret
    · next password given =>
      rcases List.mem_cons.mp secret with rfl | inside
      · decide
      · exact (isPlain_of_isUserinfo ((ofWeb.password password given).2 c inside)).1
    · cases secret

theorem isPlain_of_mem_place (ofWeb : authority.OfWeb scheme) {c : Char}
    (member : c ∈ authority.host.text ++ authority.portText) : isPlain c = true ∧ c ≠ '@' := by
  rcases List.mem_append.mp member with host | port
  · exact ofWeb.host.isPlain_of_mem_text host
  · unfold portText at port
    split at port
    · next number _ =>
      rcases List.mem_cons.mp port with rfl | digit
      · decide
      · have spelled : c ∈ Nat.toDigits 10 number := by simpa using digit
        obtain ⟨value, small, rfl⟩ := Text.mem_toDigits (by decide) (by decide) spelled
        have each : ∀ value < 10, isPlain value.digitChar = true ∧ value.digitChar ≠ '@' := by decide
        exact each value small
    · cases port

theorem isPlain_of_mem_text (ofWeb : authority.OfWeb scheme) {c : Char} (member : c ∈ authority.text) :
    isPlain c = true := by
  rw [text_eq] at member
  split at member
  · rcases List.mem_append.mp member with user | place
    · exact ofWeb.isPlain_of_mem_userinfo user
    · rcases List.mem_cons.mp place with rfl | after
      · decide
      · exact (ofWeb.isPlain_of_mem_place after).1
  · exact (ofWeb.isPlain_of_mem_place member).1

theorem text_ne_nil (ofWeb : authority.OfWeb scheme) : authority.text ≠ [] := by
  have some := ofWeb.host.text_ne_nil
  rw [text_eq]
  split <;> simp [some]

theorem cutUserinfo_text (ofWeb : authority.OfWeb scheme) : Url.cutUserinfo authority.text =
    (if authority.hasUserinfo then some authority.userinfo else none,
      authority.host.text ++ authority.portText) := by
  have apart : '@' ∉ authority.host.text ++ authority.portText := fun member =>
    (ofWeb.isPlain_of_mem_place member).2 rfl
  rw [text_eq]
  split
  · exact Url.cutUserinfo_append apart authority.userinfo
  · exact Url.cutUserinfo_of_not_mem apart

theorem encodeUserinfo_userinfo (ofWeb : authority.OfWeb scheme) :
    Url.encodeUserinfo authority.userinfo = (authority.username, authority.password) := by
  have noColon : ':' ∉ authority.username := fun member =>
    (isPlain_of_isUserinfo (ofWeb.username ':' member)).2.2 rfl
  have username : Percent.encode Percent.inUserinfo authority.username = authority.username :=
    Percent.encode_of_free ofWeb.username
  rw [Url.encodeUserinfo, userinfo, Url.cutAt_append noColon]
  cases given : authority.password with
  | none => simp [Url.cutAt, username]
  | some password =>
    obtain ⟨some, free⟩ := ofWeb.password password given
    have encoded : Percent.encode Percent.inUserinfo password = password := Percent.encode_of_free free
    simp [Url.cutAt, username, encoded, some]

theorem readAuthority_text (web : (Url.impliedPort? scheme).isSome = true) (ofWeb : authority.OfWeb scheme)
    (followed : Bool) : Url.readAuthority scheme followed authority.text = .ok (authority, []) := by
  have written := ofWeb.host.text_ne_nil
  have userinfo : Url.encodeUserinfo ((if authority.hasUserinfo then some authority.userinfo else none).getD []) =
      (authority.username, authority.password) := by
    split
    · exact ofWeb.encodeUserinfo_userinfo
    · next bare =>
      have parts : authority.username = [] ∧ authority.password = none := by simpa [hasUserinfo] using bare
      have empty : Percent.encode Percent.inUserinfo [] = [] := Percent.encode_of_free (List.forall_mem_nil _)
      simp [parts, Url.encodeUserinfo, Url.cutAt, empty]
  have port : Url.readPort true authority.portText.tail = .ok (authority.port, []) := by
    unfold portText
    cases given : authority.port with
    | none => rfl
    | some port => exact Url.readPort_toString (ofWeb.port port given).1 true
  have kept : authority.port.filter (some · != Url.impliedPort? scheme) = authority.port := by
    cases given : authority.port with
    | none => rfl
    | some port =>
      have different := Ne.symm (ofWeb.port port given).2
      simpa using different
  rw [Url.readAuthority, ofWeb.cutUserinfo_text]
  simp only [List.append_eq_nil_iff, written, false_and, and_false, if_false, web, if_true,
    Url.cutHost_text ofWeb.host authority.startsPort_portText, ofWeb.host.read_text, ofWeb.host.ne_empty, userinfo,
    List.drop_one, bind_eq_ok_iff, pure_eq_ok_iff, Except.ok.injEq, exists_eq_left', Prod.exists, Prod.mk.injEq]
  exact ⟨authority.port, [], port, by rw [kept], rfl⟩

end OfWeb

end Authority

theorem Url.exists_authority_of_readHierarchy {scheme text path : List Char} {followed : Bool}
    {place : Option Authority} (web : (impliedPort? scheme).isSome = true)
    (read : readHierarchy scheme followed text = .ok (place, path)) :
    ∃ authority behind, place = some authority ∧ authority.OfWeb scheme ∧ path = UrlPath.readWeb behind := by
  have notFile : scheme ≠ "file".toList := by
    rintro rfl
    exact absurd web (by decide)
  simp only [readHierarchy, notFile, web, if_true, if_false, bind_eq_ok_iff, map_eq_ok_iff,
    pure_eq_ok_iff] at read
  obtain ⟨_, ⟨⟨authority, more⟩, authorityRead, rfl⟩, same⟩ := read
  cases same
  exact ⟨authority, _, rfl, Authority.ofWeb_of_readAuthority web authorityRead, rfl⟩

end Endpoints
