import Endpoints.Proofs.AddressRoundTrip
import Endpoints.Proofs.PunycodeRoundTrip
import Endpoints.Url.Host

/-! Hosts that are read are read again from their text. A domain is spelled in characters that reading
leaves as they are, and each of its labels spells itself. -/

namespace Endpoints
open Checks

namespace Percent

theorem decodeBytes_of_unescaped {bytes : Bytes} (free : 0x25 ∉ bytes) : decodeBytes bytes = bytes := by
  fun_induction decodeBytes bytes with
  | case1 mark high low rest byte found ih =>
    have different : mark ≠ 0x25 := fun same => free (same ▸ List.mem_cons_self)
    simp [escaped?, different] at found
  | case2 mark high low rest found ih => rw [ih (List.not_mem_of_not_mem_cons free)]
  | case3 => rfl

theorem decode_of_unescaped {text : List Char} (ascii : ∀ c ∈ text, c.toNat < 128) (free : '%' ∉ text) :
    decode text = bytesOf (String.ofList text) := by
  have unescaped : 0x25 ∉ bytesOf (String.ofList text) := by
    rw [bytesOf_ascii ascii]
    intro member
    obtain ⟨c, among, same⟩ := List.mem_map.mp member
    have code : c.toNat = 0x25 := by
      have value := congrArg UInt8.toNat same
      have small := ascii c among
      simpa [Nat.mod_eq_of_lt (show c.toNat < 256 by omega)] using value
    have percent : c = '%' := Char.toNat_inj.mp code
    exact free (percent ▸ among)
  exact decodeBytes_of_unescaped unescaped

end Percent

namespace Domain
open Punycode

/-- A character of a domain that reading leaves as it is. -/
def isSettled (c : Char) : Bool := isBasic c && !isForbidden c && foldCharacter c == [c]

theorem foldCharacter_toLower {c : Char} (basic : isBasic c = true) : foldCharacter c.toLower = [c.toLower] := by
  have small : c.toNat < 128 := of_decide_eq_true basic
  exact forall_ascii (by decide) small

/-- Of the letters outside ASCII, only the Kelvin sign has a lower case in ASCII. -/
theorem lower_of_mem_caseRuns {run : Text.CaseRun} (member : run ∈ Text.caseRuns) :
    128 ≤ run.lower ∨ run.first = run.last ∧ run.lower = 107 := by
  have each : ∀ run ∈ Text.caseRuns, 128 ≤ run.lower ∨ run.first = run.last ∧ run.lower = 107 := by
    decide +kernel
  exact each run member

theorem foldCharacter_of_mem_lowerCharacter {c lower : Char} (member : lower ∈ Text.lowerCharacter c)
    (basic : isBasic lower = true) : foldCharacter lower = [lower] := by
  have small : lower.toNat < 128 := of_decide_eq_true basic
  rcases Text.mem_lowerCharacter_cases member with
    ⟨ascii, rfl⟩ | ⟨-, rfl | rfl⟩ | ⟨large, rfl⟩ | ⟨run, among, above, below, rfl⟩
  · exact foldCharacter_toLower (decide_eq_true ascii)
  · decide
  · exact absurd small (by decide)
  · omega
  · rcases lower_of_mem_caseRuns among with outside | ⟨single, kelvin⟩
    · by_cases valid : (run.lower + (c.toNat - run.first)).isValidChar
      · rw [Char.ofNat, dif_pos valid] at small
        change run.lower + (c.toNat - run.first) < 128 at small
        omega
      · simp [Char.ofNat, valid]
        decide
    · have same : c.toNat - run.first = 0 := by omega
      rw [kelvin, same]
      decide

theorem foldCharacter_of_mem {c folded : Char} (member : folded ∈ foldCharacter c)
    (basic : isBasic folded = true) : foldCharacter folded = [folded] := by
  unfold foldCharacter at member
  split at member
  · cases member
  · split at member
    · obtain rfl := List.mem_singleton.mp member
      decide
    · split at member
      · exact foldCharacter_of_mem_lowerCharacter member basic
      · exact foldCharacter_of_mem_lowerCharacter member basic

/-- A character of a label that spells itself. -/
def isOfLabel (c : Char) : Bool := isSettled c && c != '.'

theorem isOfLabel_digit {value : Nat} (small : value < 36) : isOfLabel (digit value) = true := by
  have each : ∀ value < 36, isOfLabel (digit value) = true := by decide
  exact each value small

theorem isBasic_of_isOfLabel {c : Char} (settled : isOfLabel c = true) : isBasic c = true := by
  simp only [isOfLabel, isSettled, Bool.and_eq_true] at settled
  exact settled.1.1.1

/-- A label in ASCII is its own spelling, unless it may start with the mark of an encoded one. -/
theorem labelToAscii?_of_basic {label : List Char} (basic : ∀ c ∈ label, isBasic c = true)
    (first : label.head? ≠ some 'x') : labelToAscii? label = some label := by
  rw [labelToAscii?, if_pos (List.all_eq_true.mpr basic)]
  rintro encoded rfl
  exact first rfl

theorem labelToAscii?_spelled {label spelled : List Char} (found : labelToAscii? label = some spelled)
    (settled : ∀ c ∈ label, isBasic c = true → isOfLabel c = true) :
    labelToAscii? spelled = some spelled ∧ ∀ c ∈ spelled, isOfLabel c = true := by
  by_cases ascii : label.all isBasic = true
  · have same : spelled = label := by
      unfold labelToAscii? at found
      rw [if_pos ascii] at found
      split at found
      · split at found
        · split at found
          · exact (Option.some.inj found).symm
          · cases found
        · cases found
      · exact (Option.some.inj found).symm
    subst same
    exact ⟨found, fun c member => settled c member (List.all_eq_true.mp ascii c member)⟩
  · unfold labelToAscii? at found
    rw [if_neg ascii] at found
    split at found
    · next stands =>
      obtain rfl := Option.some.inj found
      have plain : ∀ c ∈ 'x' :: 'n' :: '-' :: '-' :: encode label, isOfLabel c = true := by
        intro c member
        simp only [List.mem_cons] at member
        rcases member with rfl | rfl | rfl | rfl | encoded
        · decide
        · decide
        · decide
        · decide
        · rcases mem_encode encoded with ⟨among, basic⟩ | rfl | ⟨value, small, rfl⟩
          · exact settled c among basic
          · decide
          · exact isOfLabel_digit small
      refine ⟨?_, plain⟩
      have spelledAscii : ('x' :: 'n' :: '-' :: '-' :: encode label).all isBasic = true :=
        List.all_eq_true.mpr fun c member => isBasic_of_isOfLabel (plain c member)
      have outside : (!label.all isBasic) = true := by simpa using ascii
      rw [labelToAscii?, if_pos spelledAscii]
      simp only [decode?_encode, outside, stands, Bool.and_self, if_true]
    · cases found

/-- A name in labels that spell themselves. -/
structure IsSpelling (labels : List (List Char)) (name : List Char) : Prop where
  joined : name = (labels.intersperse ['.']).flatten
  ne_nil : labels ≠ []
  plain : ∀ label ∈ labels, ∀ c ∈ label, isOfLabel c = true
  stays : ∀ label ∈ labels, labelToAscii? label = some label

theorem exists_isSpelling {name : Bytes} {spelled : List Char} (found : toAscii? name = some spelled) :
    ∃ labels, IsSpelling labels spelled := by
  simp only [toAscii?, Option.bind_eq_bind, Option.bind_eq_some_iff] at found
  obtain ⟨text, _, found⟩ := found
  split at found
  · cases found
  · next allowed =>
    simp only [Option.pure_def, Option.bind_eq_some_iff, Option.some.injEq] at found
    obtain ⟨labels, each, rfl⟩ := found
    have spelledBy := mapM_eq_some_iff.mp each
    have folded : ∀ c ∈ text.toList.flatMap foldCharacter, isBasic c = true → isSettled c = true := by
      intro c member basic
      obtain ⟨original, _, inside⟩ := List.mem_flatMap.mp member
      have free : isForbidden c = false := by
        simp only [List.any_eq_true, not_exists, not_and, Bool.not_eq_true] at allowed
        exact allowed c member
      simp [isSettled, basic, free, foldCharacter_of_mem inside basic]
    have spelled : ∀ label ∈ labels, labelToAscii? label = some label ∧ ∀ c ∈ label, isOfLabel c = true := by
      intro label member
      obtain ⟨part, among, same⟩ := exists_of_mem_forall₂ spelledBy member
      apply labelToAscii?_spelled same
      intro c inside basic
      have settled := folded c (Text.subset_of_mem_splitAt among inside) basic
      have apart := Text.not_mem_of_mem_splitAt among c inside
      have different : c ≠ '.' := by simpa using apart
      simp [isOfLabel, settled, different]
    refine ⟨labels, rfl, ?_, fun label member => (spelled label member).2, fun label member => (spelled label member).1⟩
    rintro rfl
    exact Text.splitAt_ne_nil _ _ (List.forall₂_nil_right_iff.mp spelledBy)

namespace IsSpelling

variable {labels : List (List Char)} {name : List Char}

theorem isSettled (spelling : IsSpelling labels name) {c : Char} (member : c ∈ name) : isSettled c = true := by
  rw [spelling.joined] at member
  rcases Text.mem_of_mem_intersperse member with dot | ⟨label, among, inside⟩
  · obtain rfl := List.mem_singleton.mp dot
    decide
  · have plain := spelling.plain label among c inside
    simp only [isOfLabel, Bool.and_eq_true] at plain
    exact plain.1

theorem toAscii?_decode (spelling : IsSpelling labels name) : toAscii? (Percent.decode name) = some name := by
  have settled {c : Char} (member : c ∈ name) : isBasic c = true ∧ isForbidden c = false ∧ foldCharacter c = [c] := by
    have plain := spelling.isSettled member
    simpa [Domain.isSettled, and_assoc] using plain
  have ascii : ∀ c ∈ name, c.toNat < 128 := fun c member => of_decide_eq_true (settled member).1
  have unescaped : '%' ∉ name := fun member => absurd (settled member).2.1 (by decide)
  have folded : name.flatMap foldCharacter = name := by
    have single : name.flatMap foldCharacter = name.flatMap fun c => [c] :=
      List.flatMap_congr fun c member => (settled member).2.2
    rw [single, List.flatMap_singleton']
  have allowed : ¬ name.any isForbidden = true := by
    rw [List.any_eq_true]
    rintro ⟨c, member, forbidden⟩
    rw [(settled member).2.1] at forbidden
    cases forbidden
  have apart : ∀ label ∈ labels, '.' ∉ label := by
    intro label among dot
    exact absurd (spelling.plain label among '.' dot) (by decide)
  have divided : Text.splitAt (· == '.') name = labels := by
    rw [spelling.joined]
    exact Text.splitAt_intersperse spelling.ne_nil apart
  have spelled : labels.mapM labelToAscii? = some labels :=
    mapM_eq_some_iff.mpr (List.forall₂_same.mpr spelling.stays)
  rw [Percent.decode_of_unescaped ascii unescaped, toAscii?, textOf?_bytesOf]
  simp only [Option.bind_eq_bind, Option.bind_some, String.toList_ofList, folded, if_neg allowed, divided, spelled,
    Option.pure_def, ← spelling.joined]

end IsSpelling

end Domain

theorem Ipv4.isSpelling_text (address : Nat) :
    Domain.IsSpelling ((bytes address).map spellByte) (text address) := by
  have digit {byte : Nat} {c : Char} (member : c ∈ spellByte byte) : Domain.isOfLabel c = true ∧ c ≠ 'x' := by
    have each : ∀ digit < 10, Domain.isOfLabel digit.digitChar = true ∧ digit.digitChar ≠ 'x' := by decide
    rw [spellByte_eq] at member
    obtain ⟨digit, small, rfl⟩ := Text.mem_toDigits (by decide) (by decide) member
    exact each digit small
  refine ⟨text_eq address, by simp [bytes], ?_, ?_⟩
  · intro label member c inside
    obtain ⟨byte, _, rfl⟩ := List.mem_map.mp member
    exact (digit inside).1
  · intro label member
    obtain ⟨byte, _, rfl⟩ := List.mem_map.mp member
    refine Domain.labelToAscii?_of_basic (fun c inside => Domain.isBasic_of_isOfLabel (digit inside).1) ?_
    intro first
    exact (digit (List.mem_of_mem_head? first)).2 rfl

namespace Host

/-- The hosts that schemes of the web have. -/
inductive OfWeb : Host → Prop where
  | name {labels : List (List Char)} {name : List Char} (spelling : Domain.IsSpelling labels name)
    (ne_nil : name ≠ []) (free : Ipv4.isClaimedBy name = false) : OfWeb (.name name)
  | ipv4 {address : Nat} (fits : address < 256 ^ 4) : OfWeb (.ipv4 address)
  | ipv6 {address : Ipv6} (fits : address.Fits) : OfWeb (.ipv6 address)

theorem ofWeb_of_read {text : List Char} {host : Host} (found : read text = .ok host) : OfWeb host := by
  unfold read at found
  split at found
  · next result bracketed =>
    subst found
    unfold bracketed? at bracketed
    split at bracketed
    · split at bracketed
      · obtain ⟨address, addressRead, rfl⟩ := map_eq_ok_iff.mp (Option.some.inj bracketed)
        exact .ipv6 (Ipv6.fits_of_read addressRead)
      · cases bracketed
    · cases bracketed
  · split at found
    · cases found
    · cases found
    · next domain some spelled =>
      obtain ⟨labels, spelling⟩ := Domain.exists_isSpelling spelled
      split at found
      · obtain ⟨address, addressRead, rfl⟩ := map_eq_ok_iff.mp found
        exact .ipv4 (Ipv4.lt_of_read addressRead)
      · next free =>
        obtain rfl := Except.ok.inj found
        exact .name spelling some (Bool.eq_false_iff.mpr free)

theorem read_of_isSpelling {labels : List (List Char)} {name : List Char} (spelling : Domain.IsSpelling labels name)
    (ne_nil : name ≠ []) : read name =
      if Ipv4.isClaimedBy name then (Ipv4.read name).map Host.ipv4 else .ok (.name name) := by
  obtain ⟨first, rest, rfl⟩ := List.exists_cons_of_ne_nil ne_nil
  have unbracketed : bracketed? (first :: rest) = none := by
    have settled := spelling.isSettled List.mem_cons_self
    unfold bracketed?
    split
    · next same =>
      obtain ⟨rfl, _⟩ := List.cons.inj same
      exact absurd settled (by decide)
    · rfl
  rw [read, unbracketed]
  simp only [spelling.toAscii?_decode]

namespace OfWeb

variable {host : Host}

theorem read_text (ofWeb : OfWeb host) : Host.read host.text = .ok host := by
  cases ofWeb with
  | name spelling ne_nil free => rw [text, read_of_isSpelling spelling ne_nil, free]; rfl
  | ipv4 fits =>
    rename_i address
    have spelling := Ipv4.isSpelling_text address
    have ne_nil : Ipv4.text address ≠ [] := by simp [Ipv4.text]
    rw [text, read_of_isSpelling spelling ne_nil, Ipv4.isClaimedBy_text, Ipv4.read_text fits]
    rfl
  | ipv6 fits =>
    rename_i address
    have bracketed : bracketed? (Ipv6.text address) = some (.ok (.ipv6 address)) := by
      simp [Ipv6.text_eq, bracketed?, Ipv6.read_body fits, Except.map]
    rw [text, read, bracketed]

end OfWeb

end Host

end Endpoints
