import Endpoints.Proofs.PathRoundTrip
import Mathlib.Data.List.TakeWhile

/-! The marks that open a query and a fragment. The parts of a URL that stand before them hold none, so
a URL that is written down and read again has the query and the fragment that follow it. -/

namespace Endpoints
open Checks

/-- Neither `?` nor `#` stands in the text. -/
def Unmarked (text : List Char) : Prop := ∀ c ∈ text, c ≠ '?' ∧ c ≠ '#'

instance (text : List Char) : Decidable (Unmarked text) :=
  List.decidableBAll (fun c => c ≠ '?' ∧ c ≠ '#') text

namespace Unmarked

@[simp] theorem nil : Unmarked [] := nofun

@[simp] theorem cons_iff {c : Char} {text : List Char} :
    Unmarked (c :: text) ↔ (c ≠ '?' ∧ c ≠ '#') ∧ Unmarked text := List.forall_mem_cons

@[simp] theorem append_iff {first second : List Char} :
    Unmarked (first ++ second) ↔ Unmarked first ∧ Unmarked second := List.forall_mem_append

@[simp] theorem reverse_iff {text : List Char} : Unmarked text.reverse ↔ Unmarked text := by
  simp [Unmarked]

theorem flatMap {α : Type} {items : List α} {spell : α → List Char}
    (each : ∀ item ∈ items, Unmarked (spell item)) : Unmarked (items.flatMap spell) := by
  intro c member
  obtain ⟨item, among, inside⟩ := List.mem_flatMap.mp member
  exact each item among c inside

end Unmarked

theorem Unmarked.of_subset {part text : List Char} (subset : part ⊆ text) (unmarked : Unmarked text) :
    Unmarked part := fun c member => unmarked c (subset member)

namespace UrlPath

theorem Settled.unmarked {path : List Char} (settled : Settled path) : Unmarked path := by
  intro c member
  have free := settled.free c member
  constructor <;> rintro rfl <;> exact absurd free (by decide)

end UrlPath

namespace Url

theorem unmarked_readHierarchy {scheme text path : List Char} {followed : Bool} {place : Option Authority}
    (web : (impliedPort? scheme).isSome = true)
    (read : readHierarchy scheme followed text = .ok (place, path)) :
    (∃ authority, place = some authority ∧ Unmarked authority.text) ∧ Unmarked path := by
  obtain ⟨authority, behind, rfl, ofWeb, rfl⟩ := exists_authority_of_readHierarchy web read
  have unmarked : Unmarked authority.text := by
    intro c member
    have plain := ofWeb.isPlain_of_mem_text member
    constructor <;> rintro rfl <;> exact absurd plain (by decide)
  exact ⟨⟨authority, rfl, unmarked⟩, (UrlPath.settled_readWeb behind).unmarked⟩

theorem toLower_ne_mark {c : Char} (allowed : isSchemeCharacter c = true) :
    c.toLower ≠ '?' ∧ c.toLower ≠ '#' := by
  unfold Char.toLower
  split
  · next upper =>
    have least : 65 ≤ c.toNat := UInt32.le_iff_toNat_le.mp upper.1
    have most : c.toNat ≤ 90 := UInt32.le_iff_toNat_le.mp upper.2
    constructor <;> intro same <;> have value := congrArg Char.toNat same <;>
      simp at value <;> omega
  · constructor <;> rintro rfl <;> exact absurd allowed (by decide)

/-- What a scheme is read from: its characters, and a colon after them. -/
theorem spelled_of_scheme? {text scheme rest : List Char} (found : scheme? text = some (scheme, rest)) :
    (text.takeWhile isSchemeCharacter).map Char.toLower = scheme ∧
      text.dropWhile isSchemeCharacter = ':' :: rest := by
  unfold scheme? at found
  split at found
  · next first others after spelled colon =>
    split at found
    · cases found
      exact ⟨by rw [spelled], colon⟩
    · cases found
  · cases found

theorem unmarked_scheme {text scheme rest : List Char} (found : scheme? text = some (scheme, rest)) :
    Unmarked scheme := by
  obtain ⟨rfl, _⟩ := spelled_of_scheme? found
  intro c member
  obtain ⟨original, among, rfl⟩ := List.mem_map.mp member
  exact toLower_ne_mark (List.mem_takeWhile_imp among)

/-- A URL that is read is put together from the parts of its text. -/
theorem read_eq_ok_iff {text : String} {url : Url} : Url.read text = .ok url ↔
    ∃ scheme rest place path, scheme? (clean text) = some (scheme, rest) ∧
      readHierarchy scheme ((cutAt '?' (cutAt '#' rest).1).2.isSome || (cutAt '#' rest).2.isSome)
        (cutAt '?' (cutAt '#' rest).1).1 = .ok (place, path) ∧
      { scheme, authority := place, path
        query := (cutAt '?' (cutAt '#' rest).1).2.map (Percent.encode (reservedInQuery scheme))
        fragment := (cutAt '#' rest).2.map (Percent.encode Percent.inFragment) } = url := by
  unfold Url.read
  cases found : scheme? (clean text) with
  | none => simp
  | some parts =>
    obtain ⟨scheme, rest⟩ := parts
    simp only [bind_eq_ok_iff, pure_eq_ok_iff, Option.some.injEq, Prod.mk.injEq]
    constructor
    · rintro ⟨⟨place, path⟩, hierarchy, rfl⟩
      exact ⟨scheme, rest, place, path, ⟨rfl, rfl⟩, hierarchy, rfl⟩
    · rintro ⟨_, _, place, path, ⟨rfl, rfl⟩, hierarchy, rfl⟩
      exact ⟨(place, path), hierarchy, rfl⟩

/-- The text of a URL of the web without query and fragment holds no marks. -/
theorem unmarked_characters {text : String} {url : Url} (read : Url.read text = .ok url)
    (web : (impliedPort? url.scheme).isSome = true) (query : url.query = none)
    (fragment : url.fragment = none) : Unmarked url.characters := by
  have hierarchy : Unmarked (url.scheme ++ ':' :: url.hierarchy) := by
    obtain ⟨scheme, rest, place, path, found, hierarchy, rfl⟩ := read_eq_ok_iff.mp read
    obtain ⟨⟨authority, rfl, authorized⟩, unmarked⟩ := unmarked_readHierarchy web hierarchy
    simp [Url.hierarchy, unmarked_scheme found, unmarked, authorized]
  simpa [characters, query, fragment] using hierarchy

theorem mem_dropWhile_iff {p : Char → Bool} {c : Char} (stops : p c = false) (text : List Char) :
    c ∈ text.dropWhile p ↔ c ∈ text := by
  conv_rhs => rw [← List.takeWhile_append_dropWhile (p := p) (l := text), List.mem_append]
  refine (or_iff_right fun member => ?_).symm
  rw [List.mem_takeWhile_imp member] at stops
  cases stops

theorem mem_clean_iff {mark : Char} (visible : 0x20 < mark.toNat) (text : String) :
    mark ∈ clean text ↔ mark ∈ text.toList := by
  have trimmed (text : List Char) :
      mark ∈ text.dropWhile (fun c => decide (c.toNat ≤ 0x20)) ↔ mark ∈ text :=
    mem_dropWhile_iff (by simpa using visible) text
  have kept : (!(mark == '\t' || mark == '\n' || mark == '\r')) = true := by
    have different : mark ≠ '\t' ∧ mark ≠ '\n' ∧ mark ≠ '\r' := by
      refine ⟨?_, ?_, ?_⟩ <;> rintro rfl <;> exact absurd visible (by decide)
    simp [different]
  simp only [clean, List.mem_filter, kept, and_true, List.mem_reverse, trimmed]

theorem mem_of_scheme? {mark : Char} (outside : isSchemeCharacter mark = false) (different : mark ≠ ':')
    {text scheme rest : List Char} (found : scheme? text = some (scheme, rest)) :
    mark ∈ text ↔ mark ∈ rest := by
  rw [← mem_dropWhile_iff outside, (spelled_of_scheme? found).2]
  simp [different]

theorem cutAt_snd_eq_none_iff {mark : Char} {text : List Char} :
    (cutAt mark text).2 = none ↔ mark ∉ text := by
  have found : (cutAt mark text).2 = none ↔ text.dropWhile (· != mark) = [] := by
    unfold cutAt
    cases text.dropWhile (· != mark) <;> simp
  rw [found, List.dropWhile_eq_nil_iff]
  constructor
  · intro all member
    simpa using all mark member
  · intro missing c member
    have different : c ≠ mark := fun same => missing (same ▸ member)
    simpa using different

/-- A text without `#` has no fragment, and then it has a query exactly when it has a `?`. -/
theorem marks_of_read {text : String} {url : Url} (read : Url.read text = .ok url) :
    (url.fragment = none ↔ '#' ∉ text.toList) ∧
      ('#' ∉ text.toList → (url.query = none ↔ '?' ∉ text.toList)) := by
  obtain ⟨scheme, rest, _, _, found, _, rfl⟩ := read_eq_ok_iff.mp read
  have hash : '#' ∈ rest ↔ '#' ∈ text.toList := by
    rw [← mem_of_scheme? (by decide) (by decide) found, mem_clean_iff (by decide)]
  have question : '?' ∈ rest ↔ '?' ∈ text.toList := by
    rw [← mem_of_scheme? (by decide) (by decide) found, mem_clean_iff (by decide)]
  simp only [Option.map_eq_none_iff, cutAt_snd_eq_none_iff, hash, true_and]
  intro missing
  have body : (cutAt '#' rest).1 = rest := by
    refine List.takeWhile_eq_self_iff.mpr fun c member => ?_
    have different : c ≠ '#' := fun same => missing (hash.mp (same ▸ member))
    simpa using different
  rw [body, question]

end Url

end Endpoints
