import Endpoints.Builder.Generate
import Endpoints.Text.Parts
import Endpoints.Text.Utf8
import Mathlib.Data.List.Chain
import Mathlib.Data.List.Sort

/-! The name of a free constructor: `new_` before the snake case of the name of an interface. Snake case
keeps identifiers identifiers, and it keeps the mark of a raw one, which is no part of an identifier. -/

namespace Endpoints
namespace Text

/-! Code sets -/

namespace CodeSet

/-- Whether each of some ranges lies between two neighbouring flips after which codes are inside. The
ranges ascend. -/
def covers : List Nat → List (Nat × Nat) → Bool
  | entry :: exit :: flips, ranges =>
    (ranges.takeWhile (·.1 < exit)).all (fun range => entry ≤ range.1 && range.2 < exit)
      && covers flips (ranges.dropWhile (·.1 < exit))
  | _, ranges => ranges.isEmpty

theorem le_of_within {code first : Nat} {flips : List Nat} (inside : within code false (first :: flips) = true) :
    first ≤ code := by
  refine Nat.le_of_not_lt fun before => ?_
  simp [within, before] at inside

theorem within_of_covers {flips : List Nat} {ranges : List (Nat × Nat)} (ascending : flips.IsChain (· < ·))
    (covered : covers flips ranges = true) {range : Nat × Nat} (among : range ∈ ranges) {code : Nat}
    (above : range.1 ≤ code) (below : code ≤ range.2) : within code false flips = true := by
  induction flips, ranges using covers.induct with
  | case1 entry exit flips ranges ih =>
    rw [covers, Bool.and_eq_true, List.all_eq_true] at covered
    rw [← List.takeWhile_append_dropWhile (p := (·.1 < exit)) (l := ranges), List.mem_append] at among
    have increasing : entry < exit := (List.isChain_cons_cons.mp ascending).1
    rcases among with here | later
    · have bounds := covered.1 range here
      simp only [Bool.and_eq_true, decide_eq_true_eq] at bounds
      have entered : ¬ code < entry := by omega
      have left : code < exit := by omega
      simp [within, entered, left]
    · have inside := ih ascending.tail.tail covered.2 later
      have past : exit ≤ code := by
        cases flips with
        | nil => simp [within] at inside
        | cons next flips =>
          have order : exit < next := (List.isChain_cons_cons.mp ascending.tail).1
          exact (Nat.le_of_lt order).trans (le_of_within inside)
      have entered : ¬ code < entry := by omega
      simpa [within, entered, Nat.not_lt.mpr past] using inside
  | case2 flips ranges short =>
    unfold covers at covered
    split at covered
    · exact absurd rfl (short _ _ _)
    · simp_all

def enclosed : List Nat → List (Nat × Nat)
  | entry :: exit :: flips => (entry, exit - 1) :: enclosed flips
  | _ => []

theorem exists_enclosed {code : Nat} {flips : List Nat} (even : flips.length % 2 = 0)
    (inside : within code false flips = true) :
    ∃ range ∈ enclosed flips, range.1 ≤ code ∧ code ≤ range.2 := by
  induction flips using enclosed.induct with
  | case1 entry exit flips ih =>
    have entered : entry ≤ code := le_of_within inside
    by_cases left : code < exit
    · exact ⟨(entry, exit - 1), List.mem_cons_self, entered, by omega⟩
    · simp only [within, Nat.not_lt.mpr entered, if_false, Bool.not_false, left, Bool.not_true] at inside
      obtain ⟨range, among, bounds⟩ := ih (by simp only [List.length_cons] at even; omega) inside
      exact ⟨range, List.mem_cons_of_mem _ among, bounds⟩
  | case2 flips short =>
    cases flips with
    | nil => simp [within] at inside
    | cons entry flips =>
      cases flips with
      | nil => simp at even
      | cons exit flips => exact absurd rfl (short _ _ _)

/-- Ranges of codes that a set holds. -/
structure Ranges (set : CodeSet) where
  ranges : List (Nat × Nat)
  ascending : set.flips.IsChain (· < ·)
  covered : covers set.flips ranges = true

theorem Ranges.contains {set : CodeSet} (held : set.Ranges) {range : Nat × Nat} (among : range ∈ held.ranges)
    {c : Char} (above : range.1 ≤ c.toNat) (below : c.toNat ≤ range.2) : set.contains c = true :=
  within_of_covers held.ascending held.covered among above below

end CodeSet

/-! Lower case of identifiers -/

/-- The letters in circles, which are no part of identifiers. -/
def isEncircled (run : CaseRun) : Bool := run.first == 9398

theorem isValidChar_of_mem_caseRuns {run : CaseRun} (among : run ∈ caseRuns) {offset : Nat}
    (inside : offset ≤ run.last - run.first) : (run.lower + offset).isValidChar := by
  have apart : ∀ run ∈ caseRuns, run.lower + (run.last - run.first) < 0xd800 ∨
      0xdfff < run.lower ∧ run.lower + (run.last - run.first) < 0x110000 := by decide +kernel
  rcases apart run among with small | large
  · exact .inl (by omega)
  · exact .inr (by omega)

theorem not_isIdentifierContinue_of_isEncircled {run : CaseRun} (among : run ∈ caseRuns)
    (encircled : isEncircled run = true) {c : Char} (above : run.first ≤ c.toNat) (below : c.toNat ≤ run.last) :
    isIdentifierContinue c = false := by
  have each : ∀ run ∈ caseRuns, isEncircled run = true →
      ∀ offset ≤ run.last - run.first, isIdentifierContinue (Char.ofNat (run.first + offset)) = false := by
    decide +kernel
  have found := each run among encircled (c.toNat - run.first) (by omega)
  rwa [Nat.add_sub_cancel' above, Char.ofNat_toNat] at found

theorem isIdentifierContinue_of_contains {c : Char} (inside : identifierContinue.contains c = true) :
    isIdentifierContinue c = true := by
  unfold isIdentifierContinue
  split
  · next small =>
    have ascii : identifierContinue.contains c = true → (c.isAlphanum || c == '_') = true :=
      forall_ascii (by decide +kernel) small
    exact ascii inside
  · exact inside

theorem ascending_identifierContinue : identifierContinue.flips.IsChain (· < ·) := by decide +kernel

/-- The codes of the lower-case letters of all other runs. -/
def lowerRanges : identifierContinue.Ranges where
  ranges := ((caseRuns.filter (!isEncircled ·)).map fun run =>
    (run.lower, run.lower + (run.last - run.first))).insertionSort (·.1 ≤ ·.1)
  ascending := ascending_identifierContinue
  covered := by decide +kernel

def startRanges : identifierContinue.Ranges where
  ranges := CodeSet.enclosed identifierStart.flips
  ascending := ascending_identifierContinue
  covered := by decide +kernel

theorem isIdentifierContinue_of_start {c : Char} (start : isIdentifierStart c = true) :
    isIdentifierContinue c = true := by
  unfold isIdentifierStart at start
  split at start
  · next small =>
    have letter : (c.isAlpha || c == '_') = true → isIdentifierContinue c = true := forall_ascii (by decide) small
    exact letter start
  · obtain ⟨range, among, above, below⟩ := CodeSet.exists_enclosed (by decide +kernel) start
    exact isIdentifierContinue_of_contains (startRanges.contains among above below)

theorem isIdentifierContinue_of_isIdentifier {name : String} (named : isIdentifier name = true) :
    ∀ c ∈ name.toList, isIdentifierContinue c = true := by
  unfold isIdentifier at named
  split at named
  · simp at named
  · next first rest spelled =>
    rw [Bool.and_eq_true, List.all_eq_true] at named
    rw [spelled]
    exact List.forall_mem_cons.mpr ⟨isIdentifierContinue_of_start named.1, named.2⟩

theorem isIdentifierContinue_of_mem_lowerCharacter {c lower : Char} (member : lower ∈ lowerCharacter c)
    (inside : isIdentifierContinue c = true) : isIdentifierContinue lower = true := by
  rcases mem_lowerCharacter_cases member with
    ⟨ascii, rfl⟩ | ⟨-, rfl | rfl⟩ | ⟨-, rfl⟩ | ⟨run, among, above, below, rfl⟩
  · have kept : isIdentifierContinue c = true → isIdentifierContinue c.toLower = true :=
      forall_ascii (by decide) ascii
    exact kept inside
  · decide
  · decide +kernel
  · exact inside
  · cases encircled : isEncircled run with
    | true => simp [not_isIdentifierContinue_of_isEncircled among encircled above below] at inside
    | false =>
      refine isIdentifierContinue_of_contains ?_
      have valid := isValidChar_of_mem_caseRuns among (Nat.sub_le_sub_right below run.first)
      have code : (Char.ofNat (run.lower + (c.toNat - run.first))).toNat = run.lower + (c.toNat - run.first) := by
        rw [Char.ofNat, dif_pos valid]
        rfl
      have range : (run.lower, run.lower + (run.last - run.first)) ∈
          lowerRanges.ranges := by
        rw [lowerRanges, List.mem_insertionSort, List.mem_map]
        exact ⟨run, List.mem_filter.mpr ⟨among, by simp [encircled]⟩, rfl⟩
      refine lowerRanges.contains range ?_ ?_ <;> rw [code]
      · exact Nat.le_add_right _ _
      · exact Nat.add_le_add_left (Nat.sub_le_sub_right below _) _

/-- The characters that lower case may have in the place of one. At the end of a word a sigma has a form
of its own. -/
def lowerForms (c : Char) : List Char := if c == 'Σ' then ['σ', 'ς'] else lowerCharacter c

theorem isIdentifierContinue_of_mem_lowerForms {c lower : Char} (member : lower ∈ lowerForms c)
    (inside : isIdentifierContinue c = true) : isIdentifierContinue lower = true := by
  unfold lowerForms at member
  split at member
  · rcases List.mem_pair.mp member with rfl | rfl <;> decide +kernel
  · exact isIdentifierContinue_of_mem_lowerCharacter member inside

theorem mem_lowerForms_of_mem_lowerAfter {before text : List Char} {lower : Char}
    (member : lower ∈ lowerAfter before text) : ∃ c ∈ text, lower ∈ lowerForms c := by
  induction text generalizing before with
  | nil => cases member
  | cons c rest ih =>
    simp only [lowerAfter, List.mem_append] at member
    rcases member with here | later
    · refine ⟨c, List.mem_cons_self, ?_⟩
      unfold lowerForms
      split at here
      · next sigma =>
        rw [if_pos sigma]
        split at here <;> simp_all
      · next other => rwa [if_neg other]
    · obtain ⟨d, among, form⟩ := ih later
      exact ⟨d, List.mem_cons_of_mem c among, form⟩

theorem mem_lowerAfter_of_fixed {before text : List Char} {c : Char} (fixed : lowerForms c = [c])
    (member : c ∈ text) : c ∈ lowerAfter before text := by
  have other : (c == 'Σ') = false := by
    cases sigma : c == 'Σ' with
    | false => rfl
    | true => simp [lowerForms, sigma] at fixed
  rw [lowerForms, other] at fixed
  induction text generalizing before with
  | nil => cases member
  | cons d rest ih =>
    rw [lowerAfter, List.mem_append]
    rcases List.mem_cons.mp member with rfl | later
    · exact .inl (by simp_all)
    · exact .inr (ih later)

/-! Snake case -/

namespace SnakeCase

theorem characters_clusters (text : List Char) : (clusters text).flatMap Cluster.characters = text := by
  induction text with
  | nil => rfl
  | cons c rest ih =>
    rw [clusters]
    split
    · next none =>
      rw [none] at ih
      simp [Cluster.characters, ← ih]
    · next next later some =>
      rw [some] at ih
      split <;> simp [Cluster.characters, ← ih]

theorem mem_wordsFrom_iff {previous : Option Cluster} {word rest : List Cluster} {cluster : Cluster} :
    (∃ found ∈ wordsFrom previous word rest, cluster ∈ found) ↔
      cluster ∈ word ∨ cluster ∈ rest ∧ cluster.isSeparator = false := by
  induction rest generalizing previous word with
  | nil => simp [wordsFrom]
  | cons next rest ih =>
    rw [wordsFrom]
    split
    · simp only [List.mem_cons, exists_eq_or_imp, ih]
      aesop
    · split
      · simp only [List.mem_cons, exists_eq_or_imp, ih]
        aesop
      · simp only [ih]
        aesop

theorem mem_words_iff {name : String} {c : Char} :
    (∃ word ∈ words name, c ∈ word.toList) ↔
      ∃ cluster ∈ clusters name.toList, cluster.isSeparator = false ∧ c ∈ cluster.characters := by
  have spelled : (∃ word ∈ words name, c ∈ word.toList) ↔
      ∃ cluster, (∃ word ∈ wordsFrom none [] (clusters name.toList), cluster ∈ word) ∧ c ∈ cluster.characters := by
    simp only [words, List.mem_map, List.mem_filter]
    constructor
    · rintro ⟨_, ⟨word, ⟨among, -⟩, rfl⟩, inside⟩
      rw [String.toList_ofList, List.mem_flatMap] at inside
      obtain ⟨cluster, held, inside⟩ := inside
      exact ⟨cluster, ⟨word, among, held⟩, inside⟩
    · rintro ⟨cluster, ⟨word, among, held⟩, inside⟩
      refine ⟨_, ⟨word, ⟨among, ?_⟩, rfl⟩, ?_⟩
      · cases word with
        | nil => cases held
        | cons => rfl
      · rw [String.toList_ofList, List.mem_flatMap]
        exact ⟨cluster, held, inside⟩
  simp [spelled, mem_wordsFrom_iff, and_assoc]

theorem toList_convert (name : String) :
    (convert name).toList = (((words name).map fun word => (lowercase word).toList).intersperse ['_']).flatten := by
  rw [convert, String.toList_intercalate, List.map_map]
  rfl

theorem mem_convert {name : String} {c : Char} (member : c ∈ (convert name).toList) :
    c = '_' ∨ ∃ d ∈ name.toList, c ∈ lowerForms d := by
  rw [toList_convert] at member
  rcases mem_of_mem_intersperse member with joint | ⟨part, among, inside⟩
  · exact .inl (List.mem_singleton.mp joint)
  · obtain ⟨word, spelled, rfl⟩ := List.mem_map.mp among
    rw [lowercase, String.toList_ofList] at inside
    obtain ⟨d, held, form⟩ := mem_lowerForms_of_mem_lowerAfter inside
    obtain ⟨cluster, clustered, -, named⟩ := mem_words_iff.mp ⟨word, spelled, held⟩
    refine .inr ⟨d, ?_, form⟩
    rw [← characters_clusters name.toList]
    exact List.mem_flatMap_of_mem clustered named

theorem mem_convert_of_fixed {name : String} {c : Char} (fixed : lowerForms c = [c])
    (kept : c ≠ '_' ∧ c ≠ '-' ∧ c ≠ ' ') (member : c ∈ name.toList) : c ∈ (convert name).toList := by
  rw [← characters_clusters name.toList, List.mem_flatMap] at member
  obtain ⟨cluster, clustered, named⟩ := member
  have solid : cluster.isSeparator = false := by
    rcases List.mem_cons.mp named with rfl | marks
    · simp [Cluster.isSeparator, kept]
    · have some : cluster.marks ≠ [] := List.ne_nil_of_mem marks
      simp [Cluster.isSeparator, some]
  obtain ⟨word, spelled, held⟩ := mem_words_iff.mpr ⟨cluster, clustered, solid, named⟩
  rw [toList_convert]
  refine mem_intersperse_of_mem _ (List.mem_map_of_mem spelled) ?_
  rw [lowercase, String.toList_ofList]
  exact mem_lowerAfter_of_fixed fixed held

end SnakeCase

end Text

theorem Endpoint.bareName_cases (name : String) :
    bareName name = name ∨ name.toList = 'r' :: '#' :: (bareName name).toList := by
  unfold bareName
  split
  · next rest marked => exact .inr (by rw [marked, String.toList_ofList])
  · exact .inl rfl

namespace Builder

theorem isIdentifier_new_iff (name : String) : Text.isIdentifier ("new_" ++ name) = true ↔
    ∀ c ∈ name.toList, Text.isIdentifierContinue c = true := by
  have spelled : ("new_" ++ name).toList = 'n' :: 'e' :: 'w' :: '_' :: name.toList := by
    rw [String.toList_append]
    rfl
  have mark : Text.isIdentifierStart 'n' = true ∧ Text.isIdentifierContinue 'e' = true ∧
    Text.isIdentifierContinue 'w' = true ∧ Text.isIdentifierContinue '_' = true := by decide
  rw [Text.isIdentifier, spelled]
  simp [mark]

variable {endpoint : Endpoint}

theorem isIdentifier_constructorName (named : Text.isIdentifier endpoint.name = true) :
    Text.isIdentifier (constructorName endpoint) = true := by
  rw [constructorName, isIdentifier_new_iff]
  intro c member
  rcases Text.SnakeCase.mem_convert member with rfl | ⟨d, spelled, form⟩
  · decide
  · exact Text.isIdentifierContinue_of_mem_lowerForms form
      (Text.isIdentifierContinue_of_isIdentifier named d spelled)

theorem not_mem_of_isIdentifier_constructorName (named : Text.isIdentifier (constructorName endpoint) = true) :
    '#' ∉ endpoint.name.toList := by
  intro member
  rw [constructorName, isIdentifier_new_iff] at named
  have mark := named '#' (Text.SnakeCase.mem_convert_of_fixed (by decide) (by decide) member)
  exact absurd mark (by decide)

theorem isIdentifier_constructorName_iff (named : Text.isIdentifier (Endpoint.bareName endpoint.name) = true) :
    Text.isIdentifier (constructorName endpoint) = true ↔ Endpoint.bareName endpoint.name = endpoint.name := by
  constructor
  · intro identifier
    rcases Endpoint.bareName_cases endpoint.name with bare | raw
    · exact bare
    · exact absurd (by simp [raw]) (not_mem_of_isIdentifier_constructorName identifier)
  · exact fun bare => isIdentifier_constructorName (bare ▸ named)

end Builder

end Endpoints
