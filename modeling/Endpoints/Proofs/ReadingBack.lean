import Endpoints.Proofs.ClosedTexts
import Endpoints.Proofs.NamedItems
import Endpoints.Proofs.PrintedPieces
import Endpoints.Proofs.SettledReading

/-! Reading printed text back. What is read from pieces depends on how they start and on what follows them; lists of
values are read back where each of their values is. -/

namespace Endpoints
open Reader Piece

namespace Tokens.Worded

theorem of_subset {tokens some : Tokens} (worded : tokens.Worded) (subset : some ⊆ tokens) : some.Worded := by
  induction some with
  | nil => exact .nil
  | cons token rest ih =>
    obtain ⟨member, others⟩ := List.cons_subset.mp subset
    cases token with
    | group => exact .group (worded.content_of_mem member) (ih others)
    | _ => exact .leaf nofun (worded.of_mem member nofun) (ih others)

theorem isWord {name : String} {rest : Tokens} (worded : Worded (.ident name :: rest)) : Lexer.IsWord name :=
  worded.of_mem List.mem_cons_self nofun name rfl

theorem content {delimiter : Delimiter} {content rest : Tokens} (worded : Worded (.group delimiter content :: rest)) :
    content.Worded :=
  worded.content_of_mem List.mem_cons_self

theorem tail {token : Token} {rest : Tokens} (worded : Worded (token :: rest)) : rest.Worded :=
  worded.of_subset (List.subset_cons_self _ _)

theorem left {α : Type} {reader : Reader α} (leaves : Leaves reader) {tokens rest : Tokens} {value : α}
    (worded : tokens.Worded) (read : reader tokens = .ok (value, rest)) : rest.Worded :=
  worded.of_subset (leaves tokens value rest read)

end Tokens.Worded

theorem length_tokensAll_append (first second : List Piece) :
    (tokensAll second).length ≤ (tokensAll (first ++ second)).length := by
  induction first with
  | nil => exact Nat.le_refl _
  | cons piece rest ih =>
    rw [List.cons_append, tokensAll, List.length_append]
    exact Nat.le_add_left_of_le ih

/-- Pieces of which a reader takes all and makes a value, whatever follows them as `ends` tells. -/
structure Prints {α : Type} (reader : Reader α) (opens ends : Tokens → Prop) (pieces : List Piece) (value : α) :
    Prop where
  fits : Fits pieces
  opens : ∀ rest, opens (tokensAll (pieces ++ rest))
  reads : ∀ rest, ends (tokensAll rest) → reader (tokensAll (pieces ++ rest)) = .ok (value, tokensAll rest)

/-- A text that is made of pieces that are read as a value of a kind. -/
def ReadsBack {α : Type} (reader : Reader α) (opens ends : Tokens → Prop) (text : List Char) (alike : α → Prop) :
    Prop :=
  ∃ pieces value, textAll pieces = text ∧ alike value ∧ Prints reader opens ends pieces value

/-- A comma, with or without a blank behind it. -/
def Piece.comma (spaced : Bool) : List Piece := .mark ',' :: if spaced then [.blank] else []

section Commas
variable (spaced : Bool) (rest : List Piece)

theorem tokensAll_comma : ∃ spacing, tokensAll (comma spaced ++ rest) = .punct ',' spacing :: tokensAll rest := by
  cases spaced <;> exact ⟨_, rfl⟩

theorem parts_comma : Parts (comma spaced ++ rest) := by
  rintro _ ⟨⟩
  decide

variable {rest}

theorem fits_comma (fits : Fits rest) : Fits (comma spaced ++ rest) := by
  cases spaced with
  | true => exact .mark (by decide) (by decide) (.blank fits)
  | false => exact .mark (by decide) (by decide) fits

end Commas

namespace Reader

section Steps
variable {α : Type} {tokens rest : Tokens} {value : α}

theorem word?_absent {name : String} (absent : tokens.startsWord name = false) :
    word? name tokens = .ok (false, tokens) := by
  rw [word?, absent]
  rfl

theorem operator?_absent {spelling : String} (absent : tokens.startsOperator spelling = false) :
    operator? spelling tokens = .ok (false, tokens) := by
  rw [operator?, absent]
  rfl

theorem of_word? {name : String} {found : Bool} (read : word? name tokens = .ok (found, rest)) :
    tokens.startsWord name = found ∧ rest = if found then tokens.drop 1 else tokens := by
  unfold word? at read
  split at read <;> cases read
  next present => exact ⟨present, rfl⟩
  next absent => exact ⟨Bool.eq_false_iff.mpr absent, rfl⟩

theorem of_operator? {spelling : String} {found : Bool} (read : operator? spelling tokens = .ok (found, rest)) :
    rest = if found then tokens.drop spelling.length else tokens := by
  unfold operator? at read
  split at read <;> cases read <;> rfl

theorem of_lifetime {name : String} (read : lifetime tokens = .ok (name, rest)) :
    tokens = .punct '\'' .joint :: .ident name :: rest := by
  unfold lifetime at read
  split at read <;> cases read
  rfl

theorem of_withTokens {reader : Reader α} {taken : Tokens}
    (read : withTokens reader tokens = .ok ((value, taken), rest)) : reader tokens = .ok (value, rest) := by
  unfold withTokens at read
  split at read <;> cases read
  next found => exact found

theorem exists_withTokens {reader : Reader α} (read : reader tokens = .ok (value, rest)) :
    ∃ taken, withTokens reader tokens = .ok ((value, taken), rest) := ⟨_, by rw [withTokens, read]⟩

theorem of_ahead_ite {look : Tokens → Bool} {first second : Reader α}
    (read : (ahead look >>= fun found => if found = true then first else second) tokens = .ok (value, rest)) :
    look tokens = true ∧ first tokens = .ok (value, rest) ∨
      look tokens = false ∧ second tokens = .ok (value, rest) := by
  obtain ⟨found, after, looked, read⟩ := bind_eq_ok_iff.mp read
  obtain ⟨same, rfl⟩ := of_ahead looked
  cases found with
  | true => exact .inl ⟨same, read⟩
  | false => exact .inr ⟨same, read⟩

theorem of_word?_ite {name : String} {first second : Reader α}
    (read : (word? name >>= fun found => if found = true then first else second) tokens = .ok (value, rest)) :
    first (tokens.drop 1) = .ok (value, rest) ∨ second tokens = .ok (value, rest) := by
  obtain ⟨found, after, named, read⟩ := bind_eq_ok_iff.mp read
  obtain ⟨-, rfl⟩ := of_word? named
  cases found with
  | true => exact .inl read
  | false => exact .inr read

theorem of_operator?_ite {spelling : String} {first second : Reader α}
    (read : (operator? spelling >>= fun found => if found = true then first else second) tokens = .ok (value, rest)) :
    first (tokens.drop spelling.length) = .ok (value, rest) ∨ second tokens = .ok (value, rest) := by
  obtain ⟨found, after, marked, read⟩ := bind_eq_ok_iff.mp read
  obtain rfl := of_operator? marked
  cases found with
  | true => exact .inl read
  | false => exact .inr read

end Steps

section
variable {α : Type} {item : Reader α} {written holds : α → Prop} {tokens rest : Tokens}

theorem each_of_separatedUntil {stop : Tokens → Bool} {separator : String}
    (each : ∀ {tokens rest value}, tokens.Worded → written value → item tokens = .ok (value, rest) →
      holds value ∧ rest.Worded)
    {found : Separated α} (worded : tokens.Worded) (all : ∀ value ∈ found.items, written value)
    (read : separatedUntil stop separator item tokens = .ok (found, rest)) :
    (∀ value ∈ found.items, holds value) ∧ rest.Worded := by
  have inner : ∀ fuel {tokens items trailing rest}, tokens.Worded → (∀ value ∈ items, written value) →
      separatedFuel stop separator item fuel tokens = .ok ((items, trailing), rest) →
      (∀ value ∈ items, holds value) ∧ rest.Worded := by
    intro fuel
    induction fuel with
    | zero => nofun
    | succ fuel ih =>
      intro tokens items trailing rest worded all read
      obtain ⟨stops, _, looked, read⟩ := bind_eq_ok_iff.mp read
      cases looked
      split at read
      · cases read
        exact ⟨nofun, worded⟩
      obtain ⟨first, after, taken, read⟩ := bind_eq_ok_iff.mp read
      obtain ⟨ends, _, looked, read⟩ := bind_eq_ok_iff.mp read
      cases looked
      split at read
      · cases read
        obtain ⟨one, left⟩ := each worded (all first List.mem_cons_self) taken
        exact ⟨List.forall_mem_singleton.mpr one, left⟩
      obtain ⟨_, between, separated, read⟩ := bind_eq_ok_iff.mp read
      obtain ⟨⟨others, _⟩, _, more, read⟩ := bind_eq_ok_iff.mp read
      cases read
      obtain ⟨one, left⟩ := each worded (all first List.mem_cons_self) taken
      obtain ⟨allOthers, last⟩ := ih (left.left (leaves_operator separator) separated)
        (fun value member => all value (List.mem_cons_of_mem _ member)) more
      exact ⟨List.forall_mem_cons.mpr ⟨one, allOthers⟩, last⟩
  unfold separatedUntil at read
  split at read
  next items trailing _ taken =>
    cases read
    exact inner _ worded all taken
  next => cases read

theorem each_of_tail {go : Tokens → Bool} {separator : String}
    (each : ∀ {tokens rest value}, tokens.Worded → written value → item tokens = .ok (value, rest) →
      holds value ∧ rest.Worded)
    {found : Separated α} (worded : tokens.Worded) (all : ∀ value ∈ found.items, written value)
    (read : Reader.tail separator go item tokens = .ok (found, rest)) :
    (∀ value ∈ found.items, holds value) ∧ rest.Worded := by
  have inner : ∀ fuel {tokens items trailing rest}, tokens.Worded → (∀ value ∈ items, written value) →
      tailFuel separator go item fuel tokens = .ok ((items, trailing), rest) →
      (∀ value ∈ items, holds value) ∧ rest.Worded := by
    intro fuel
    induction fuel with
    | zero => nofun
    | succ fuel ih =>
      intro tokens items trailing rest worded all read
      obtain ⟨more, between, separated, read⟩ := bind_eq_ok_iff.mp read
      have left := worded.left (leaves_operator? separator) separated
      split at read
      · obtain ⟨goes, _, looked, read⟩ := bind_eq_ok_iff.mp read
        cases looked
        split at read
        · obtain ⟨first, after, taken, read⟩ := bind_eq_ok_iff.mp read
          obtain ⟨⟨others, _⟩, _, more, read⟩ := bind_eq_ok_iff.mp read
          cases read
          obtain ⟨one, left⟩ := each left (all first List.mem_cons_self) taken
          obtain ⟨allOthers, last⟩ := ih left (fun value member => all value (List.mem_cons_of_mem _ member)) more
          exact ⟨List.forall_mem_cons.mpr ⟨one, allOthers⟩, last⟩
        · cases read
          exact ⟨nofun, left⟩
      · cases read
        exact ⟨nofun, left⟩
  unfold Reader.tail at read
  split at read
  next items trailing _ taken =>
    cases read
    exact inner _ worded all taken
  next => cases read

end

section
variable {α : Type} {item : Reader α} {opens ends : Tokens → Prop} {text : α → String} {alike : α → α → Prop}

theorem exists_separated (spaced : Bool) {stop : Tokens → Bool} (goes : ∀ tokens, opens tokens → stop tokens = false)
    (comma : ∀ spacing rest, ends (.punct ',' spacing :: rest) ∧ stop (.punct ',' spacing :: rest) = false)
    {items : List α} (each : ∀ value ∈ items, ReadsBack item opens ends (text value).toList (alike value)) :
    ∃ pieces values,
      textAll pieces = (textAll (Piece.comma spaced)).intercalate (items.map fun value => (text value).toList) ∧
      List.Forall₂ alike items values ∧ Fits pieces ∧
      (items = [] ∧ pieces = [] ∨ items ≠ [] ∧ ∀ rest, opens (tokensAll (pieces ++ rest))) ∧
      ∀ fuel rest, (tokensAll (pieces ++ rest)).length < fuel → stop (tokensAll rest) = true → ends (tokensAll rest) →
        separatedFuel stop "," item fuel (tokensAll (pieces ++ rest)) =
          .ok ((values, values.isEmpty), tokensAll rest) := by
  induction items with
  | nil =>
    refine ⟨[], [], rfl, .nil, .nil, .inl ⟨rfl, rfl⟩, fun fuel rest enough stops _ => ?_⟩
    obtain ⟨fuel, rfl⟩ := Nat.exists_eq_add_one_of_ne_zero (Nat.ne_of_gt (Nat.zero_lt_of_lt enough))
    exact bind_of_ok (ahead_of stops) rfl
  | cons first others ih =>
    obtain ⟨one, each⟩ := List.forall_mem_cons.mp each
    obtain ⟨pieces, value, spelled, same, prints⟩ := one
    cases others with
    | nil =>
      refine ⟨pieces, [value], by simpa using spelled, .cons same .nil, prints.fits,
        .inr ⟨List.cons_ne_nil _ _, prints.opens⟩,
        fun fuel rest enough stops ends => ?_⟩
      obtain ⟨fuel, rfl⟩ := Nat.exists_eq_add_one_of_ne_zero (Nat.ne_of_gt (Nat.zero_lt_of_lt enough))
      refine bind_of_ok (ahead_of (goes _ (prints.opens rest))) ?_
      refine bind_of_ok (prints.reads rest ends) ?_
      exact bind_of_ok (ahead_of stops) rfl
    | cons next more =>
      obtain ⟨behind, values, spelledOthers, sames, fits, -, reads⟩ := ih each
      refine ⟨pieces ++ (Piece.comma spaced ++ behind), value :: values, ?_, .cons same sames,
        prints.fits.append (fits_comma spaced fits) (parts_comma spaced behind), .inr ⟨List.cons_ne_nil _ _, ?_⟩, ?_⟩
      · rw [textAll_append, textAll_append, spelled, spelledOthers]
        simp
      · intro rest
        rw [List.append_assoc]
        exact prints.opens _
      · intro fuel rest enough stops ends
        obtain ⟨fuel, rfl⟩ := Nat.exists_eq_add_one_of_ne_zero (Nat.ne_of_gt (Nat.zero_lt_of_lt enough))
        have longer := length_tokensAll_append pieces (Piece.comma spaced ++ (behind ++ rest))
        obtain ⟨spacing, shape⟩ := tokensAll_comma spaced (behind ++ rest)
        have read := prints.reads (Piece.comma spaced ++ (behind ++ rest)) (by rw [shape]; exact (comma spacing _).1)
        rw [List.append_assoc, List.append_assoc] at enough ⊢
        rw [shape, List.length_cons] at longer
        rw [shape] at read
        refine bind_of_ok (ahead_of (goes _ (prints.opens _))) ?_
        refine bind_of_ok read ?_
        refine bind_of_ok (ahead_of (comma spacing (tokensAll (behind ++ rest))).2) ?_
        refine bind_of_ok (bind_of_ok rfl rfl) ?_
        refine bind_of_ok (reads fuel rest (by omega) stops ends) ?_
        cases sames
        rfl

theorem readsBack_separated (spaced : Bool) {stop : Tokens → Bool}
    (goes : ∀ tokens, opens tokens → stop tokens = false)
    (comma : ∀ spacing rest, ends (.punct ',' spacing :: rest) ∧ stop (.punct ',' spacing :: rest) = false)
    {items : List α} (each : ∀ value ∈ items, ReadsBack item opens ends (text value).toList (alike value)) :
    ∃ pieces values,
      textAll pieces = (textAll (Piece.comma spaced)).intercalate (items.map fun value => (text value).toList) ∧
      List.Forall₂ alike items values ∧ Fits pieces ∧
      (items = [] ∧ pieces = [] ∨ items ≠ [] ∧ ∀ rest, opens (tokensAll (pieces ++ rest))) ∧
      ∀ rest, stop (tokensAll rest) = true → ends (tokensAll rest) →
        separatedUntil stop "," item (tokensAll (pieces ++ rest)) = .ok (⟨values, false⟩, tokensAll rest) := by
  obtain ⟨pieces, values, spelled, sames, fits, opens, reads⟩ := exists_separated spaced goes comma each
  refine ⟨pieces, values, spelled, sames, fits, opens, fun rest stops ends => ?_⟩
  rw [separatedUntil, reads _ rest (Nat.lt_succ_self _) stops ends]
  cases values <;> rfl

theorem separatedUntil_single {stop : Tokens → Bool} {pieces : List Piece} {value : α}
    (prints : Prints item opens ends pieces value) (goes : ∀ tokens, opens tokens → stop tokens = false)
    {rest : List Piece} (comma : ends (tokensAll (.mark ',' :: rest)) ∧ stop (tokensAll (.mark ',' :: rest)) = false)
    (stops : stop (tokensAll rest) = true) :
    separatedUntil stop "," item (tokensAll (pieces ++ .mark ',' :: rest)) = .ok (⟨[value], true⟩, tokensAll rest) := by
  have longer := length_tokensAll_append pieces (.mark ',' :: rest)
  have counted : (tokensAll (.mark ',' :: rest)).length = (tokensAll rest).length + 1 := rfl
  obtain ⟨fuel, enough⟩ : ∃ fuel, (tokensAll (pieces ++ .mark ',' :: rest)).length = fuel + 1 :=
    Nat.exists_eq_add_one_of_ne_zero (by omega)
  have taken : separatedFuel stop "," item (fuel + 2) (tokensAll (pieces ++ .mark ',' :: rest)) =
      .ok (([value], true), tokensAll rest) := by
    refine bind_of_ok (ahead_of (goes _ (prints.opens _))) ?_
    refine bind_of_ok (prints.reads _ comma.1) ?_
    refine bind_of_ok (ahead_of comma.2) ?_
    refine bind_of_ok (bind_of_ok rfl rfl) ?_
    exact bind_of_ok (bind_of_ok (ahead_of stops) rfl) rfl
  rw [separatedUntil, enough, taken]
  rfl

theorem exists_tail {go : Tokens → Bool} (goes : ∀ tokens, opens tokens → go tokens = true)
    (plus : ∀ spacing rest, ends (.punct '+' spacing :: rest)) {items : List α}
    (each : ∀ value ∈ items, ReadsBack item opens ends (text value).toList (alike value)) :
    ∃ pieces values, textAll pieces = items.flatMap (fun value => [' ', '+', ' '] ++ (text value).toList) ∧
      List.Forall₂ alike items values ∧ Fits pieces ∧ Parts pieces ∧
      (∀ rest, ends (tokensAll rest) → ends (tokensAll (pieces ++ rest))) ∧
      ∀ fuel rest, (tokensAll (pieces ++ rest)).length < fuel → (tokensAll rest).startsOperator "+" = false →
        ends (tokensAll rest) →
        tailFuel "+" go item fuel (tokensAll (pieces ++ rest)) = .ok ((values, false), tokensAll rest) := by
  induction items with
  | nil =>
    refine ⟨[], [], rfl, .nil, .nil, parts_nil, fun rest ends => ends, fun fuel rest enough stops _ => ?_⟩
    obtain ⟨fuel, rfl⟩ := Nat.exists_eq_add_one_of_ne_zero (Nat.ne_of_gt (Nat.zero_lt_of_lt enough))
    have absent : operator? "+" (tokensAll rest) = .ok (false, tokensAll rest) := by
      rw [operator?, stops]
      rfl
    exact bind_of_ok absent rfl
  | cons first others ih =>
    obtain ⟨one, each⟩ := List.forall_mem_cons.mp each
    obtain ⟨pieces, value, spelled, same, prints⟩ := one
    obtain ⟨behind, values, spelledOthers, sames, fits, parts, ends', reads⟩ := ih each
    refine ⟨.blank :: .mark '+' :: .blank :: (pieces ++ behind), value :: values, ?_, .cons same sames, ?_, ?_, ?_, ?_⟩
    · simp [textAll, textAll_append, spelled, spelledOthers, Piece.text]
    · exact .blank (.mark (by decide) (by decide) (.blank (prints.fits.append fits parts)))
    · rintro _ ⟨⟩
      decide
    · exact fun rest _ => plus .alone _
    · intro fuel rest enough stops ends
      obtain ⟨fuel, rfl⟩ := Nat.exists_eq_add_one_of_ne_zero (Nat.ne_of_gt (Nat.zero_lt_of_lt enough))
      have longer := length_tokensAll_append pieces (behind ++ rest)
      rw [List.cons_append, List.cons_append, List.cons_append, List.append_assoc] at enough ⊢
      have counted : (tokensAll (.blank :: .mark '+' :: .blank :: (pieces ++ (behind ++ rest)))).length =
          (tokensAll (pieces ++ (behind ++ rest))).length + 1 := rfl
      refine bind_of_ok rfl ?_
      refine bind_of_ok (ahead_of (goes _ (prints.opens _))) ?_
      refine bind_of_ok (prints.reads _ (ends' rest ends)) ?_
      refine bind_of_ok (reads fuel rest (by omega) stops ends) ?_
      rfl

theorem readsBack_chain {go : Tokens → Bool} (goes : ∀ tokens, opens tokens → go tokens = true)
    (plus : ∀ spacing rest, ends (.punct '+' spacing :: rest)) {first : α} {items : List α}
    (each : ∀ value ∈ first :: items, ReadsBack item opens ends (text value).toList (alike value)) :
    ReadsBack (chain "+" go item) opens (fun tokens => ends tokens ∧ tokens.startsOperator "+" = false)
      ([' ', '+', ' '].intercalate ((first :: items).map fun value => (text value).toList))
      (fun found => List.Forall₂ alike (first :: items) found.items ∧ found.trailing = false) := by
  obtain ⟨one, each⟩ := List.forall_mem_cons.mp each
  obtain ⟨pieces, value, spelled, same, prints⟩ := one
  obtain ⟨behind, values, spelledOthers, sames, fits, parts, ends', reads⟩ := exists_tail goes plus each
  refine ⟨pieces ++ behind, ⟨value :: values, false⟩, ?_, ⟨.cons same sames, rfl⟩, prints.fits.append fits parts, ?_,
    ?_⟩
  · rw [textAll_append, spelled, spelledOthers, List.map_cons, Nesting.intercalate_cons_eq, List.flatMap_map]
  · intro rest
    rw [List.append_assoc]
    exact prints.opens _
  · rintro rest ⟨ends, stops⟩
    rw [List.append_assoc]
    refine bind_of_ok (prints.reads _ (ends' rest ends)) ?_
    have taken : Reader.tail "+" go item (tokensAll (behind ++ rest)) = .ok (⟨values, false⟩, tokensAll rest) := by
      rw [Reader.tail, reads _ rest (Nat.lt_succ_self _) stops ends]
    exact bind_of_ok taken rfl

end

end Reader

end Endpoints
