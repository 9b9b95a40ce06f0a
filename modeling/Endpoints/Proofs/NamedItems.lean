import Endpoints.Proofs.GeneratedNames
import Endpoints.Proofs.LexedWords

/-! Items are named by identifiers. Words of source text are identifiers, raw or not, and so are the names
that generated code takes over from a trait. The name that it makes of a raw one is none. -/

namespace Endpoints

/-- The words among tokens are identifiers, raw or not. -/
def Tokens.Named (tokens : Tokens) : Prop :=
  ∀ name, .ident name ∈ tokens → Text.isIdentifier (Endpoint.bareName name) = true

theorem Endpoint.bareName_of_isIdentifier {name : String} (named : Text.isIdentifier name = true) :
    bareName name = name :=
  bareName_of_not_mem fun mark =>
    absurd (Text.isIdentifierContinue_of_isIdentifier named '#' mark) (by decide)

namespace Lexer

theorem IsWord.isIdentifier_bareName {name : String} (word : IsWord name) :
    Text.isIdentifier (Endpoint.bareName name) = true := by
  cases word with
  | plain identifier => rwa [Endpoint.bareName_of_isIdentifier identifier]
  | raw identifier => simpa [Endpoint.bareName] using identifier

theorem named_of_tokens? {text : String} {tokens : Tokens} (lexed : tokens? text = some tokens) : tokens.Named := by
  intro name member
  exact ((Tokens.Worded.of_tokens? lexed).of_mem member nofun name rfl).isIdentifier_bareName

end Lexer

namespace Reader

variable {α β : Type}

/-- What a reader leaves is among the tokens that it was given. -/
def Leaves (reader : Reader α) : Prop :=
  ∀ tokens value rest, reader tokens = .ok (value, rest) → rest ⊆ tokens

theorem leaves_pure (value : α) : Leaves (pure value) := by
  intro tokens found rest read
  cases read
  exact List.Subset.refl _

theorem Leaves.bind {reader : Reader α} {next : α → Reader β} (first : Leaves reader)
    (second : ∀ value, Leaves (next value)) : Leaves (reader >>= next) := by
  intro tokens result rest read
  obtain ⟨value, between, taken, left⟩ := bind_eq_ok_iff.mp read
  exact List.Subset.trans (second value between result rest left) (first tokens value between taken)

theorem leaves_fail (reason : String) : Leaves (fail reason : Reader α) := by
  intro tokens value rest read
  cases read

theorem leaves_reject (reason : String) : Leaves (reject reason : Reader α) := by
  intro tokens value rest read
  cases read

theorem leaves_ahead (look : Tokens → α) : Leaves (ahead look) := by
  intro tokens value rest read
  cases read
  exact List.Subset.refl _

theorem leaves_advance : Leaves advance := by
  intro tokens value rest read
  cases read
  exact List.drop_subset 1 tokens

theorem leaves_operator? (spelling : String) : Leaves (operator? spelling) := by
  intro tokens value rest read
  unfold operator? at read
  split at read <;> cases read
  · exact List.drop_subset _ tokens
  · exact List.Subset.refl _

theorem leaves_word? (name : String) : Leaves (word? name) := by
  intro tokens value rest read
  unfold word? at read
  split at read <;> cases read
  · exact List.drop_subset _ tokens
  · exact List.Subset.refl _

theorem leaves_word (name : String) : Leaves (word name) := by
  refine (leaves_word? name).bind fun found => ?_
  split
  · exact leaves_pure _
  · exact leaves_fail _

theorem leaves_operator (spelling : String) : Leaves (operator spelling) := by
  refine (leaves_operator? spelling).bind fun found => ?_
  split
  · exact leaves_pure _
  · exact leaves_reject _

theorem leaves_group (delimiter : Delimiter) (reader : Reader α) : Leaves (group delimiter reader) := by
  intro tokens value rest read
  unfold group at read
  split at read
  next other content after =>
    split at read
    · split at read <;> cases read
      exact List.subset_cons_self _ _
    · cases read
  next => cases read

theorem leaves_whileAhead (go : Tokens → Bool) {item : Reader α} (leaves : Leaves item) :
    Leaves (whileAhead go item) := by
  have each : ∀ fuel, Leaves (whileFuel go item fuel) := by
    intro fuel
    induction fuel with
    | zero =>
      intro tokens value rest read
      cases read
    | succ fuel ih =>
      refine (leaves_ahead go).bind fun found => ?_
      split
      · exact leaves.bind fun first => ih.bind fun rest => leaves_pure _
      · exact leaves_pure _
  intro tokens value rest read
  exact each _ tokens value rest read

end Reader

open Reader

theorem leaves_outerAttributes (nested : Nested) : Leaves (outerAttributes nested) :=
  leaves_whileAhead _ ((leaves_operator "#").bind fun _ => (leaves_group _ _).bind fun _ => leaves_pure _)

theorem leaves_visibility : Leaves visibility := by
  refine (leaves_word? "pub").bind fun isPublic => ?_
  split
  · exact leaves_pure _
  · refine (leaves_ahead _).bind fun next => ?_
    split
    · split
      · exact leaves_advance.bind fun _ => leaves_pure _
      · exact leaves_pure _
    · exact leaves_group _ _
    · exact leaves_pure _

theorem mem_of_name {tokens rest : Tokens} {found : String} (read : Reader.name tokens = .ok (found, rest)) :
    .ident found ∈ tokens := by
  obtain ⟨rfl, -⟩ := Reader.name_eq_ok_iff.mp read
  exact List.mem_cons_self

theorem name_mem_of_traitAfter {grammar : Grammar} {attributes : List Attribute} {tokens rest : Tokens}
    {declaration : TraitDeclaration} (read : traitAfter grammar attributes tokens = .ok (declaration, rest)) :
    .ident declaration.name ∈ tokens := by
  obtain ⟨visibility, afterVisibility, first, read⟩ := Reader.bind_eq_ok_iff.mp read
  obtain ⟨isUnsafe, afterUnsafe, second, read⟩ := Reader.bind_eq_ok_iff.mp read
  obtain ⟨isAuto, afterAuto, third, read⟩ := Reader.bind_eq_ok_iff.mp read
  obtain ⟨_, afterTrait, fourth, read⟩ := Reader.bind_eq_ok_iff.mp read
  obtain ⟨declared, afterName, named, read⟩ := Reader.bind_eq_ok_iff.mp read
  obtain ⟨_, _, _, read⟩ := Reader.bind_eq_ok_iff.mp read
  obtain ⟨_, _, _, read⟩ := Reader.bind_eq_ok_iff.mp read
  obtain ⟨_, _, _, read⟩ := Reader.bind_eq_ok_iff.mp read
  obtain ⟨_, _, _, read⟩ := Reader.bind_eq_ok_iff.mp read
  cases read
  have opened : Leaves (word "trait") := leaves_word "trait"
  have left : afterTrait ⊆ tokens := calc
    afterTrait ⊆ afterAuto := opened afterAuto _ afterTrait fourth
    _ ⊆ afterUnsafe := leaves_word? "auto" afterUnsafe isAuto afterAuto third
    _ ⊆ afterVisibility := leaves_word? "unsafe" afterVisibility isUnsafe afterUnsafe second
    _ ⊆ tokens := leaves_visibility tokens visibility afterVisibility first
  exact left (mem_of_name named)

theorem isIdentifier_of_readTrait {text : String} {declaration : TraitDeclaration}
    (read : readTrait text = .ok declaration) :
    Text.isIdentifier (Endpoint.bareName declaration.name) = true := by
  obtain ⟨tokens, lexed, grammar, found⟩ := exists_tokens_of_readText read
  obtain ⟨attributes, after, first, rest⟩ := Reader.bind_eq_ok_iff.mp found
  exact Lexer.named_of_tokens? lexed _
    (leaves_outerAttributes _ tokens attributes after first (name_mem_of_traitAfter rest))

theorem Endpoint.readName_of_callback {interface : Interface} {endpoint : Endpoint} {callback : String}
    (built : ofInterface interface = .ok endpoint) (async : endpoint.asyncCallback? = some callback) :
    ∃ text, readName text = .ok callback := by
  obtain ⟨becomes, -⟩ := methods_of_built built
  obtain ⟨method, among, role⟩ := List.exists_of_findSome?_eq_some async
  obtain ⟨_, -, ⟨-, -, asks⟩⟩ := Checks.exists_of_mem_forall₂ becomes among
  rw [Method.asyncCallback?_eq_some_iff.mp role] at asks
  cases asks with
  | tagged single asks =>
    obtain ⟨directive, interpreted, same⟩ := asks
    obtain ⟨_, _, -, -, asked⟩ := Directive.interpret_eq_ok_iff.mp interpreted
    cases asked with
    | async _ _ _ single free =>
      cases same
      exact ⟨_, readName_eq_ok_iff.mpr ⟨single, free⟩⟩
    | endpoint | keyed | body | sync => cases same

namespace Builder
open Tokens

theorem ofTrait_of_built {declaration : TraitDeclaration} {endpoint : Endpoint} (runtime : Path)
    (built : Endpoint.ofInterface (.ofTrait declaration) = .ok endpoint) :
    ofTrait declaration runtime = tokens endpoint runtime := by
  rw [ofTrait, ofInterface, built, Except.mapError]
  exact Checks.ok_bind

end Builder

end Endpoints
