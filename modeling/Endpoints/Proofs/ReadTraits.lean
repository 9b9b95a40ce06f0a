import Endpoints.Item.Source
import Endpoints.Proofs.HeaderReading

/-! The traits of a source file have names that are no keywords, and visibilities that can be read again. -/

namespace Endpoints
open Reader

namespace Reader

variable {α β : Type}

/-- All values that a reader gives have a property. -/
def Gives (property : α → Prop) (reader : Reader α) : Prop :=
  ∀ tokens value rest, reader tokens = .ok (value, rest) → property value

variable {property : α → Prop}

theorem gives_pure {value : α} (holds : property value) : Gives property (pure value) := by
  intro tokens found rest read
  cases read
  exact holds

theorem gives_fail (reason : String) : Gives property (fail reason) := by
  intro tokens value rest read
  cases read

theorem gives_bind {reader : Reader β} {next : β → Reader α} (each : ∀ value, Gives property (next value)) :
    Gives property (reader >>= next) := by
  intro tokens result rest read
  obtain ⟨value, between, -, follows⟩ := bind_eq_ok_iff.mp read
  exact each value between result rest follows

theorem gives_ite {condition : Prop} [Decidable condition] {first second : Reader α} (one : Gives property first)
    (other : Gives property second) : Gives property (if condition then first else second) := by
  split
  · exact one
  · exact other

theorem gives_either {condition : Prop} [Decidable condition] {first second : Reader β} {next : β → Reader α}
    (each : ∀ value, Gives property (next value)) :
    Gives property (if condition then first >>= next else second >>= next) :=
  gives_ite (gives_bind each) (gives_bind each)

theorem gives_after {condition : Prop} [Decidable condition] {first : Reader α} {next : Unit → Reader α}
    (one : (∀ done, Gives property (next done)) → Gives property first)
    (each : ∀ done, Gives property (next done)) :
    Gives property (if condition then first else next ()) := gives_ite (one each) (each ())

theorem Gives.map {reader : Reader α} (gives : Gives property reader) {change : α → β} {other : β → Prop}
    (keeps : ∀ value, property value → other (change value)) :
    Gives other (reader >>= fun value => pure (change value)) := by
  intro tokens result rest read
  obtain ⟨value, between, first, follows⟩ := bind_eq_ok_iff.mp read
  cases follows
  exact keeps value (gives tokens value _ first)

theorem gives_whileAhead {go : Tokens → Bool} {item : Reader α} (gives : Gives property item) :
    Gives (fun values => ∀ value ∈ values, property value) (whileAhead go item) := by
  have each : ∀ fuel, Gives (fun values => ∀ value ∈ values, property value) (whileFuel go item fuel) := by
    intro fuel
    induction fuel with
    | zero =>
      intro tokens values rest read
      cases read
    | succ fuel ih =>
      intro tokens values rest read
      obtain ⟨goes, _, -, read⟩ := bind_eq_ok_iff.mp read
      split at read
      · obtain ⟨first, afterFirst, one, read⟩ := bind_eq_ok_iff.mp read
        obtain ⟨others, _, more, read⟩ := bind_eq_ok_iff.mp read
        cases read
        exact List.forall_mem_cons.mpr ⟨gives _ first afterFirst one, ih _ others _ more⟩
      · cases read
        simp
  intro tokens values rest read
  exact each _ tokens values rest read

end Reader

/-- A trait as it is read from tokens. -/
structure TraitDeclaration.IsRead (declaration : TraitDeclaration) : Prop where
  isName : IsName declaration.name
  visible : declaration.visibility.IsRead

/-- If an item is a trait, then one that was read. -/
def Item.TraitIsRead : Item → Prop
  | .trait declaration => declaration.IsRead
  | _ => True

section
variable (grammar : Grammar) (attributes : List Attribute) (visible : Visibility)

theorem gives_traitAfter : Gives TraitDeclaration.IsRead (traitAfter grammar attributes) := by
  intro tokens declaration rest read
  obtain ⟨found, _, first, read⟩ := bind_eq_ok_iff.mp read
  obtain ⟨_, _, -, read⟩ := bind_eq_ok_iff.mp read
  obtain ⟨_, _, -, read⟩ := bind_eq_ok_iff.mp read
  obtain ⟨_, _, -, read⟩ := bind_eq_ok_iff.mp read
  obtain ⟨declared, _, named, read⟩ := bind_eq_ok_iff.mp read
  obtain ⟨_, _, -, read⟩ := bind_eq_ok_iff.mp read
  obtain ⟨_, _, -, read⟩ := bind_eq_ok_iff.mp read
  obtain ⟨_, _, -, read⟩ := bind_eq_ok_iff.mp read
  obtain ⟨_, _, -, read⟩ := bind_eq_ok_iff.mp read
  cases read
  exact ⟨isName_of_name named, isRead_of_visibility first⟩

theorem gives_traitItem : Gives Item.TraitIsRead (do return .trait (← traitAfter grammar attributes)) :=
  (gives_traitAfter grammar attributes).map fun _ isRead => isRead

theorem gives_other (reader : Reader Tokens) (before : Tokens) :
    Gives Item.TraitIsRead (do return .other (before ++ (← reader))) :=
  gives_bind fun _ => gives_pure trivial

theorem gives_functionItem : Gives Item.TraitIsRead (functionItem grammar attributes visible) := by
  refine gives_bind fun start => gives_bind fun signature => gives_bind fun ends => ?_
  exact gives_ite (gives_pure trivial) (gives_bind fun _ => gives_bind fun _ => gives_pure trivial)

theorem gives_structureItem : Gives Item.TraitIsRead (structureItem grammar attributes visible) := by
  refine gives_bind fun _ => gives_bind fun declared => gives_bind fun parameters => gives_bind fun early =>
    gives_bind fun braces => ?_
  refine gives_ite (gives_bind fun _ => gives_pure trivial) (gives_bind fun parentheses => ?_)
  refine gives_ite (gives_bind fun _ => gives_bind fun _ => gives_bind fun _ => gives_pure trivial) ?_
  exact gives_bind fun ends => gives_ite (gives_pure trivial) (gives_fail _)

theorem gives_traitOrAlias (start : Tokens) :
    Gives Item.TraitIsRead (traitOrAlias grammar attributes visible start) := by
  refine gives_bind fun isAlias => gives_ite (gives_other _ _) ?_
  exact gives_bind fun _ => gives_traitItem grammar attributes

theorem gives_implementation : Gives Item.TraitIsRead (implementation grammar attributes visible) := by
  refine gives_bind fun isDefault => gives_bind fun isUnsafe => gives_bind fun _ => gives_bind fun generic => ?_
  refine gives_either fun parameters => gives_bind fun isConst => ?_
  refine gives_after (fun later => gives_bind fun _ => gives_bind later) fun _ => gives_bind fun denied => ?_
  refine gives_either fun denied => gives_bind fun first => gives_bind fun forType => ?_
  refine gives_either fun type => gives_after gives_bind fun _ => ?_
  exact gives_bind fun _ => gives_bind fun _ => gives_ite (gives_pure trivial) (gives_pure trivial)

/-- A trait is read as a trait by one rule alone, wherever the rules for items lead to it. -/
theorem gives_itemAfter (inner : Reader Item) : Gives Item.TraitIsRead (itemAfter grammar inner attributes) := by
  refine gives_bind fun start => gives_bind fun found => gives_bind fun tokens => ?_
  refine gives_ite (gives_functionItem grammar attributes found) ?_
  refine gives_ite (gives_ite (gives_other _ _) (gives_other _ _)) ?_
  refine gives_ite (gives_other _ _) ?_
  refine gives_ite (gives_other _ _) ?_
  refine gives_ite (gives_other _ _) ?_
  refine gives_ite ?_ ?_
  · refine gives_bind fun _ => gives_bind fun _ => gives_bind fun named => gives_either fun declared => ?_
    exact gives_bind fun ends => gives_ite (gives_pure trivial) (gives_bind fun _ => gives_pure trivial)
  refine gives_ite ?_ ?_
  · refine gives_ite (gives_bind fun _ => gives_traitItem grammar attributes) ?_
    refine gives_ite (gives_implementation grammar attributes found) ?_
    exact gives_ite (gives_other _ _) (gives_fail _)
  refine gives_ite (gives_other _ _) ?_
  refine gives_ite (gives_structureItem grammar attributes found) ?_
  refine gives_ite (gives_other _ _) ?_
  refine gives_ite (gives_other _ _) ?_
  refine gives_ite (gives_traitOrAlias grammar attributes found start) ?_
  refine gives_ite (gives_bind fun _ => gives_traitItem grammar attributes) ?_
  refine gives_ite (gives_implementation grammar attributes found) ?_
  refine gives_ite (gives_other _ _) ?_
  exact gives_ite (gives_other _ _) (gives_fail _)

theorem gives_item : Gives Item.TraitIsRead (item grammar) := by
  intro tokens found rest read
  exact gives_bind (fun attributes => gives_itemAfter grammar attributes _) tokens found rest read

end

theorem SourceFile.isRead_of_trait {source : String} {found : SourceFile} (read : SourceFile.read source = .ok found)
    {declaration : TraitDeclaration} (member : .trait declaration ∈ found.items) : declaration.IsRead := by
  obtain ⟨tokens, -, grammar, read⟩ := exists_tokens_of_readText read
  obtain ⟨attributes, after, -, read⟩ := bind_eq_ok_iff.mp read
  obtain ⟨items, rest, all, read⟩ := bind_eq_ok_iff.mp read
  cases read
  exact gives_whileAhead (gives_item grammar) after items _ all _ member

end Endpoints
