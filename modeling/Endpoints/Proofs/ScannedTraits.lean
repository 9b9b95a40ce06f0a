import Endpoints.Proofs.TagRecognition
import Endpoints.Proofs.TrimmedTexts

/-! What a search accounts for. Each trait of a source file, at the top or in a module, has one place; the search
goes through the places in order, and yields, warns of or skips each tagged or untagged trait once. -/

namespace Endpoints

/-- A trait in a source file. Its position says for each level, from the outermost inwards, how many items stand
before it or before the module it is in. -/
structure Occurrence where
  position : List Nat
  modules : List String
  declaration : TraitDeclaration

namespace Occurrence

/-- An occurrence in a module, seen from the items among which the module stands. -/
def below (index : Nat) (name : String) (inner : Occurrence) : Occurrence :=
  ⟨index :: inner.position, name :: inner.modules, inner.declaration⟩

/-- Where a trait stands among items. -/
inductive In : List Item → Occurrence → Prop where
  | top {items index declaration} (stands : items[index]? = some (.trait declaration)) :
      In items ⟨[index], [], declaration⟩
  | within {items index attributes visibility isUnsafe name content inner}
      (stands : items[index]? = some (.module attributes visibility isUnsafe name (some content)))
      (inside : In content inner) : In items (inner.below index name)

/-- All traits among items, each once and in the order in which they stand. -/
structure Listed (items : List Item) (found : List Occurrence) : Prop where
  ordered : found.Pairwise (·.position < ·.position)
  complete : ∀ occurrence, occurrence ∈ found ↔ occurrence.In items

def isTagged (occurrence : Occurrence) : Bool := (Interface.ofTrait occurrence.declaration).isTagged

def isTop (occurrence : Occurrence) : Bool := occurrence.modules.isEmpty

/-- What is reported of a trait. A warning names the innermost of the modules around it. -/
def event? (occurrence : Occurrence) : Option Event :=
  match occurrence.modules.getLast?, occurrence.isTagged with
  | some inside, true => some (.nestedTrait inside occurrence.declaration.name)
  | none, false => some (.untaggedTrait occurrence.declaration.name)
  | _, _ => none

end Occurrence

namespace Item

mutual

/-- The traits in the item at an index. -/
def traitsAt (index : Nat) : Item → List Occurrence
  | .trait declaration => [⟨[index], [], declaration⟩]
  | .module _ _ _ name (some content) => (traitsFrom 0 content).map (.below index name)
  | _ => []

/-- The traits in items of which the first has the index. -/
def traitsFrom (index : Nat) : List Item → List Occurrence
  | [] => []
  | item :: rest => item.traitsAt index ++ traitsFrom (index + 1) rest

end

mutual

theorem in_of_mem_traitsAt {items : List Item} {occurrence : Occurrence} : (item : Item) → {index : Nat} →
    items[index]? = some item → occurrence ∈ item.traitsAt index → occurrence.In items
  | .trait _, _, stands, found => by
    obtain rfl := List.mem_singleton.mp found
    exact .top stands
  | .module _ _ _ _ (some content), _, stands, found => by
    obtain ⟨inner, inside, rfl⟩ := List.mem_map.mp found
    exact .within stands (in_of_mem_traitsFrom content (fun _ => by rw [Nat.zero_add]) inside)
  | .module _ _ _ _ none, _, _, found | .structure _, _, _, found | .function _, _, _, found
  | .implementation _, _, _, found | .other _, _, _, found => nomatch found

theorem in_of_mem_traitsFrom {items : List Item} {occurrence : Occurrence} : (rest : List Item) → {start : Nat} →
    (∀ index : Nat, items[start + index]? = rest[index]?) → occurrence ∈ traitsFrom start rest →
      occurrence.In items
  | [], _, _, found => nomatch found
  | item :: rest, start, stands, found => by
    rcases List.mem_append.mp found with first | later
    · exact in_of_mem_traitsAt item (stands 0) first
    · refine in_of_mem_traitsFrom rest (fun index => ?_) later
      rw [Nat.add_right_comm, Nat.add_assoc]
      exact stands (index + 1)

end

section

variable {items : List Item} {occurrence : Occurrence}

theorem mem_traitsFrom_of_getElem? {item : Item} {start index : Nat} (stands : items[index]? = some item)
    (found : occurrence ∈ item.traitsAt (start + index)) : occurrence ∈ traitsFrom start items := by
  induction items generalizing start index with
  | nil => cases stands
  | cons first rest ih =>
    refine List.mem_append.mpr ?_
    cases index with
    | zero =>
      cases stands
      exact .inl found
    | succ index =>
      rw [← Nat.add_assoc, Nat.add_right_comm] at found
      exact .inr (ih stands found)

theorem mem_traitsFrom_iff : occurrence ∈ traitsFrom 0 items ↔ occurrence.In items := by
  refine ⟨in_of_mem_traitsFrom items fun _ => by rw [Nat.zero_add], fun stands => ?_⟩
  induction stands with
  | top stands => exact mem_traitsFrom_of_getElem? stands (by simp [traitsAt])
  | within stands _ ih => exact mem_traitsFrom_of_getElem? stands (List.mem_map.mpr ⟨_, ih, by rw [Nat.zero_add]⟩)

theorem position_of_mem_traitsAt {item : Item} {index : Nat} (found : occurrence ∈ item.traitsAt index) :
    ∃ inner, occurrence.position = index :: inner := by
  unfold traitsAt at found
  split at found
  · obtain rfl := List.mem_singleton.mp found
    exact ⟨_, rfl⟩
  · obtain ⟨inner, _, rfl⟩ := List.mem_map.mp found
    exact ⟨_, rfl⟩
  · cases found

theorem position_of_mem_traitsFrom {start : Nat} (found : occurrence ∈ traitsFrom start items) :
    ∃ index inner, occurrence.position = index :: inner ∧ start ≤ index := by
  induction items generalizing start with
  | nil => cases found
  | cons item rest ih =>
    rcases List.mem_append.mp found with first | later
    · obtain ⟨inner, starts⟩ := position_of_mem_traitsAt first
      exact ⟨start, inner, starts, Nat.le_refl start⟩
    · obtain ⟨index, inner, starts, after⟩ := ih later
      exact ⟨index, inner, starts, Nat.le_of_succ_le after⟩

end

mutual

theorem ordered_traitsAt : (item : Item) → (index : Nat) →
    (item.traitsAt index).Pairwise (·.position < ·.position)
  | .trait _, _ => List.pairwise_singleton _ _
  | .module _ _ _ _ (some content), _ => by
    refine List.pairwise_map.mpr ((ordered_traitsFrom content 0).imp fun before => ?_)
    exact List.cons_lt_cons_iff.mpr (.inr ⟨rfl, before⟩)
  | .module _ _ _ _ none, _ | .structure _, _ | .function _, _ | .implementation _, _ | .other _, _ => .nil

theorem ordered_traitsFrom : (items : List Item) → (start : Nat) →
    (traitsFrom start items).Pairwise (·.position < ·.position)
  | [], _ => .nil
  | item :: rest, start => by
    refine List.pairwise_append.mpr ⟨ordered_traitsAt item start, ordered_traitsFrom rest (start + 1), ?_⟩
    intro earlier first later found
    obtain ⟨_, starts⟩ := position_of_mem_traitsAt first
    obtain ⟨_, _, goesOn, after⟩ := position_of_mem_traitsFrom found
    rw [starts, goesOn]
    exact List.cons_lt_cons_iff.mpr (.inl after)

end

theorem listed_traitsFrom (items : List Item) : Occurrence.Listed items (traitsFrom 0 items) :=
  ⟨ordered_traitsFrom items 0, fun _ => mem_traitsFrom_iff⟩

mutual

/-- A module is warned of each tagged trait below it, by the name of the innermost module. -/
theorem nestedTagged_eq : (item : Item) → (index : Nat) → (inside : String) →
    item.nestedTagged inside = ((item.traitsAt index).filter (·.isTagged)).map fun occurrence =>
      (occurrence.modules.getLastD inside, occurrence.declaration.name)
  | .trait declaration, index, inside => by
    cases tagged : (Interface.ofTrait declaration).isTagged <;>
      simp [nestedTagged, traitsAt, Occurrence.isTagged, tagged]
  | .module _ _ _ name (some content), index, inside => by
    rw [nestedTagged, nestedTaggedAll_eq content 0 name, traitsAt, List.filter_map, List.map_map]
    refine List.map_congr_left fun occurrence _ => ?_
    rw [Function.comp_apply, Occurrence.below, List.getLastD_cons]
  | .module _ _ _ _ none, _, _ | .structure _, _, _ | .function _, _, _ | .implementation _, _, _
  | .other _, _, _ => rfl

theorem nestedTaggedAll_eq : (items : List Item) → (start : Nat) → (inside : String) →
    nestedTaggedAll inside items = ((traitsFrom start items).filter (·.isTagged)).map fun occurrence =>
      (occurrence.modules.getLastD inside, occurrence.declaration.name)
  | [], _, _ => rfl
  | item :: rest, start, inside => by
    rw [nestedTaggedAll, traitsFrom, nestedTagged_eq item start inside, nestedTaggedAll_eq rest (start + 1) inside,
      List.filter_append, List.map_append]

end

mutual

theorem skippedCount_eq : (item : Item) → (index : Nat) → item.skippedCount = (item.traitsAt index).countP (·.isTagged)
  | .trait declaration, index => by
    cases tagged : (Interface.ofTrait declaration).isTagged <;>
      simp [skippedCount, traitsAt, Occurrence.isTagged, tagged]
  | .module _ _ _ _ (some content), index => by
    rw [skippedCount, skippedCountAll_eq content 0, traitsAt, List.countP_map]
    rfl
  | .module _ _ _ _ none, _ | .structure _, _ | .function _, _ | .implementation _, _ | .other _, _ => rfl

theorem skippedCountAll_eq : (items : List Item) → (start : Nat) →
    skippedCountAll items = (traitsFrom start items).countP (·.isTagged)
  | [], _ => rfl
  | item :: rest, start => by
    rw [skippedCountAll, traitsFrom, skippedCount_eq item start, skippedCountAll_eq rest (start + 1),
      List.countP_append]

end

theorem scanEvents_eq : (item : Item) → (index : Nat) →
    item.scanEvents = (item.traitsAt index).filterMap Occurrence.event?
  | .trait declaration, index => by
    cases tagged : (Interface.ofTrait declaration).isTagged <;>
      simp [scanEvents, traitsAt, Occurrence.event?, Occurrence.isTagged, tagged]
  | .module _ _ _ name (some content), index => by
    rw [scanEvents, nestedTaggedAll_eq content 0 name, traitsAt, List.filterMap_map, List.map_map,
      ← List.filterMap_eq_map, List.filterMap_filter]
    refine List.filterMap_congr fun inner _ => ?_
    have inside : (inner.below index name).modules.getLast? = some (inner.modules.getLastD name) := by
      rw [Occurrence.below, List.getLast?_cons, List.getLastD_eq_getLast?]
    have same : (inner.below index name).isTagged = inner.isTagged := rfl
    simp only [Function.comp_apply, Occurrence.event?, inside, same]
    cases inner.isTagged <;> rfl
  | .module _ _ _ _ none, _ | .structure _, _ | .function _, _ | .implementation _, _ | .other _, _ => rfl

theorem flatMap_scanEvents (items : List Item) (start : Nat) :
    items.flatMap scanEvents = (traitsFrom start items).filterMap Occurrence.event? := by
  induction items generalizing start with
  | nil => rfl
  | cons item rest ih =>
    rw [List.flatMap_cons, traitsFrom, List.filterMap_append, scanEvents_eq item start, ih (start + 1)]

theorem trait?_eq : (item : Item) → (index : Nat) →
    item.trait?.toList = ((item.traitsAt index).filter (·.isTop)).map (·.declaration)
  | .trait _, _ => rfl
  | .module _ _ _ name (some content), index => by
    have nested : ∀ occurrence ∈ (traitsFrom 0 content).map (Occurrence.below index name),
        ¬ occurrence.isTop = true := by
      simp [Occurrence.below, Occurrence.isTop]
    rw [traitsAt, List.filter_eq_nil_iff.mpr nested]
    rfl
  | .module _ _ _ _ none, _ | .structure _, _ | .function _, _ | .implementation _, _ | .other _, _ => rfl

theorem filterMap_trait? (items : List Item) (start : Nat) :
    items.filterMap trait? = ((traitsFrom start items).filter (·.isTop)).map (·.declaration) := by
  induction items generalizing start with
  | nil => rfl
  | cons item rest ih =>
    rw [traitsFrom, List.filter_append, List.map_append, ← trait?_eq item start, ← ih (start + 1)]
    cases found : item.trait? <;> simp [found]

end Item

namespace SourceFile

theorem scan_eq_map_top (file : SourceFile) :
    file.scan = ((Item.traitsFrom 0 file.items).filter fun occurrence => occurrence.isTop && occurrence.isTagged).map
      fun occurrence => .ofTrait occurrence.declaration := by
  rw [scan, interfaces, Item.filterMap_trait? file.items 0, List.map_map, List.filter_map, List.filter_filter]
  refine congrArg (List.map _) (List.filter_congr fun occurrence _ => ?_)
  rw [Bool.and_comm]
  rfl

end SourceFile

namespace Documentation
open Text

/-- What may stand before a tag: blanks, and among them at most one asterisk. -/
inductive Indent : List Char → Prop where
  | blanks {before} (blank : ∀ c ∈ before, isBlank c = true) : Indent before
  | starred {before after} (blank : ∀ c ∈ before ++ after, isBlank c = true) : Indent (before ++ '*' :: after)

/-- A line that names an HTTP method: an `@`, the name, and no more of a word. -/
inductive NamesMethod : String → Prop where
  | intro {before after : List Char} {method : HttpMethod} (indent : Indent before)
      (ends : ∀ c ∈ after.head?, isWordCharacter c = false) :
      NamesMethod (String.ofList (before ++ '@' :: (method.name.toList ++ after)))

theorem plainLine_indented {before : List Char} (indent : Indent before) (rest : List Char) :
    plainLine (before ++ '@' :: rest) = '@' :: trimEnd rest := by
  have shown : isBlank '@' = false := by decide
  have star : isBlank '*' = false := by decide
  unfold plainLine
  cases indent with
  | blanks blank =>
    have kept : trimEnd ('@' :: rest) = '@' :: trimEnd rest := trimEnd_append shown [] rest
    rw [trimStart_append blank, trimStart_cons shown, kept]
    rfl
  | @starred first second blank =>
    obtain ⟨leading, inner⟩ := List.forall_mem_append.mp blank
    have kept : trimEnd ('*' :: (second ++ '@' :: rest)) = '*' :: (second ++ '@' :: trimEnd rest) :=
      trimEnd_append shown ('*' :: second) rest
    rw [List.append_assoc, trimStart_append leading, List.cons_append, trimStart_cons star, kept]
    simp only [trimStart_append inner, trimStart_cons shown]

theorem exists_of_plainLine {line rest : List Char} (plain : plainLine line = '@' :: rest) :
    ∃ before after, line = before ++ '@' :: (rest ++ after) ∧ Indent before ∧ ∀ c ∈ after, isBlank c = true := by
  obtain ⟨first, start, leading⟩ := exists_trimStart_append line
  obtain ⟨last, finish, trailing⟩ := exists_trimEnd_append (trimStart line)
  unfold plainLine at plain
  split at plain
  next inner starts =>
    obtain ⟨second, restart, blank⟩ := exists_trimStart_append inner
    rw [plain] at restart
    refine ⟨first ++ '*' :: second, last, ?_, .starred (List.forall_mem_append.mpr ⟨leading, blank⟩), trailing⟩
    rw [start, finish, starts, restart]
    simp
  next =>
    refine ⟨first, last, ?_, .blanks leading, trailing⟩
    rw [start, finish, plain]
    simp

theorem exists_method_of_isEndpointTag {rest : List Char}
    (recognised : isEndpointTag (String.ofList ('@' :: rest)) = true) :
    ∃ (method : HttpMethod) (after : List Char), rest = method.name.toList ++ after ∧
      ∀ c ∈ after.head?, isWordCharacter c = false := by
  obtain ⟨name, among, starts⟩ := List.any_eq_true.mp recognised
  obtain ⟨method, rfl⟩ : ∃ method : HttpMethod, name = "@" ++ method.name := by
    simp only [List.mem_cons, List.not_mem_nil, or_false] at among
    rcases among with rfl | rfl | rfl | rfl
    exacts [⟨.get, rfl⟩, ⟨.post, rfl⟩, ⟨.put, rfl⟩, ⟨.delete, rfl⟩]
  rw [startsWithWord, Bool.and_eq_true, String.toList_ofList, String.toList_append] at starts
  obtain ⟨starts, ends⟩ := starts
  obtain ⟨after, spelled⟩ := List.isPrefixOf_iff_prefix.mp starts
  rw [← spelled, List.drop_left, Bool.not_eq_true'] at ends
  refine ⟨method, after, (List.cons.inj spelled).2.symm, fun c first => ?_⟩
  simpa [Option.mem_def.mp first] using ends

theorem trimEnd_name (method : HttpMethod) (after : List Char) :
    trimEnd (method.name.toList ++ after) = method.name.toList ++ trimEnd after := by
  have shown : isBlank 'T' = false ∧ isBlank 'E' = false := by decide
  cases method with
  | get => exact trimEnd_append shown.1 ['G', 'E'] after
  | post => exact trimEnd_append shown.1 ['P', 'O', 'S'] after
  | put => exact trimEnd_append shown.1 ['P', 'U'] after
  | delete => exact trimEnd_append shown.2 ['D', 'E', 'L', 'E', 'T'] after

theorem any_isEndpointTag_iff {line : String} : (tag? line).any isEndpointTag = true ↔ NamesMethod line := by
  constructor
  · intro recognised
    unfold tag? at recognised
    split at recognised
    next rest plain =>
      obtain ⟨method, after, rfl, ends⟩ := exists_method_of_isEndpointTag recognised
      obtain ⟨before, blanks, spelled, indent, blank⟩ := exists_of_plainLine plain
      rw [← @String.ofList_toList line, spelled, List.append_assoc]
      exact .intro indent (head?_append_blanks (List.all_eq_true.mpr blank) ends)
    next => cases recognised
  · rintro @⟨before, after, method, indent, ends⟩
    have kept : ∀ c ∈ (trimEnd after).head?, isWordCharacter c = false := by
      obtain ⟨blanks, whole, _⟩ := exists_trimEnd_append after
      intro c first
      refine ends c ?_
      rw [whole, List.head?_append, Option.mem_def.mp first]
      rfl
    simp only [tag?, String.toList_ofList, plainLine_indented indent, trimEnd_name, Option.any_some]
    exact isEndpointTag_of_starts String.toList_ofList kept

end Documentation

theorem Interface.isTagged_iff (interface : Interface) :
    interface.isTagged = true ↔ ∃ line ∈ interface.documentation.lines, Documentation.NamesMethod line := by
  rw [isTagged, Documentation.hasEndpointTag, Documentation.tags, List.any_filterMap, List.any_eq_true]
  exact exists_congr fun line => and_congr_right fun _ => Documentation.any_isEndpointTag_iff

/-- A search accounts for each trait of a source file once: it yields those at the top that are tagged, and reports
the others at the top and the tagged ones in modules, all in their order. -/
theorem SourceFile.scan_accounts :
    (∀ file : SourceFile, ∃ found, Occurrence.Listed file.items found ∧
      file.scan = (found.filter fun occurrence => occurrence.isTop && occurrence.isTagged).map
        (fun occurrence => .ofTrait occurrence.declaration) ∧
      file.scanEvents = found.filterMap Occurrence.event?) ∧
    (∀ attributes visibility isUnsafe name content, ∃ found, Occurrence.Listed content found ∧
      (Item.module attributes visibility isUnsafe name (some content)).skippedCount = found.countP (·.isTagged)) ∧
    ∀ declaration, (Interface.ofTrait declaration).isTagged = true ↔
      ∃ line ∈ (Interface.ofTrait declaration).documentation.lines, Documentation.NamesMethod line := by
  refine ⟨fun file => ⟨_, Item.listed_traitsFrom file.items, file.scan_eq_map_top, Item.flatMap_scanEvents file.items 0⟩, ?_,
    fun declaration => (Interface.ofTrait declaration).isTagged_iff⟩
  intro _ _ _ _ content
  exact ⟨_, Item.listed_traitsFrom content, Item.skippedCountAll_eq content 0⟩

end Endpoints
