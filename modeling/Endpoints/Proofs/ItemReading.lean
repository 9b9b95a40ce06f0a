import Endpoints.Item.Source
import Endpoints.Proofs.HeaderReading

/-! Generated items are read one by one: what follows an item has no effect on what it is read as. -/

namespace Endpoints
open Reader

/-- An item that is read as the same item, and as no part of anything else, whatever follows it. -/
structure Item.StandsAlone (grammar : Grammar) (written : Item) : Prop where
  settled : Settled (fun rest => item grammar (written.tokens ++ rest)) []
  filled : ∀ rest, (written.tokens ++ rest).isEmpty = false
  opens : ∀ rest, startsInnerAttribute (written.tokens ++ rest) = false

theorem itemAfter_of_error {grammar : Grammar} {inner : Reader Item} {attributes : List Attribute} {tokens : Tokens}
    {error : ReadError} (fails : visibility tokens = .error error) :
    itemAfter grammar inner attributes tokens = .error error :=
  bind_of_ok rfl (bind_of_error fails)

/-- An item stands alone when what is read after its attributes and its visibility does. -/
theorem Item.standsAlone_of {written : Item} {depth : Nat} {attributes : List Attribute}
    (outer : ∀ mark ∈ attributes, mark.inner = false) {visible : Visibility} (isRead : visible.IsRead)
    {keyword : String} (other : keyword ≠ "pub") {more : Tokens}
    (spelled : written.tokens = attributesTokens attributes ++ (visible.tokens ++ .ident keyword :: more))
    (follows : ∀ (inner : Tokens → Reader Item) (before : List Attribute) (found : Visibility)
      (start : Tokens → Tokens), (∀ rest, visibility (start rest) = .ok (found, .ident keyword :: (more ++ rest))) →
      Settled (fun rest => itemAfter (.ofDepth (depth + 1)) (inner rest) before (start rest)) []) :
    written.StandsAlone (.ofDepth (depth + 1)) := by
  obtain ⟨first, others, starts⟩ : ∃ first others,
      visible.tokens ++ .ident keyword :: more = .ident first :: others := by
    match visible with
    | .inherited => exact ⟨_, _, rfl⟩
    | .everywhere => exact ⟨_, _, rfl⟩
    | .inside _ _ => exact ⟨_, _, rfl⟩
  constructor
  · have attributesRead := settled_outerAttributes (Grammar.ofDepth (depth + 1)).nested outer first others
    -- the fuel for the items of a module counts all tokens, so the reader for them depends on the rest
    have after (inner : Tokens → Reader Item) (before : List Attribute) :
        Settled (fun rest => itemAfter (.ofDepth (depth + 1)) (inner rest) before (.ident first :: others ++ rest)) [] := by
      simp only [← starts, List.append_assoc, List.cons_append]
      cases settled_visibility isRead other more with
      | taken found reads => exact follows inner before found _ reads
      | refused fails =>
        refine .refused fun rest => ?_
        obtain ⟨error, failed⟩ := fails rest
        exact ⟨error, itemAfter_of_error failed⟩
    rw [spelled, starts]
    simp only [List.append_assoc]
    exact attributesRead.bind fun before _ => after (fun rest => itemFuel _ (Tokens.count
      (attributesTokens attributes ++ (.ident first :: others ++ rest)))) before
  · intro rest
    rw [spelled, starts]
    simp
  · intro rest
    rw [spelled, starts]
    match attributes with
    | [] => rfl
    | mark :: _ =>
      rw [attributesTokens, List.flatMap_cons, Attribute.tokens, outer mark List.mem_cons_self]
      rfl

namespace Builder

section
variable (endpoint : Endpoint) (runtime : Path) (depth : Nat)

theorem standsAlone_declaration (isRead : endpoint.visibility.IsRead) (isName : IsName endpoint.builderName) :
    (Item.structure (declaration endpoint runtime)).StandsAlone (.ofDepth (depth + 1)) := by
  have outer : ∀ mark ∈ (declaration endpoint runtime).attributes, mark.inner = false := by
    simp [declaration, structDocumentation, documented, allowing]
  let body := Tokens.commaList ((declaration endpoint runtime).fields.items.map Field.tokens) true
  have spelled : (Item.structure (declaration endpoint runtime)).tokens =
      attributesTokens (declaration endpoint runtime).attributes ++ (endpoint.visibility.tokens
        ++ .ident "struct" :: [.ident endpoint.builderName, .group .brace body]) := by
    simp only [Item.tokens, StructureDeclaration.tokens, List.append_assoc]
    rfl
  refine Item.standsAlone_of outer isRead (by decide) spelled fun inner before found start opens => ?_
  refine .after (fun _ => rfl) ?_
  refine .after opens ?_
  refine .after (fun _ => rfl) ?_
  exact settled_structure _ before found isName body

theorem standsAlone_implementation {ofTrait : Option Path} {attributes : List Attribute}
    (functions : List FunctionDeclaration) (outer : ∀ mark ∈ attributes, mark.inner = false)
    (isName : IsName endpoint.builderName) (heads : ∀ path ∈ ofTrait, HeadsImplementation path.tokens) :
    (Item.implementation (implementing endpoint ofTrait attributes functions)).StandsAlone (.ofDepth (depth + 1)) := by
  have onlyOuter : outerOnly attributes = attributesTokens attributes := by
    rw [outerOnly, List.filter_eq_self.mpr fun mark member => by rw [outer mark member]; rfl]
  let body := innerOnly attributes
    ++ (implementing endpoint ofTrait attributes functions).items.flatMap ImplementationItem.tokens
  cases ofTrait with
  | none =>
    have spelled : (Item.implementation (implementing endpoint none attributes functions)).tokens =
        attributesTokens attributes ++ (Visibility.inherited.tokens
          ++ .ident "impl" :: ([.ident endpoint.builderName] ++ (forType none ++ [.group .brace body]))) := by
      rw [← onlyOuter]
      simp only [Item.tokens, Implementation.tokens, List.append_assoc]
      rfl
    refine Item.standsAlone_of outer (by trivial) (by decide) spelled fun inner before found start opens => ?_
    have untargeted : ∀ name ∈ (none : Option String), IsName name := by simp
    refine .after (fun _ => rfl) ?_
    refine .after opens ?_
    refine .after (fun _ => rfl) ?_
    exact settled_implementation depth before found isName.headsImplementation untargeted body
  | some path =>
    have spelled : (Item.implementation (implementing endpoint (some path) attributes functions)).tokens =
        attributesTokens attributes ++ (Visibility.inherited.tokens ++ .ident "impl" ::
          (path.tokens ++ (forType (some endpoint.builderName) ++ [.group .brace body]))) := by
      rw [← onlyOuter]
      simp only [Item.tokens, Implementation.tokens, implementing, Option.map_some, List.append_assoc]
      rfl
    refine Item.standsAlone_of outer (by trivial) (by decide) spelled fun inner before found start opens => ?_
    have targeted : ∀ name ∈ some endpoint.builderName, IsName name := by simpa using isName
    have opened (rest : Tokens) : visibility (start rest) = .ok (found, .ident "impl" ::
        (path.tokens ++ (forType (some endpoint.builderName) ++ .group .brace body :: rest))) := by
      simpa using opens rest
    refine .after (fun _ => rfl) ?_
    refine .after opened ?_
    refine .after (fun _ => rfl) ?_
    exact settled_implementation depth before found (heads path rfl) targeted body

theorem standsAlone_constructor {name : String} (isRead : endpoint.visibility.IsRead) (isName : IsName name)
    (outputs : IsName endpoint.builderName) :
    (Item.function (constructor endpoint name)).StandsAlone (.ofDepth (depth + 1)) := by
  have outer : ∀ mark ∈ (constructor endpoint name).attributes, mark.inner = false := by
    simp [constructor, function, constructorDocumentation, documented, allowing]
  let body := (constructor endpoint name).body
  have spelled : (Item.function (constructor endpoint name)).tokens =
      attributesTokens (constructor endpoint name).attributes ++ (endpoint.visibility.tokens ++ .ident "fn" ::
        [.ident name, .group .parenthesis [], .punct '-' .joint, .punct '>' .alone, .ident endpoint.builderName,
          .group .brace body]) := by
    simp only [Item.tokens, FunctionDeclaration.tokens, List.append_assoc]
    rfl
  refine Item.standsAlone_of outer isRead (by decide) spelled fun inner before found start opens => ?_
  refine .after (fun _ => rfl) ?_
  refine .after opens ?_
  refine .after (fun _ => rfl) ?_
  exact settled_function depth before found isName outputs body

theorem standsAlone_callbackTrait {callback : String} (response : Ty) (isRead : endpoint.visibility.IsRead)
    (isName : IsName callback) :
    (Item.trait (callbackTrait endpoint callback response)).StandsAlone (.ofDepth (depth + 1)) := by
  have outer : ∀ mark ∈ (callbackTrait endpoint callback response).attributes, mark.inner = false := by
    simp [callbackTrait, documented]
  let body := (callbackTrait endpoint callback response).items.flatMap TraitItem.tokens
  have spelled : (Item.trait (callbackTrait endpoint callback response)).tokens =
      attributesTokens (callbackTrait endpoint callback response).attributes ++ (endpoint.visibility.tokens
        ++ .ident "trait" :: (.ident callback :: (Tokens.operator ":" ++ std ["marker", "Send"]
          ++ [.group .brace body]))) := by
    simp only [Item.tokens, TraitDeclaration.tokens, List.append_assoc]
    rfl
  refine Item.standsAlone_of outer isRead (by decide) spelled fun inner before found start opens => ?_
  refine .after (fun _ => rfl) ?_
  refine .after opens ?_
  refine .after (fun _ => rfl) ?_
  exact settled_trait depth before isName body (fun rest => by simpa using opens rest)

end

end Builder

/-! Files of items -/

theorem Reader.toOption_run {α : Type} (reader : Reader α) (tokens : Tokens) :
    (reader.run tokens).toOption = (reader tokens).toOption.bind fun found =>
      if found.2.isEmpty then some found.1 else none := by
  unfold Reader.run
  cases reader tokens with
  | error error => rfl
  | ok found =>
    obtain ⟨value, left⟩ := found
    cases left <;> rfl

theorem Grammar.exists_full : ∃ depth, full = ofDepth (depth + 1) := ⟨deepest - 1, rfl⟩

/-- What an item is read as when it is all that there is. -/
def Item.reread? (self : Item) : Option Item := (item Grammar.full).alone? self.tokens

theorem SourceFile.toOption_ofTokens {items : List Item} (alone : ∀ item ∈ items, item.StandsAlone Grammar.full) :
    (ofTokens (itemsTokens items)).toOption = (items.mapM Item.reread?).map (SourceFile.mk []) := by
  have settled : ∀ part ∈ items.map Item.tokens, Settled (fun rest => item Grammar.full (part ++ rest)) [] := by
    intro part member
    obtain ⟨item, among, rfl⟩ := List.mem_map.mp member
    exact (alone item among).settled
  have goes : ∀ part ∈ items.map Item.tokens, ∀ rest : Tokens, (!(part ++ rest).isEmpty) = true := by
    intro part member rest
    obtain ⟨item, among, rfl⟩ := List.mem_map.mp member
    rw [(alone item among).filled rest]
    rfl
  have all : (Reader.all (item Grammar.full) ((items.map Item.tokens).flatten ++ [])).toOption =
      ((items.map Item.tokens).mapM (item Grammar.full).alone?).map (·, []) := whileAhead_parts settled goes rfl
  have one : (items.map Item.tokens).mapM (item Grammar.full).alone? = items.mapM Item.reread? := List.mapM_map ..
  rw [List.append_nil, ← itemsTokens_eq_flatten, one] at all
  have opens : startsInnerAttribute (itemsTokens items) = false := by
    cases items with
    | nil => rfl
    | cons item rest => exact (alone item List.mem_cons_self).opens (itemsTokens rest)
  have noAttributes : innerAttributes Grammar.full.nested (itemsTokens items) = .ok ([], itemsTokens items) :=
    bind_of_ok (ahead_of opens) rfl
  rw [ofTokens, Tokens.readAll, toOption_run, sourceFile, bind_of_ok noAttributes rfl, toOption_bind, all]
  cases items.mapM Item.reread? <;> rfl

end Endpoints
