import Endpoints.Builder.Source
import Endpoints.Proofs.FileLayout
import Endpoints.Proofs.ItemReading
import Endpoints.Proofs.NamedItems
import Endpoints.Proofs.ReadTraits

/-! A generated file is put together of what is generated for each of its traits alone: the code for all traits is
read and laid out as one file, and neither looks past the end of an item. -/

namespace Endpoints

/-! Names of generated items -/

theorem isName_of_suffix (name : String) : IsName (name ++ "Impl") := by
  have none : ∀ keyword ∈ Tokens.keywords, ¬ "Impl".toList <:+ keyword.toList := by decide
  refine Bool.eq_false_iff.mpr fun reserved => none _ (List.contains_iff_mem.mp reserved) ?_
  rw [String.toList_append]
  exact List.suffix_append ..

theorem isName_of_prefix (name : String) : IsName ("new_" ++ name) := by
  have none : ∀ keyword ∈ Tokens.keywords, ¬ "new_".toList <+: keyword.toList := by decide
  refine Bool.eq_false_iff.mpr fun reserved => none _ (List.contains_iff_mem.mp reserved) ?_
  rw [String.toList_append]
  exact List.prefix_append ..

theorem isName_of_readName {text name : String} (read : readName text = .ok name) : IsName name := by
  obtain ⟨tokens, -, grammar, found⟩ := exists_tokens_of_readText read
  exact isName_of_name found

namespace SourceFile

def endpointTraits (found : SourceFile) : List TraitDeclaration :=
  (found.items.filterMap Item.trait?).filter fun declaration => (Interface.ofTrait declaration).isTagged

theorem scan_eq (found : SourceFile) : found.scan = found.endpointTraits.map .ofTrait := by
  rw [scan, interfaces, endpointTraits, List.filter_map]
  rfl

theorem mem_of_endpointTraits (found : SourceFile) {declaration : TraitDeclaration}
    (member : declaration ∈ found.endpointTraits) : .trait declaration ∈ found.items := by
  obtain ⟨item, among, same⟩ := List.mem_filterMap.mp (List.mem_of_mem_filter member)
  unfold Item.trait? at same
  split at same
  · obtain rfl := Option.some.inj same
    exact among
  · cases same

end SourceFile

namespace Builder

theorem standsAlone_of_built {declaration : TraitDeclaration} {endpoint : Endpoint} (runtime : Path)
    (isRead : declaration.IsRead) (built : Endpoint.ofInterface (.ofTrait declaration) = .ok endpoint) :
    ∀ item ∈ allItems runtime endpoint, item.StandsAlone Grammar.full := by
  obtain ⟨depth, full⟩ := Grammar.exists_full
  obtain ⟨-, -, -, -, sameName, sameVisibility⟩ := Endpoint.ofInterface_eq_ok_iff.mp built
  have visible : endpoint.visibility.IsRead := sameVisibility ▸ isRead.visible
  have named : IsName endpoint.name := sameName ▸ isRead.isName
  have builder : IsName endpoint.builderName := isName_of_suffix _
  have constructs : IsName (constructorName endpoint) := isName_of_prefix _
  rw [full]
  refine forall_mem_allItems ?callback ?builder ?own ?default ?free ?interface
  case callback =>
    intro callback response async _
    obtain ⟨text, read⟩ := Endpoint.readName_of_callback built async
    exact standsAlone_callbackTrait endpoint depth response visible (isName_of_readName read)
  case builder => exact standsAlone_declaration endpoint runtime depth visible builder
  case own => exact standsAlone_implementation endpoint depth _ (by simp) builder (by simp)
  case default =>
    exact standsAlone_implementation endpoint depth _ (by simp) builder (by simpa using headsImplementation_default)
  case free => exact standsAlone_constructor endpoint depth visible constructs builder
  case interface =>
    have heads : ∀ path ∈ some (Path.ofName endpoint.name), HeadsImplementation path.tokens := by
      intro path same
      obtain rfl := Option.some.inj same
      exact named.headsImplementation
    exact standsAlone_implementation endpoint depth _ (by simp [allowing]) builder heads

/-! Files of items -/

def lines? (item : Item) : Option String :=
  item.reread?.bind fun read => (Layout.itemLines (Layout.keptTo Grammar.deepest) read).toOption

theorem toOption_file (tokens : Tokens) :
    (file tokens).toOption = (SourceFile.ofTokens tokens).toOption.bind fun found =>
      (Layout.render (Layout.fileDocs (Layout.keptTo Grammar.deepest) found)).toOption.map (banner ++ ·) := by
  have laid : Layout.file tokens = (SourceFile.ofTokens tokens).map fun found =>
      Layout.render (Layout.fileDocs (Layout.keptTo Grammar.deepest) found) := rfl
  rw [file, laid]
  cases SourceFile.ofTokens tokens with
  | error error => rfl
  | ok found =>
    have read : (Except.ok found : Except ReadError SourceFile).toOption = some found := rfl
    rw [Except.map, read, Option.bind_some]
    cases Layout.render (Layout.fileDocs (Layout.keptTo Grammar.deepest) found) <;> rfl

theorem toOption_file_items {items : List Item} (alone : ∀ item ∈ items, item.StandsAlone Grammar.full) :
    (file (itemsTokens items)).toOption = (items.mapM lines?).map fun lines => banner ++ String.join lines := by
  have each : items.mapM lines? = (items.mapM Item.reread?).bind fun read =>
      read.mapM fun item => (Layout.itemLines (Layout.keptTo Grammar.deepest) item).toOption := Checks.mapM_bind ..
  rw [toOption_file, SourceFile.toOption_ofTokens alone, each]
  cases items.mapM Item.reread? with
  | none => rfl
  | some read =>
    rw [Option.map_some, Option.bind_some, Option.bind_some, Layout.render_items, ← Checks.toOption_mapM]
    cases read.mapM (Layout.itemLines (Layout.keptTo Grammar.deepest)) <;> rfl

theorem file_append_eq_ok_iff {first second : List Item} (alone : ∀ item ∈ first, item.StandsAlone Grammar.full)
    (others : ∀ item ∈ second, item.StandsAlone Grammar.full) {code : String} :
    file (itemsTokens first ++ itemsTokens second) = .ok code ↔
      ∃ one other, file (itemsTokens first) = .ok (banner ++ one) ∧
        file (itemsTokens second) = .ok (banner ++ other) ∧ code = banner ++ (one ++ other) := by
  have both : ∀ item ∈ first ++ second, item.StandsAlone Grammar.full := by
    intro item among
    exact (List.mem_append.mp among).elim (alone item) (others item)
  have told {items : List Item} (alone : ∀ item ∈ items, item.StandsAlone Grammar.full) (text : String) :
      file (itemsTokens items) = .ok (banner ++ text) ↔ ∃ lines, items.mapM lines? = some lines ∧ String.join lines = text := by
    rw [← Checks.toOption_eq_some_iff, toOption_file_items alone, Option.map_eq_some_iff]
    simp only [String.append_right_inj]
  rw [← itemsTokens_append, ← Checks.toOption_eq_some_iff, toOption_file_items both, Option.map_eq_some_iff]
  simp only [told alone, told others, List.mapM_append, Option.bind_eq_bind, Option.bind_eq_some_iff]
  constructor
  · rintro ⟨_, ⟨lines, found, more, foundToo, same⟩, rfl⟩
    obtain rfl := Option.some.inj same
    exact ⟨_, _, ⟨lines, found, rfl⟩, ⟨more, foundToo, rfl⟩, by rw [String.join_append]⟩
  · rintro ⟨_, _, ⟨lines, found, rfl⟩, ⟨more, foundToo, rfl⟩, rfl⟩
    exact ⟨_, ⟨lines, found, more, foundToo, rfl⟩, by rw [String.join_append]⟩

/-! Generation trait by trait -/

/-- The name of the free constructor for a trait is an identifier. -/
def CanConstruct (declaration : TraitDeclaration) : Prop :=
  Text.isIdentifier ("new_" ++ Text.SnakeCase.convert declaration.name) = true

section
variable {runtime : Path} {declaration : TraitDeclaration}

theorem constructorName_of_built {endpoint : Endpoint}
    (built : Endpoint.ofInterface (.ofTrait declaration) = .ok endpoint) :
    constructorName endpoint = "new_" ++ Text.SnakeCase.convert declaration.name := by
  obtain ⟨-, -, -, -, sameName, -⟩ := Endpoint.ofInterface_eq_ok_iff.mp built
  rw [constructorName, sameName]
  rfl

/-- Of the endpoints that are named by identifiers, those with raw names are the ones that cannot be constructed. -/
theorem canConstruct_iff_bare {endpoint : Endpoint} (built : Endpoint.ofInterface (.ofTrait declaration) = .ok endpoint)
    (named : Text.isIdentifier (Endpoint.bareName declaration.name) = true) :
    CanConstruct declaration ↔ Endpoint.bareName declaration.name = declaration.name := by
  have same : endpoint.name = declaration.name := (Endpoint.ofInterface_eq_ok_iff.mp built).2.2.2.2.1
  rw [CanConstruct, ← constructorName_of_built built, ← same]
  exact isIdentifier_constructorName_iff (same ▸ named)

theorem ofTrait_eq_ok_iff {part : Tokens} :
    ofTrait declaration runtime = .ok part ↔
      ∃ endpoint, Endpoint.ofInterface (.ofTrait declaration) = .ok endpoint ∧ CanConstruct declaration ∧
        itemsTokens (allItems runtime endpoint) = part := by
  simp only [ofTrait, ofInterface, Checks.bind_eq_ok_iff, Checks.mapError_eq_ok_iff]
  refine exists_congr fun endpoint => and_congr_right fun built => ?_
  rw [tokens, Checks.require_eq_ok_iff, CanConstruct, ← constructorName_of_built built, Except.ok.injEq]
  rfl

theorem ofInterfaces_eq_ok_iff {declarations : List TraitDeclaration} {generated : Tokens} :
    ofInterfaces runtime (declarations.map .ofTrait) = .ok generated ↔
      ∃ parts, List.Forall₂ (fun declaration part => ofTrait declaration runtime = .ok part) declarations parts ∧
        generated = parts.flatten := by
  induction declarations generalizing generated with
  | nil => simp [ofInterfaces, eq_comm]
  | cons declaration rest ih =>
    simp only [List.map_cons, ofInterfaces, Checks.bind_eq_ok_iff, Checks.pure_eq_ok_iff, ih,
      List.forall₂_cons_left_iff]
    constructor
    · rintro ⟨first, one, _, ⟨parts, others, rfl⟩, rfl⟩
      exact ⟨first :: parts, ⟨first, parts, one, others, rfl⟩, rfl⟩
    · rintro ⟨_, ⟨first, parts, one, others, rfl⟩, rfl⟩
      exact ⟨first, one, _, ⟨parts, others, rfl⟩, rfl⟩

theorem ofInterfaces_eq_error {before after : List TraitDeclaration} {error : GenerationError}
    (accepted : ∀ earlier ∈ before, ∃ part, ofTrait earlier runtime = .ok part)
    (refused : ofTrait declaration runtime = .error error) :
    ofInterfaces runtime ((before ++ declaration :: after).map .ofTrait) = .error error := by
  induction before with
  | nil =>
    have first : ofInterface (.ofTrait declaration) runtime = .error error := refused
    simp [ofInterfaces, first]
  | cons earlier rest ih =>
    obtain ⟨⟨part, one⟩, others⟩ := List.forall_mem_cons.mp accepted
    have first : ofInterface (.ofTrait earlier) runtime = .ok part := one
    rw [List.cons_append, List.map_cons, ofInterfaces, first, ih others]
    rfl

/-- Of traits that are endpoints, all can be constructed, or the first that cannot be is refused for its name. -/
theorem canConstruct_or_unnamed {before : List TraitDeclaration} (after : List TraitDeclaration)
    (accepted : ∀ earlier ∈ before, ∃ endpoint, Endpoint.ofInterface (.ofTrait earlier) = .ok endpoint) :
    (∀ earlier ∈ before, CanConstruct earlier) ∨
      ∃ name, ofInterfaces runtime ((before ++ after).map .ofTrait) = .error (.constructorName name) := by
  induction before with
  | nil => simp
  | cons earlier rest ih =>
    obtain ⟨⟨endpoint, built⟩, others⟩ := List.forall_mem_cons.mp accepted
    by_cases constructs : CanConstruct earlier
    · rcases ih others with all | ⟨name, unnamed⟩
      · exact .inl (List.forall_mem_cons.mpr ⟨constructs, all⟩)
      · have first : ofInterface (.ofTrait earlier) runtime = .ok (itemsTokens (allItems runtime endpoint)) :=
          ofTrait_eq_ok_iff.mpr ⟨endpoint, built, constructs, rfl⟩
        refine .inr ⟨name, ?_⟩
        rw [List.cons_append, List.map_cons, ofInterfaces, first, unnamed]
        rfl
    · refine .inr ⟨constructorName endpoint, ?_⟩
      have first : ofInterface (.ofTrait earlier) runtime = .error (.constructorName (constructorName endpoint)) := by
        rw [CanConstruct, ← constructorName_of_built built] at constructs
        rw [← ofTrait, ofTrait_of_built runtime built, tokens, if_neg constructs]
      rw [List.cons_append, List.map_cons, ofInterfaces, first]
      rfl

theorem exists_items_of_generated {part : Tokens} (isRead : declaration.IsRead)
    (generated : ofTrait declaration runtime = .ok part) :
    ∃ items, part = itemsTokens items ∧ ∀ item ∈ items, item.StandsAlone Grammar.full := by
  obtain ⟨endpoint, built, -, rfl⟩ := ofTrait_eq_ok_iff.mp generated
  exact ⟨_, rfl, standsAlone_of_built runtime isRead built⟩

theorem exists_items_of_flatten {declarations : List TraitDeclaration} {parts : List Tokens}
    (isRead : ∀ declaration ∈ declarations, declaration.IsRead)
    (generated : List.Forall₂ (fun declaration part => ofTrait declaration runtime = .ok part) declarations parts) :
    ∃ items, parts.flatten = itemsTokens items ∧ ∀ item ∈ items, item.StandsAlone Grammar.full := by
  induction generated with
  | nil => exact ⟨[], rfl, by simp⟩
  | cons first _ ih =>
    obtain ⟨readFirst, readOthers⟩ := List.forall_mem_cons.mp isRead
    obtain ⟨items, rfl, alone⟩ := exists_items_of_generated readFirst first
    obtain ⟨more, same, others⟩ := ih readOthers
    refine ⟨items ++ more, by rw [List.flatten_cons, same, itemsTokens_append], fun item among => ?_⟩
    exact (List.mem_append.mp among).elim (alone item) (others item)

theorem file_flatten_eq_ok_iff {declarations : List TraitDeclaration} {parts : List Tokens}
    (isRead : ∀ declaration ∈ declarations, declaration.IsRead)
    (generated : List.Forall₂ (fun declaration part => ofTrait declaration runtime = .ok part) declarations parts)
    {code : String} :
    file parts.flatten = .ok code ↔
      ∃ texts, List.Forall₂ (fun part text => file part = .ok (banner ++ text)) parts texts ∧
        code = banner ++ String.join texts := by
  induction generated generalizing code with
  | nil =>
    have alone : ∀ item ∈ ([] : List Item), item.StandsAlone Grammar.full := by simp
    have empty : file [] = .ok (banner ++ String.join []) :=
      Checks.toOption_eq_some_iff.mp (toOption_file_items alone)
    simp [empty, eq_comm]
  | cons first generated ih =>
    obtain ⟨readFirst, readOthers⟩ := List.forall_mem_cons.mp isRead
    obtain ⟨items, rfl, alone⟩ := exists_items_of_generated readFirst first
    obtain ⟨more, same, others⟩ := exists_items_of_flatten readOthers generated
    rw [List.flatten_cons, same, file_append_eq_ok_iff alone others, ← same]
    simp only [ih readOthers, List.forall₂_cons_left_iff]
    constructor
    · rintro ⟨one, _, written, ⟨texts, writtenOthers, sameText⟩, rfl⟩
      obtain rfl := (String.append_right_inj banner).mp sameText
      exact ⟨one :: texts, ⟨one, texts, written, writtenOthers, rfl⟩, by rw [String.join_cons]⟩
    · rintro ⟨_, ⟨one, texts, written, writtenOthers, rfl⟩, rfl⟩
      exact ⟨one, _, written, ⟨texts, writtenOthers, rfl⟩, by rw [String.join_cons]⟩

def fileOfTraits (runtime : Path) (declarations : List TraitDeclaration) :
    Except GenerationError (Option String) :=
  (ofInterfaces runtime (declarations.map .ofTrait)).bind fun tokens =>
    if declarations.isEmpty then .ok none else (file tokens).map some

theorem fileOfSource_eq {source : String} {found : SourceFile} (read : SourceFile.read source = .ok found)
    (runtime : Path) : fileOfSource source runtime = fileOfTraits runtime found.endpointTraits := by
  rw [fileOfSource_of_read read runtime, found.scan_eq, List.isEmpty_map]
  rfl

section
variable {declarations before after : List TraitDeclaration}

theorem fileOfTraits_of_error {error : GenerationError}
    (refused : ofInterfaces runtime (declarations.map .ofTrait) = .error error) :
    fileOfTraits runtime declarations = .error error := by
  rw [fileOfTraits, refused]
  rfl

theorem fileOfTraits_of_generated (filled : declarations ≠ []) {parts : List Tokens}
    (generated : List.Forall₂ (fun declaration part => ofTrait declaration runtime = .ok part) declarations parts) :
    fileOfTraits runtime declarations = (file parts.flatten).map some := by
  rw [fileOfTraits, ofInterfaces_eq_ok_iff.mpr ⟨parts, generated, rfl⟩]
  exact if_neg (by simpa using filled)

theorem fileOfTraits_eq_none_iff : fileOfTraits runtime declarations = .ok none ↔ declarations = [] := by
  constructor
  · intro nothing
    by_contra filled
    cases generated : ofInterfaces runtime (declarations.map .ofTrait) with
    | error error => rw [fileOfTraits_of_error generated] at nothing; cases nothing
    | ok tokens =>
      obtain ⟨parts, each, -⟩ := ofInterfaces_eq_ok_iff.mp generated
      rw [fileOfTraits_of_generated filled each, Checks.map_eq_ok_iff] at nothing
      obtain ⟨_, -, none⟩ := nothing
      cases none
  · rintro rfl
    rfl

theorem fileOfTraits_eq_reported_iff {error : EndpointError}
    (accepted : ∀ earlier ∈ before, ∃ endpoint, Endpoint.ofInterface (.ofTrait earlier) = .ok endpoint)
    (fails : Endpoint.ofInterface (.ofTrait declaration) = .error error) :
    fileOfTraits runtime (before ++ declaration :: after) = .error (.endpoint error) ↔
      ∀ earlier ∈ before, CanConstruct earlier := by
  have refused : ofTrait declaration runtime = .error (.endpoint error) := by
    rw [ofTrait, ofInterface, fails]
    rfl
  constructor
  · intro reported
    rcases canConstruct_or_unnamed (declaration :: after) accepted with all | ⟨name, unnamed⟩
    · exact all
    · rw [fileOfTraits_of_error unnamed] at reported
      cases reported
  · intro constructs
    refine fileOfTraits_of_error (ofInterfaces_eq_error (fun earlier among => ?_) refused)
    obtain ⟨endpoint, built⟩ := accepted earlier among
    exact ⟨_, ofTrait_eq_ok_iff.mpr ⟨endpoint, built, constructs earlier among, rfl⟩⟩

theorem fileOfInterface_eq_ok_iff {code : String} :
    fileOfInterface (.ofTrait declaration) runtime = .ok code ↔
      ∃ part, ofTrait declaration runtime = .ok part ∧ file part = .ok code :=
  Checks.bind_eq_ok_iff

theorem fileOfTraits_eq_written_iff (isRead : ∀ declaration ∈ declarations, declaration.IsRead)
    (filled : declarations ≠ []) {code : String} :
    fileOfTraits runtime declarations = .ok (some code) ↔
      ∃ texts, List.Forall₂ (fun declaration text =>
          fileOfInterface (.ofTrait declaration) runtime = .ok (banner ++ text)) declarations texts ∧
        code = banner ++ String.join texts := by
  simp only [fileOfInterface_eq_ok_iff, Checks.forall₂_comp_iff]
  constructor
  · intro written
    cases generated : ofInterfaces runtime (declarations.map .ofTrait) with
    | error error => rw [fileOfTraits_of_error generated] at written; cases written
    | ok tokens =>
      obtain ⟨parts, each, -⟩ := ofInterfaces_eq_ok_iff.mp generated
      rw [fileOfTraits_of_generated filled each, Checks.map_eq_ok_iff] at written
      obtain ⟨_, laidOut, same⟩ := written
      obtain rfl := Option.some.inj same
      obtain ⟨texts, written, same⟩ := (file_flatten_eq_ok_iff isRead each).mp laidOut
      exact ⟨texts, ⟨parts, each, written⟩, same⟩
  · rintro ⟨texts, ⟨parts, each, written⟩, same⟩
    have laidOut : file parts.flatten = .ok code := (file_flatten_eq_ok_iff isRead each).mpr ⟨texts, written, same⟩
    rw [fileOfTraits_of_generated filled each, laidOut]
    rfl

end

end

/-- What is generated for the traits of a file, told from what is generated for each of them alone. -/
structure Composes (runtime : Path) (declarations : List TraitDeclaration)
    (result : Except GenerationError (Option String)) : Prop where
  nothing : result = .ok none ↔ declarations = []
  /-- The first trait for which no code is generated decides what is reported. -/
  refused : ∀ before declaration after error, declarations = before ++ declaration :: after →
    (∀ earlier ∈ before, ∃ part, ofTrait earlier runtime = .ok part) →
    ofTrait declaration runtime = .error error → result = .error error
  /-- The first trait that is no endpoint is reported exactly when the builders of all traits before it can be
  constructed. -/
  reported : ∀ before declaration after error, declarations = before ++ declaration :: after →
    (∀ earlier ∈ before, ∃ endpoint, Endpoint.ofInterface (.ofTrait earlier) = .ok endpoint) →
    Endpoint.ofInterface (.ofTrait declaration) = .error error →
    (result = .error (.endpoint error) ↔ ∀ earlier ∈ before, CanConstruct earlier)
  /-- What is laid out is the code of each trait, one after another. -/
  generated : declarations ≠ [] → ∀ parts,
    List.Forall₂ (fun declaration part => ofTrait declaration runtime = .ok part) declarations parts →
    result = (file parts.flatten).map some
  /-- The file is written exactly when it is for each trait alone, and joins these behind one banner. -/
  written : declarations ≠ [] → ∀ code, result = .ok (some code) ↔
    ∃ texts, List.Forall₂ (fun declaration text =>
        fileOfInterface (.ofTrait declaration) runtime = .ok (banner ++ text)) declarations texts ∧
      code = banner ++ String.join texts

theorem fileOfSource_composes (source : String) (runtime : Path) (found : SourceFile)
    (read : SourceFile.read source = .ok found) :
    found.scan = found.endpointTraits.map .ofTrait ∧
      Composes runtime found.endpointTraits (fileOfSource source runtime) := by
  have isRead : ∀ declaration ∈ found.endpointTraits, declaration.IsRead := by
    intro declaration member
    exact SourceFile.isRead_of_trait read (found.mem_of_endpointTraits member)
  rw [fileOfSource_eq read]
  refine ⟨found.scan_eq, fileOfTraits_eq_none_iff, ?_, ?_, ?_, ?_⟩
  · intro before declaration after error same accepted refused
    rw [same]
    exact fileOfTraits_of_error (ofInterfaces_eq_error accepted refused)
  · intro before declaration after error same accepted fails
    rw [same]
    exact fileOfTraits_eq_reported_iff accepted fails
  · intro filled parts each
    exact fileOfTraits_of_generated filled each
  · intro filled code
    exact fileOfTraits_eq_written_iff isRead filled

/-- A source with an endpoint of a given name and an untagged trait, before a tagged trait with given methods. -/
def threeTraits (name methods : String) : String :=
  "/// @GET(\"/\")\ntrait " ++ name ++ "\x7b/// @SYNC(\"T\")\nfn r(self)->Result<T,E>;\x7dtrait U\x7b\x7d" ++
    "/// @GET(\"/\")\ntrait B\x7b" ++ methods ++ "\x7d"

/-- A source that is read as a file with two tagged traits. -/
structure TwoTagged (source : String) (found : SourceFile) (first second : TraitDeclaration) : Prop where
  read : SourceFile.read source = .ok found
  tagged : found.endpointTraits = [first, second]

theorem exists_twoTagged (source : String) (property : TraitDeclaration → TraitDeclaration → Prop)
    [∀ first second, Decidable (property first second)]
    (evaluated : ((SourceFile.read source).toOption.any fun found =>
      match found.endpointTraits with
      | [first, second] => decide (property first second)
      | _ => false) = true) :
    ∃ found first second, TwoTagged source found first second ∧ property first second := by
  cases read : SourceFile.read source with
  | error error => simp [read, Except.toOption] at evaluated
  | ok found =>
    simp only [read, Except.toOption, Option.any_some] at evaluated
    split at evaluated
    next first second tagged => exact ⟨found, first, second, ⟨read, tagged⟩, of_decide_eq_true evaluated⟩
    next => cases evaluated

theorem two_endpoints_composed :
    ∃ found first second one other,
      TwoTagged (threeTraits "A" "/// @SYNC(\"T\")\nfn r(self)->Result<T,E>;") found first second ∧
      ofTrait first defaultRuntime = .ok one ∧ ofTrait second defaultRuntime = .ok other ∧
      fileOfSource (threeTraits "A" "/// @SYNC(\"T\")\nfn r(self)->Result<T,E>;") defaultRuntime =
        (file (one ++ other)).map some := by
  obtain ⟨found, first, second, two, made, madeToo⟩ := exists_twoTagged
    (threeTraits "A" "/// @SYNC(\"T\")\nfn r(self)->Result<T,E>;")
    (fun first second => (ofTrait first defaultRuntime).toOption.isSome = true ∧
      (ofTrait second defaultRuntime).toOption.isSome = true) (by decide +kernel)
  obtain ⟨one, made⟩ := Option.isSome_iff_exists.mp made
  obtain ⟨other, madeToo⟩ := Option.isSome_iff_exists.mp madeToo
  rw [Checks.toOption_eq_some_iff] at made madeToo
  obtain ⟨-, composed⟩ := fileOfSource_composes (threeTraits "A" "/// @SYNC(\"T\")\nfn r(self)->Result<T,E>;")
    defaultRuntime found two.read
  rw [two.tagged] at composed
  refine ⟨found, first, second, one, other, two, made, madeToo, ?_⟩
  simpa using composed.generated nofun [one, other] (.cons made (.cons madeToo .nil))

/-- Of a file with an endpoint whose name is raw, a later trait that is no endpoint is not reported. -/
theorem raw_trait_hides_error :
    ∃ found first second endpoint, TwoTagged (threeTraits "r#trait" "") found first second ∧
      Endpoint.ofInterface (.ofTrait first) = .ok endpoint ∧
      Endpoint.ofInterface (.ofTrait second) = .error (.missingTerminal "B") ∧
      fileOfSource (threeTraits "r#trait" "") defaultRuntime = .error (.constructorName "new_r#trait") := by
  obtain ⟨found, first, second, two, built, fails, unnamed⟩ := exists_twoTagged (threeTraits "r#trait" "")
    (fun first second => (Endpoint.ofInterface (.ofTrait first)).toOption.isSome = true ∧
      Endpoint.ofInterface (.ofTrait second) = .error (.missingTerminal "B") ∧
      ofTrait first defaultRuntime = .error (.constructorName "new_r#trait")) (by decide +kernel)
  obtain ⟨endpoint, built⟩ := Option.isSome_iff_exists.mp built
  rw [Checks.toOption_eq_some_iff] at built
  refine ⟨found, first, second, endpoint, two, built, fails, ?_⟩
  rw [fileOfSource_eq two.read, two.tagged]
  exact fileOfTraits_of_error (@ofInterfaces_eq_error _ first [] [second] _ (by simp) unnamed)

end Builder
end Endpoints
