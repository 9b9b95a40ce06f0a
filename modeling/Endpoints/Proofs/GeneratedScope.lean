import Endpoints.Builder.Generate
import Endpoints.Proofs.EndpointAcceptance
import Endpoints.Proofs.RoutineMembers

/-! Generated code is well scoped: the builder declares the fields that its functions name and has the
routines that they call, and it implements the methods of the trait. -/

namespace Endpoints

theorem Endpoint.uses_iff {endpoint : Endpoint} {kind : BindingKind} :
    endpoint.uses kind = true ↔ ∃ method ∈ endpoint.methods, ∃ key, method.role = .binding kind key := by
  unfold Endpoint.uses
  rw [List.any_eq_true]
  refine exists_congr fun method => and_congr_right fun _ => ?_
  unfold Method.bindingKind?
  cases method.role <;> simp

namespace Builder
open Tokens

section
variable (endpoint : Endpoint) (runtime : Path)

def fieldNames : List String := (declaration endpoint runtime).fields.items.map (·.name)

def routineNames : List String := (routines endpoint runtime).map (·.signature.name)

/-- The routines of a builder that generated code calls. -/
def helperNames : List String := ["apply_path_substitutions", "build", "execute"]

def HasField (member : SelfMember) : Prop :=
  member.called = false → member.name ∈ fieldNames endpoint runtime

/-- A routine that is called is emitted. -/
def HasRoutine (member : SelfMember) : Prop :=
  member.called = true → member.name ∈ helperNames → member.name ∈ routineNames endpoint runtime

end

section
variable {endpoint : Endpoint} {runtime : Path}

theorem mem_fieldNames_iff {name : String} :
    name ∈ fieldNames endpoint runtime ↔ ∃ kind, endpoint.uses kind = true ∧ kind.field = name := by
  simp [fieldNames, declaration, Endpoint.kinds, BindingKind.mem_all]

theorem hasField_of_uses {kind : BindingKind} (used : endpoint.uses kind = true) :
    HasField endpoint runtime ⟨kind.field, false⟩ :=
  fun _ => mem_fieldNames_iff.mpr ⟨kind, used, rfl⟩

theorem mem_routineNames_iff {name : String} :
    name ∈ routineNames endpoint runtime ↔ name = "new" ∨ name = "build" ∨
      (name = "apply_path_substitutions" ∧ endpoint.uses .path = true) ∨
        (name = "execute" ∧ endpoint.syncResult?.isSome = true) := by
  unfold routineNames routines
  cases endpoint.uses .path <;> cases endpoint.syncResult? <;>
    simp [newFunction, buildFunction, fillFunction, executeFunction, function, plainSignature] <;> grind

theorem hasRoutine_of_notMem {name : String} (other : name ∉ helperNames) {called : Bool} :
    HasRoutine endpoint runtime ⟨name, called⟩ :=
  fun _ helper => absurd helper other

theorem hasField_of_called {name : String} : HasField endpoint runtime ⟨name, true⟩ := by simp [HasField]

theorem hasRoutine_of_named {name : String} : HasRoutine endpoint runtime ⟨name, false⟩ := by simp [HasRoutine]

/-- The fields that tokens name and the routines that they call are there, unless one of the given texts
spells them. -/
def Scoped (endpoint : Endpoint) (runtime : Path) (texts : List Tokens) : Tokens → Prop :=
  Within fun member => (HasField endpoint runtime member ∧ HasRoutine endpoint runtime member) ∨
    ∃ text ∈ texts, member ∈ selfMembers text

/-- The routines that tokens call are there, unless one of the given texts spells the call. -/
def Calls (endpoint : Endpoint) (runtime : Path) (texts : List Tokens) : Tokens → Prop :=
  Within fun member => HasRoutine endpoint runtime member ∨ ∃ text ∈ texts, member ∈ selfMembers text

theorem Within.spelled {texts : List Tokens} {text : Tokens} {present : SelfMember → Prop}
    (given : text ∈ texts) :
    Within (fun member => present member ∨ ∃ text ∈ texts, member ∈ selfMembers text) text :=
  fun _ among => .inr ⟨text, given, among⟩

theorem Scoped.mono {texts more : List Tokens} {tokens : Tokens}
    (known : Scoped endpoint runtime texts tokens) (given : texts ⊆ more) :
    Scoped endpoint runtime more tokens :=
  fun member among => (known member among).imp_right fun ⟨text, own, named⟩ => ⟨text, given own, named⟩

theorem within_plainFunction {allowed : SelfMember → Prop} {signature : Signature} {body : Tokens}
    (declared : Within allowed signature.tokens) (inside : Within allowed body) :
    Within allowed (function [] .inherited signature body).tokens :=
  within_function (by simp) (by simp [within_iff, Visibility.tokens]) declared inside

theorem scoped_fillFunction (used : endpoint.uses .path = true) :
    Scoped endpoint runtime [runtime.tokens] (fillFunction runtime).tokens := by
  have string : Scoped endpoint runtime [runtime.tokens] string := by
    simp [Scoped, within_iff, Builder.string]
  refine within_plainFunction (within_plainSignature (by decide) _ ?_ (within_output string)) ?_
  · intro input among
    rcases List.mem_pair.mp among with rfl | rfl
    · exact within_sharedSelf
    · exact within_parameter (by simp [within_iff])
  · exact within_fillBody (.spelled (by simp)) (fun kind used => .inl ⟨hasField_of_uses used, hasRoutine_of_named⟩) used

theorem scoped_buildFunction :
    Scoped endpoint runtime [runtime.tokens] (buildFunction endpoint runtime).tokens := by
  have given : Scoped endpoint runtime [runtime.tokens] runtime.tokens := .spelled (by simp)
  refine within_plainFunction (within_plainSignature (by decide) _ ?_ (within_output ?_)) ?_
  · intro input among
    rw [List.mem_singleton.mp among]
    exact within_sharedSelf
  · exact within_result given (by simpa [Scoped, within_iff, request] using given)
  · exact within_buildBody given (fun kind used => .inl ⟨hasField_of_uses used, hasRoutine_of_named⟩)
      fun used => .inl ⟨hasField_of_called, fun _ _ => mem_routineNames_iff.mpr (by simp [used])⟩

theorem calls_executeFunction (response : Ty) :
    Calls endpoint runtime [runtime.tokens, response.tokens] (executeFunction runtime response).tokens := by
  have given : Calls endpoint runtime [runtime.tokens, response.tokens] runtime.tokens :=
    .spelled (by simp)
  have held : Calls endpoint runtime [runtime.tokens, response.tokens] response.tokens :=
    .spelled (by simp)
  refine within_plainFunction (within_plainSignature (by decide) _ ?_ (within_output ?_)) ?_
  · intro input among
    rw [List.mem_singleton.mp among]
    exact within_sharedSelf
  · exact within_result given held
  · exact within_executeBody given (.inl fun _ _ => mem_routineNames_iff.mpr (by simp)) held
      fun _ => .inl (hasRoutine_of_notMem (by decide))

theorem scoped_methodFunction {method : Method} (among : method ∈ endpoint.methods)
    (waits : endpoint.syncResult?.isSome = true) :
    Scoped endpoint runtime [(methodFunction method).signature.tokens]
      (methodFunction method).tokens := by
  have execute : HasRoutine endpoint runtime ⟨"execute", true⟩ :=
    fun _ _ => mem_routineNames_iff.mpr (by simp [waits])
  have listening : ∀ called ∈ ["on_start", "on_success", "on_error"], called ∉ helperNames := by decide
  unfold methodFunction
  split
  next kind key role =>
    have used : endpoint.uses kind = true := Endpoint.uses_iff.mpr ⟨method, among, key, role⟩
    refine within_plainFunction (.spelled (by simp [function])) ?_
    exact within_store key _ (.inl ⟨hasField_of_uses used, hasRoutine_of_named⟩)
  next =>
    refine within_plainFunction (.spelled (by simp [function])) ?_
    exact within_syncBody (.inl ⟨hasField_of_called, execute⟩)
  next =>
    refine within_plainFunction (.spelled (by simp [function])) ?_
    exact within_asyncBody _ (.inl ⟨hasField_of_called, execute⟩) fun called told =>
      .inl ⟨hasField_of_called, hasRoutine_of_notMem (listening called told)⟩

theorem scoped_newFunction :
    Scoped endpoint runtime [runtime.tokens, endpoint.visibility.tokens]
      (newFunction endpoint runtime).tokens := by
  have own : Scoped endpoint runtime [runtime.tokens, endpoint.visibility.tokens] selfType.tokens := by
    simp [Scoped, within_iff, selfType, selfMembers_ofName]
  refine within_function ?_ (.spelled (by simp))
    (within_plainSignature (by decide) _ (by simp) (within_output own)) ?_
  · intro single among
    rw [List.mem_singleton.mp among]
    exact within_documented _
  · have fields : Scoped endpoint runtime [runtime.tokens, endpoint.visibility.tokens]
        (initialFields endpoint runtime) := within_initialFields (.spelled (by simp))
    simpa [Scoped, within_iff] using fields

theorem scoped_defaultFunction : Scoped endpoint runtime [] defaultFunction.tokens := by
  have silent : selfMembers defaultFunction.tokens = [] := by decide
  simp [Scoped, within_iff, silent]

theorem constructorName_ne_self : constructorName endpoint ≠ "self" := by
  intro same
  have first := congrArg (·.toList.head?) same
  simp [constructorName] at first

theorem scoped_constructor :
    Scoped endpoint runtime [endpoint.visibility.tokens]
      (constructor endpoint (constructorName endpoint)).tokens := by
  have type : Scoped endpoint runtime [endpoint.visibility.tokens] (builderType endpoint).tokens := by
    simp [Scoped, within_iff, builderType, selfMembers_ofName]
  refine within_function ?_ (.spelled (by simp))
    (within_plainSignature constructorName_ne_self _ (by simp) (within_output type)) ?_
  · intro single among
    rcases List.mem_pair.mp among with rfl | rfl
    · exact within_documented _
    · exact within_allowing _
  · have path : joined [endpoint.builderName, "new"] =
        word endpoint.builderName ++ (operator "::" ++ word "new") := by
      simp [joined, separated]
    simp [within_iff, path]

end

/-- A function for a method: its signature is the declared one, but that a setter which owns the builder
can change it. -/
def Implements (method : Method) (implementation : FunctionDeclaration) : Prop :=
  implementation.signature =
    if method.bindingKind?.isSome && method.receiver == .owned then withMutableReceiver method.signature
    else method.signature

theorem implements_methodFunction (method : Method) : Implements method (methodFunction method) := by
  unfold Implements methodFunction setterSignature Method.bindingKind?
  cases method.role <;> cases method.receiver <;> rfl

section
variable (declaration : TraitDeclaration) (endpoint : Endpoint) (runtime : Path)

def callbacks : List String := endpoint.methods.filterMap Method.asyncCallback?

/-- The implementation of the interface by some functions. -/
def interfaceItem (functions : List FunctionDeclaration) : Item :=
  .implementation
    (implementing endpoint (some (.ofName endpoint.name)) [allowing "unused_variables"] functions)

/-- Generated code whose parts agree. Each part may mention what the texts that it is given spell. -/
structure WellScoped : Prop where
  used : ∀ kind : BindingKind, kind.field ∈ fieldNames endpoint runtime ↔
    ∃ method ∈ endpoint.methods, ∃ key, method.role = .binding kind key
  ordered : (fieldNames endpoint runtime).Sublist (BindingKind.all.map BindingKind.field)
  initialised : ∃ values, values.length = (fieldNames endpoint runtime).length ∧
    (newFunction endpoint runtime).body = word "Self" ++ braces (commaList
      (List.zipWith (fun name value => word name ++ operator ":" ++ value)
        (fieldNames endpoint runtime) values) true)
  fill : endpoint.uses .path = true →
    Scoped endpoint runtime [runtime.tokens] (fillFunction runtime).tokens
  build : Scoped endpoint runtime [runtime.tokens] (buildFunction endpoint runtime).tokens
  execute : ∀ response ∈ endpoint.syncResult?,
    Calls endpoint runtime [runtime.tokens, response.tokens] (executeFunction runtime response).tokens
  constructors : ∀ made ∈ [newFunction endpoint runtime, defaultFunction,
      constructor endpoint (constructorName endpoint)],
    Scoped endpoint runtime [runtime.tokens, endpoint.visibility.tokens] made.tokens
  methods : ∀ method ∈ endpoint.methods,
    Scoped endpoint runtime [(methodFunction method).signature.tokens] (methodFunction method).tokens
  implemented : ∃ functions, List.Forall₂ Implements endpoint.methods functions ∧
    (items endpoint runtime (constructorName endpoint)).getLast? = some (interfaceItem endpoint functions)
  declared : (endpoint.methods.map (·.signature)).Sublist
    ((declaration.items.filterMap TraitItem.method?).map (·.signature))
  single : (callbacks endpoint).length ≤ 1
  notified : ∃ response, endpoint.syncResult? = some response ∧
    (items endpoint runtime (constructorName endpoint)).filterMap Item.trait? =
      (callbacks endpoint).map (callbackTrait endpoint · response)

end

section
variable {declaration : TraitDeclaration} {endpoint : Endpoint} {runtime : Path}

theorem field_mem_fieldNames_iff {kind : BindingKind} :
    kind.field ∈ fieldNames endpoint runtime ↔
      ∃ method ∈ endpoint.methods, ∃ key, method.role = .binding kind key := by
  rw [mem_fieldNames_iff, ← Endpoint.uses_iff]
  constructor
  · rintro ⟨other, used, same⟩
    exact BindingKind.field_injective same ▸ used
  · exact fun used => ⟨kind, used, rfl⟩

theorem fieldNames_sublist :
    (fieldNames endpoint runtime).Sublist (BindingKind.all.map BindingKind.field) := by
  have names : fieldNames endpoint runtime = endpoint.kinds.map BindingKind.field := by
    simp [fieldNames, Builder.declaration]
  rw [names]
  exact List.filter_sublist.map _

theorem newFunction_body :
    (newFunction endpoint runtime).body = word "Self" ++ braces (commaList
      (List.zipWith (fun name value => word name ++ operator ":" ++ value) (fieldNames endpoint runtime)
        (endpoint.kinds.map (initial · runtime))) true) := by
  simp [newFunction, function, initialFields, fieldNames, Builder.declaration, List.zipWith_map]

theorem signatures_sublist {interface : String} {alone : Bool} {declared : List InterfaceMethod}
    {found : List (Option Method)} (taken : List.Forall₂
      (fun self taken => Method.ofInterface interface alone self = .ok taken) declared found) :
    (found.reduceOption.map (·.signature)).Sublist (declared.map (·.declaration.signature)) := by
  induction taken with
  | nil => exact .slnil
  | @cons self taken _ _ first _ ih =>
    obtain ⟨_, _, fit⟩ := Method.ofInterface_eq_ok_iff.mp first
    cases fit with
    | none => simpa using ih.cons _
    | some fit =>
      obtain ⟨_, same, _⟩ := Method.ofSignature_eq_ok_iff.mp fit
      simpa [same] using ih

theorem length_callbacks (once : Role.AtMostOnce (endpoint.methods.map (·.role))) :
    (callbacks endpoint).length ≤ 1 := by
  have counted : (callbacks endpoint).length = (endpoint.methods.map (·.role)).countP Role.isAsync := by
    rw [callbacks, List.length_filterMap_eq_countP, List.countP_map]
    exact List.countP_congr fun method _ => by simp [Method.asyncCallback?_isSome]
  exact counted ▸ once.async

theorem traits_of_items {response : Ty} (waits : endpoint.syncResult? = some response)
    (single : (callbacks endpoint).length ≤ 1) (name : String) :
    (items endpoint runtime name).filterMap Item.trait? =
      (callbacks endpoint).map (callbackTrait endpoint · response) := by
  have first : endpoint.asyncCallback? = (callbacks endpoint).head? := List.head?_filterMap.symm
  have rest : (items endpoint runtime name).filterMap Item.trait? =
      (callbackItems endpoint).filterMap Item.trait? := by
    simp [items, Item.trait?]
  rw [rest, callbackItems, first, waits]
  match callbacks endpoint, single with
  | [], _ => rfl
  | [callback], _ => rfl

theorem wellScoped_of_accepted
    (accepted : Endpoint.ofInterface (.ofTrait declaration) = .ok endpoint) :
    WellScoped declaration endpoint runtime := by
  obtain ⟨_, _, collected, ⟨method, among, sync⟩, _⟩ := Endpoint.ofInterface_eq_ok_iff.mp accepted
  obtain ⟨found, taken, same, once⟩ := (@Method.collect_eq_ok_iff _ _ _ [] _ (by simp) .nil).mp collected
  have waits : endpoint.syncResult?.isSome = true := by
    rw [Endpoint.syncResult?, List.isSome_findSome?, List.any_eq_true]
    exact ⟨method, among, (Method.syncResult?_isSome method).trans sync⟩
  obtain ⟨response, result⟩ := Option.isSome_iff_exists.mp waits
  have single := length_callbacks once
  refine {
    used := fun _ => field_mem_fieldNames_iff
    ordered := fieldNames_sublist
    initialised := ⟨endpoint.kinds.map (initial · runtime), by simp [fieldNames, Builder.declaration],
      newFunction_body⟩
    fill := scoped_fillFunction
    build := scoped_buildFunction
    execute := fun response _ => calls_executeFunction response
    constructors := ?_
    methods := fun method among => scoped_methodFunction among waits
    implemented := ⟨endpoint.methods.map methodFunction, ?_, by simp [items, interfaceItem]⟩
    declared := ?_
    single
    notified := ⟨response, result, traits_of_items result single _⟩ }
  · simp only [List.forall_mem_cons, List.not_mem_nil, false_implies, implies_true, and_true]
    exact ⟨scoped_newFunction, scoped_defaultFunction.mono (by simp), scoped_constructor.mono (by simp)⟩
  · rw [List.forall₂_map_right_iff, List.forall₂_same]
    exact fun method _ => implements_methodFunction method
  · have signatures := signatures_sublist taken
    rw [same, List.nil_append]
    simpa [Interface.ofTrait, InterfaceMethod.ofDeclaration, Function.comp_def] using signatures

/-- Generated code is that of items whose parts agree. What the runtime path and the declaration spell
themselves stands in it as it is. -/
theorem generated_wellScoped (declaration : TraitDeclaration) (runtime : Path) (endpoint : Endpoint)
    (generated : Tokens) (accepted : Endpoint.ofInterface (.ofTrait declaration) = .ok endpoint)
    (returned : tokens endpoint runtime = .ok generated) :
    generated = itemsTokens (items endpoint runtime (constructorName endpoint)) ∧
      WellScoped declaration endpoint runtime := by
  refine ⟨?_, wellScoped_of_accepted accepted⟩
  simp only [tokens, Checks.require_eq_ok_iff, Except.ok.injEq] at returned
  exact returned.2.symm

end

/-- The tokens of a block that reads a member of `self`. -/
def selfBlock (name : String) : Tokens := braces (member self name)

/-- A runtime path that reads a member of `self` in an argument. -/
def measuredRuntime : Path := .mk false [.mk "rest" (.angle false [.const (selfBlock "client")] false)]

/-- A trait with a setter whose parameter has a length that is read from `self`. -/
def measuredTrait : TraitDeclaration where
  attributes := [documented "@GET(\"/photos/\x7bid\x7d\")"]
  visibility := .everywhere
  isUnsafe := false
  isAuto := false
  name := "ListPhotos"
  generics := .empty
  supertraits := .nil
  items := [
    .method ⟨[documented "@PATH(\"id\")"], plainSignature "id"
      [.receiver ⟨[], none, false, none⟩, parameter "id" (word "u64")] (some selfType), none⟩,
    .method ⟨[documented "@QUERY(\"q\")"], plainSignature "q"
      [.receiver ⟨[], none, false, none⟩,
        parameter "q" (brackets (word "u8" ++ operator ";" ++ selfBlock "size"))] (some selfType), none⟩,
    .method ⟨[documented "@SYNC(\"String\")"], plainSignature "run" [.receiver ⟨[], none, false, none⟩]
      (some (.path (.mk false [.mk "Result" (.angle false
        [.type (.path (.ofName "String")), .type (.path (.ofName "Error"))] false)]))), none⟩]

theorem measured_wellScoped :
    ∃ endpoint generated, Endpoint.ofInterface (.ofTrait measuredTrait) = .ok endpoint ∧
      tokens endpoint measuredRuntime = .ok generated ∧
      generated = itemsTokens (items endpoint measuredRuntime (constructorName endpoint)) ∧
      WellScoped measuredTrait endpoint measuredRuntime := by
  obtain ⟨endpoint, accepted, named⟩ := Checks.exists_ok_of_toOption
    (Endpoint.ofInterface (.ofTrait measuredTrait)) (fun endpoint =>
      (tokens endpoint measuredRuntime).toOption.isSome = true) (by decide +kernel)
  cases returned : tokens endpoint measuredRuntime with
  | error error => simp [returned, Except.toOption] at named
  | ok generated =>
    exact ⟨endpoint, generated, accepted, returned,
      generated_wellScoped measuredTrait measuredRuntime endpoint generated accepted returned⟩

/-- The runtime path puts a member into `build`, and a signature one into a setter, that no builder has. -/
theorem measured_names_undeclared :
    ∃ endpoint, Endpoint.ofInterface (.ofTrait measuredTrait) = .ok endpoint ∧
      ((tokens endpoint measuredRuntime).toOption.isSome = true ∧
        fieldNames endpoint measuredRuntime = ["path_substitutions", "query_params"] ∧
        ⟨"client", false⟩ ∈ selfMembers (buildFunction endpoint measuredRuntime).tokens ∧
        ∃ method ∈ endpoint.methods, method.bindingKind? = some .query ∧
          ⟨"size", false⟩ ∈ selfMembers (methodFunction method).tokens) :=
  Checks.exists_ok_of_toOption _ (fun endpoint : Endpoint =>
    (tokens endpoint measuredRuntime).toOption.isSome = true ∧
      fieldNames endpoint measuredRuntime = ["path_substitutions", "query_params"] ∧
      ⟨"client", false⟩ ∈ selfMembers (buildFunction endpoint measuredRuntime).tokens ∧
      ∃ method ∈ endpoint.methods, method.bindingKind? = some .query ∧
        ⟨"size", false⟩ ∈ selfMembers (methodFunction method).tokens) (by decide +kernel)

end Builder

end Endpoints
