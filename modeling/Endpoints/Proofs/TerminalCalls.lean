import Endpoints.Expr.Tokens
import Endpoints.Proofs.EndpointContents
import Endpoints.Proofs.MethodLookup

/-! What the calls in a generated terminal mean. A terminal runs the request by a routine of the builder
and tells the callback that it was given, unless the names of the interface hide them. -/

namespace Endpoints

/-! Names in scope -/

mutual

/-- The names that a pattern binds. -/
def Pattern.names : Pattern → List String
  | .attributed _ inner | .reference _ inner | .paren inner | .typed inner _ => inner.names
  | .name _ _ name binding => name :: bindingNames binding
  | .tuple elements _ | .slice elements _ | .tupleStructure _ elements _ | .oneOf _ elements =>
    patternsNames elements
  | .structure _ fields _ _ => fieldPatternsNames fields
  | .wildcard | .rest | .value _ | .path _ | .call .. | .range .. | .verbatim _ => []

def bindingNames : Option Pattern → List String
  | none => []
  | some pattern => pattern.names

def patternsNames : List Pattern → List String
  | [] => []
  | pattern :: rest => pattern.names ++ patternsNames rest

def fieldPatternsNames : List FieldPattern → List String
  | [] => []
  | .mk _ _ pattern :: rest => pattern.names ++ fieldPatternsNames rest

end

/-- What a name stands for in an arm of a match: what the arm binds, or a parameter of the method. -/
inductive Referent where
  | bound
  | parameter (parameter : Parameter)

def Arm.pattern : Arm → Pattern
  | .mk _ pattern _ _ _ => pattern

/-- What a name stands for in the body of an arm. -/
def Arm.referent? (parameters : List Parameter) (name : String) (arm : Arm) : Option Referent :=
  if Endpoint.bareName name ∈ arm.pattern.names.map Endpoint.bareName then some .bound
  else (parameters.find? (Endpoint.bareName ·.name == Endpoint.bareName name)).map .parameter

namespace Builder
open Tokens

/-- A path of the standard library. -/
def stdPath (names : List String) : Ty := .path (.mk true (("std" :: names).map (.mk · .none)))

def spelled (name : String) : Expr := .path (.path (.ofName name))

/-- The arms of an asynchronous terminal: what is told to the callback in each outcome. -/
def outcomeArms (callback : String) : List Arm := [
  .mk [] (.tupleStructure (stdPath ["result", "Result", "Ok"]) [.name false false "response" none] false)
    none (.methodCall (spelled callback) "on_success" .none [spelled "response"] false) true,
  .mk [] (.tupleStructure (stdPath ["result", "Result", "Err"]) [.name false false "err" none] false)
    none (.block none (.mk [] [.expression (.methodCall (spelled callback) "on_error" .none
      [.call (.path (stdPath ["string", "ToString", "to_string"])) [.reference false (spelled "err")] false]
      false) false])) false]

/-- What an asynchronous terminal does with the outcome of the request. -/
def outcomeMatch (callback : String) : Expr :=
  .choice (.methodCall (spelled "self") "execute" .none [] false) [] (outcomeArms callback)

theorem asyncBody_eq (callback : String) :
    asyncBody (word callback) = statement (callOn (word callback) "on_start" [])
      ++ statement (call (std ["thread", "spawn"])
        [word "move" ++ operator "||" ++ (outcomeMatch callback).tokens]) := rfl

theorem count_execute_syncBody : (selfMembers syncBody).count ⟨"execute", true⟩ = 1 := by decide

theorem count_execute_asyncBody (callback : String) :
    (selfMembers (asyncBody (word callback))).count ⟨"execute", true⟩ = 1 := by
  by_cases same : callback = "self"
  · subst same
    decide
  · simp [asyncBody, same]

end Builder

def Role.isTerminal (role : Role) : Bool := role.isSync || role.isAsync

/-- The signatures of the methods that a trait declares. -/
def TraitDeclaration.signatures (declaration : TraitDeclaration) : List Signature :=
  (declaration.items.filterMap TraitItem.method?).map (·.signature)

section
variable (resolve : Ty → Option SelfView)

/-- The receiver of a method is tried before a shared reference when a value of a kind is called on. -/
inductive Signature.Precedes (signature : Signature) : ReceiverKind → Prop where
  | value {kind} (owned : kind ≠ .reference) (view : signature.view? resolve = some .builder) :
      signature.Precedes kind
  | mutable (view : signature.view? resolve = some (.reference true .builder)) :
      signature.Precedes .mutableReference
  | twice {mutable} (view : signature.view? resolve = some (.reference mutable (.reference true .builder))) :
      signature.Precedes .mutableReference

theorem Signature.precedes_iff {signature : Signature} {kind : ReceiverKind} :
    signature.Precedes resolve kind ↔ ∃ view ∈ kind.view.preferred, signature.view? resolve = some view := by
  have owned : ReceiverKind.owned.view.preferred = [.builder] := rfl
  have shared : ReceiverKind.reference.view.preferred = [] := rfl
  have mutable : ReceiverKind.mutableReference.view.preferred =
    [.reference true .builder, .reference false (.reference true .builder),
      .reference true (.reference true .builder), .builder] := rfl
  constructor
  · rintro (⟨different, view⟩ | view | view)
    · cases kind with
      | owned => exact ⟨.builder, by simp [owned], view⟩
      | reference => exact absurd rfl different
      | mutableReference => exact ⟨.builder, by simp [mutable], view⟩
    · exact ⟨_, by simp [mutable], view⟩
    · refine ⟨_, ?_, view⟩
      rename_i twice
      cases twice <;> simp [mutable]
  · rintro ⟨view, among, same⟩
    cases kind with
    | owned =>
      simp only [owned, List.mem_singleton] at among
      exact .value (by decide) (among ▸ same)
    | reference => simp [shared] at among
    | mutableReference =>
      simp only [mutable, List.mem_cons, List.not_mem_nil, or_false] at among
      rcases among with rfl | rfl | rfl | rfl
      · exact .mutable same
      · exact .twice same
      · exact .twice same
      · exact .value (by decide) same

namespace Builder
open Tokens

variable (declaration : TraitDeclaration) (endpoint : Endpoint) (runtime : Path)

/-- A terminal calls the routine that runs the request, once. -/
structure RunsRoutine (method : Method) : Prop where
  once : (selfMembers (methodFunction method).body).count ⟨"execute", true⟩ = 1
  meant : ∃ response, endpoint.syncResult? = some response ∧
    callee? resolve ((routines endpoint runtime).map (·.signature)) declaration.signatures "execute"
      method.receiver.view = some (.routine (executeFunction runtime response).signature)

/-- A terminal tells what comes of the request to the callback that it was given. -/
structure TellsCallback (method : Method) (callback : Parameter) : Prop where
  spelling : (methodFunction method).body = statement (callOn (word callback.name) "on_start" [])
    ++ statement (call (std ["thread", "spawn"])
      [word "move" ++ operator "||" ++ (outcomeMatch callback.name).tokens])
  meant : ∀ arm ∈ outcomeArms callback.name,
    arm.referent? method.parameters callback.name = some (.parameter callback)

variable {resolve declaration endpoint runtime}

theorem isSoleRoutine_execute {response : Ty} (waits : endpoint.syncResult? = some response) :
    (executeFunction runtime response).signature.IsSoleRoutine resolve
      ((routines endpoint runtime).map (·.signature)) "execute" := by
  have other : ∀ name ∈ ["new", "apply_path_substitutions", "build"], Endpoint.bareName name ≠ "execute" := by
    decide
  have same : Endpoint.bareName "execute" = "execute" := rfl
  refine ⟨rfl, ?_⟩
  rw [routines, waits]
  cases endpoint.uses .path <;>
    simp_all [newFunction, fillFunction, buildFunction, executeFunction, function, plainSignature]

theorem runsRoutine_iff {response : Ty} (waits : endpoint.syncResult? = some response) {method : Method}
    (terminal : method.role.isTerminal = true) :
    RunsRoutine resolve declaration endpoint runtime method ↔
      ∀ declared ∈ declaration.signatures, Endpoint.bareName declared.name = "execute" →
        ¬ declared.Precedes resolve method.receiver := by
  have once : (selfMembers (methodFunction method).body).count ⟨"execute", true⟩ = 1 := by
    unfold methodFunction
    cases role : method.role with
    | binding kind key => simp [role, Role.isTerminal, Role.isSync, Role.isAsync] at terminal
    | sync result => exact count_execute_syncBody
    | async callback => exact count_execute_asyncBody _
  have reaches : .shared ∈ method.receiver.view.candidates := by cases method.receiver <;> decide
  have sole : (executeFunction runtime response).signature.IsSoleRoutine resolve
      ((routines endpoint runtime).map (·.signature)) "execute" := isSoleRoutine_execute waits
  have meant : callee? resolve ((routines endpoint runtime).map (·.signature)) declaration.signatures
        "execute" method.receiver.view = some (.routine (executeFunction runtime response).signature) ↔ _ :=
    callee?_eq_routine_iff sole reaches
  simp only [Signature.precedes_iff, not_exists, not_and]
  rw [← meant]
  constructor
  · rintro ⟨_, _, same, found⟩
    obtain rfl := Option.some.inj (waits.symm.trans same)
    exact found
  · exact fun found => ⟨once, response, waits, found⟩

theorem tellsCallback_iff {method : Method} {callback : Parameter} (parameters : method.parameters = [callback])
    (async : method.role.isAsync = true) :
    TellsCallback method callback ↔
      Endpoint.bareName callback.name ≠ "response" ∧ Endpoint.bareName callback.name ≠ "err" := by
  have spelling : (methodFunction method).body = statement (callOn (word callback.name) "on_start" [])
      ++ statement (call (std ["thread", "spawn"])
        [word "move" ++ operator "||" ++ (outcomeMatch callback.name).tokens]) := by
    unfold methodFunction
    cases role : method.role with
    | binding kind key => simp [role, Role.isAsync] at async
    | sync result => simp [role, Role.isAsync] at async
    | async name => simp [function, firstParameter, parameters, asyncBody_eq]
  have response : Endpoint.bareName "response" = "response" := rfl
  have err : Endpoint.bareName "err" = "err" := rfl
  have meant : (∀ arm ∈ outcomeArms callback.name,
      arm.referent? method.parameters callback.name = some (.parameter callback)) ↔
        Endpoint.bareName callback.name ≠ "response" ∧ Endpoint.bareName callback.name ≠ "err" := by
    simp [outcomeArms, Arm.referent?, Arm.pattern, Pattern.names, patternsNames, bindingNames, parameters,
      response, err, @eq_comm _ "response", @eq_comm _ "err"]
  rw [← meant]
  exact ⟨fun tells => tells.meant, fun found => ⟨spelling, found⟩⟩

/-- A terminal means the routine of the builder unless the trait has a method `execute` whose receiver is
tried before, and it means the callback unless this has the name of an outcome. -/
theorem terminals_capture_iff (declaration : TraitDeclaration) (runtime : Path)
    (resolve : Ty → Option SelfView) (endpoint : Endpoint)
    (built : Endpoint.ofInterface (.ofTrait declaration) = .ok endpoint) :
    ∀ method ∈ endpoint.methods,
      (method.role.isTerminal = true →
        (RunsRoutine resolve declaration endpoint runtime method ↔
          ∀ declared ∈ declaration.signatures, Endpoint.bareName declared.name = "execute" →
            ¬ declared.Precedes resolve method.receiver)) ∧
      (method.role.isAsync = true → ∃ callback, method.parameters = [callback] ∧
        (TellsCallback method callback ↔
          Endpoint.bareName callback.name ≠ "response" ∧ Endpoint.bareName callback.name ≠ "err")) := by
  obtain ⟨_, accepted, _, waits⟩ := Endpoint.methods_of_built built
  obtain ⟨response, waits⟩ := Option.isSome_iff_exists.mp waits
  intro method among
  refine ⟨runsRoutine_iff waits, fun async => ?_⟩
  obtain ⟨name, role⟩ : ∃ name, method.role = .async name := by
    cases role : method.role <;> simp_all [Role.isAsync]
  obtain ⟨_, callback, parameters⟩ := (accepted method among).fitsRole.async name role
  exact ⟨callback, parameters, tellsCallback_iff parameters async⟩

/-- The trait of a photo whose setter, terminals and callback have names of their own. -/
def showingTrait : TraitDeclaration where
  attributes := [documented "@GET(\"/photo\")"]
  visibility := .everywhere
  isUnsafe := false
  isAuto := false
  name := "ShowPhoto"
  generics := .empty
  supertraits := .nil
  items := [
    .method ⟨[documented "@QUERY(\"size\")"], plainSignature "size"
      [.receiver ⟨[], some none, true, none⟩, parameter "size" (word "u32")]
      (some (.reference none true selfTy)), none⟩,
    .method ⟨[documented "@SYNC(\"String\")"], plainSignature "run" [.receiver ⟨[], some none, true, none⟩]
      (some (.path (.mk false [.mk "Result" (.angle false
        [.type (.path (.ofName "String")), .type (.path (.ofName "Error"))] false)]))), none⟩,
    .method ⟨[documented "@ASYNC(\"Listener\")"], plainSignature "start"
      [.receiver ⟨[], none, false, none⟩, parameter "listener" (word "Listener")] none, none⟩]

theorem showing_captures_nothing :
    ∃ endpoint, Endpoint.ofInterface (.ofTrait showingTrait) = .ok endpoint ∧
      endpoint.methods.map (·.name) = ["size", "run", "start"] ∧
      ∀ method ∈ endpoint.methods,
        (method.role.isTerminal = true →
          (RunsRoutine (fun _ => none) showingTrait endpoint defaultRuntime method ↔
            ∀ declared ∈ showingTrait.signatures, Endpoint.bareName declared.name = "execute" →
              ¬ declared.Precedes (fun _ => none) method.receiver)) ∧
        (method.role.isAsync = true → ∃ callback, method.parameters = [callback] ∧
          (TellsCallback method callback ↔
            Endpoint.bareName callback.name ≠ "response" ∧ Endpoint.bareName callback.name ≠ "err")) := by
  obtain ⟨endpoint, built, named⟩ := Checks.exists_ok_of_toOption
    (Endpoint.ofInterface (.ofTrait showingTrait)) (fun endpoint =>
      endpoint.methods.map (·.name) = ["size", "run", "start"]) (by decide +kernel)
  exact ⟨endpoint, built, named,
    terminals_capture_iff showingTrait defaultRuntime (fun _ => none) endpoint built⟩

def executingSignature : Signature :=
  plainSignature "execute" [.receiver ⟨[], none, false, none⟩]
    (some (.path (.mk false [.mk "Result" (.angle false
      [.type (.path (.ofName "String")), .type (.path (.ofName "Error"))] false)])))

/-- A trait whose terminals use the names of generated code. -/
def executingTrait : TraitDeclaration where
  attributes := [documented "@GET(\"/photos\")"]
  visibility := .everywhere
  isUnsafe := false
  isAuto := false
  name := "ListPhotos"
  generics := .empty
  supertraits := .nil
  items := [
    .method ⟨[documented "@SYNC(\"String\")"], executingSignature, none⟩,
    .method ⟨[documented "@ASYNC(\"Listener\")"], plainSignature "start"
      [.receiver ⟨[], none, false, none⟩, parameter "response" (word "Listener")] none, none⟩]

/-- A terminal `execute` calls itself, and what is told to a callback `response` is told to the response. -/
theorem executing_calls_itself :
    ∃ endpoint, Endpoint.ofInterface (.ofTrait executingTrait) = .ok endpoint ∧
      (∃ method ∈ endpoint.methods, method.role.isSync = true ∧ method.name = executingSignature.name ∧
        ∀ runtime resolve, callee? resolve ((routines endpoint runtime).map (·.signature))
          executingTrait.signatures "execute" method.receiver.view = some (.method executingSignature)) ∧
      ∃ method ∈ endpoint.methods, method.role.isAsync = true ∧ ∀ callback ∈ method.parameters,
        ∃ arm ∈ outcomeArms callback.name,
          arm.referent? method.parameters callback.name = some .bound := by
  obtain ⟨endpoint, built, waits, sync, async⟩ := Checks.exists_ok_of_toOption
    (Endpoint.ofInterface (.ofTrait executingTrait)) (fun endpoint =>
      endpoint.syncResult?.isSome = true ∧
      (∃ method ∈ endpoint.methods, method.role.isSync = true ∧ method.name = executingSignature.name ∧
        method.receiver = .owned) ∧
      ∃ method ∈ endpoint.methods, method.role.isAsync = true ∧
        method.parameters.map (·.name) = ["response"]) (by decide +kernel)
  refine ⟨endpoint, built, ?_, ?_⟩
  · obtain ⟨method, among, sync, named, owned⟩ := sync
    obtain ⟨response, waits⟩ := Option.isSome_iff_exists.mp waits
    refine ⟨method, among, sync, named, fun runtime resolve => ?_⟩
    have sole : (executeFunction runtime response).signature.IsSoleRoutine resolve
        ((routines endpoint runtime).map (·.signature)) "execute" := isSoleRoutine_execute waits
    have same : Endpoint.bareName "execute" = "execute" := rfl
    have answers : executingSignature.answers resolve "execute" .builder = true := by
      have view : executingSignature.view? resolve = some .builder := rfl
      have name : executingSignature.name = "execute" := rfl
      simp [Signature.answers, view, name, same]
    have found : calleeAt? resolve ((routines endpoint runtime).map (·.signature)) executingTrait.signatures
        "execute" .builder = some (.method executingSignature) := by
      rw [calleeAt?_of_ne sole (by decide)]
      simp [TraitDeclaration.signatures, executingTrait, TraitItem.method?, answers]
    have order : ReceiverKind.owned.view.candidates = .builder :: [.shared, .reference true .builder] := rfl
    rw [owned, callee?, order, List.findSome?_cons, found]
  · obtain ⟨method, among, async, parameters⟩ := async
    refine ⟨method, among, async, fun callback member => ?_⟩
    have name : callback.name = "response" := by
      simpa [parameters] using List.mem_map_of_mem (f := (·.name)) member
    rw [name]
    refine ⟨_, List.mem_cons_self, ?_⟩
    simp [Arm.referent?, Arm.pattern, Pattern.names, patternsNames, bindingNames]

end Builder
end

end Endpoints
