import Endpoints.Builder.Source
import Endpoints.Proofs.ConstructorNames
import Endpoints.Proofs.EndpointContents
import Endpoints.Proofs.TagRecognition
import Mathlib.Data.List.Nodup
import Mathlib.Data.List.Perm.Basic

/-! The names in a generated file. Code is generated for one interface at a time, and the file holds what
is generated for all of them, so names of different interfaces can meet there. -/

namespace Endpoints

namespace Item

def typeName? : Item → Option String
  | .trait declaration => some (Endpoint.bareName declaration.name)
  | .structure declaration => some (Endpoint.bareName declaration.name)
  | _ => none

def functionName? : Item → Option String
  | .function declaration => some (Endpoint.bareName declaration.signature.name)
  | _ => none

end Item

namespace Endpoint

def callbackName? (endpoint : Endpoint) : Option String := endpoint.asyncCallback?.map bareName

/-- The names of endpoints that generated code would take twice are apart. -/
structure Apart (endpoints : List Endpoint) : Prop where
  callbacks : (endpoints.filterMap callbackName?).Nodup
  callbacksOthers : ∀ callback ∈ endpoints.filterMap callbackName?, ∀ endpoint ∈ endpoints,
    callback ≠ endpoint.name ++ "Impl" ∧ callback ≠ endpoint.name
  builders : ∀ one ∈ endpoints, ∀ other ∈ endpoints, one.name ++ "Impl" ≠ other.name
  constructors : (endpoints.map fun endpoint => Text.SnakeCase.convert endpoint.name).Nodup

theorem bareName_of_not_mem {name : String} (plain : '#' ∉ name.toList) : bareName name = name := by
  rcases bareName_cases name with bare | raw
  · exact bare
  · simp [raw] at plain

end Endpoint

namespace Builder
open Tokens

def allItems (runtime : Path) (endpoint : Endpoint) : List Item :=
  items endpoint runtime (constructorName endpoint)

theorem ofInterfaces_eq_ok {runtime : Path} {interfaces : List Interface} {tokens : Tokens}
    (generated : ofInterfaces runtime interfaces = .ok tokens) :
    ∃ endpoints, List.Forall₂ (fun interface endpoint => Endpoint.ofInterface interface = .ok endpoint)
        interfaces endpoints ∧
      (∀ endpoint ∈ endpoints, Text.isIdentifier (constructorName endpoint) = true) ∧
        tokens = itemsTokens (endpoints.flatMap (allItems runtime)) := by
  induction interfaces generalizing tokens with
  | nil =>
    obtain rfl := Except.ok.inj generated
    exact ⟨[], .nil, by simp, rfl⟩
  | cons interface rest ih =>
    simp only [ofInterfaces, ofInterface, Builder.tokens, Checks.bind_eq_ok_iff, Checks.pure_eq_ok_iff,
      Checks.mapError_eq_ok_iff, Checks.require_eq_ok_iff, Except.ok.injEq] at generated
    obtain ⟨_, ⟨endpoint, built, named, rfl⟩, _, others, rfl⟩ := generated
    obtain ⟨endpoints, builtRest, namedRest, rfl⟩ := ih others
    refine ⟨endpoint :: endpoints, .cons built builtRest, List.forall_mem_cons.mpr ⟨named, namedRest⟩, ?_⟩
    rw [List.flatMap_cons, itemsTokens_append]
    rfl

section
variable {endpoint : Endpoint} {runtime : Path}

theorem forall_mem_allItems {property : Item → Prop}
    (callback : ∀ name response, endpoint.asyncCallback? = some name → endpoint.syncResult? = some response →
      property (.trait (callbackTrait endpoint name response)))
    (builder : property (.structure (declaration endpoint runtime)))
    (own : property (.implementation (implementing endpoint none [] (routines endpoint runtime))))
    (default : property (.implementation (implementing endpoint (some defaultPath) [] [defaultFunction])))
    (free : property (.function (constructor endpoint (constructorName endpoint))))
    (interface : property (.implementation (implementing endpoint (some (.ofName endpoint.name))
      [allowing "unused_variables"] (endpoint.methods.map methodFunction)))) :
    ∀ item ∈ allItems runtime endpoint, property item := by
  intro item among
  rcases List.mem_append.mp among with called | fixed
  · unfold callbackItems at called
    split at called
    next name response async waits =>
      obtain rfl := List.mem_singleton.mp called
      exact callback name response async waits
    next => cases called
  · simp only [List.mem_cons, List.not_mem_nil, or_false] at fixed
    rcases fixed with rfl | rfl | rfl | rfl | rfl
    · exact builder
    · exact own
    · exact default
    · exact free
    · exact interface

theorem typeNames_allItems (waits : endpoint.syncResult?.isSome = true) (plain : '#' ∉ endpoint.name.toList) :
    (allItems runtime endpoint).filterMap Item.typeName? =
      endpoint.callbackName?.toList ++ [endpoint.name ++ "Impl"] := by
  have builder : Endpoint.bareName endpoint.builderName = endpoint.name ++ "Impl" := by
    rw [Endpoint.builderName, Endpoint.bareName_of_not_mem plain]
    exact Endpoint.bareName_of_not_mem (by simp [plain])
  have callbacks : (callbackItems endpoint).filterMap Item.typeName? = endpoint.callbackName?.toList := by
    obtain ⟨response, waits⟩ := Option.isSome_iff_exists.mp waits
    unfold callbackItems Endpoint.callbackName?
    rw [waits]
    cases endpoint.asyncCallback? <;> simp [Item.typeName?, callbackTrait]
  simp [allItems, items, callbacks, Item.typeName?, declaration, builder]

theorem bareName_constructorName : Endpoint.bareName (constructorName endpoint) = constructorName endpoint := by
  rcases Endpoint.bareName_cases (constructorName endpoint) with bare | raw
  · exact bare
  · simp [constructorName] at raw

theorem functionNames_allItems :
    (allItems runtime endpoint).filterMap Item.functionName? = [constructorName endpoint] := by
  have callbacks : (callbackItems endpoint).filterMap Item.functionName? = [] := by
    unfold callbackItems
    split <;> rfl
  rw [allItems, items, List.filterMap_append, callbacks]
  exact congrArg (fun name => [name]) bareName_constructorName

end

theorem nodup_names_iff {endpoints : List Endpoint} {runtime : Path}
    (waits : ∀ endpoint ∈ endpoints, endpoint.syncResult?.isSome = true)
    (plain : ∀ endpoint ∈ endpoints, '#' ∉ endpoint.name.toList)
    (distinct : (endpoints.map (·.name)).Nodup) :
    ((endpoints.flatMap (allItems runtime)).filterMap Item.typeName? ++ endpoints.map (·.name)).Nodup ∧
        ((endpoints.flatMap (allItems runtime)).filterMap Item.functionName?).Nodup ↔
      Endpoint.Apart endpoints := by
  have types : (endpoints.flatMap (allItems runtime)).filterMap Item.typeName? =
      endpoints.flatMap fun endpoint => endpoint.callbackName?.toList ++ [endpoint.name ++ "Impl"] := by
    rw [List.filterMap_flatMap]
    exact List.flatMap_congr fun endpoint among => typeNames_allItems (waits endpoint among) (plain endpoint among)
  have functions : (endpoints.flatMap (allItems runtime)).filterMap Item.functionName? =
      endpoints.map constructorName := by
    rw [List.filterMap_flatMap, List.map_eq_flatMap]
    exact List.flatMap_congr fun endpoint _ => functionNames_allItems
  have order : (endpoints.filterMap Endpoint.callbackName? ++ endpoints.map (·.name ++ "Impl")).Perm
      (endpoints.flatMap fun endpoint => endpoint.callbackName?.toList ++ [endpoint.name ++ "Impl"]) := by
    rw [List.filterMap_eq_flatMap_toList, List.map_eq_flatMap]
    exact List.flatMap_append_perm endpoints _ _
  have builders : (endpoints.map (·.name ++ "Impl")).Nodup := by
    have each : endpoints.map (·.name ++ "Impl") = (endpoints.map (·.name)).map (· ++ "Impl") := by simp
    rw [each]
    exact distinct.map fun one other same => (String.append_left_inj "Impl").mp same
  have constructors : (endpoints.map constructorName).Nodup ↔
      (endpoints.map fun endpoint => Text.SnakeCase.convert endpoint.name).Nodup := by
    have each : endpoints.map constructorName =
        (endpoints.map fun endpoint => Text.SnakeCase.convert endpoint.name).map ("new_" ++ ·) := by
      rw [List.map_map]
      rfl
    rw [each]
    exact List.nodup_map_iff fun one other same => (String.append_right_inj "new_").mp same
  rw [types, functions, constructors, (order.append_right _).symm.nodup_iff, List.nodup_append, List.nodup_append]
  constructor
  · rintro ⟨⟨⟨callbacks, -, apartBuilders⟩, -, apartNames⟩, constructors⟩
    refine ⟨callbacks, fun callback among endpoint member => ⟨?_, ?_⟩, fun one first other second => ?_, constructors⟩
    · exact apartBuilders callback among _ (List.mem_map_of_mem member)
    · exact apartNames callback (List.mem_append_left _ among) _ (List.mem_map_of_mem member)
    · exact apartNames _ (List.mem_append_right _ (List.mem_map_of_mem first)) _ (List.mem_map_of_mem second)
  · intro apart
    refine ⟨⟨⟨apart.callbacks, builders, ?_⟩, distinct, ?_⟩, apart.constructors⟩
    · intro callback among name member
      obtain ⟨endpoint, inside, rfl⟩ := List.mem_map.mp member
      exact (apart.callbacksOthers callback among endpoint inside).1
    · intro generated among name member
      obtain ⟨endpoint, inside, rfl⟩ := List.mem_map.mp member
      rcases List.mem_append.mp among with callback | builder
      · exact (apart.callbacksOthers generated callback endpoint inside).2
      · obtain ⟨one, first, rfl⟩ := List.mem_map.mp builder
        exact apart.builders one first endpoint inside

theorem interface_names {interfaces : List Interface} {endpoints : List Endpoint}
    (built : List.Forall₂ (fun interface endpoint => Endpoint.ofInterface interface = .ok endpoint)
      interfaces endpoints) : interfaces.map (·.name) = endpoints.map (·.name) := by
  induction built with
  | nil => rfl
  | cons first _ ih =>
    have same := (Endpoint.ofInterface_eq_ok_iff.mp first).2.2.2.2.1
    simp [ih, same]

/-- In what is generated for traits with names of their own, no name is taken twice exactly when the names
of the endpoints are apart. A source with these traits gets it as its file. -/
theorem generated_names_nodup_iff (found : SourceFile) (runtime : Path) (generated : Tokens)
    (distinct : (found.interfaces.map (·.name)).Nodup)
    (returned : ofInterfaces runtime found.scan = .ok generated) :
    ∃ endpoints, List.Forall₂ (fun interface endpoint => Endpoint.ofInterface interface = .ok endpoint)
        found.scan endpoints ∧
      generated = itemsTokens (endpoints.flatMap (allItems runtime)) ∧
      (∀ source, SourceFile.read source = .ok found →
        fileOfSource source runtime = if endpoints.isEmpty then .ok none else (file generated).map some) ∧
      (((endpoints.flatMap (allItems runtime)).filterMap Item.typeName? ++
            found.scan.map fun interface => Endpoint.bareName interface.name).Nodup ∧
          ((endpoints.flatMap (allItems runtime)).filterMap Item.functionName?).Nodup ↔
        Endpoint.Apart endpoints) := by
  obtain ⟨endpoints, built, named, rfl⟩ := ofInterfaces_eq_ok returned
  have plain : ∀ endpoint ∈ endpoints, '#' ∉ endpoint.name.toList :=
    fun endpoint among => not_mem_of_isIdentifier_constructorName (named endpoint among)
  have waits : ∀ endpoint ∈ endpoints, endpoint.syncResult?.isSome = true := by
    intro endpoint among
    obtain ⟨_, -, accepted⟩ := Checks.exists_of_mem_forall₂ built among
    exact (Endpoint.methods_of_built accepted).2.2.2
  have scanned : (endpoints.map (·.name)).Nodup := by
    rw [← interface_names built]
    exact distinct.sublist (List.filter_sublist.map _)
  have names : (found.scan.map fun interface => Endpoint.bareName interface.name) = endpoints.map (·.name) := by
    have bare : found.scan.map (fun interface => Endpoint.bareName interface.name) =
        (endpoints.map (·.name)).map Endpoint.bareName := by
      rw [← interface_names built, List.map_map]
      rfl
    rw [bare, List.map_map]
    exact List.map_congr_left fun endpoint among => Endpoint.bareName_of_not_mem (plain endpoint among)
  refine ⟨endpoints, built, rfl, fun source read => ?_, ?_⟩
  · have empty : found.scan.isEmpty = endpoints.isEmpty := by
      rw [Bool.eq_iff_iff, List.isEmpty_iff_length_eq_zero, List.isEmpty_iff_length_eq_zero, built.length_eq]
    rw [fileOfSource_of_read read, returned, ← empty]
    rfl
  · rw [names]
    exact nodup_names_iff waits plain scanned

/-- A trait with a terminal that waits and one that does not. -/
def callingTrait (name tag callback : String) : TraitDeclaration where
  attributes := [documented tag]
  visibility := .inherited
  isUnsafe := false
  isAuto := false
  name
  generics := .empty
  supertraits := .nil
  items := [
    .method ⟨[documented "@SYNC(\"Photo\")"], plainSignature "run" [.receiver ⟨[], none, false, none⟩]
      (some (.path (.mk false [.mk "Result" (.angle false
        [.type (.path (.ofName "Photo")), .type (.path (.ofName "Error"))] false)]))), none⟩,
    .method ⟨[documented ("@ASYNC(\"" ++ callback ++ "\")")], plainSignature "start"
      [.receiver ⟨[], none, false, none⟩, parameter "done" (word callback)] none, none⟩]

/-- A file with two traits, each of which has a callback. -/
def photosFile (shown stored : String) : SourceFile :=
  ⟨[], [.trait (callingTrait "ShowPhoto" "@GET(\"/photo\")" shown),
    .trait (callingTrait "StorePhoto" "@POST(\"/photo\")" stored)]⟩

theorem photos_names_apart :
    ((photosFile "Shown" "Stored").interfaces.map (·.name)).Nodup ∧
    ∃ generated, ofInterfaces defaultRuntime (photosFile "Shown" "Stored").scan = .ok generated ∧
      ∃ endpoints, List.Forall₂ (fun interface endpoint => Endpoint.ofInterface interface = .ok endpoint)
          (photosFile "Shown" "Stored").scan endpoints ∧
        generated = itemsTokens (endpoints.flatMap (allItems defaultRuntime)) ∧
        (∀ source, SourceFile.read source = .ok (photosFile "Shown" "Stored") →
          fileOfSource source defaultRuntime =
            if endpoints.isEmpty then .ok none else (file generated).map some) ∧
        (((endpoints.flatMap (allItems defaultRuntime)).filterMap Item.typeName? ++
              (photosFile "Shown" "Stored").scan.map fun interface => Endpoint.bareName interface.name).Nodup ∧
            ((endpoints.flatMap (allItems defaultRuntime)).filterMap Item.functionName?).Nodup ↔
          Endpoint.Apart endpoints) := by
  have distinct : ((photosFile "Shown" "Stored").interfaces.map (·.name)).Nodup := by decide
  obtain ⟨generated, returned, -⟩ := Checks.exists_ok_of_toOption
    (ofInterfaces defaultRuntime (photosFile "Shown" "Stored").scan) (fun _ => True) (by decide +kernel)
  exact ⟨distinct, generated, returned, generated_names_nodup_iff (photosFile "Shown" "Stored") defaultRuntime
    generated distinct returned⟩

/-- Two traits may name one callback. The code for them declares two traits of that name. -/
theorem shared_callback_declared_twice :
    ((photosFile "Done" "Done").interfaces.map (·.name)).Nodup ∧
    (ofInterfaces defaultRuntime (photosFile "Done" "Done").scan).toOption.isSome = true ∧
    ∃ endpoints, List.Forall₂ (fun interface endpoint => Endpoint.ofInterface interface = .ok endpoint)
        (photosFile "Done" "Done").scan endpoints ∧
      (endpoints.flatMap (allItems defaultRuntime)).filterMap Item.typeName? =
        ["Done", "ShowPhotoImpl", "Done", "StorePhotoImpl"] := by
  obtain ⟨endpoints, built, names⟩ := Checks.exists_ok_of_toOption
    ((photosFile "Done" "Done").scan.mapM Endpoint.ofInterface) (fun endpoints =>
      (endpoints.flatMap (allItems defaultRuntime)).filterMap Item.typeName? =
        ["Done", "ShowPhotoImpl", "Done", "StorePhotoImpl"]) (by decide +kernel)
  exact ⟨by decide, by decide +kernel, endpoints, Checks.mapM_eq_ok_iff.mp built, names⟩

end Builder

end Endpoints
