import Endpoints.Builder.Generate
import Endpoints.Proofs.Checks
import Endpoints.Proofs.LexedTexts
import Endpoints.Proofs.TrimmedTexts

/-! What documentation has an effect on: the tags in it. The tags are the same however their lines are written, and
where they are the same, neither the other lines nor the attributes they stand in make a difference to what is built. -/

namespace Endpoints

namespace Documentation
open Text

end Documentation

/-- Attributes without the documentation among them. -/
def withoutDocumentation (attributes : List Attribute) : List Attribute :=
  attributes.filter (·.documentation?.isNone)

/-- Of the statements of a default body nothing is left, for their documentation is among their tokens. -/
def TraitMethod.undocumented (self : TraitMethod) : TraitMethod where
  attributes := withoutDocumentation self.attributes
  signature := self.signature
  body := self.body.map fun _ => []

/-- Of an item that is no method nothing is left either. -/
def TraitItem.undocumented : TraitItem → TraitItem
  | .method declared => .method declared.undocumented
  | .other _ => .other []

/-- A trait without the documentation of itself and of its items. -/
def TraitDeclaration.undocumented (self : TraitDeclaration) : TraitDeclaration :=
  { self with
    attributes := withoutDocumentation self.attributes
    items := self.items.map TraitItem.undocumented }

namespace Interface

/-- The tags of each method. -/
def methodTags (interface : Interface) : List (List String) :=
  interface.methods.map (·.documentation.tags)

/-- What is left of the methods without their documentation. -/
def undocumentedMethods (interface : Interface) : List TraitMethod :=
  interface.methods.map (·.declaration.undocumented)

theorem undocumentedMethods_ofTrait (declaration : TraitDeclaration) :
    (ofTrait declaration).undocumentedMethods = declaration.undocumented.items.filterMap TraitItem.method? := by
  have each (item : TraitItem) : item.undocumented.method? = item.method?.map TraitMethod.undocumented := by
    cases item <;> rfl
  have all : declaration.undocumented.items = declaration.items.map TraitItem.undocumented := rfl
  rw [undocumentedMethods, ofTrait, List.map_map, List.map_filterMap, all, List.filterMap_map]
  simp only [Function.comp_def, each]
  rfl

end Interface

/-- Building does not see more of a method than its signature, whether it has a body, and its tags. -/
theorem Method.ofInterface_congr {interface : String} {alone : Bool} {one other : InterfaceMethod}
    (declared : one.declaration.undocumented = other.declaration.undocumented)
    (tags : one.documentation.tags = other.documentation.tags) :
    ofInterface interface alone one = ofInterface interface alone other := by
  have signature : one.declaration.signature = other.declaration.signature := congrArg (·.signature) declared
  have body : one.declaration.body.isSome = other.declaration.body.isSome := by
    have kept := congrArg (·.body.isSome) declared
    simpa only [TraitMethod.undocumented, Option.isSome_map] using kept
  simp only [ofInterface, role?, InterfaceMethod.name, signature, body, tags]

theorem Method.collect_congr {interface : String} {alone : Bool} {methods others : List InterfaceMethod}
    (each : List.Forall₂ (fun one other => ofInterface interface alone one = ofInterface interface alone other)
      methods others) (before : List Method) :
    collect interface alone before methods = collect interface alone before others := by
  induction each generalizing before with
  | nil => rfl
  | cons first _ ih =>
    rw [collect, collect, first]
    simp only [ih]

namespace Endpoint

theorem ofInterface_congr {first second : Interface} (name : first.name = second.name)
    (visibility : first.declaration.visibility = second.declaration.visibility)
    (shape : shapeFault? first.declaration = shapeFault? second.declaration)
    (tags : first.documentation.tags = second.documentation.tags)
    (methods : List.Forall₂ (fun one other => Method.ofInterface first.name (first.methods.length == 1) one =
      Method.ofInterface first.name (first.methods.length == 1) other) first.methods second.methods) :
    ofInterface first = ofInterface second := by
  have collected := Method.collect_congr methods []
  unfold ofInterface
  rw [← name, ← visibility, ← shape, ← tags, ← methods.length_eq, collected]

theorem shapeFault?_undocumented (declaration : TraitDeclaration) :
    shapeFault? declaration.undocumented = shapeFault? declaration := by
  have each (item : TraitItem) : item.undocumented.method?.isNone = item.method?.isNone := by cases item <;> rfl
  have items : declaration.undocumented.items.any (·.method?.isNone) = declaration.items.any (·.method?.isNone) := by
    simp only [TraitDeclaration.undocumented, List.any_map, Function.comp_def, each]
  unfold shapeFault?
  rw [items]
  rfl

theorem shapeFault?_congr {first second : TraitDeclaration} (bare : first.undocumented = second.undocumented) :
    shapeFault? first = shapeFault? second := by
  rw [← shapeFault?_undocumented, bare, shapeFault?_undocumented]

theorem ofTrait_congr {first second : TraitDeclaration} (bare : first.undocumented = second.undocumented)
    (tags : (Interface.ofTrait first).documentation.tags = (Interface.ofTrait second).documentation.tags)
    (methodTags : (Interface.ofTrait first).methodTags = (Interface.ofTrait second).methodTags) :
    ofInterface (.ofTrait first) = ofInterface (.ofTrait second) := by
  have declared : (Interface.ofTrait first).undocumentedMethods = (Interface.ofTrait second).undocumentedMethods := by
    rw [Interface.undocumentedMethods_ofTrait, bare, Interface.undocumentedMethods_ofTrait]
  have views :
      (Interface.ofTrait first).methods.map (fun self => (self.declaration.undocumented, self.documentation.tags)) =
        (Interface.ofTrait second).methods.map fun self =>
          (self.declaration.undocumented, self.documentation.tags) := by
    rw [← List.zip_map', ← List.zip_map']
    exact congrArg₂ List.zip declared methodTags
  have name : (Interface.ofTrait first).name = (Interface.ofTrait second).name :=
    congrArg (·.name) bare
  have visibility : first.visibility = second.visibility := congrArg (·.visibility) bare
  refine ofInterface_congr name visibility (shapeFault?_congr bare) tags ?_
  rw [← List.forall₂_eq_eq_eq, List.forall₂_map_left_iff, List.forall₂_map_right_iff] at views
  refine views.imp fun one other same => ?_
  exact Method.ofInterface_congr (congrArg Prod.fst same) (congrArg Prod.snd same)

end Endpoint

theorem Builder.ofTrait_congr {first second : TraitDeclaration}
    (same : Endpoint.ofInterface (.ofTrait first) = Endpoint.ofInterface (.ofTrait second)) (runtime : Path) :
    ofTrait first runtime = ofTrait second runtime := by
  rw [ofTrait, ofTrait, ofInterface, ofInterface, same]

theorem Attribute.documentation?_documented (sentence : String) :
    (Builder.documented sentence).documentation? = some sentence := by
  have decoded := Text.Quoted.decode_of_means (Text.Quoted.means_encode sentence)
  rw [String.ofList_toList] at decoded
  exact decoded

/-- A method that returns a result. -/
def pingMethod (documentation : List String) : TraitMethod where
  attributes := documentation.map Builder.documented
  signature := Builder.plainSignature "ping" [.receiver ⟨[], none, false, none⟩]
    (some (.path (.mk false [.mk "Result" (.angle false
      [.type (.path (.ofName "String")), .type (.path (.ofName "Error"))] false)])))
  body := none

/-- A trait of methods that return results, with the documentation of itself and of each. -/
def pingTrait (documentation : List String) (methods : List (List String)) : TraitDeclaration where
  attributes := documentation.map Builder.documented
  visibility := .inherited
  isUnsafe := false
  isAuto := false
  name := "Ping"
  generics := .empty
  supertraits := .nil
  items := methods.map fun documentation => .method (pingMethod documentation)

theorem undocumented_pingTrait (documentation : List String) (methods : List (List String)) :
    (pingTrait documentation methods).undocumented = pingTrait [] (methods.map fun _ => []) := by
  have bare (texts : List String) : withoutDocumentation (texts.map Builder.documented) = [] := by
    simp [withoutDocumentation, Attribute.documentation?_documented]
  simp [pingTrait, pingMethod, TraitDeclaration.undocumented, TraitItem.undocumented, TraitMethod.undocumented, bare,
    Function.comp_def]

namespace Documentation

end Documentation

end Endpoints
