import Endpoints.Event
import Endpoints.Interface.Basic

/-! The interfaces of a source file. Only traits at the top level are taken: what is generated stands at
the top level too, where the names inside a module are not in scope. -/

namespace Endpoints

namespace Event

def untaggedTrait (interface : String) : Event :=
  ⟨.trace, "skipping trait without endpoint tag", [("interface", interface)]⟩

def nestedTrait (inside interface : String) : Event :=
  ⟨.warn, "endpoint trait inside an inline module is not generated; move it to the top level "
    ++ "or use #[rest_builder]", [("module", inside), ("interface", interface)]⟩

end Event

namespace Item

def trait? : Item → Option TraitDeclaration
  | .trait declaration => some declaration
  | _ => none

mutual

/-- The tagged traits at any depth below a module, each with the name of its innermost module. -/
def nestedTagged (inside : String) : Item → List (String × String)
  | .trait declaration =>
    if (Interface.ofTrait declaration).isTagged then [(inside, declaration.name)] else []
  | .module _ _ _ name (some content) => nestedTaggedAll name content
  | _ => []

def nestedTaggedAll (inside : String) : List Item → List (String × String)
  | [] => []
  | item :: rest => item.nestedTagged inside ++ nestedTaggedAll inside rest

end

mutual

/-- How many tagged traits an item below a module adds to those that are skipped. -/
def skippedCount : Item → Nat
  | .trait declaration => if (Interface.ofTrait declaration).isTagged then 1 else 0
  | .module _ _ _ _ (some content) => skippedCountAll content
  | _ => 0

def skippedCountAll : List Item → Nat
  | [] => 0
  | item :: rest => item.skippedCount + skippedCountAll rest

end

def scanEvents : Item → List Event
  | .trait declaration =>
    if (Interface.ofTrait declaration).isTagged then [] else [.untaggedTrait declaration.name]
  | .module _ _ _ name (some content) =>
    (nestedTaggedAll name content).map fun (inside, interface) => .nestedTrait inside interface
  | _ => []

end Item

namespace SourceFile

def interfaces (file : SourceFile) : List Interface :=
  (file.items.filterMap Item.trait?).map .ofTrait

def scan (file : SourceFile) : List Interface :=
  file.interfaces.filter (·.isTagged)

def scanEvents (file : SourceFile) : List Event :=
  file.items.flatMap Item.scanEvents

end SourceFile

end Endpoints
