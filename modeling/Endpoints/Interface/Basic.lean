import Endpoints.Documentation
import Endpoints.Item.Basic

/-! A trait as an interface: its documentation and that of its methods. -/

namespace Endpoints

structure InterfaceMethod where
  declaration : TraitMethod
  documentation : Documentation

structure Interface where
  declaration : TraitDeclaration
  documentation : Documentation
  methods : List InterfaceMethod

namespace TraitItem

def method? : TraitItem → Option TraitMethod
  | .method declaration => some declaration
  | .other _ => none

end TraitItem

namespace InterfaceMethod

def ofDeclaration (declaration : TraitMethod) : InterfaceMethod :=
  ⟨declaration, .ofAttributes declaration.attributes⟩

def name (self : InterfaceMethod) : String := self.declaration.signature.name

end InterfaceMethod

namespace Interface

def ofTrait (declaration : TraitDeclaration) : Interface where
  declaration
  documentation := .ofAttributes declaration.attributes
  methods := (declaration.items.filterMap TraitItem.method?).map .ofDeclaration

def name (interface : Interface) : String := interface.declaration.name

def isTagged (interface : Interface) : Bool := interface.documentation.hasEndpointTag

end Interface

end Endpoints
