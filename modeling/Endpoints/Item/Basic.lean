import Endpoints.Pattern.Basic
import Endpoints.Type.Attribute

/-! Signatures of functions and the items of a source file. Bodies are kept as the tokens of their
statements, and items that no capability looks into as their tokens. -/

namespace Endpoints

inductive Visibility where
  | inherited
  | everywhere
  /-- Visible in a module, written with or without `in`. -/
  | inside (keyword : Bool) (path : Tokens)
  deriving Inhabited

inductive GenericParameter where
  | lifetime (attributes : List Attribute) (name : String) (bounds : Separated String)
  | type (attributes : List Attribute) (name : String) (bounds : Separated Bound)
      (default : Option Ty)
  | const (attributes : List Attribute) (name : String) (type : Ty) (default : Option Tokens)

inductive Predicate where
  | lifetime (name : String) (bounds : Separated String)
  | type (binder : Tokens) (type : Ty) (bounds : Separated Bound)

structure Generics where
  parameters : Separated GenericParameter
  constraints : Option (Separated Predicate)

def Generics.empty : Generics := ⟨.nil, none⟩

/-- How a method receives the value it is called on: with `&` and perhaps a lifetime, with `mut`, and
perhaps with a type of its own. -/
structure Receiver where
  attributes : List Attribute
  reference : Option (Option String)
  mutable : Bool
  type : Option Ty

inductive Input where
  | receiver (receiver : Receiver)
  | parameter (attributes : List Attribute) (pattern : Pattern) (type : Ty)

/-- An open end of a list of inputs. -/
structure Variadic where
  attributes : List Attribute
  pattern : Option Pattern
  comma : Bool

structure Signature where
  isConst : Bool
  isAsync : Bool
  isUnsafe : Bool
  /-- The calling convention: `extern` and perhaps its name, a literal. -/
  convention : Option (Option String)
  name : String
  generics : Generics
  inputs : Separated Input
  variadic : Option Variadic
  output : Option Ty

/-- A method of a trait. `body` holds the statements of a default body. -/
structure TraitMethod where
  attributes : List Attribute
  signature : Signature
  body : Option Tokens

inductive TraitItem where
  | method (method : TraitMethod)
  | other (tokens : Tokens)

structure TraitDeclaration where
  attributes : List Attribute
  visibility : Visibility
  isUnsafe : Bool
  isAuto : Bool
  name : String
  generics : Generics
  supertraits : Separated Bound
  items : List TraitItem

structure Field where
  attributes : List Attribute
  visibility : Visibility
  name : String
  type : Ty

/-- A structure with named fields. -/
structure StructureDeclaration where
  attributes : List Attribute
  visibility : Visibility
  name : String
  generics : Generics
  fields : Separated Field

structure FunctionDeclaration where
  attributes : List Attribute
  visibility : Visibility
  isDefault : Bool
  signature : Signature
  body : Tokens

inductive ImplementationItem where
  | function (function : FunctionDeclaration)
  | other (tokens : Tokens)

structure Implementation where
  attributes : List Attribute
  isDefault : Bool
  isUnsafe : Bool
  generics : Generics
  /-- The trait that is implemented, and whether it is denied. -/
  ofTrait : Option (Bool × Path)
  type : Ty
  items : List ImplementationItem

inductive Item where
  | trait (declaration : TraitDeclaration)
  | structure (declaration : StructureDeclaration)
  | function (declaration : FunctionDeclaration)
  | implementation (implementation : Implementation)
  /-- A module, and its items if they are written in place. -/
  | module (attributes : List Attribute) (visibility : Visibility) (isUnsafe : Bool) (name : String)
      (content : Option (List Item))
  | other (tokens : Tokens)

/-- A source file: its own attributes and its items. -/
structure SourceFile where
  attributes : List Attribute
  items : List Item

end Endpoints
