import Endpoints.Token.Basic

/-! Types and the paths and bounds in them. An expression in a type, such as an array's length, is
kept as its tokens, and so are `for<…>` binders and attributes. A list of things in brackets also says
whether a separator follows its last one. -/

namespace Endpoints

mutual

inductive Ty where
  | array (element : Ty) (length : Tokens)
  /-- A function pointer; `qualifiers` are what stands before `fn`. -/
  | function (binder : Tokens) (qualifiers : Tokens) (inputs : List FunctionInput) (trailing : Bool)
      (variadic : Tokens) (output : Option Ty)
  | implementing (bounds : List Bound) (trailing : Bool)
  | inferred
  | never
  | paren (inner : Ty)
  | path (path : Path)
  /-- An associated item of a type, seen through a trait if one is given. -/
  | qualified (self : Ty) (ofTrait : Option Path) (segments : List Segment)
  | pointer (mutable : Bool) (target : Ty)
  | reference (lifetime : Option String) (mutable : Bool) (target : Ty)
  | slice (element : Ty)
  /-- A trait object, with or without the word `dyn`. -/
  | traitObject (keyword : Bool) (bounds : List Bound) (trailing : Bool)
  | tuple (elements : List Ty) (trailing : Bool)
  /-- A type that a macro call stands for. -/
  | call (path : Path) (delimiter : Delimiter) (content : Tokens)
  | verbatim (tokens : Tokens)

inductive FunctionInput where
  | mk (attributes : Tokens) (name : Option String) (type : Ty)

/-- A path; it is global when it starts with `::`. -/
inductive Path where
  | mk (isGlobal : Bool) (segments : List Segment)

inductive Segment where
  | mk (name : String) (arguments : Arguments)

inductive Arguments where
  | none
  /-- Arguments in angle brackets, after `::` when `turbofish` holds. -/
  | angle (turbofish : Bool) (arguments : List Argument) (trailing : Bool)
  /-- The inputs and the output of a function trait. -/
  | call (inputs : List Ty) (trailing : Bool) (output : Option Ty)

inductive Argument where
  | lifetime (name : String)
  | type (type : Ty)
  | const (value : Tokens)
  | associatedType (name : String) (arguments : Arguments) (type : Ty)
  | associatedConst (name : String) (arguments : Arguments) (value : Tokens)
  | constraint (name : String) (arguments : Arguments) (bounds : List Bound) (trailing : Bool)

inductive Bound where
  | ofTrait (parenthesized : Bool) (optional : Bool) (binder : Tokens) (path : Path)
  | lifetime (name : String)
  /-- The generics that an opaque type may use. -/
  | capturing (lifetimes : List String) (parameters : List String) (trailing : Bool)
  | verbatim (tokens : Tokens)

end

namespace Path

def isGlobal : Path → Bool
  | .mk isGlobal _ => isGlobal

def segments : Path → List Segment
  | .mk _ segments => segments

end Path

namespace Segment

def name : Segment → String
  | .mk name _ => name

def arguments : Segment → Arguments
  | .mk _ arguments => arguments

end Segment

def Arguments.isNone : Arguments → Bool
  | .none => true
  | _ => false

def Path.name? : Path → Option String
  | .mk false [.mk name .none] => some name
  | _ => none

def Path.ofName (name : String) : Path := .mk false [.mk name .none]

/-- A path whose segments have no arguments. -/
def Path.isPlain (path : Path) : Bool := path.segments.all (·.arguments.isNone)

end Endpoints
