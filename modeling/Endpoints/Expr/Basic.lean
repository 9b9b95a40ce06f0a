import Endpoints.Pattern.Basic
import Endpoints.Type.Attribute

/-! Expressions and statements. Items among statements are kept as their tokens. -/

namespace Endpoints

mutual

inductive Expr where
  | attributed (attributes : List Attribute) (inner : Expr)
  | array (elements : List Expr) (trailing : Bool)
  | assign (target : Expr) (value : Expr)
  | asyncBlock (moving : Bool) (body : Block)
  | await (base : Expr)
  | binary (left : Expr) (operator : String) (right : Expr)
  | block (label : Option String) (body : Block)
  | breakLoop (label : Option String) (value : Option Expr)
  | call (function : Expr) (arguments : List Expr) (trailing : Bool)
  | cast (value : Expr) (type : Ty)
  /-- A closure; `qualifiers` are what stands before its inputs. -/
  | closure (qualifiers : Tokens) (inputs : List Pattern) (trailing : Bool) (output : Option Ty)
      (body : Expr)
  | constBlock (body : Block)
  | continueLoop (label : Option String)
  | field (base : Expr) (member : String)
  | forLoop (label : Option String) (pattern : Pattern) (source : Expr) (body : Block)
  | conditional (condition : Expr) (body : Block) (otherwise : Option Expr)
  | index (base : Expr) (position : Expr)
  | inferred
  | binding (pattern : Pattern) (value : Expr)
  | literal (tokens : Tokens)
  | loop (label : Option String) (body : Block)
  | macroCall (path : Path) (delimiter : Delimiter) (content : Tokens)
  | choice (subject : Expr) (attributes : List Attribute) (arms : List Arm)
  | methodCall (receiver : Expr) (method : String) (turbofish : Arguments) (arguments : List Expr)
      (trailing : Bool)
  | paren (inner : Expr)
  | path (path : Ty)
  | range (lower : Option Expr) (closed : Bool) (upper : Option Expr)
  | rawAddress (mutable : Bool) (target : Expr)
  | reference (mutable : Bool) (target : Expr)
  | repeated (element : Expr) (count : Expr)
  | returning (value : Option Expr)
  /-- A structure, and what follows its fields after `..` if that is there. -/
  | structure (path : Ty) (fields : List FieldValue) (trailing : Bool) (base : Option (Option Expr))
  | propagate (base : Expr)
  | tryBlock (body : Block)
  | tuple (elements : List Expr) (trailing : Bool)
  | unary (operator : String) (operand : Expr)
  | unsafeBlock (body : Block)
  | verbatim (tokens : Tokens)
  | whileLoop (label : Option String) (condition : Expr) (body : Block)
  | yielding (value : Option Expr)

/-- Statements in braces, after the attributes of what they are the body of. -/
inductive Block where
  | mk (attributes : List Attribute) (statements : List Statement)

inductive Arm where
  | mk (attributes : List Attribute) (pattern : Pattern) (guard : Option Expr) (body : Expr)
      (comma : Bool)

/-- A field and its value; a field without one stands for the variable of its name. -/
inductive FieldValue where
  | mk (attributes : List Attribute) (member : String) (value : Option Expr)

inductive Statement where
  /-- A binding, with what runs instead when its pattern does not match. -/
  | bind (attributes : List Attribute) (pattern : Pattern) (type : Option Ty) (value : Option Expr)
      (otherwise : Option Block)
  | item (tokens : Tokens)
  | expression (value : Expr) (semicolon : Bool)
  | macroCall (attributes : List Attribute) (path : Path) (delimiter : Delimiter) (content : Tokens)
      (semicolon : Bool)
  | empty

end

instance : Inhabited Expr := ⟨.inferred⟩

def Block.attributes : Block → List Attribute
  | .mk attributes _ => attributes

def Block.statements : Block → List Statement
  | .mk _ statements => statements

end Endpoints
