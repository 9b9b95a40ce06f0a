import Endpoints.Item.Tokens
import Endpoints.Layout.Expr

/-! The layout of signatures and items. -/

namespace Endpoints.Layout
open Doc (word zero space hard blank innerSpace innerHard fixed lastComma uniform flexible indentation
  outdent separated list commas body shiftLast)

section
variable (kept : Kept)

def genericParameterDocs : GenericParameter → Bool × Docs
  | .lifetime attributes name bounds =>
    (true, outerDocs kept attributes ++ lifetime name
      ++ (if bounds.items.isEmpty then []
        else word ": " ++ plusSeparated (bounds.items.map lifetime)))
  | .type attributes name bounds default =>
    (false, outerDocs kept attributes ++ word name
      ++ flexible indentation (bounded (boundDocs kept bounds.items)
        ++ (match default with
          | some ty => [space] ++ word "= " ++ typeDocs kept ty
          | none => [])))
  | .const attributes name ty default =>
    (false, outerDocs kept attributes ++ word "const " ++ word name ++ word ": " ++ typeDocs kept ty
      ++ (match default with
        | some value => word " = " ++ kept.expression value
        | none => []))

def genericsDocs (generics : Generics) : Docs :=
  if generics.parameters.items.isEmpty then []
  else word "<"
    ++ uniform 0 (outdent (zero :: commas lastComma
      (lifetimesFirst (generics.parameters.items.map (genericParameterDocs kept)))))
    ++ word ">"

def demands (parts : List Docs) : Docs := blank ++ separated [space, .text "+ "] parts

def predicateDocs : Predicate → Docs
  | .lifetime name bounds =>
    lifetime name ++ word ":" ++ flexible indentation (demands (bounds.items.map lifetime))
  | .type binder ty bounds =>
    kept.binder binder ++ typeDocs kept ty ++ word ":"
      ++ flexible (if bounds.items.length = 1 then 0 else indentation)
        (demands (boundDocs kept bounds.items))

def predicates (generics : Generics) : List Predicate :=
  match generics.constraints with
  | some constraints => constraints.items
  | none => []

def constraintsBeforeBody (generics : Generics) : Docs :=
  match predicates generics with
  | [] => blank
  | constraints =>
    outdent [hard] ++ word "where"
      ++ outdent (hard :: constraints.flatMap fun constraint =>
        predicateDocs kept constraint ++ [.text ",", hard])

def constraintsBeforeEnd (generics : Generics) : Docs :=
  match predicates generics with
  | [] => word ";"
  | constraints =>
    outdent [hard] ++ word "where" ++ [hard]
      ++ separated [.text ",", hard] (constraints.map (predicateDocs kept)) ++ word ";"

def visibilityDocs : Visibility → Docs
  | .inherited => []
  | .everywhere => word "pub "
  | .inside _ path =>
    let names := path.map Token.text
    let bare := names = ["self"] || names = ["super"] || names = ["crate"]
    word "pub(" ++ (if bare then [] else word "in ") ++ compactTokens path ++ word ") "

def receiverDocs (receiver : Receiver) : Docs :=
  outerDocs kept receiver.attributes
    ++ (match receiver.reference with
      | some (some name) => word "&" ++ lifetime name ++ blank
      | some none => word "&"
      | none => [])
    ++ (if receiver.mutable then word "mut " else []) ++ word "self"
    ++ (match receiver.type with
      | some ty => word ": " ++ typeDocs kept ty
      | none => [])

def functionInputDocs : Input → Docs
  | .receiver receiver => receiverDocs kept receiver
  | .parameter attributes pattern ty =>
    outerDocs kept attributes ++ patternDocs kept pattern ++ word ": " ++ typeDocs kept ty

def variadicDocs (variadic : Variadic) : Docs :=
  outerDocs kept variadic.attributes
    ++ (match variadic.pattern with
      | some pattern => patternDocs kept pattern ++ word ": "
      | none => [])
    ++ word "..." ++ [zero]

def functionInputsDocs (signature : Signature) : Docs :=
  let inputs := signature.inputs.items.map (functionInputDocs kept)
  match signature.variadic with
  | none => commas lastComma inputs
  | some variadic => (inputs.flatMap fun input => input ++ [.text ",", space]) ++ variadicDocs kept variadic

def conventionDocs (convention : Option (Option String)) : Docs :=
  match convention with
  | none => []
  | some none => word "extern "
  | some (some name) => word "extern " ++ word name ++ blank

def signatureDocs (signature : Signature) : Docs :=
  (if signature.isConst then word "const " else []) ++ (if signature.isAsync then word "async " else [])
    ++ (if signature.isUnsafe then word "unsafe " else []) ++ conventionDocs signature.convention
    ++ word "fn " ++ word signature.name ++ genericsDocs kept signature.generics ++ word "(" ++ [fixed]
    ++ uniform 0 (outdent (zero :: functionInputsDocs kept signature)) ++ word ")"
    ++ uniform (-indentation) (outputDocs kept signature.output)

/-- The lines of a body that is kept as tokens. -/
def bodyDocs (attributes : List Attribute) (tokens : Tokens) : Docs :=
  innerDocs kept attributes ++ kept.body tokens

def functionDocs (declaration : FunctionDeclaration) : Docs :=
  outerDocs kept declaration.attributes
    ++ uniform indentation (visibilityDocs declaration.visibility
      ++ (if declaration.isDefault then word "default " else [])
      ++ signatureDocs kept declaration.signature
      ++ constraintsBeforeBody kept declaration.signature.generics ++ word "\x7b"
      ++ body (bodyDocs kept declaration.attributes declaration.body))
    ++ word "\x7d" ++ [hard]

def traitMethodDocs (declaration : TraitMethod) : Docs :=
  outerDocs kept declaration.attributes
    ++ (match declaration.body with
      | none =>
        uniform indentation (signatureDocs kept declaration.signature
          ++ constraintsBeforeEnd kept declaration.signature.generics)
      | some tokens =>
        uniform indentation (signatureDocs kept declaration.signature
          ++ constraintsBeforeBody kept declaration.signature.generics ++ word "\x7b"
          ++ body (bodyDocs kept declaration.attributes tokens))
          ++ word "\x7d")
    ++ [hard]

def traitItemDocs : TraitItem → Docs
  | .method declaration => traitMethodDocs kept declaration
  | .other tokens => word tokens.text ++ [hard]

def supertraitsDocs (bounds : List Docs) : Docs :=
  if bounds.isEmpty then [] else word ": " ++ plusSeparated bounds

def traitDocs (declaration : TraitDeclaration) : Docs :=
  outerDocs kept declaration.attributes
    ++ uniform indentation (visibilityDocs declaration.visibility
      ++ (if declaration.isUnsafe then word "unsafe " else [])
      ++ (if declaration.isAuto then word "auto " else [])
      ++ word "trait " ++ word declaration.name ++ genericsDocs kept declaration.generics
      ++ supertraitsDocs (boundDocs kept declaration.supertraits.items)
      ++ constraintsBeforeBody kept declaration.generics ++ word "\x7b"
      ++ body (innerDocs kept declaration.attributes
        ++ declaration.items.flatMap (traitItemDocs kept)))
    ++ word "\x7d" ++ [hard]

def structureFieldDocs (field : Field) : Docs :=
  outerDocs kept field.attributes ++ visibilityDocs field.visibility ++ word field.name ++ word ": "
    ++ typeDocs kept field.type ++ [.text ",", hard]

def structureDocs (declaration : StructureDeclaration) : Docs :=
  outerDocs kept declaration.attributes
    ++ uniform indentation (visibilityDocs declaration.visibility ++ word "struct "
      ++ word declaration.name ++ genericsDocs kept declaration.generics
      ++ constraintsBeforeBody kept declaration.generics ++ word "\x7b"
      ++ body (declaration.fields.items.flatMap (structureFieldDocs kept)))
    ++ word "\x7d" ++ [hard]

def implementationItemDocs : ImplementationItem → Docs
  | .function declaration => functionDocs kept declaration
  | .other tokens => word tokens.text ++ [hard]

def implementationDocs (implementation : Implementation) : Docs :=
  outerDocs kept implementation.attributes
    ++ uniform indentation (
      flexible (-indentation) (
        uniform indentation ((if implementation.isDefault then word "default " else [])
          ++ (if implementation.isUnsafe then word "unsafe " else []) ++ word "impl"
          ++ genericsDocs kept implementation.generics)
        ++ blank
        ++ (match implementation.ofTrait with
          | some (denied, path) =>
            (if denied then word "!" else []) ++ pathDocs kept .type path ++ [space] ++ word "for "
          | none => [])
        ++ typeDocs kept implementation.type)
      ++ constraintsBeforeBody kept implementation.generics ++ word "\x7b"
      ++ body (innerDocs kept implementation.attributes
        ++ implementation.items.flatMap (implementationItemDocs kept)))
    ++ word "\x7d" ++ [hard]

/-- Items that no builder holds are written as their tokens. -/
def itemDocs : Item → Docs
  | .trait declaration => traitDocs kept declaration
  | .structure declaration => structureDocs kept declaration
  | .function declaration => functionDocs kept declaration
  | .implementation implementation => implementationDocs kept implementation
  | other => word other.tokens.text ++ [hard]

def fileDocs (file : SourceFile) : Docs :=
  uniform 0 (innerDocs kept file.attributes ++ file.items.flatMap (itemDocs kept))

end

end Endpoints.Layout
