import Endpoints.Item.Basic

/-! The tokens of signatures and items. Empty lists of generics, bounds and constraints are left out. -/

namespace Endpoints
open Tokens

def outerOnly (attributes : List Attribute) : Tokens :=
  attributesTokens (attributes.filter (!·.inner))

def innerOnly (attributes : List Attribute) : Tokens :=
  attributesTokens (attributes.filter (·.inner))

def Visibility.tokens : Visibility → Tokens
  | .inherited => []
  | .everywhere => word "pub"
  | .inside keyword path => word "pub" ++ parens (given keyword (word "in") ++ path)

def boundedBy (bounds : Separated Bound) : Tokens :=
  given (!bounds.items.isEmpty) (operator ":" ++ plusList (boundsTokens bounds.items) bounds.trailing)

def lifetimeBounds (bounds : Separated String) : Tokens :=
  plusList (bounds.items.map Tokens.lifetime) bounds.trailing

/-- The tokens of a parameter, and whether it is a lifetime. -/
def GenericParameter.tokens : GenericParameter → Bool × Tokens
  | .lifetime attributes name bounds =>
    (true, attributesTokens attributes ++ Tokens.lifetime name
      ++ given (!bounds.items.isEmpty) (operator ":" ++ lifetimeBounds bounds))
  | .type attributes name bounds default =>
    (false, attributesTokens attributes ++ word name ++ boundedBy bounds
      ++ (match default with
        | some given => operator "=" ++ given.tokens
        | none => []))
  | .const attributes name ty default =>
    (false, attributesTokens attributes ++ word "const" ++ word name ++ operator ":" ++ ty.tokens
      ++ (match default with
        | some value => operator "=" ++ value
        | none => []))

def Predicate.tokens : Predicate → Tokens
  | .lifetime name bounds => Tokens.lifetime name ++ operator ":" ++ lifetimeBounds bounds
  | .type binder ty bounds =>
    binder ++ ty.tokens ++ operator ":" ++ plusList (boundsTokens bounds.items) bounds.trailing

def Generics.tokens (generics : Generics) : Tokens :=
  given (!generics.parameters.items.isEmpty)
    (operator "<"
      ++ lifetimesFirst (generics.parameters.items.map GenericParameter.tokens)
        generics.parameters.trailing
      ++ operator ">")

def Generics.whereTokens (generics : Generics) : Tokens :=
  match generics.constraints with
  | none => []
  | some predicates =>
    given (!predicates.items.isEmpty)
      (word "where" ++ commaList (predicates.items.map Predicate.tokens) predicates.trailing)

def Receiver.tokens (receiver : Receiver) : Tokens :=
  attributesTokens receiver.attributes
    ++ (match receiver.reference with
      | some name => operator "&" ++ (name.map Tokens.lifetime).getD []
      | none => [])
    ++ given receiver.mutable (word "mut") ++ word "self"
    ++ (match receiver.type with
      | some type => operator ":" ++ type.tokens
      | none => [])

def Input.tokens : Input → Tokens
  | .receiver self => self.tokens
  | .parameter attributes pattern ty =>
    attributesTokens attributes ++ pattern.tokens ++ operator ":" ++ ty.tokens

def Variadic.tokens (variadic : Variadic) : Tokens :=
  attributesTokens variadic.attributes
    ++ (match variadic.pattern with
      | some pattern => pattern.tokens ++ operator ":"
      | none => [])
    ++ operator "..." ++ given variadic.comma (operator ",")

def conventionTokens (convention : Option (Option String)) : Tokens :=
  match convention with
  | none => []
  | some none => word "extern"
  | some (some name) => word "extern" ++ [.literal name]

def Signature.tokens (signature : Signature) : Tokens :=
  let inputs := signature.inputs
  given signature.isConst (word "const") ++ given signature.isAsync (word "async")
    ++ given signature.isUnsafe (word "unsafe") ++ conventionTokens signature.convention
    ++ word "fn" ++ word signature.name ++ signature.generics.tokens
    ++ parens
      (match signature.variadic with
        | none => commaList (inputs.items.map Input.tokens) inputs.trailing
        | some variadic => commaList (inputs.items.map Input.tokens) true ++ variadic.tokens)
    ++ outputTokens signature.output ++ signature.generics.whereTokens

def TraitMethod.tokens (method : TraitMethod) : Tokens :=
  outerOnly method.attributes ++ method.signature.tokens
    ++ (match method.body with
      | some body => braces (innerOnly method.attributes ++ body)
      | none => operator ";")

def TraitItem.tokens : TraitItem → Tokens
  | .method declaration => declaration.tokens
  | .other tokens => tokens

def TraitDeclaration.tokens (declaration : TraitDeclaration) : Tokens :=
  outerOnly declaration.attributes ++ declaration.visibility.tokens
    ++ given declaration.isUnsafe (word "unsafe") ++ given declaration.isAuto (word "auto")
    ++ word "trait" ++ word declaration.name ++ declaration.generics.tokens
    ++ boundedBy declaration.supertraits ++ declaration.generics.whereTokens
    ++ braces (innerOnly declaration.attributes ++ declaration.items.flatMap TraitItem.tokens)

def Field.tokens (field : Field) : Tokens :=
  attributesTokens field.attributes ++ field.visibility.tokens ++ word field.name ++ operator ":"
    ++ field.type.tokens

def StructureDeclaration.tokens (declaration : StructureDeclaration) : Tokens :=
  attributesTokens declaration.attributes ++ declaration.visibility.tokens ++ word "struct"
    ++ word declaration.name ++ declaration.generics.tokens ++ declaration.generics.whereTokens
    ++ braces (commaList (declaration.fields.items.map Field.tokens) declaration.fields.trailing)

def FunctionDeclaration.tokens (declaration : FunctionDeclaration) : Tokens :=
  outerOnly declaration.attributes ++ declaration.visibility.tokens
    ++ given declaration.isDefault (word "default") ++ declaration.signature.tokens
    ++ braces (innerOnly declaration.attributes ++ declaration.body)

def ImplementationItem.tokens : ImplementationItem → Tokens
  | .function declaration => declaration.tokens
  | .other tokens => tokens

def Implementation.tokens (implementation : Implementation) : Tokens :=
  outerOnly implementation.attributes ++ given implementation.isDefault (word "default")
    ++ given implementation.isUnsafe (word "unsafe") ++ word "impl" ++ implementation.generics.tokens
    ++ (match implementation.ofTrait with
      | some (denied, path) => given denied (operator "!") ++ path.tokens ++ word "for"
      | none => [])
    ++ implementation.type.tokens ++ implementation.generics.whereTokens
    ++ braces (innerOnly implementation.attributes
      ++ implementation.items.flatMap ImplementationItem.tokens)

mutual

def Item.tokens : Item → Tokens
  | .trait declaration => declaration.tokens
  | .structure declaration => declaration.tokens
  | .function declaration => declaration.tokens
  | .implementation implementation => implementation.tokens
  | .module attributes visibility isUnsafe name none =>
    outerOnly attributes ++ visibility.tokens ++ given isUnsafe (word "unsafe") ++ word "mod"
      ++ word name ++ operator ";"
  | .module attributes visibility isUnsafe name (some content) =>
    outerOnly attributes ++ visibility.tokens ++ given isUnsafe (word "unsafe") ++ word "mod"
      ++ word name ++ braces (innerOnly attributes ++ itemsTokens content)
  | .other tokens => tokens

def itemsTokens : List Item → Tokens
  | [] => []
  | item :: rest => item.tokens ++ itemsTokens rest

end

theorem itemsTokens_eq_flatten (items : List Item) : itemsTokens items = (items.map Item.tokens).flatten := by
  induction items with
  | nil => rfl
  | cons item rest ih => rw [itemsTokens, ih, List.map_cons, List.flatten_cons]

theorem itemsTokens_append (first second : List Item) :
    itemsTokens (first ++ second) = itemsTokens first ++ itemsTokens second := by
  simp [itemsTokens_eq_flatten]

end Endpoints
