import Endpoints.Endpoint.Build
import Endpoints.Proofs.Checks

/-! The rules that a directive sets for the signature of its method, said without the order in which
they are checked. A signature is accepted for a role exactly when it keeps the rules of that role. -/

namespace Endpoints
open Checks

/-- A return type whose last segment is `Result`, with the type as its first argument. -/
def ReturnsResult (output : Option Ty) (result : Ty) : Prop :=
  ∃ turbofish others trailing,
    output.bind Ty.lastSegment? = some (.mk "Result" (.angle turbofish (.type result :: others) trailing))

/-- Nothing, or the empty tuple. -/
def ReturnsUnit (output : Option Ty) : Prop :=
  output = none ∨ ∃ trailing, output = some (.tuple [] trailing)

/-- A word that is among the tokens, or at any depth in a group among them. -/
inductive Occurs (word : String) : Tokens → Prop where
  | here {rest : Tokens} : Occurs word (.ident word :: rest)
  | inside {delimiter : Delimiter} {content rest : Tokens} (within : Occurs word content) :
      Occurs word (.group delimiter content :: rest)
  | later {token : Token} {rest : Tokens} (after : Occurs word rest) : Occurs word (token :: rest)

theorem resultType?_eq_some_iff {output : Option Ty} {result : Ty} :
    resultType? output = some result ↔ ReturnsResult output result := by
  unfold resultType? ReturnsResult
  split
  next found same => simp [same]
  next different =>
    exact ⟨nofun, fun ⟨turbofish, others, trailing, same⟩ =>
      absurd same (different turbofish result others trailing)⟩

theorem returnsUnit_iff {output : Option Ty} : returnsUnit output = true ↔ ReturnsUnit output := by
  unfold returnsUnit ReturnsUnit
  split
  next => simp
  next trailing => simp
  next ty different => simpa using fun trailing same => different trailing same

theorem occurs_cons_iff {word : String} {token : Token} {rest : Tokens} :
    Occurs word (token :: rest) ↔ token = .ident word ∨
      (∃ delimiter content, token = .group delimiter content ∧ Occurs word content) ∨ Occurs word rest := by
  constructor
  · intro occurs
    cases occurs with
    | here => exact .inl rfl
    | inside within => exact .inr (.inl ⟨_, _, rfl, within⟩)
    | later after => exact .inr (.inr after)
  · rintro (rfl | ⟨delimiter, content, rfl, within⟩ | after)
    · exact .here
    · exact .inside within
    · exact .later after

mutual

theorem token_mentions_iff (word : String) (token : Token) :
    token.mentions word = true ↔ token = .ident word ∨
      ∃ delimiter content, token = .group delimiter content ∧ Occurs word content := by
  cases token with
  | ident name => simp [Token.mentions]
  | punct symbol spacing => simp [Token.mentions]
  | literal text => simp [Token.mentions]
  | group delimiter content => simp [Token.mentions, tokensMention_iff word content]

theorem tokensMention_iff (word : String) (tokens : Tokens) :
    tokensMention word tokens = true ↔ Occurs word tokens := by
  cases tokens with
  | nil => exact ⟨nofun, nofun⟩
  | cons token rest =>
    rw [tokensMention, Bool.or_eq_true, token_mentions_iff word token, tokensMention_iff word rest,
      occurs_cons_iff, or_assoc]

end

theorem Path.name?_eq_some_iff {path : Path} {name : String} :
    path.name? = some name ↔ path = .ofName name := by
  unfold Path.name? Path.ofName
  split
  next found => simp
  next different =>
    exact ⟨nofun, fun same => absurd same (different name)⟩

def selfTy : Ty := .path (.ofName "Self")

theorem Ty.isSelf_iff {ty : Ty} : ty.isSelf = true ↔ ty = selfTy := by
  cases ty <;> simp [Ty.isSelf, selfTy, Path.name?_eq_some_iff]

/-- How a signature takes the builder: a first input `self` without a type of its own. -/
inductive Signature.Receives (signature : Signature) : ReceiverKind → Prop where
  | owned {attributes mutable others}
      (first : signature.inputs.items = .receiver ⟨attributes, none, mutable, none⟩ :: others) :
      signature.Receives .owned
  | reference {attributes lifetime others}
      (first : signature.inputs.items = .receiver ⟨attributes, some lifetime, false, none⟩ :: others) :
      signature.Receives .reference
  | mutableReference {attributes lifetime others}
      (first : signature.inputs.items = .receiver ⟨attributes, some lifetime, true, none⟩ :: others) :
      signature.Receives .mutableReference

/-- An input whose pattern is an identifier, as a parameter. -/
def Names (input : Pattern × Ty) (parameter : Parameter) : Prop :=
  ∃ byReference mutable binding,
    input = (.name byReference mutable parameter.name binding, parameter.type)

/-- What every generated method demands of its signature. -/
structure Signature.Callable (signature : Signature) (receiver : ReceiverKind)
    (parameters : List Parameter) : Prop where
  notAsync : signature.isAsync = false
  receives : signature.Receives receiver
  named : List.Forall₂ Names signature.typedInputs parameters

/-- `self -> Self`, or `&mut self -> &mut Self`. -/
inductive HandsBack : ReceiverKind → Option Ty → Prop where
  | byValue : HandsBack .owned (some selfTy)
  | byReference {lifetime} : HandsBack .mutableReference (some (.reference lifetime true selfTy))

/-- A type that is a reference or opaque at its outside. -/
def Borrowed (ty : Ty) : Prop :=
  (∃ lifetime mutable target, ty = .reference lifetime mutable target)
    ∨ ∃ bounds trailing, ty = .implementing bounds trailing

/-- What the role of a method demands of it. -/
inductive Role.Fits (signature : Signature) (receiver : ReceiverKind) :
    List Parameter → Role → Prop where
  | binding {kind key value others} (handsBack : HandsBack receiver signature.output)
      (plain : kind = .body → signature.generics.parameters.items = []) :
      Fits signature receiver (value :: others) (.binding kind key)
  | sync {result declared} (returns : ReturnsResult signature.output declared)
      (same : declared.text = result.text) : Fits signature receiver [] (.sync result)
  | async {callback parameter} (owned : receiver = .owned) (returns : ReturnsUnit signature.output)
      (occurs : Occurs callback parameter.type.tokens) :
      Fits signature receiver [parameter] (.async callback)

/-- The value of a body is not borrowed. -/
def Role.OwnsBody (parameters : List Parameter) : Role → Prop
  | .binding .body _ => ∀ value ∈ parameters.head?, ¬ Borrowed value.type
  | _ => True

namespace Role

variable {signature : Signature} {receiver : ReceiverKind} {parameters : List Parameter}

theorem fits_binding_iff {kind : BindingKind} {key : String} :
    Fits signature receiver parameters (.binding kind key) ↔
      parameters ≠ [] ∧ HandsBack receiver signature.output ∧
        (kind = .body → signature.generics.parameters.items = []) := by
  constructor
  · intro fits
    cases fits with
    | binding handsBack plain => exact ⟨List.cons_ne_nil _ _, handsBack, plain⟩
  · rintro ⟨some, handsBack, plain⟩
    obtain ⟨value, others, rfl⟩ := List.exists_cons_of_ne_nil some
    exact .binding handsBack plain

theorem fits_sync_iff {result : Ty} :
    Fits signature receiver parameters (.sync result) ↔
      parameters = [] ∧ ∃ declared, ReturnsResult signature.output declared ∧ declared.text = result.text := by
  constructor
  · intro fits
    cases fits with
    | sync returns same => exact ⟨rfl, _, returns, same⟩
  · rintro ⟨rfl, declared, returns, same⟩
    exact .sync returns same

theorem fits_async_iff {callback : String} :
    Fits signature receiver parameters (.async callback) ↔
      receiver = .owned ∧ ReturnsUnit signature.output ∧
        ∃ parameter, parameters = [parameter] ∧ Occurs callback parameter.type.tokens := by
  constructor
  · intro fits
    cases fits with
    | async owned returns occurs => exact ⟨owned, returns, _, rfl, occurs⟩
  · rintro ⟨owned, returns, parameter, rfl, occurs⟩
    exact .async owned returns occurs

theorem ownsBody_binding_iff {kind : BindingKind} {key : String} :
    (Role.binding kind key).OwnsBody parameters ↔
      (kind = .body → ∀ value ∈ parameters.head?, ¬ Borrowed value.type) := by
  cases kind <;> simp [OwnsBody]

end Role

namespace Signature

theorem receiverKind?_eq_some_iff {signature : Signature} {kind : ReceiverKind} :
    signature.receiverKind? = some kind ↔ signature.Receives kind := by
  constructor
  · intro found
    unfold receiverKind? receiver? at found
    split at found
    next receiver first =>
      obtain ⟨attributes, reference, mutable, type⟩ := receiver
      obtain ⟨others, items⟩ := List.head?_eq_some_iff.mp first
      cases type <;> cases reference <;> cases mutable <;> simp at found <;> subst found
      · exact .owned items
      · exact .owned items
      · exact .reference items
      · exact .mutableReference items
    next => simp at found
  · intro receives
    cases receives with
    | owned first => simp [receiverKind?, receiver?, first]
    | reference first => simp [receiverKind?, receiver?, first]
    | mutableReference first => simp [receiverKind?, receiver?, first]

theorem parameterOf_eq_ok_iff {input : Pattern × Ty} {parameter : Parameter} :
    parameterOf input = .ok parameter ↔ Names input parameter := by
  obtain ⟨pattern, ty⟩ := input
  obtain ⟨name, type⟩ := parameter
  cases pattern <;> simp [parameterOf, Names, and_comm]

theorem parameters_eq_ok_iff {signature : Signature} {parameters : List Parameter} :
    signature.parameters = .ok parameters ↔ List.Forall₂ Names signature.typedInputs parameters := by
  simp only [Signature.parameters, mapM_eq_ok_iff, parameterOf_eq_ok_iff]

end Signature

theorem handsBack_iff {receiver : ReceiverKind} {output : Option Ty} :
    HandsBack receiver output ↔
      receiver = .owned ∧ selfReturn? output = some .byValue
        ∨ receiver = .mutableReference ∧ selfReturn? output = some .byReference := by
  constructor
  · intro handsBack
    cases handsBack with
    | byValue => exact .inl ⟨rfl, rfl⟩
    | byReference => exact .inr ⟨rfl, rfl⟩
  · rintro (⟨rfl, found⟩ | ⟨rfl, found⟩) <;> unfold selfReturn? at found <;> split at found
    next => split at found <;> cases found
    next ty _ =>
      split at found
      next same => rw [Ty.isSelf_iff.mp same]; exact .byValue
      next => cases found
    next => cases found
    next lifetime target =>
      split at found
      next same => rw [Ty.isSelf_iff.mp same]; exact .byReference
      next => cases found
    next => split at found <;> cases found
    next => cases found

namespace Method

theorem isOwnedType_iff {ty : Ty} : isOwnedType ty = true ↔ ¬ Borrowed ty := by
  cases ty <;> simp [isOwnedType, Borrowed]

theorem checkBinding_eq_ok_iff {signature : Signature} {receiver : ReceiverKind}
    {parameters : List Parameter} {kind : BindingKind} {key : String} :
    checkBinding signature receiver parameters kind = .ok () ↔
      Role.Fits signature receiver parameters (.binding kind key) ∧
        (Role.binding kind key).OwnsBody parameters := by
  rw [Role.fits_binding_iff, handsBack_iff, Role.ownsBody_binding_iff]
  unfold checkBinding
  cases parameters with
  | nil => simp
  | cons value others =>
    cases receiver <;> cases selfReturn? signature.output with
    | none => simp
    | some shape => cases shape <;> by_cases body : kind = .body <;> simp [body, isOwnedType_iff]

theorem checkSync_eq_ok_iff {signature : Signature} {receiver : ReceiverKind}
    {parameters : List Parameter} {result : Ty} :
    checkSync signature parameters result = .ok () ↔
      Role.Fits signature receiver parameters (.sync result) := by
  rw [Role.fits_sync_iff]
  unfold checkSync
  cases parameters with
  | cons parameter others => simp
  | nil =>
    simp only [← resultType?_eq_some_iff]
    cases resultType? signature.output <;> simp

theorem checkAsync_eq_ok_iff {signature : Signature} {receiver : ReceiverKind}
    {parameters : List Parameter} {callback : String} :
    checkAsync signature receiver parameters callback = .ok () ↔
      Role.Fits signature receiver parameters (.async callback) := by
  rw [Role.fits_async_iff]
  unfold checkAsync
  match parameters with
  | [] => simp
  | [parameter] =>
    by_cases owned : receiver = .owned <;> simp [owned, ← returnsUnit_iff, ← tokensMention_iff]
  | _ :: _ :: _ => simp

end Method

end Endpoints
