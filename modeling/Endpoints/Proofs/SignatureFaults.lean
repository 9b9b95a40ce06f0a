import Endpoints.Proofs.SignatureRules

/-! The fault of a signature that does not fit the role of its method. Several rules can be broken at
once: each case says which rules were found kept before the one it reports. -/

namespace Endpoints
open Checks

/-- The first rule of a role that is broken, where receiver and parameters are as every role wants them. -/
inductive Role.Breaks (signature : Signature) (receiver : ReceiverKind) :
    List Parameter → Role → SignatureFault → Prop where
  | bindingWithoutParameter {kind key} : Breaks signature receiver [] (.binding kind key) .bindingWithoutParameter
  | bindingByReference {kind key value others} (shared : receiver = .reference) :
      Breaks signature receiver (value :: others) (.binding kind key) .bindingByReference
  | bindingResult {kind key value others} (changeable : receiver ≠ .reference)
      (keeps : ¬ HandsBack receiver signature.output) :
      Breaks signature receiver (value :: others) (.binding kind key) .bindingResult
  | bodyGeneric {key value others} (handsBack : HandsBack receiver signature.output)
      (generic : signature.generics.parameters.items ≠ []) :
      Breaks signature receiver (value :: others) (.binding .body key) .bodyGeneric
  | bodyNotOwned {key value others} (handsBack : HandsBack receiver signature.output)
      (plain : signature.generics.parameters.items = []) (borrowed : Borrowed value.type) :
      Breaks signature receiver (value :: others) (.binding .body key) .bodyNotOwned
  | syncParameters {parameters result} (some : parameters ≠ []) :
      Breaks signature receiver parameters (.sync result) .syncParameters
  | syncResult {result} (never : ∀ declared, ¬ ReturnsResult signature.output declared) :
      Breaks signature receiver [] (.sync result) .syncResult
  | syncMismatch {result declared} (returns : ReturnsResult signature.output declared)
      (differ : declared.text ≠ result.text) :
      Breaks signature receiver [] (.sync result) (.syncMismatch result.text declared.text)
  | asyncReceiver {parameters callback} (kept : receiver ≠ .owned) :
      Breaks signature receiver parameters (.async callback) .asyncReceiver
  | asyncParameters {parameters callback} (owned : receiver = .owned) (several : parameters.length ≠ 1) :
      Breaks signature receiver parameters (.async callback) .asyncParameters
  | asyncResult {parameter callback} (owned : receiver = .owned) (returns : ¬ ReturnsUnit signature.output) :
      Breaks signature receiver [parameter] (.async callback) .asyncResult
  | asyncMismatch {parameter callback} (owned : receiver = .owned) (returns : ReturnsUnit signature.output)
      (absent : ¬ Occurs callback parameter.type.tokens) :
      Breaks signature receiver [parameter] (.async callback) (.asyncMismatch callback parameter.type.text)

/-- An input whose pattern is no identifier. -/
def Unnamed (input : Pattern × Ty) (fault : SignatureFault) : Prop :=
  (∀ parameter, ¬ Names input parameter) ∧ fault = .patternParameter input.1.tokens.text

/-- What is first found wrong with a signature: the rules of every role come before those of its own. -/
inductive Signature.Breaks (signature : Signature) (role : Role) : SignatureFault → Prop where
  | async (async : signature.isAsync = true) : signature.Breaks role .async
  | noReceiver (notAsync : signature.isAsync = false) (none : ∀ receiver, ¬ signature.Receives receiver) :
      signature.Breaks role .noReceiver
  | pattern {receiver fault} (notAsync : signature.isAsync = false) (receives : signature.Receives receiver)
      (unnamed : FirstOf (fun _ => Unnamed) signature.typedInputs fault) : signature.Breaks role fault
  | role {receiver parameters fault} (callable : signature.Callable receiver parameters)
      (breaks : role.Breaks signature receiver parameters fault) : signature.Breaks role fault

namespace Method

theorem resultType?_eq_none_iff {output : Option Ty} :
    resultType? output = none ↔ ∀ result, ¬ ReturnsResult output result := by
  simp only [Option.eq_none_iff_forall_ne_some, ne_eq, resultType?_eq_some_iff]

theorem borrowed_iff {ty : Ty} : Borrowed ty ↔ isOwnedType ty = false := by
  rw [← Bool.not_eq_true, isOwnedType_iff, not_not]

instance (ty : Ty) : Decidable (Borrowed ty) := decidable_of_iff' _ borrowed_iff

variable {signature : Signature} {receiver : ReceiverKind} {parameters : List Parameter} {fault : SignatureFault}

theorem checkBinding_of_handsBack {value : Parameter} {others : List Parameter} {kind : BindingKind}
    (handsBack : HandsBack receiver signature.output) :
    checkBinding signature receiver (value :: others) kind =
      if kind = .body then
        if signature.generics.parameters.items ≠ [] then .error .bodyGeneric
        else if Borrowed value.type then .error .bodyNotOwned else .ok ()
      else .ok () := by
  unfold checkBinding
  rcases handsBack_iff.mp handsBack with ⟨rfl, returned⟩ | ⟨rfl, returned⟩ <;>
    simp [returned, borrowed_iff, pure, Except.pure]

theorem checkBinding_of_not_handsBack {value : Parameter} {others : List Parameter} {kind : BindingKind}
    (changeable : receiver ≠ .reference) (keeps : ¬ HandsBack receiver signature.output) :
    checkBinding signature receiver (value :: others) kind = .error .bindingResult := by
  rw [handsBack_iff] at keeps
  unfold checkBinding
  cases receiver <;> cases returned : selfReturn? signature.output with
  | none => simp_all
  | some shape => cases shape <;> simp_all

theorem checkBinding_eq_error_iff {kind : BindingKind} {key : String} :
    checkBinding signature receiver parameters kind = .error fault ↔
      Role.Breaks signature receiver parameters (.binding kind key) fault := by
  constructor
  · intro failed
    cases parameters with
    | nil =>
      cases failed
      exact .bindingWithoutParameter
    | cons value others =>
      by_cases shared : receiver = .reference
      · subst shared
        cases failed
        exact .bindingByReference rfl
      by_cases handsBack : HandsBack receiver signature.output
      · rw [checkBinding_of_handsBack handsBack] at failed
        split at failed
        next body =>
          subst body
          rcases refuse_eq_error_iff.mp failed with ⟨generic, rfl⟩ | ⟨plain, failed⟩
          · exact .bodyGeneric handsBack generic
          · rcases refuse_eq_error_iff.mp failed with ⟨borrowed, rfl⟩ | ⟨_, passed⟩
            · exact .bodyNotOwned handsBack (not_not.mp plain) borrowed
            · cases passed
        next => cases failed
      · rw [checkBinding_of_not_handsBack shared handsBack] at failed
        cases failed
        exact .bindingResult shared handsBack
  · intro breaks
    cases breaks with
    | bindingWithoutParameter => rfl
    | bindingByReference shared => rw [shared]; rfl
    | bindingResult changeable keeps => exact checkBinding_of_not_handsBack changeable keeps
    | bodyGeneric handsBack generic => rw [checkBinding_of_handsBack handsBack, if_pos rfl, if_pos generic]
    | bodyNotOwned handsBack plain borrowed =>
      rw [checkBinding_of_handsBack handsBack, if_pos rfl, if_neg (not_not_intro plain), if_pos borrowed]

theorem checkSync_eq_error_iff {result : Ty} :
    checkSync signature parameters result = .error fault ↔
      Role.Breaks signature receiver parameters (.sync result) fault := by
  unfold checkSync
  constructor
  · intro failed
    cases parameters with
    | cons parameter others =>
      cases failed
      exact .syncParameters (List.cons_ne_nil _ _)
    | nil =>
      cases found : resultType? signature.output with
      | none =>
        rw [found] at failed
        cases failed
        exact .syncResult (resultType?_eq_none_iff.mp found)
      | some declared =>
        by_cases same : declared.text = result.text
        · simp [found, same] at failed
        · have reported : .syncMismatch result.text declared.text = fault := by simpa [found, same] using failed
          exact reported ▸ .syncMismatch (resultType?_eq_some_iff.mp found) same
  · intro breaks
    cases breaks with
    | syncParameters some =>
      obtain ⟨parameter, others, rfl⟩ := List.exists_cons_of_ne_nil some
      rfl
    | syncResult never => simp [resultType?_eq_none_iff.mpr never]
    | syncMismatch returns differ => simp [resultType?_eq_some_iff.mpr returns, differ]

theorem checkAsync_eq_error_iff {callback : String} :
    checkAsync signature receiver parameters callback = .error fault ↔
      Role.Breaks signature receiver parameters (.async callback) fault := by
  constructor
  · intro failed
    by_cases owned : receiver = .owned
    · subst owned
      match parameters with
      | [] =>
        cases failed
        exact .asyncParameters rfl nofun
      | [parameter] =>
        by_cases returns : ReturnsUnit signature.output
        · by_cases occurs : Occurs callback parameter.type.tokens
          · have passed := checkAsync_eq_ok_iff.mpr (.async rfl returns occurs)
            rw [passed] at failed
            cases failed
          · have reported : .asyncMismatch callback parameter.type.text = fault := by
              simpa [checkAsync, returnsUnit_iff.mpr returns, mt (tokensMention_iff ..).mp occurs] using failed
            exact reported ▸ .asyncMismatch rfl returns occurs
        · have reported : .asyncResult = fault := by
            simpa [checkAsync, mt returnsUnit_iff.mp returns] using failed
          exact reported ▸ .asyncResult rfl returns
      | _ :: _ :: _ =>
        cases failed
        exact .asyncParameters rfl (by simp)
    · have reported : .asyncReceiver = fault := by simpa [checkAsync, owned] using failed
      exact reported ▸ .asyncReceiver owned
  · intro breaks
    cases breaks with
    | asyncReceiver kept => simp [checkAsync, kept]
    | asyncParameters owned several =>
      subst owned
      match parameters with
      | [] => rfl
      | [_] => exact absurd rfl several
      | _ :: _ :: _ => rfl
    | asyncResult owned returns => simp [checkAsync, owned, mt returnsUnit_iff.mp returns]
    | asyncMismatch owned returns absent =>
      simp [checkAsync, owned, returnsUnit_iff.mpr returns, mt (tokensMention_iff ..).mp absent]

theorem checkRole_eq_error_iff {role : Role} :
    checkRole signature receiver parameters role = .error fault ↔
      role.Breaks signature receiver parameters fault := by
  cases role with
  | binding kind key => exact checkBinding_eq_error_iff
  | sync result => exact checkSync_eq_error_iff
  | async callback => exact checkAsync_eq_error_iff

end Method

namespace Signature

theorem parameterOf_eq_error_iff {input : Pattern × Ty} {fault : SignatureFault} :
    parameterOf input = .error fault ↔ Unnamed input fault := by
  obtain ⟨pattern, ty⟩ := input
  cases pattern with
  | name byReference mutable name binding =>
    exact iff_of_false nofun fun unnamed => unnamed.1 ⟨name, ty⟩ ⟨_, _, _, rfl⟩
  | _ => simp [parameterOf, Unnamed, Names, eq_comm]

theorem parameters_eq_error_iff {signature : Signature} {fault : SignatureFault} :
    signature.parameters = .error fault ↔ FirstOf (fun _ => Unnamed) signature.typedInputs fault := by
  simp only [parameters, mapM_eq_error_iff, parameterOf_eq_error_iff]

theorem receiverKind?_eq_none_iff {signature : Signature} :
    signature.receiverKind? = none ↔ ∀ receiver, ¬ signature.Receives receiver := by
  simp only [Option.eq_none_iff_forall_ne_some, ne_eq, receiverKind?_eq_some_iff]

end Signature

theorem Method.ofSignature_eq_error_iff {signature : Signature} {role : Role} {fault : SignatureFault} :
    ofSignature signature role = .error fault ↔ signature.Breaks role fault := by
  unfold ofSignature
  constructor
  · intro failed
    cases notAsync : signature.isAsync with
    | true =>
      rw [notAsync] at failed
      cases failed
      exact .async notAsync
    | false =>
      cases received : signature.receiverKind? with
      | none =>
        rw [notAsync, received] at failed
        cases failed
        exact .noReceiver notAsync (Signature.receiverKind?_eq_none_iff.mp received)
      | some receiver =>
        have receives := Signature.receiverKind?_eq_some_iff.mp received
        cases named : signature.parameters with
        | error unnamed =>
          rw [notAsync, received, named] at failed
          cases failed
          exact .pattern notAsync receives (Signature.parameters_eq_error_iff.mp named)
        | ok parameters =>
          have callable : signature.Callable receiver parameters :=
            ⟨notAsync, receives, Signature.parameters_eq_ok_iff.mp named⟩
          cases checked : checkRole signature receiver parameters role with
          | error broken =>
            rw [notAsync, received, named] at failed
            simp only [ok_bind, checked] at failed
            cases failed
            exact .role callable (checkRole_eq_error_iff.mp checked)
          | ok _ => simp [notAsync, received, named, checked, ok_bind] at failed
  · intro breaks
    cases breaks with
    | async async => simp [async]
    | noReceiver notAsync none => simp [notAsync, Signature.receiverKind?_eq_none_iff.mpr none]
    | pattern notAsync receives unnamed =>
      simp [notAsync, Signature.receiverKind?_eq_some_iff.mpr receives, Signature.parameters_eq_error_iff.mpr unnamed]
    | role callable breaks =>
      simp [callable.notAsync, Signature.receiverKind?_eq_some_iff.mpr callable.receives,
        Signature.parameters_eq_ok_iff.mpr callable.named, checkRole_eq_error_iff.mpr breaks, ok_bind]

end Endpoints
