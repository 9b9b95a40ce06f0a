import Endpoints.Proofs.MethodAcceptance
import Endpoints.Proofs.SignatureFaults

/-! Which method of an interface is refused, and with which error. The methods are gone through in the order
of their declaration: each is judged by its tags, then by its signature, and then by the roles that the
methods before it asked for. -/

namespace Endpoints
open Checks

/-- What is wrong with a tag at a place where only some directives belong. -/
inductive TagFault (belongs : Directive → Bool) (location : Location) (tag : String) : EndpointError → Prop where
  | malformed {reason} (unread : Directive.interpret tag = .error reason) :
      TagFault belongs location tag (.malformedTag location tag reason.message)
  | misplaced {directive} (read : Directive.interpret tag = .ok directive)
      (elsewhere : belongs directive = false) : TagFault belongs location tag (.misplacedTag location tag)

namespace InterfaceMethod

/-- Why no role is found for a method: what is wrong with its tags, and then with how many they are. -/
inductive Unclear (interface : String) (alone : Bool) (self : InterfaceMethod) : EndpointError → Prop where
  | tag {error} (fault : FirstOf (fun _ => TagFault (!·.isEndpoint) ⟨interface, some self.name⟩)
      self.documentation.tags error) : Unclear interface alone self error
  | untagged (untagged : self.documentation.tags = []) (bodyless : self.declaration.body = none)
      (unclear : alone = true → ∀ result, ¬ ReturnsResult self.declaration.signature.output result) :
      Unclear interface alone self (.untagged interface self.name)
  | conflicting (fit : Faultless (fun _ => TagFault (!·.isEndpoint) ⟨interface, some self.name⟩)
      self.documentation.tags) (several : 1 < self.documentation.tags.length) :
      Unclear interface alone self (.conflicting interface self.name)

/-- One of the methods asks for a role of the kind. -/
def AskedAmong (alone : Bool) (methods : List InterfaceMethod) (kind : Role → Bool) : Prop :=
  ∃ method ∈ methods, ∃ role, method.Asks alone (some role) ∧ kind role = true

/-- A method for a role that only one method may have, which a method before it asked for. -/
inductive Repeats (interface : String) (alone : Bool) (before : List InterfaceMethod) (self : InterfaceMethod)
    (role : Role) : EndpointError → Prop where
  | body (kind : role.isBody = true) (earlier : AskedAmong alone before Role.isBody) :
      Repeats interface alone before self role (.duplicateBody interface self.name)
  | sync (kind : role.isSync = true) (earlier : AskedAmong alone before Role.isSync) :
      Repeats interface alone before self role (.duplicateTerminal interface self.name .sync)
  | async (kind : role.isAsync = true) (earlier : AskedAmong alone before Role.isAsync) :
      Repeats interface alone before self role (.duplicateTerminal interface self.name .async)

/-- What is first found wrong with a method: its tags, its signature, and then that it repeats a role. -/
inductive Fault (interface : String) (alone : Bool) (before : List InterfaceMethod) (self : InterfaceMethod) :
    EndpointError → Prop where
  | unclear {error} (unclear : self.Unclear interface alone error) : Fault interface alone before self error
  | signature {role fault} (asks : self.Asks alone (some role))
      (breaks : self.declaration.signature.Breaks role fault) :
      Fault interface alone before self (.signature interface self.name fault)
  | repeated {role error} (asks : self.Asks alone (some role))
      (fits : ∀ fault, ¬ self.declaration.signature.Breaks role fault)
      (repeats : self.Repeats interface alone before role error) : Fault interface alone before self error

end InterfaceMethod

theorem Method.roleOf?_eq_none_iff {directive : Directive} :
    roleOf? directive = none ↔ (!directive.isEndpoint) = false := by
  cases directive <;> simp [roleOf?, Directive.isEndpoint]

theorem Method.roleOfTag_eq_error_iff {location : Location} {tag : String} {error : EndpointError} :
    roleOfTag location tag = .error error ↔ TagFault (!·.isEndpoint) location tag error := by
  unfold roleOfTag
  constructor
  · intro failed
    cases read : Directive.interpret tag with
    | error reason =>
      rw [read] at failed
      cases failed
      exact .malformed read
    | ok directive =>
      cases asked : roleOf? directive with
      | some role => simp [read, asked] at failed
      | none =>
        simp only [read, asked] at failed
        cases failed
        exact .misplaced read (roleOf?_eq_none_iff.mp asked)
  · intro fault
    cases fault with
    | malformed unread => simp [unread]
    | misplaced read elsewhere => simp [read, roleOf?_eq_none_iff.mpr elsewhere]

theorem Method.roles_eq_error_iff {location : Location} {tags : List String} {error : EndpointError} :
    roles location tags = .error error ↔ FirstOf (fun _ => TagFault (!·.isEndpoint) location) tags error := by
  simp only [roles, mapM_eq_error_iff, roleOfTag_eq_error_iff]

theorem Method.faultless_iff_roles {location : Location} {tags : List String} :
    Faultless (fun _ => TagFault (!·.isEndpoint) location) tags ↔ ∃ found, roles location tags = .ok found := by
  rw [faultless_iff, exists_ok_iff]
  simp only [← roles_eq_error_iff]

theorem Method.unclear_of_role? {interface : String} {alone : Bool} {self : InterfaceMethod}
    {error : EndpointError} (failed : role? interface alone self = .error error) :
    self.Unclear interface alone error := by
  unfold role? at failed
  rcases bind_eq_error_iff.mp failed with unread | ⟨found, read, chosen⟩
  · exact .tag (roles_eq_error_iff.mp unread)
  have asked := roles_eq_ok_iff.mp read
  rcases found with _ | ⟨single, _ | ⟨second, more⟩⟩
  · have untagged : self.documentation.tags = [] := by simpa using asked
    cases body : self.declaration.body with
    | some statements => simp [body] at chosen
    | none =>
      simp only [body, Option.isSome_none, Bool.false_eq_true, if_false] at chosen
      cases alone with
      | false =>
        cases chosen
        exact .untagged untagged body nofun
      | true =>
        cases returns : resultType? self.declaration.signature.output with
        | some result =>
          rw [returns] at chosen
          cases chosen
        | none =>
          rw [returns] at chosen
          cases chosen
          exact .untagged untagged body fun _ => resultType?_eq_none_iff.mp returns
  · simp at chosen
  · cases chosen
    exact .conflicting (faultless_iff_roles.mpr ⟨_, read⟩) (by simp [asked.length_eq])

theorem Method.role?_of_unclear {interface : String} {alone : Bool} {self : InterfaceMethod}
    {error : EndpointError} (unclear : self.Unclear interface alone error) :
    role? interface alone self = .error error := by
  unfold role?
  cases unclear with
  | tag fault => rw [roles_eq_error_iff.mpr fault]; rfl
  | untagged untagged bodyless unclear =>
    have never (single : alone = true) : resultType? self.declaration.signature.output = none :=
      resultType?_eq_none_iff.mpr (unclear single)
    rw [untagged]
    cases alone <;> simp [roles, bodyless, never, pure, Except.pure, ok_bind]
  | conflicting fit several =>
    obtain ⟨found, read⟩ := faultless_iff_roles.mp fit
    rw [read]
    rw [(roles_eq_ok_iff.mp read).length_eq] at several
    rcases found with _ | ⟨first, _ | ⟨second, more⟩⟩
    · simp at several
    · simp at several
    · rfl

theorem Method.role?_eq_error_iff {interface : String} {alone : Bool} {self : InterfaceMethod}
    {error : EndpointError} :
    role? interface alone self = .error error ↔ self.Unclear interface alone error :=
  ⟨unclear_of_role?, role?_of_unclear⟩

theorem Method.ofInterface_eq_error_iff {interface : String} {alone : Bool} {self : InterfaceMethod}
    {error : EndpointError} :
    ofInterface interface alone self = .error error ↔
      self.Unclear interface alone error ∨ ∃ role fault, self.Asks alone (some role) ∧
        self.declaration.signature.Breaks role fault ∧ error = .signature interface self.name fault := by
  unfold ofInterface
  simp only [bind_eq_error_iff, role?_eq_error_iff, role?_eq_ok_iff, ← ofSignature_eq_error_iff]
  refine or_congr_right ⟨?_, ?_⟩
  · rintro ⟨role, asks, failed⟩
    cases role with
    | none => cases failed
    | some role =>
      cases built : ofSignature self.declaration.signature role with
      | ok method => simp [built] at failed
      | error fault =>
        simp only [built] at failed
        cases failed
        exact ⟨role, fault, asks, built, rfl⟩
  · rintro ⟨role, fault, asks, broken, rfl⟩
    exact ⟨some role, asks, by simp only [broken]⟩

theorem InterfaceMethod.Asks.unique {alone : Bool} {self : InterfaceMethod} {first second : Option Role}
    (asks : self.Asks alone first) (also : self.Asks alone second) : first = second :=
  Except.ok.inj ((Method.role?_eq_ok_iff.mpr asks : Method.role? self.name alone self = .ok first).symm.trans
    (Method.role?_eq_ok_iff.mpr also))

theorem InterfaceMethod.askedAmong_concat_iff {alone : Bool} {before : List InterfaceMethod}
    {self : InterfaceMethod} {kind : Role → Bool} :
    AskedAmong alone (before ++ [self]) kind ↔
      AskedAmong alone before kind ∨ ∃ role, self.Asks alone (some role) ∧ kind role = true := by
  simp [AskedAmong, or_and_right, exists_or]

namespace Role

variable {role : Role}

theorem isBody_iff : role.isBody = true ↔ ∃ key, role = .binding .body key := by
  unfold isBody
  split <;> simp_all

theorem isSync_iff : role.isSync = true ↔ ∃ result, role = .sync result := by
  cases role <;> simp [isSync]

theorem isAsync_iff : role.isAsync = true ↔ ∃ callback, role = .async callback := by
  cases role <;> simp [isAsync]

end Role

namespace Method

/-- The methods taken so far, of those gone through: their roles are the roles asked for. -/
structure TakenFrom (alone : Bool) (before : List InterfaceMethod) (taken : List Method) : Prop where
  accepted : ∀ method ∈ taken, method.Accepted
  asked : ∀ kind, (taken.map (·.role)).any kind = true ↔ InterfaceMethod.AskedAmong alone before kind

variable {interface : String} {alone : Bool} {before : List InterfaceMethod} {taken : List Method}
  {self : InterfaceMethod} {error : EndpointError}

theorem TakenFrom.start : TakenFrom alone [] [] :=
  ⟨by simp, by simp [InterfaceMethod.AskedAmong]⟩

theorem TakenFrom.keep (so : TakenFrom alone before taken) (built : ofInterface interface alone self = .ok none) :
    TakenFrom alone (before ++ [self]) taken := by
  obtain ⟨role, asks, fit⟩ := ofInterface_eq_ok_iff.mp built
  cases fit with
  | none =>
    refine ⟨so.accepted, fun kind => ?_⟩
    rw [so.asked, InterfaceMethod.askedAmong_concat_iff]
    refine ⟨.inl, ?_⟩
    rintro (earlier | ⟨role, other, _⟩)
    · exact earlier
    · cases asks.unique other

theorem TakenFrom.take {method : Method} (so : TakenFrom alone before taken)
    (built : ofInterface interface alone self = .ok (some method)) :
    TakenFrom alone (before ++ [self]) (taken ++ [method]) := by
  refine ⟨accepted_concat so.accepted built, fun kind => ?_⟩
  obtain ⟨role, asks, fit⟩ := ofInterface_eq_ok_iff.mp built
  cases fit with
  | @some role _ fit =>
    obtain ⟨_, _, same⟩ := ofSignature_eq_ok_iff.mp fit
    have now : kind method.role = true ↔ ∃ role, self.Asks alone (some role) ∧ kind role = true := by
      constructor
      · intro holds
        exact ⟨role, asks, same ▸ holds⟩
      · rintro ⟨other, also, holds⟩
        cases asks.unique also
        exact same ▸ holds
    rw [InterfaceMethod.askedAmong_concat_iff, ← so.asked, ← now]
    simp

theorem repeated?_eq_some_iff {method : Method} (so : TakenFrom alone before taken)
    (name : method.name = self.name) :
    repeated? interface taken method = some error ↔ self.Repeats interface alone before method.role error := by
  unfold repeated?
  rw [any_bodyType?_isSome so.accepted, any_syncResult?_isSome, any_asyncCallback?_isSome, name]
  constructor
  · intro again
    split at again
    next key role =>
      obtain ⟨earlier, reported⟩ := Option.ite_none_right_eq_some.mp again
      cases reported
      exact .body (by rw [role]; rfl) ((so.asked _).mp earlier)
    next => cases again
    next result role =>
      obtain ⟨earlier, reported⟩ := Option.ite_none_right_eq_some.mp again
      cases reported
      exact .sync (by rw [role]; rfl) ((so.asked _).mp earlier)
    next callback role =>
      obtain ⟨earlier, reported⟩ := Option.ite_none_right_eq_some.mp again
      cases reported
      exact .async (by rw [role]; rfl) ((so.asked _).mp earlier)
  · intro repeats
    cases repeats with
    | body kind earlier =>
      obtain ⟨key, role⟩ := Role.isBody_iff.mp kind
      rw [role]
      exact if_pos ((so.asked _).mpr earlier)
    | sync kind earlier =>
      obtain ⟨result, role⟩ := Role.isSync_iff.mp kind
      rw [role]
      exact if_pos ((so.asked _).mpr earlier)
    | async kind earlier =>
      obtain ⟨callback, role⟩ := Role.isAsync_iff.mp kind
      rw [role]
      exact if_pos ((so.asked _).mpr earlier)

theorem fault_iff (so : TakenFrom alone before taken) :
    self.Fault interface alone before error ↔
      ofInterface interface alone self = .error error ∨
        ∃ method, ofInterface interface alone self = .ok (some method) ∧
          repeated? interface taken method = some error := by
  have named {role : Role} {method : Method} (fit : ofSignature self.declaration.signature role = .ok method) :
      method.name = self.name ∧ method.role = role := by
    obtain ⟨accepted, signature, same⟩ := ofSignature_eq_ok_iff.mp fit
    exact ⟨accepted.name.trans (congrArg Signature.name signature), same⟩
  rw [ofInterface_eq_error_iff]
  constructor
  · intro fault
    cases fault with
    | unclear unclear => exact .inl (.inl unclear)
    | signature asks breaks => exact .inl (.inr ⟨_, _, asks, breaks, rfl⟩)
    | @repeated role error asks fits repeats =>
      cases fit : ofSignature self.declaration.signature role with
      | error fault => exact absurd (ofSignature_eq_error_iff.mp fit) (fits fault)
      | ok method =>
        obtain ⟨name, rfl⟩ := named fit
        refine .inr ⟨method, ofInterface_eq_ok_iff.mpr ⟨_, asks, .some fit⟩, ?_⟩
        exact (repeated?_eq_some_iff so name).mpr repeats
  · rintro ((unclear | ⟨role, fault, asks, breaks, rfl⟩) | ⟨method, built, again⟩)
    · exact .unclear unclear
    · exact .signature asks breaks
    · obtain ⟨role, asks, fit⟩ := ofInterface_eq_ok_iff.mp built
      cases fit with
      | some fit =>
        obtain ⟨name, rfl⟩ := named fit
        refine .repeated asks (fun fault breaks => ?_) ((repeated?_eq_some_iff so name).mp again)
        rw [ofSignature_eq_error_iff.mpr breaks] at fit
        cases fit

theorem collect_eq_error_iff {declared : List InterfaceMethod} (so : TakenFrom alone before taken) :
    collect interface alone taken declared = .error error ↔
      FirstOf (fun more => InterfaceMethod.Fault interface alone (before ++ more)) declared error := by
  induction declared generalizing before taken with
  | nil => exact iff_of_false nofun not_firstOf_nil
  | cons self rest ih =>
    have later (before : List InterfaceMethod) (taken : List Method) (so : TakenFrom alone (before ++ [self]) taken) :
        collect interface alone taken rest = .error error ↔
          FirstOf (fun more => InterfaceMethod.Fault interface alone (before ++ self :: more)) rest error := by
      simpa only [List.append_assoc, List.singleton_append] using ih so
    rw [collect, firstOf_cons_iff, List.append_nil]
    simp only [fault_iff so]
    cases built : ofInterface interface alone self with
    | error found => simp
    | ok found =>
      cases found with
      | none => simpa using later before taken (so.keep built)
      | some method =>
        cases again : repeated? interface taken method with
        | some found => simp [again]
        | none => simpa [again] using later before (taken ++ [method]) (so.take built)

theorem takenFrom_of_collect {declared : List InterfaceMethod} {methods : List Method}
    (so : TakenFrom alone before taken) (collected : collect interface alone taken declared = .ok methods) :
    TakenFrom alone (before ++ declared) methods := by
  induction declared generalizing before taken with
  | nil =>
    cases collected
    rwa [List.append_nil]
  | cons self rest ih =>
    rw [collect] at collected
    rw [List.append_cons]
    split at collected
    next => cases collected
    next built => exact ih (so.keep built) collected
    next method built =>
      split at collected
      next => cases collected
      next => exact ih (so.take built) collected

theorem faultless_iff_collect {declared : List InterfaceMethod} :
    Faultless (InterfaceMethod.Fault interface alone) declared ↔
      ∃ methods, collect interface alone [] declared = .ok methods := by
  rw [faultless_iff]
  have failed (error : EndpointError) : collect interface alone [] declared = .error error ↔
      FirstOf (InterfaceMethod.Fault interface alone) declared error := collect_eq_error_iff .start
  simp only [← failed]
  cases collect interface alone [] declared <;> simp

end Method

end Endpoints
