import Endpoints.Proofs.GeneratedScope

/-! What an endpoint holds of its interface: each method that is not left to its default body, in the
order of declaration, and the values that belong to the one method of a kind. -/

namespace Endpoints

namespace Template

/-- The keys in the text of a template. A key runs from a `{` to the next `}`, and a `{` without a `}`
after it opens none. -/
inductive Keys : List Char → List String → Prop where
  | plain {text} (opens : '\x7b' ∉ text) : Keys text []
  | unclosed {before after} (opens : '\x7b' ∉ before) (closes : '\x7d' ∉ after) :
      Keys (before ++ '\x7b' :: after) []
  | key {before key after keys} (opens : '\x7b' ∉ before) (closes : '\x7d' ∉ key) (more : Keys after keys) :
      Keys (before ++ '\x7b' :: (key ++ '\x7d' :: after)) (String.ofList key :: keys)

theorem placeholdersFrom_none_append {before : List Char} (opens : '\x7b' ∉ before) (after : List Char) :
    placeholdersFrom none (before ++ after) = placeholdersFrom none after := by
  induction before with
  | nil => rfl
  | cons c rest ih =>
    obtain ⟨other, later⟩ := List.ne_and_not_mem_of_not_mem_cons opens
    simp [placeholdersFrom, other.symm, ih later]

theorem placeholdersFrom_some_append {key : List Char} (closes : '\x7d' ∉ key) (opened after : List Char) :
    placeholdersFrom (some opened) (key ++ after) = placeholdersFrom (some (key.reverse ++ opened)) after := by
  induction key generalizing opened with
  | nil => rfl
  | cons c rest ih =>
    obtain ⟨other, later⟩ := List.ne_and_not_mem_of_not_mem_cons closes
    simp [placeholdersFrom, other.symm, ih later]

theorem Keys.placeholdersFrom_eq {text : List Char} {keys : List String} (found : Keys text keys) :
    placeholdersFrom none text = keys := by
  induction found with
  | plain opens => simpa [placeholdersFrom] using placeholdersFrom_none_append opens []
  | unclosed opens closes =>
    rw [placeholdersFrom_none_append opens]
    simpa [placeholdersFrom] using placeholdersFrom_some_append closes [] []
  | key opens closes _ ih =>
    rw [placeholdersFrom_none_append opens]
    simp [placeholdersFrom, placeholdersFrom_some_append closes, ih]

theorem exists_keys (text : List Char) : ∃ keys, Keys text keys := by
  -- A key takes a `{` at least, so what follows it is shorter.
  induction size : text.length using Nat.strongRecOn generalizing text with
  | ind size ih =>
    by_cases opens : '\x7b' ∈ text
    · obtain ⟨before, rest, rfl, first⟩ := List.eq_append_cons_of_mem opens
      by_cases closes : '\x7d' ∈ rest
      · obtain ⟨key, after, rfl, shortest⟩ := List.eq_append_cons_of_mem closes
        simp only [List.length_append, List.length_cons] at size
        obtain ⟨keys, more⟩ := ih after.length (by omega) after rfl
        exact ⟨_, .key first shortest more⟩
      · exact ⟨[], .unclosed first closes⟩
    · exact ⟨[], .plain opens⟩

theorem keys_iff {text : List Char} {keys : List String} :
    Keys text keys ↔ placeholdersFrom none text = keys := by
  refine ⟨Keys.placeholdersFrom_eq, ?_⟩
  rintro rfl
  obtain ⟨keys, found⟩ := exists_keys text
  exact found.placeholdersFrom_eq ▸ found

end Template

/-- A method without tags that keeps its default body. -/
def InterfaceMethod.isKept (self : InterfaceMethod) : Bool :=
  self.documentation.tags.isEmpty && self.declaration.body.isSome

/-- A method of an endpoint is the declared one with the role that it asks for. -/
structure InterfaceMethod.Becomes (alone : Bool) (self : InterfaceMethod) (method : Method) : Prop where
  name : method.name = self.name
  signature : method.signature = self.declaration.signature
  role : self.Asks alone (some method.role)

/-- The receiver and the parameters of a method are those of its signature, and are what generated code
for its role relies on. -/
structure Method.FitsRole (method : Method) : Prop where
  receives : method.signature.Receives method.receiver
  parameters : List.Forall₂ Names method.signature.typedInputs method.parameters
  binding : ∀ kind key, method.role = .binding kind key → method.parameters ≠ [] ∧
    (method.receiver = .owned ∨ method.receiver = .mutableReference)
  sync : ∀ result, method.role = .sync result → method.parameters = []
  async : ∀ callback, method.role = .async callback → method.receiver = .owned ∧
    ∃ parameter, method.parameters = [parameter]

namespace Method

theorem asyncCallback?_eq_some_iff {method : Method} {callback : String} :
    method.asyncCallback? = some callback ↔ method.role = .async callback := by
  unfold asyncCallback?
  cases method.role <;> simp

theorem bodyType?_eq_some {method : Method} {type : Ty} (body : method.bodyType? = some type) :
    ∃ first others, method.parameters = first :: others ∧ type = first.type := by
  unfold bodyType? valueType? at body
  split at body
  next =>
    obtain ⟨first, head, rfl⟩ := Option.map_eq_some_iff.mp body
    obtain ⟨others, parameters⟩ := List.head?_eq_some_iff.mp head
    exact ⟨first, others, parameters, rfl⟩
  next => cases body

theorem Accepted.fitsRole {method : Method} (accepted : method.Accepted) : method.FitsRole := by
  have fits := accepted.fits
  refine ⟨accepted.callable.receives, accepted.callable.named, ?_, ?_, ?_⟩
  · intro kind key binding
    rw [binding, Role.fits_binding_iff, handsBack_iff] at fits
    obtain ⟨some, handsBack, _⟩ := fits
    exact ⟨some, handsBack.imp And.left And.left⟩
  · intro result sync
    rw [sync, Role.fits_sync_iff] at fits
    exact fits.1
  · intro callback async
    rw [async, Role.fits_async_iff] at fits
    obtain ⟨owned, _, parameter, single, _⟩ := fits
    exact ⟨owned, parameter, single⟩

end Method

namespace InterfaceMethod

variable {interface : String} {alone : Bool} {self : InterfaceMethod}

theorem asks_none_iff : self.Asks alone none ↔ self.isKept = true := by
  rw [isKept, Bool.and_eq_true, List.isEmpty_iff]
  constructor
  · rintro ⟨untagged, body⟩
    exact ⟨untagged, body⟩
  · rintro ⟨untagged, body⟩
    exact .kept untagged body

theorem Asks.isKept_eq_false {role : Role} (asks : self.Asks alone (some role)) : self.isKept = false := by
  cases asks with
  | tagged single => simp [isKept, single]
  | inferred _ _ bodyless => simp [isKept, bodyless]

theorem becomes_of_taken {declared : List InterfaceMethod} {found : List (Option Method)}
    (taken : List.Forall₂ (fun self taken => Method.ofInterface interface alone self = .ok taken)
      declared found) :
    List.Forall₂ (Becomes alone) (declared.filter (!·.isKept)) found.reduceOption := by
  induction taken with
  | nil => exact .nil
  | @cons self _ _ _ first _ ih =>
    obtain ⟨role, asks, fit⟩ := Method.ofInterface_eq_ok_iff.mp first
    cases fit with
    | none => simpa [asks_none_iff.mp asks] using ih
    | @some _ method fit =>
      obtain ⟨accepted, signature, rfl⟩ := Method.ofSignature_eq_ok_iff.mp fit
      have becomes : self.Becomes alone method :=
        ⟨by rw [accepted.name, signature]; rfl, signature, asks⟩
      simpa [asks.isKept_eq_false] using List.Forall₂.cons becomes ih

end InterfaceMethod

/-- The methods that are taken of an interface keep the rules of their roles, and no role is taken twice
that only one of them may have. -/
theorem Method.collect_spec {interface : String} {alone : Bool} {declared : List InterfaceMethod}
    {methods : List Method} (collected : collect interface alone [] declared = .ok methods) :
    List.Forall₂ (InterfaceMethod.Becomes alone) (declared.filter (!·.isKept)) methods ∧
      (∀ method ∈ methods, method.Accepted) ∧ Role.AtMostOnce (methods.map (·.role)) := by
  obtain ⟨found, taken, rfl, once⟩ := (@collect_eq_ok_iff _ _ _ [] _ (by simp) .nil).mp collected
  rw [List.nil_append] at once ⊢
  refine ⟨InterfaceMethod.becomes_of_taken taken, ?_, once⟩
  intro method among
  obtain ⟨self, _, built⟩ := Checks.exists_of_mem_forall₂ taken (List.reduceOption_mem_iff.mp among)
  obtain ⟨_, _, fit⟩ := ofInterface_eq_ok_iff.mp built
  cases fit with
  | some fit => exact (ofSignature_eq_ok_iff.mp fit).1

namespace Endpoint

theorem methods_of_built {interface : Interface} {endpoint : Endpoint}
    (built : ofInterface interface = .ok endpoint) :
    List.Forall₂ (InterfaceMethod.Becomes (interface.methods.length == 1))
        (interface.methods.filter (!·.isKept)) endpoint.methods ∧
      (∀ method ∈ endpoint.methods, method.Accepted) ∧ Role.AtMostOnce (endpoint.methods.map (·.role)) ∧
        endpoint.syncResult?.isSome = true := by
  obtain ⟨_, _, collected, ⟨terminal, among, sync⟩, _⟩ := ofInterface_eq_ok_iff.mp built
  obtain ⟨becomes, accepted, once⟩ := Method.collect_spec collected
  refine ⟨becomes, accepted, once, ?_⟩
  rw [syncResult?, List.isSome_findSome?, List.any_eq_true]
  exact ⟨terminal, among, (Method.syncResult?_isSome terminal).trans sync⟩

end Endpoint

end Endpoints
