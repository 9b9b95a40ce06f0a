import Endpoints.Builder.Items
import Endpoints.Proofs.MethodAcceptance

/-! Which traits describe an endpoint. The conditions are said of the declaration alone, without the
order in which faults are looked for. -/

namespace Endpoints
open Checks

/-- A trait without generics that demands at most `Send`, `Sync` and `Sized` and holds methods only. -/
structure TraitDeclaration.IsPlain (declaration : TraitDeclaration) : Prop where
  parameters : declaration.generics.parameters.items = []
  constraints : declaration.generics.constraints = none
  supertraits : ∀ bound ∈ declaration.supertraits.items, ∃ parenthesized optional binder name,
    bound = .ofTrait parenthesized optional binder (.ofName name) ∧ name ∈ ["Send", "Sync", "Sized"]
  items : ∀ item ∈ declaration.items, ∃ method, item = .method method

/-- A method that asks for a role, or none, and whose signature fits the role. -/
def InterfaceMethod.Serves (alone : Bool) (self : InterfaceMethod) (role : Option Role) : Prop :=
  self.Asks alone role ∧ ∀ asked ∈ role, ∃ receiver parameters,
    self.declaration.signature.Callable receiver parameters ∧
      asked.Fits self.declaration.signature receiver parameters

/-- The first parameter of a method that sets the body is not borrowed. -/
def InterfaceMethod.OwnsBody (self : InterfaceMethod) : Prop :=
  ∀ tag key, self.documentation.tags = [tag] → Directive.interpret tag = .ok (.binding .body key) →
    ∀ value ∈ self.declaration.signature.typedInputs.head?, ¬ Borrowed value.2

/-- Roles with exactly one terminal that waits, and with at most one callback and one body. -/
structure Role.Balanced (roles : List Role) : Prop where
  body : roles.countP Role.isBody ≤ 1
  sync : roles.countP Role.isSync = 1
  async : roles.countP Role.isAsync ≤ 1

namespace Interface

/-- The single tag of the interface names its HTTP method and path. -/
def NamesEndpoint (interface : Interface) (method : HttpMethod) (template : String) : Prop :=
  ∃ tag, interface.documentation.tags = [tag] ∧ Directive.interpret tag = .ok (.endpoint method template)

/-- A plain trait with one tag that names an endpoint, whose methods serve a balanced list of roles. -/
structure Describes (interface : Interface) : Prop where
  plain : interface.declaration.IsPlain
  named : ∃ method template, interface.NamesEndpoint method template
  methods : ∃ roles : List (Option Role),
    List.Forall₂ (InterfaceMethod.Serves (interface.methods.length == 1)) interface.methods roles ∧
      Role.Balanced roles.reduceOption

def OwnsBody (interface : Interface) : Prop := ∀ self ∈ interface.methods, self.OwnsBody

end Interface

theorem Method.roleOf?_eq_body_iff {directive : Directive} {key : String} :
    Method.roleOf? directive = some (.binding .body key) ↔ directive = .binding .body key := by
  cases directive <;> simp [Method.roleOf?]

theorem Signature.Callable.head_types {signature : Signature} {receiver : ReceiverKind}
    {parameters : List Parameter} (callable : signature.Callable receiver parameters) :
    signature.typedInputs.head?.map (·.2) = parameters.head?.map (·.type) := by
  have named := callable.named
  generalize signature.typedInputs = inputs at named ⊢
  cases named with
  | nil => rfl
  | cons names _ =>
    obtain ⟨_, _, _, rfl⟩ := names
    rfl

namespace InterfaceMethod

theorem ownsBody_of_untagged {self : InterfaceMethod} (untagged : self.documentation.tags = []) :
    self.OwnsBody := by
  intro tag key single
  rw [untagged] at single
  cases single

theorem Asks.ownsBody_iff {alone : Bool} {self : InterfaceMethod} {role : Role}
    {receiver : ReceiverKind} {parameters : List Parameter} (asks : self.Asks alone (some role))
    (callable : self.declaration.signature.Callable receiver parameters) :
    role.OwnsBody parameters ↔ self.OwnsBody := by
  have owned : (∀ value ∈ parameters.head?, ¬ Borrowed value.type) ↔
      ∀ value ∈ self.declaration.signature.typedInputs.head?, ¬ Borrowed value.2 := by
    have same := callable.head_types
    cases first : self.declaration.signature.typedInputs.head? <;>
      cases second : parameters.head? <;> simp_all
  cases asks with
  | inferred _ untagged => exact iff_of_true trivial (ownsBody_of_untagged untagged)
  | @tagged tag _ single asks =>
    obtain ⟨directive, interpreted, same⟩ := asks
    constructor
    · intro owns other key only body
      obtain rfl : tag = other := by simpa [single] using only
      obtain rfl := Except.ok.inj (interpreted.symm.trans body)
      obtain rfl : .binding .body key = role := by simpa [Method.roleOf?] using same
      exact owned.mp owns
    · intro owns
      unfold Role.OwnsBody
      split
      next key =>
        rw [Method.roleOf?_eq_body_iff.mp same] at interpreted
        exact owned.mpr (owns tag key single interpreted)
      next => trivial

theorem exists_ofInterface_iff {interface : String} {alone : Bool} {self : InterfaceMethod}
    {role : Option Role} :
    (∃ found, Method.ofInterface interface alone self = .ok found ∧ found.map (·.role) = role) ↔
      self.OwnsBody ∧ self.Serves alone role := by
  simp only [Method.ofInterface_eq_ok_iff]
  constructor
  · rintro ⟨found, ⟨asked, asks, fit⟩, rfl⟩
    cases fit with
    | none =>
      refine ⟨?_, asks, by simp⟩
      cases asks with
      | kept untagged => exact ownsBody_of_untagged untagged
    | @some _ method fit =>
      obtain ⟨accepted, signature, rfl⟩ := Method.ofSignature_eq_ok_iff.mp fit
      have callable := signature ▸ accepted.callable
      have fits := signature ▸ accepted.fits
      refine ⟨(asks.ownsBody_iff callable).mp accepted.ownsBody, asks, ?_⟩
      rintro _ ⟨⟩
      exact ⟨_, _, callable, fits⟩
  · rintro ⟨owns, asks, fits⟩
    cases role with
    | none => exact ⟨none, ⟨none, asks, .none⟩, rfl⟩
    | some role =>
      obtain ⟨receiver, parameters, callable, fit⟩ := fits role rfl
      let method : Method := ⟨self.name, parameters, role, receiver, self.declaration.signature⟩
      have accepted : method.Accepted :=
        ⟨rfl, callable, fit, (asks.ownsBody_iff callable).mpr owns⟩
      have built := Method.ofSignature_eq_ok_iff.mpr ⟨accepted, rfl, rfl⟩
      exact ⟨some method, ⟨some role, asks, .some built⟩, rfl⟩

end InterfaceMethod

namespace Endpoint

theorem isAllowedSupertrait_iff {bound : Bound} :
    isAllowedSupertrait bound = true ↔ ∃ parenthesized optional binder name,
      bound = .ofTrait parenthesized optional binder (.ofName name) ∧ name ∈ ["Send", "Sync", "Sized"] := by
  cases bound with
  | ofTrait parenthesized optional binder path =>
    simp only [isAllowedSupertrait, List.any_eq_true, beq_iff_eq, Path.name?_eq_some_iff]
    constructor
    · rintro ⟨name, allowed, rfl⟩
      exact ⟨_, _, _, name, rfl, allowed⟩
    · rintro ⟨_, _, _, name, same, allowed⟩
      injection same with _ _ _ path
      exact ⟨name, allowed, path⟩
  | lifetime name => simp [isAllowedSupertrait]
  | capturing lifetimes parameters trailing => simp [isAllowedSupertrait]
  | verbatim tokens => simp [isAllowedSupertrait]

theorem shapeFault?_eq_none_iff {declaration : TraitDeclaration} :
    shapeFault? declaration = none ↔ declaration.IsPlain := by
  have methods : declaration.items.any (·.method?.isNone) = false ↔
      ∀ item ∈ declaration.items, ∃ method, item = .method method := by
    rw [List.any_eq_false]
    refine forall₂_congr fun item _ => ?_
    cases item <;> simp [TraitItem.method?]
  constructor
  · intro faultless
    unfold shapeFault? at faultless
    split at faultless
    next => cases faultless
    next notGeneric =>
      split at faultless
      next => cases faultless
      next allowed =>
        split at faultless
        next => cases faultless
        next items =>
          simp only [Bool.or_eq_true, Bool.not_eq_true', not_or] at notGeneric
          rw [List.find?_eq_none] at allowed
          refine ⟨by simpa using notGeneric.1, by simpa using notGeneric.2, ?_,
            methods.mp (by simpa using items)⟩
          exact fun bound member => isAllowedSupertrait_iff.mp (by simpa using allowed bound member)
  · intro plain
    have allowed : declaration.supertraits.items.find? (!isAllowedSupertrait ·) = none := by
      rw [List.find?_eq_none]
      intro bound member
      simp [isAllowedSupertrait_iff.mpr (plain.supertraits bound member)]
    unfold shapeFault?
    simp [plain.parameters, plain.constraints, allowed, methods.mpr plain.items]

theorem endpointOfTag_eq_ok_iff {interface tag : String} {endpoint : HttpMethod × String} :
    endpointOfTag interface tag = .ok endpoint ↔
      Directive.interpret tag = .ok (.endpoint endpoint.1 endpoint.2) := by
  unfold endpointOfTag
  cases Directive.interpret tag with
  | error error => simp
  | ok directive => cases directive <;> simp [Prod.ext_iff]

/-- A tag after the first one is a fault whatever it says. -/
theorem endpointTag_some_ne_ok {interface tag : String} {rest : List String}
    {found endpoint : HttpMethod × String} :
    endpointTag interface (some found) (tag :: rest) ≠ .ok endpoint := by
  rw [endpointTag]
  split <;> simp

theorem endpointTag_eq_ok_iff {interface : String} {tags : List String}
    {endpoint : HttpMethod × String} :
    endpointTag interface none tags = .ok endpoint ↔
      ∃ tag, tags = [tag] ∧ Directive.interpret tag = .ok (.endpoint endpoint.1 endpoint.2) := by
  match tags with
  | [] => simp [endpointTag]
  | [tag] =>
    have read : endpointOfTag interface tag = .ok endpoint ↔
        Directive.interpret tag = .ok (.endpoint endpoint.1 endpoint.2) := endpointOfTag_eq_ok_iff
    rw [endpointTag]
    cases found : endpointOfTag interface tag with
    | error error => simp [← read, found]
    | ok first => simp [← read, found, endpointTag]
  | first :: second :: rest =>
    rw [endpointTag]
    cases endpointOfTag interface first with
    | error error => simp
    | ok endpoint => simp [endpointTag_some_ne_ok]

theorem terminalFault?_eq_none_iff {interface : String} {methods : List Method} :
    terminalFault? interface methods = none ↔ ∃ method ∈ methods, method.role.isSync = true := by
  unfold terminalFault?
  split
  next waits => simpa [Method.syncResult?_isSome] using waits
  next never =>
    have none : ¬ ∃ method ∈ methods, method.role.isSync = true := by
      simpa [Method.syncResult?_isSome] using never
    split <;> simpa using none

end Endpoint

theorem Role.balanced_iff {roles : List Role} :
    Role.Balanced roles ↔ Role.AtMostOnce roles ∧ ∃ role ∈ roles, role.isSync = true := by
  rw [← List.countP_pos_iff]
  constructor
  · rintro ⟨body, sync, async⟩
    exact ⟨⟨body, by omega, async⟩, by omega⟩
  · rintro ⟨⟨body, sync, async⟩, some⟩
    exact ⟨body, by omega, async⟩

theorem Method.exists_collect_iff {interface : String} {alone : Bool} {declared : List InterfaceMethod} :
    (∃ methods, collect interface alone [] declared = .ok methods ∧
        ∃ method ∈ methods, method.role.isSync = true) ↔
      (∀ self ∈ declared, self.OwnsBody) ∧ ∃ roles : List (Option Role),
        List.Forall₂ (InterfaceMethod.Serves alone) declared roles ∧ Role.Balanced roles.reduceOption := by
  have collected (methods : List Method) :=
    @collect_eq_ok_iff interface alone declared [] methods (by simp) .nil
  have served (roles : List (Option Role)) :
      (∃ found, List.Forall₂ (fun self taken => ofInterface interface alone self = .ok taken) declared found ∧
          found.map (Option.map (·.role)) = roles) ↔
        (∀ self ∈ declared, self.OwnsBody) ∧ List.Forall₂ (InterfaceMethod.Serves alone) declared roles := by
    rw [← Checks.forall₂_exists_iff, ← List.forall₂_and_left]
    simp only [InterfaceMethod.exists_ofInterface_iff]
  have asRoles (found : List (Option Method)) :
      found.reduceOption.map (·.role) = (found.map (Option.map (·.role))).reduceOption :=
    List.reduceOption_map.symm
  constructor
  · rintro ⟨methods, taken, waits⟩
    obtain ⟨found, each, rfl, once⟩ := (collected methods).mp taken
    obtain ⟨owns, serve⟩ := (served _).mp ⟨found, each, rfl⟩
    refine ⟨owns, _, serve, Role.balanced_iff.mpr ⟨?_, ?_⟩⟩
    · rw [← asRoles]
      simpa using once
    · rw [← asRoles]
      simpa using waits
  · rintro ⟨owns, roles, serve, balanced⟩
    obtain ⟨found, each, rfl⟩ := (served roles).mpr ⟨owns, serve⟩
    obtain ⟨once, waits⟩ := Role.balanced_iff.mp balanced
    rw [← asRoles] at once waits
    exact ⟨_, (collected _).mpr ⟨found, each, rfl, by simpa using once⟩, by simpa using waits⟩

namespace Endpoint

theorem ofInterface_eq_ok_iff {interface : Interface} {endpoint : Endpoint} :
    ofInterface interface = .ok endpoint ↔
      interface.declaration.IsPlain ∧ interface.NamesEndpoint endpoint.method endpoint.template ∧
        Method.collect interface.name (interface.methods.length == 1) [] interface.methods
          = .ok endpoint.methods ∧
        (∃ method ∈ endpoint.methods, method.role.isSync = true) ∧
        endpoint.name = interface.name ∧ endpoint.visibility = interface.declaration.visibility := by
  have named (method : HttpMethod) (template : String) :
      endpointTag interface.name none interface.documentation.tags = .ok (method, template) ↔
        interface.NamesEndpoint method template := endpointTag_eq_ok_iff
  unfold ofInterface
  constructor
  · intro built
    cases fault : shapeFault? interface.declaration with
    | some fault => simp [fault] at built
    | none =>
      simp only [fault, bind_eq_ok_iff] at built
      obtain ⟨⟨method, template⟩, tagged, methods, collected, finished⟩ := built
      cases ended : terminalFault? interface.name methods with
      | some error => simp [ended] at finished
      | none =>
        simp only [ended, pure_eq_ok_iff] at finished
        subst finished
        exact ⟨shapeFault?_eq_none_iff.mp fault, (named method template).mp tagged, collected,
          terminalFault?_eq_none_iff.mp ended, rfl, rfl⟩
  · obtain ⟨name, visibility, method, template, methods⟩ := endpoint
    rintro ⟨plain, tag, collected, waits, rfl, rfl⟩
    have shaped := shapeFault?_eq_none_iff.mpr plain
    have tagged := (named _ _).mpr tag
    have ended : terminalFault? interface.name methods = none := terminalFault?_eq_none_iff.mpr waits
    simp only at tagged collected ended
    simp [shaped, tagged, collected, ended]

/-- An endpoint is made of a trait exactly when the trait describes one and its body, if it sets one,
is not borrowed. -/
theorem ofTrait_accepted_iff (declaration : TraitDeclaration) :
    (∃ endpoint, ofInterface (.ofTrait declaration) = .ok endpoint) ↔
      (Interface.ofTrait declaration).Describes ∧ (Interface.ofTrait declaration).OwnsBody := by
  have collected := @Method.exists_collect_iff (Interface.ofTrait declaration).name
    ((Interface.ofTrait declaration).methods.length == 1) (Interface.ofTrait declaration).methods
  constructor
  · rintro ⟨endpoint, built⟩
    obtain ⟨plain, named, taken, waits, _, _⟩ := ofInterface_eq_ok_iff.mp built
    obtain ⟨owns, serve⟩ := collected.mp ⟨_, taken, waits⟩
    exact ⟨⟨plain, ⟨_, _, named⟩, serve⟩, owns⟩
  · rintro ⟨⟨plain, ⟨method, template, named⟩, serve⟩, owns⟩
    obtain ⟨methods, taken, waits⟩ := collected.mpr ⟨owns, serve⟩
    exact ⟨⟨_, _, method, template, methods⟩,
      ofInterface_eq_ok_iff.mpr ⟨plain, named, taken, waits, rfl, rfl⟩⟩

end Endpoint

theorem Directive.interpret_of_read {text : String} (tag : Tag) (read : Tag.read text = .ok tag) :
    interpret text = ofTag tag := by
  unfold interpret
  rw [read]
  rfl

/-- A trait that sets its body from a reference. -/
def borrowingTrait : TraitDeclaration where
  attributes := [Builder.documented "@POST(\"/photos\")"]
  visibility := .inherited
  isUnsafe := false
  isAuto := false
  name := "Upload"
  generics := .empty
  supertraits := .nil
  items := [
    .method ⟨[Builder.documented "@BODY"],
      Builder.plainSignature "photo"
        [.receiver ⟨[], none, false, none⟩,
          .parameter [] (.name false false "photo" none) (.reference none false (.path (.ofName "Photo")))]
        (some selfTy), none⟩,
    .method ⟨[Builder.documented "@SYNC(\"Photo\")"],
      Builder.plainSignature "run" [.receiver ⟨[], none, false, none⟩]
        (some (.path (.mk false [.mk "Result" (.angle false
          [.type (.path (.ofName "Photo")), .type (.path (.ofName "Error"))] false)]))), none⟩]

/-- A borrowed body is refused although it keeps every other rule. -/
theorem Endpoint.borrowed_body_refused :
    (Interface.ofTrait borrowingTrait).Describes ∧
      ofInterface (.ofTrait borrowingTrait) = .error (.signature "Upload" "photo" .bodyNotOwned) := by
  have post : Directive.interpret "@POST(\"/photos\")" = .ok (.endpoint .post "/photos") :=
    Directive.interpret_of_read ⟨"POST", some "/photos"⟩ (by decide +kernel)
  have body : AsksFor "@BODY" (.binding .body "") :=
    ⟨_, Directive.interpret_of_read ⟨"BODY", none⟩ (by decide +kernel), rfl⟩
  have sync : AsksFor "@SYNC(\"Photo\")" (.sync (.path (.ofName "Photo"))) :=
    ⟨_, Directive.interpret_of_read ⟨"SYNC", some "Photo"⟩ (by decide +kernel), rfl⟩
  have plain : borrowingTrait.IsPlain :=
    ⟨rfl, rfl, nofun, by simp [borrowingTrait]⟩
  refine ⟨⟨plain, ⟨.post, "/photos", _, by decide +kernel, post⟩,
    [some (.binding .body ""), some (.sync (.path (.ofName "Photo")))], ?_, ⟨?_, ?_, ?_⟩⟩, ?_⟩
  · refine .cons ⟨.tagged (by decide +kernel) body, ?_⟩
      (.cons ⟨.tagged (by decide +kernel) sync, ?_⟩ .nil)
    · rintro _ ⟨⟩
      exact ⟨.owned, [⟨"photo", .reference none false (.path (.ofName "Photo"))⟩],
        ⟨rfl, .owned rfl, .cons ⟨_, _, _, rfl⟩ .nil⟩, .binding .byValue fun _ => rfl⟩
    · rintro _ ⟨⟩
      exact ⟨.owned, [], ⟨rfl, .owned rfl, .nil⟩, .sync ⟨_, _, _, rfl⟩ rfl⟩
  · decide
  · decide
  · decide
  · have refused : (match ofInterface (.ofTrait borrowingTrait) with
        | .error error => decide (error = .signature "Upload" "photo" .bodyNotOwned)
        | .ok _ => false) = true := by decide +kernel
    split at refused
    next error same => rw [same, of_decide_eq_true refused]
    next => cases refused

end Endpoints
