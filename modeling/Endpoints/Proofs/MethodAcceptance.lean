import Mathlib.Data.List.ReduceOption
import Endpoints.Proofs.SignatureRules

/-! Which methods of an interface are taken, and with which roles. The methods of an interface are
collected exactly when each of them has a role that its signature fits and no role is taken twice
that only one method may have. -/

namespace Endpoints
open Checks

/-- A tag on a method that asks for a role. -/
def AsksFor (tag : String) (role : Role) : Prop :=
  ∃ directive, Directive.interpret tag = .ok directive ∧ Method.roleOf? directive = some role

/-- The role that a method asks for, or none when its default body is kept. A method without tag and
body asks for the role of the terminal if it is alone and returns a result. -/
inductive InterfaceMethod.Asks (alone : Bool) (self : InterfaceMethod) : Option Role → Prop where
  | kept (untagged : self.documentation.tags = []) (body : self.declaration.body.isSome = true) :
      self.Asks alone none
  | tagged {tag role} (single : self.documentation.tags = [tag]) (asks : AsksFor tag role) :
      self.Asks alone (some role)
  | inferred {result} (single : alone = true) (untagged : self.documentation.tags = [])
      (bodyless : self.declaration.body = none)
      (returns : ReturnsResult self.declaration.signature.output result) :
      self.Asks alone (some (.sync result))

namespace Role

def isBody : Role → Bool
  | .binding .body _ => true
  | _ => false

def isSync : Role → Bool
  | .sync _ => true
  | _ => false

def isAsync : Role → Bool
  | .async _ => true
  | _ => false

/-- Roles of which each that only one method may have occurs at most once. -/
structure AtMostOnce (roles : List Role) : Prop where
  body : roles.countP isBody ≤ 1
  sync : roles.countP isSync ≤ 1
  async : roles.countP isAsync ≤ 1

theorem AtMostOnce.nil : AtMostOnce [] := ⟨by simp, by simp, by simp⟩

theorem AtMostOnce.left {first second : List Role} (distinct : AtMostOnce (first ++ second)) :
    AtMostOnce first := by
  obtain ⟨body, sync, async⟩ := distinct
  rw [List.countP_append] at body sync async
  exact ⟨by omega, by omega, by omega⟩

theorem atMostOnce_concat_iff {roles : List Role} (distinct : AtMostOnce roles) {role : Role} :
    AtMostOnce (roles ++ [role]) ↔
      (role.isBody = true → roles.any isBody = false) ∧
        (role.isSync = true → roles.any isSync = false) ∧
          (role.isAsync = true → roles.any isAsync = false) := by
  have alone (kind : Role → Bool) (once : roles.countP kind ≤ 1) :
      (roles ++ [role]).countP kind ≤ 1 ↔ (kind role = true → roles.any kind = false) := by
    rw [List.countP_append, List.countP_singleton, List.any_eq_false, ← List.countP_eq_zero]
    split
    next same => simp [same]
    next different => simp [different, once]
  obtain ⟨body, sync, async⟩ := distinct
  rw [← alone isBody body, ← alone isSync sync, ← alone isAsync async]
  exact ⟨fun all => ⟨all.body, all.sync, all.async⟩, fun ⟨body, sync, async⟩ => ⟨body, sync, async⟩⟩

end Role

namespace Method

/-- A method whose signature keeps the rules of its role. -/
structure Accepted (method : Method) : Prop where
  name : method.name = method.signature.name
  callable : method.signature.Callable method.receiver method.parameters
  fits : method.role.Fits method.signature method.receiver method.parameters
  ownsBody : method.role.OwnsBody method.parameters

theorem checkRole_eq_ok_iff {signature : Signature} {receiver : ReceiverKind}
    {parameters : List Parameter} {role : Role} :
    checkRole signature receiver parameters role = .ok () ↔
      role.Fits signature receiver parameters ∧ role.OwnsBody parameters := by
  cases role with
  | binding kind key => exact checkBinding_eq_ok_iff
  | sync result => simpa [checkRole, Role.OwnsBody] using checkSync_eq_ok_iff
  | async callback => simpa [checkRole, Role.OwnsBody] using checkAsync_eq_ok_iff

theorem ofSignature_eq_ok_iff {signature : Signature} {role : Role} {method : Method} :
    ofSignature signature role = .ok method ↔
      method.Accepted ∧ method.signature = signature ∧ method.role = role := by
  unfold ofSignature
  constructor
  · intro built
    cases received : signature.receiverKind? with
    | none => simp [received] at built
    | some receiver =>
      simp [received, Signature.parameters_eq_ok_iff] at built
      obtain ⟨notAsync, parameters, named, ⟨_, checked⟩, rfl⟩ := built
      obtain ⟨fits, ownsBody⟩ := checkRole_eq_ok_iff.mp checked
      have receives := Signature.receiverKind?_eq_some_iff.mp received
      exact ⟨⟨rfl, ⟨notAsync, receives, named⟩, fits, ownsBody⟩, rfl, rfl⟩
  · obtain ⟨name, parameters, _, receiver, _⟩ := method
    rintro ⟨⟨same, callable, fits, ownsBody⟩, rfl, rfl⟩
    have received := Signature.receiverKind?_eq_some_iff.mpr callable.receives
    have named := Signature.parameters_eq_ok_iff.mpr callable.named
    have checked := checkRole_eq_ok_iff.mpr ⟨fits, ownsBody⟩
    have notAsync := callable.notAsync
    simp only at same received named checked notAsync
    simp [notAsync, received, named, checked, same]

theorem roleOfTag_eq_ok_iff {location : Location} {tag : String} {role : Role} :
    roleOfTag location tag = .ok role ↔ AsksFor tag role := by
  unfold roleOfTag AsksFor
  cases Directive.interpret tag with
  | error error => simp
  | ok directive => cases asked : roleOf? directive <;> simp [asked]

theorem roles_eq_ok_iff {location : Location} {tags : List String} {found : List Role} :
    roles location tags = .ok found ↔ List.Forall₂ AsksFor tags found := by
  simp only [roles, mapM_eq_ok_iff, roleOfTag_eq_ok_iff]

theorem role?_eq_ok_iff {interface : String} {alone : Bool} {self : InterfaceMethod}
    {role : Option Role} : role? interface alone self = .ok role ↔ self.Asks alone role := by
  unfold role?
  simp only [bind_eq_ok_iff, roles_eq_ok_iff]
  constructor
  · rintro ⟨found, asked, chosen⟩
    rcases found with _ | ⟨single, _ | ⟨second, more⟩⟩
    · have untagged : self.documentation.tags = [] := by simpa using asked
      cases body : self.declaration.body with
      | some statements =>
        have kept : none = role := by simpa [body] using chosen
        exact kept ▸ .kept untagged (by simp [body])
      | none =>
        cases alone with
        | false => simp [body] at chosen
        | true =>
          cases returns : resultType? self.declaration.signature.output with
          | none => simp [body, returns] at chosen
          | some result =>
            have inferred : some (.sync result) = role := by simpa [body, returns] using chosen
            exact inferred ▸ .inferred rfl untagged body (resultType?_eq_some_iff.mp returns)
    · obtain ⟨tag, rest, asks, asksRest, tags⟩ := List.forall₂_cons_right_iff.mp asked
      have last : rest = [] := by simpa using asksRest
      have tagged : some single = role := by simpa using chosen
      exact tagged ▸ .tagged (by rw [tags, last]) asks
    · simp at chosen
  · intro asks
    cases asks with
    | kept untagged body => exact ⟨[], by simp [untagged], by simp [body]⟩
    | tagged single asks => exact ⟨[_], by simpa [single] using asks, by simp⟩
    | inferred single untagged bodyless returns =>
      refine ⟨[], by simp [untagged], ?_⟩
      simp [bodyless, single, resultType?_eq_some_iff.mpr returns]

theorem ofInterface_eq_ok_iff {interface : String} {alone : Bool} {self : InterfaceMethod}
    {found : Option Method} :
    ofInterface interface alone self = .ok found ↔ ∃ role, self.Asks alone role ∧
      Option.Rel (fun role method => ofSignature self.declaration.signature role = .ok method) role found := by
  unfold ofInterface
  simp only [bind_eq_ok_iff, role?_eq_ok_iff]
  refine exists_congr fun role => and_congr_right fun _ => ?_
  cases role with
  | none => cases found <;> simp
  | some role =>
    cases built : ofSignature self.declaration.signature role with
    | error fault => cases found <;> simp [built]
    | ok method => cases found <;> simp [built]

theorem Accepted.bodyType?_isSome {method : Method} (accepted : method.Accepted) :
    method.bodyType?.isSome = method.role.isBody := by
  obtain ⟨name, parameters, role, receiver, signature⟩ := method
  cases accepted.fits with
  | @binding kind key value others _ _ => cases kind <;> rfl
  | sync => rfl
  | async => rfl

theorem syncResult?_isSome (method : Method) : method.syncResult?.isSome = method.role.isSync := by
  unfold syncResult? Role.isSync
  cases method.role <;> rfl

theorem asyncCallback?_isSome (method : Method) :
    method.asyncCallback?.isSome = method.role.isAsync := by
  unfold asyncCallback? Role.isAsync
  cases method.role <;> rfl

theorem any_bodyType?_isSome {methods : List Method} (accepted : ∀ method ∈ methods, method.Accepted) :
    methods.any (·.bodyType?.isSome) = (methods.map (·.role)).any Role.isBody := by
  rw [List.any_map, Bool.eq_iff_iff, List.any_eq_true, List.any_eq_true]
  exact exists_congr fun method => and_congr_right fun member => by
    rw [(accepted method member).bodyType?_isSome, Function.comp_apply]

theorem any_syncResult?_isSome (methods : List Method) :
    methods.any (·.syncResult?.isSome) = (methods.map (·.role)).any Role.isSync := by
  simp [List.any_map, Function.comp_def, syncResult?_isSome]

theorem any_asyncCallback?_isSome (methods : List Method) :
    methods.any (·.asyncCallback?.isSome) = (methods.map (·.role)).any Role.isAsync := by
  simp [List.any_map, Function.comp_def, asyncCallback?_isSome]

theorem repeated?_eq_none_iff {interface : String} {before : List Method} {method : Method}
    (accepted : ∀ earlier ∈ before, earlier.Accepted)
    (distinct : Role.AtMostOnce (before.map (·.role))) :
    repeated? interface before method = none ↔
      Role.AtMostOnce ((before ++ [method]).map (·.role)) := by
  unfold repeated?
  rw [any_bodyType?_isSome accepted, any_syncResult?_isSome, any_asyncCallback?_isSome, List.map_append,
    List.map_singleton, Role.atMostOnce_concat_iff distinct]
  cases method.role with
  | sync result => simp [Role.isSync, Role.isBody, Role.isAsync]
  | async callback => simp [Role.isSync, Role.isBody, Role.isAsync]
  | binding kind key => cases kind <;> simp [Role.isSync, Role.isBody, Role.isAsync]

theorem accepted_concat {interface : String} {alone : Bool} {self : InterfaceMethod}
    {before : List Method} {method : Method} (accepted : ∀ earlier ∈ before, earlier.Accepted)
    (built : ofInterface interface alone self = .ok (some method)) :
    ∀ earlier ∈ before ++ [method], earlier.Accepted := by
  obtain ⟨role, _, fit⟩ := ofInterface_eq_ok_iff.mp built
  cases fit with
  | some fit =>
    intro earlier member
    rcases List.mem_append.mp member with old | new
    · exact accepted earlier old
    · rw [List.mem_singleton.mp new]
      exact (ofSignature_eq_ok_iff.mp fit).1

theorem collect_eq_ok_iff {interface : String} {alone : Bool} {declared : List InterfaceMethod}
    {before after : List Method} (accepted : ∀ earlier ∈ before, earlier.Accepted)
    (distinct : Role.AtMostOnce (before.map (·.role))) :
    collect interface alone before declared = .ok after ↔ ∃ found : List (Option Method),
      List.Forall₂ (fun self taken => ofInterface interface alone self = .ok taken) declared found ∧
        after = before ++ found.reduceOption ∧ Role.AtMostOnce (after.map (·.role)) := by
  induction declared generalizing before with
  | nil =>
    constructor
    · intro collected
      cases collected
      exact ⟨[], .nil, by simp, distinct⟩
    · rintro ⟨found, taken, rfl, _⟩
      cases taken
      simp [collect]
  | cons self rest ih =>
    rw [collect]
    constructor
    · intro collected
      split at collected
      next => cases collected
      next kept =>
        obtain ⟨found, taken, same, once⟩ := (ih accepted distinct).mp collected
        exact ⟨none :: found, .cons kept taken, by simpa using same, once⟩
      next method built =>
        split at collected
        next => cases collected
        next fresh =>
          have once := (repeated?_eq_none_iff accepted distinct).mp fresh
          have acceptedMore := accepted_concat accepted built
          obtain ⟨found, taken, same, all⟩ := (ih acceptedMore once).mp collected
          exact ⟨some method :: found, .cons built taken, by simpa using same, all⟩
    · rintro ⟨found, taken, rfl, once⟩
      cases taken with
      | @cons _ first _ others built taken =>
        cases first with
        | none =>
          rw [built]
          exact (ih accepted distinct).mpr ⟨others, taken, by simp, once⟩
        | some method =>
          rw [built]
          have flat : before ++ (some method :: others).reduceOption
              = before ++ [method] ++ others.reduceOption := by simp
          have onceNow : Role.AtMostOnce ((before ++ [method]).map (·.role)) := by
            rw [flat, List.map_append] at once
            exact once.left
          have fresh : repeated? interface before method = none :=
            (repeated?_eq_none_iff accepted distinct).mpr onceNow
          simp only [fresh]
          exact (ih (accepted_concat accepted built) onceNow).mpr ⟨others, taken, flat, once⟩

end Method

end Endpoints
