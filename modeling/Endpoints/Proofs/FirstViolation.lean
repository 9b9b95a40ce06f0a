import Endpoints.Proofs.EndpointAcceptance
import Endpoints.Proofs.MethodFaults

/-! Which error a refused trait is reported with. Faults are ordered by where they are: the shape of the
trait, its tags, its methods one after the other, and last the terminals; the error is that of the first
fault. Nothing is looked at of the methods after the first one at fault, apart from whether there are any. -/

namespace Endpoints
open Checks

/-- A tag of an interface is also at fault if it names an endpoint after another tag did. -/
inductive Interface.TagFault (interface : String) (before : List String) (tag : String) : EndpointError → Prop where
  | unfit {error} (fault : Endpoints.TagFault Directive.isEndpoint ⟨interface, none⟩ tag error) :
      TagFault interface before tag error
  | duplicate {method template} (read : Directive.interpret tag = .ok (.endpoint method template))
      (second : before ≠ []) : TagFault interface before tag (.duplicateEndpoint interface)

def Bound.IsMarker (bound : Bound) : Prop :=
  ∃ parenthesized optional binder name,
    bound = .ofTrait parenthesized optional binder (.ofName name) ∧ name ∈ ["Send", "Sync", "Sized"]

/-- What is first found wrong with the shape of a trait. -/
inductive TraitDeclaration.Misshapen (declaration : TraitDeclaration) : ShapeFault → Prop where
  | generic (generic : ¬ (declaration.generics.parameters.items = [] ∧ declaration.generics.constraints = none)) :
      declaration.Misshapen .generic
  | supertrait {fault} (parameters : declaration.generics.parameters.items = [])
      (constraints : declaration.generics.constraints = none)
      (foreign : FirstOf (fun _ bound fault => ¬ bound.IsMarker ∧ fault = .supertrait bound.tokens.text)
        declaration.supertraits.items fault) :
      declaration.Misshapen fault
  | otherItem (parameters : declaration.generics.parameters.items = [])
      (constraints : declaration.generics.constraints = none)
      (supertraits : ∀ bound ∈ declaration.supertraits.items, bound.IsMarker)
      (other : ∃ item ∈ declaration.items, ∀ method, item ≠ .method method) :
      declaration.Misshapen .otherItem

namespace Interface

/-- The faults of the methods, each after those before it. -/
abbrev MethodFault (interface : Interface) : List InterfaceMethod → InterfaceMethod → EndpointError → Prop :=
  InterfaceMethod.Fault interface.name (interface.methods.length == 1)

/-- One of the methods asks for a role of the kind. -/
abbrev Asked (interface : Interface) (kind : Role → Bool) : Prop :=
  InterfaceMethod.AskedAmong (interface.methods.length == 1) interface.methods kind

/-- What is first found wrong with an interface. -/
inductive FirstViolation (interface : Interface) : EndpointError → Prop where
  | shape {fault} (misshapen : interface.declaration.Misshapen fault) :
      interface.FirstViolation (.unsupported interface.name fault)
  | tag {error} (plain : interface.declaration.IsPlain)
      (fault : FirstOf (TagFault interface.name) interface.documentation.tags error) :
      interface.FirstViolation error
  | untagged (plain : interface.declaration.IsPlain) (untagged : interface.documentation.tags = []) :
      interface.FirstViolation (.missingEndpoint interface.name)
  | method {method template error} (plain : interface.declaration.IsPlain)
      (named : interface.NamesEndpoint method template)
      (fault : FirstOf interface.MethodFault interface.methods error) : interface.FirstViolation error
  | noTerminal {method template} (plain : interface.declaration.IsPlain)
      (named : interface.NamesEndpoint method template)
      (methods : Faultless interface.MethodFault interface.methods) (sync : ¬ interface.Asked Role.isSync)
      (async : ¬ interface.Asked Role.isAsync) : interface.FirstViolation (.missingTerminal interface.name)
  | onlyAsync {method template} (plain : interface.declaration.IsPlain)
      (named : interface.NamesEndpoint method template)
      (methods : Faultless interface.MethodFault interface.methods) (sync : ¬ interface.Asked Role.isSync)
      (async : interface.Asked Role.isAsync) : interface.FirstViolation (.asyncWithoutSync interface.name)

/-- Two interfaces that do not differ before the end of some methods that both begin with. -/
structure AgreesUpTo (first second : Interface) (methods : List InterfaceMethod) : Prop where
  name : second.name = first.name
  shape : ∀ fault, second.declaration.Misshapen fault ↔ first.declaration.Misshapen fault
  tags : second.documentation.tags = first.documentation.tags
  alone : second.methods.length = 1 ↔ first.methods.length = 1
  methods : methods <+: second.methods

end Interface

namespace EndpointError

def location : EndpointError → Location
  | .malformedTag location .. | .misplacedTag location _ => location
  | .untagged interface method | .conflicting interface method | .signature interface method _
  | .duplicateBody interface method | .duplicateTerminal interface method _ => ⟨interface, some method⟩
  | .missingEndpoint interface | .duplicateEndpoint interface | .missingTerminal interface
  | .asyncWithoutSync interface | .unsupported interface _ => ⟨interface, none⟩

/-- What an error tells of the interface it is about: its name and, if it is about a method, the first one
at fault, whatever comes after that method. -/
structure Reports (interface : Interface) (error : EndpointError) : Prop where
  names : error.location.interface = interface.name
  message : (error.location.text ++ ": ").toList <+: error.message.toList
  origin : ∀ name ∈ error.location.method, ∃ before self after,
    interface.methods = before ++ self :: after ∧ self.name = name ∧
      Faultless interface.MethodFault before ∧ interface.MethodFault before self error ∧
      ∀ other : TraitDeclaration, interface.AgreesUpTo (.ofTrait other) (before ++ [self]) →
        Endpoint.ofInterface (.ofTrait other) = .error error

theorem begins_append {start text : String} (more : String) (begins : start.toList <+: text.toList) :
    start.toList <+: (text ++ more).toList := by
  rw [String.toList_append]
  exact begins.trans (List.prefix_append _ _)

theorem begins_place {start literal : String} (place : String) (begins : start.toList <+: literal.toList) :
    (place ++ start).toList <+: (place ++ literal).toList := by
  rw [String.toList_append, String.toList_append]
  exact (List.prefix_append_right_inj _).mpr begins

theorem location_prefix_message (error : EndpointError) :
    (error.location.text ++ ": ").toList <+: error.message.toList := by
  cases error with
  | malformedTag => exact begins_append _ (begins_append _ (begins_append _ (begins_place _ (by decide))))
  | misplacedTag => exact begins_append _ (begins_append _ (begins_place _ (by decide)))
  | duplicateTerminal => exact begins_append _ (begins_append _ (begins_place _ (by decide)))
  | signature => exact begins_append _ (begins_place _ (by decide))
  | unsupported => exact begins_append _ (begins_place _ (by decide))
  | _ => exact begins_place _ (by decide)

end EndpointError

namespace Endpoint

theorem isGeneric_iff {declaration : TraitDeclaration} :
    (!declaration.generics.parameters.items.isEmpty || declaration.generics.constraints.isSome) = true ↔
      ¬ (declaration.generics.parameters.items = [] ∧ declaration.generics.constraints = none) := by
  cases declaration.generics.constraints <;> simp

theorem find?_foreign_eq_none_iff {bounds : List Bound} :
    bounds.find? (!isAllowedSupertrait ·) = none ↔ ∀ bound ∈ bounds, bound.IsMarker := by
  rw [List.find?_eq_none]
  refine forall₂_congr fun bound _ => ?_
  rw [Bool.not_eq_true', Bool.not_eq_false]
  exact isAllowedSupertrait_iff

theorem find?_foreign_eq_some_iff {bounds : List Bound} {bound : Bound} :
    bounds.find? (!isAllowedSupertrait ·) = some bound ↔
      ∃ before after, bounds = before ++ bound :: after ∧ (∀ earlier ∈ before, earlier.IsMarker) ∧
        ¬ bound.IsMarker := by
  rw [List.find?_eq_some_iff_append, Bool.not_eq_true', ← Bool.not_eq_true, isAllowedSupertrait_iff]
  simp only [Bool.not_not, isAllowedSupertrait_iff]
  constructor
  · rintro ⟨foreign, before, after, split, markers⟩
    exact ⟨before, after, split, markers, foreign⟩
  · rintro ⟨before, after, split, markers, foreign⟩
    exact ⟨foreign, before, after, split, markers⟩

theorem hasOther_iff {items : List TraitItem} :
    items.any (·.method?.isNone) = true ↔ ∃ item ∈ items, ∀ method, item ≠ .method method := by
  rw [List.any_eq_true]
  refine exists_congr fun item => and_congr_right fun _ => ?_
  cases item <;> simp [TraitItem.method?]

theorem shapeFault?_eq_some_iff {declaration : TraitDeclaration} {fault : ShapeFault} :
    shapeFault? declaration = some fault ↔ declaration.Misshapen fault := by
  unfold shapeFault?
  constructor
  · intro found
    split at found
    next generic =>
      cases found
      exact .generic (isGeneric_iff.mp generic)
    next notGeneric =>
      obtain ⟨parameters, constraints⟩ := not_not.mp (mt isGeneric_iff.mpr notGeneric)
      split at found
      next bound first =>
        cases found
        obtain ⟨before, after, split, markers, foreign⟩ := find?_foreign_eq_some_iff.mp first
        refine .supertrait parameters constraints ⟨before, bound, after, split, ?_, foreign, rfl⟩
        exact faultless_const_iff.mpr fun earlier member _ fault => fault.1 (markers earlier member)
      next allowed =>
        obtain ⟨items, reported⟩ := Option.ite_none_right_eq_some.mp found
        cases reported
        exact .otherItem parameters constraints (find?_foreign_eq_none_iff.mp allowed) (hasOther_iff.mp items)
  · intro misshapen
    cases misshapen with
    | generic generic => rw [if_pos (isGeneric_iff.mpr generic)]
    | supertrait parameters constraints found =>
      obtain ⟨before, bound, after, split, faultless, foreign, rfl⟩ := found
      have markers : ∀ earlier ∈ before, earlier.IsMarker := fun earlier member =>
        not_not.mp fun foreign => faultless_const_iff.mp faultless earlier member _ ⟨foreign, rfl⟩
      have first := find?_foreign_eq_some_iff.mpr ⟨before, after, split, markers, foreign⟩
      rw [if_neg (mt isGeneric_iff.mp (not_not_intro ⟨parameters, constraints⟩)), first]
    | otherItem parameters constraints markers other =>
      have allowed := find?_foreign_eq_none_iff.mpr markers
      rw [if_neg (mt isGeneric_iff.mp (not_not_intro ⟨parameters, constraints⟩)), allowed]
      exact if_pos (hasOther_iff.mpr other)

theorem isPlain_iff {declaration : TraitDeclaration} :
    declaration.IsPlain ↔ ∀ fault, ¬ declaration.Misshapen fault := by
  simp only [← shapeFault?_eq_none_iff, ← shapeFault?_eq_some_iff, Option.eq_none_iff_forall_ne_some, ne_eq]

theorem endpointOfTag_eq_error_iff {interface tag : String} {error : EndpointError} :
    endpointOfTag interface tag = .error error ↔
      TagFault Directive.isEndpoint ⟨interface, none⟩ tag error := by
  unfold endpointOfTag
  constructor
  · intro failed
    split at failed
    next unread =>
      cases failed
      exact .malformed unread
    next => cases failed
    next directive other read =>
      cases failed
      refine .misplaced read ?_
      cases directive with
      | endpoint method template => exact absurd rfl (other method template)
      | _ => rfl
  · intro fault
    cases fault with
    | malformed unread => simp [unread]
    | @misplaced directive read elsewhere =>
      rw [read]
      cases directive with
      | endpoint => cases elsewhere
      | _ => rfl

theorem tagFault_iff {interface tag : String} {before : List String} {error : EndpointError} :
    Interface.TagFault interface before tag error ↔
      endpointOfTag interface tag = .error error ∨
        (∃ endpoint, endpointOfTag interface tag = .ok endpoint) ∧ before ≠ [] ∧
          error = .duplicateEndpoint interface := by
  rw [endpointOfTag_eq_error_iff]
  constructor
  · intro fault
    cases fault with
    | unfit fault => exact .inl fault
    | duplicate read second => exact .inr ⟨⟨(_, _), endpointOfTag_eq_ok_iff.mpr read⟩, second, rfl⟩
  · rintro (fault | ⟨⟨endpoint, read⟩, second, rfl⟩)
    · exact .unfit fault
    · exact .duplicate (endpointOfTag_eq_ok_iff.mp read) second

theorem endpointTag_eq_error_iff {interface : String} {tags : List String} {error : EndpointError} :
    endpointTag interface none tags = .error error ↔
      FirstOf (Interface.TagFault interface) tags error ∨ tags = [] ∧ error = .missingEndpoint interface := by
  cases tags with
  | nil => simp [endpointTag, not_firstOf_nil, eq_comm]
  | cons tag rest =>
    rw [firstOf_cons_iff]
    simp only [tagFault_iff]
    cases read : endpointOfTag interface tag with
    | error fault => simp [endpointTag, read, eq_comm]
    | ok endpoint =>
      have next : endpointTag interface none (tag :: rest) = endpointTag interface (some endpoint) rest := by
        rw [endpointTag, read]
        rfl
      rw [next]
      cases rest with
      | nil => simp [endpointTag, not_firstOf_nil]
      | cons second more =>
        -- whatever the second tag says, it is at fault: no third one is looked at
        rw [endpointTag, firstOf_cons_iff]
        simp only [tagFault_iff]
        cases endpointOfTag interface second <;> simp [eq_comm]

theorem terminalFault?_eq_some_iff {interface : String} {alone : Bool} {declared : List InterfaceMethod}
    {methods : List Method} {error : EndpointError} (so : Method.TakenFrom alone declared methods) :
    terminalFault? interface methods = some error ↔
      ¬ InterfaceMethod.AskedAmong alone declared Role.isSync ∧
        (¬ InterfaceMethod.AskedAmong alone declared Role.isAsync ∧ error = .missingTerminal interface ∨
          InterfaceMethod.AskedAmong alone declared Role.isAsync ∧ error = .asyncWithoutSync interface) := by
  unfold terminalFault?
  rw [Method.any_syncResult?_isSome, Method.any_asyncCallback?_isSome, ← so.asked, ← so.asked]
  split
  next waits => simp [waits]
  next never =>
    split
    next async => simp [never, async, eq_comm]
    next neither => simp [never, neither, eq_comm]

theorem ofInterface_eq_error_stages {interface : Interface} {error : EndpointError} :
    ofInterface interface = .error error ↔
      (∃ fault, shapeFault? interface.declaration = some fault ∧ .unsupported interface.name fault = error) ∨
        shapeFault? interface.declaration = none ∧
          (endpointTag interface.name none interface.documentation.tags = .error error ∨
            ∃ endpoint, endpointTag interface.name none interface.documentation.tags = .ok endpoint ∧
              (Method.collect interface.name (interface.methods.length == 1) [] interface.methods = .error error ∨
                ∃ methods, Method.collect interface.name (interface.methods.length == 1) [] interface.methods
                    = .ok methods ∧ terminalFault? interface.name methods = some error)) := by
  unfold ofInterface
  cases shapeFault? interface.declaration with
  | some fault => simp
  | none =>
    simp only [bind_eq_error_iff, reduceCtorEq, false_and, exists_false, false_or, true_and]
    refine or_congr_right <| exists_congr fun endpoint => and_congr_right fun _ =>
      or_congr_right <| exists_congr fun methods => and_congr_right fun _ => ?_
    cases terminalFault? interface.name methods <;> simp

theorem ofInterface_eq_error_iff {interface : Interface} {error : EndpointError} :
    ofInterface interface = .error error ↔ interface.FirstViolation error := by
  have collecting := @Method.collect_eq_error_iff interface.name (interface.methods.length == 1) [] [] error
    interface.methods .start
  rw [ofInterface_eq_error_stages, endpointTag_eq_error_iff, shapeFault?_eq_none_iff, collecting]
  simp only [shapeFault?_eq_some_iff]
  constructor
  · rintro (⟨fault, misshapen, rfl⟩ | ⟨plain, (fault | ⟨untagged, rfl⟩) | ⟨⟨method, template⟩, tagged, failed⟩⟩)
    · exact .shape misshapen
    · exact .tag plain fault
    · exact .untagged plain untagged
    · have named : interface.NamesEndpoint method template := endpointTag_eq_ok_iff.mp tagged
      rcases failed with fault | ⟨methods, collected, ended⟩
      · exact .method plain named fault
      · have faultless := Method.faultless_iff_collect.mpr ⟨methods, collected⟩
        obtain ⟨sync, ⟨async, rfl⟩ | ⟨async, rfl⟩⟩ :=
          (terminalFault?_eq_some_iff (Method.takenFrom_of_collect .start collected)).mp ended
        · exact .noTerminal plain named faultless sync async
        · exact .onlyAsync plain named faultless sync async
  · have tagged {method template} (named : interface.NamesEndpoint method template) :
        endpointTag interface.name none interface.documentation.tags = .ok (method, template) :=
      endpointTag_eq_ok_iff.mpr named
    have collected (faultless : Faultless interface.MethodFault interface.methods) :=
      Method.faultless_iff_collect.mp faultless
    intro violated
    cases violated with
    | shape misshapen => exact .inl ⟨_, misshapen, rfl⟩
    | tag plain fault => exact .inr ⟨plain, .inl (.inl fault)⟩
    | untagged plain untagged => exact .inr ⟨plain, .inl (.inr ⟨untagged, rfl⟩)⟩
    | method plain named fault => exact .inr ⟨plain, .inr ⟨_, tagged named, .inl fault⟩⟩
    | noTerminal plain named faultless sync async =>
      obtain ⟨methods, collected⟩ := collected faultless
      have so := Method.takenFrom_of_collect .start collected
      exact .inr ⟨plain, .inr ⟨_, tagged named, .inr ⟨methods, collected,
        (terminalFault?_eq_some_iff so).mpr ⟨sync, .inl ⟨async, rfl⟩⟩⟩⟩⟩
    | onlyAsync plain named faultless sync async =>
      obtain ⟨methods, collected⟩ := collected faultless
      have so := Method.takenFrom_of_collect .start collected
      exact .inr ⟨plain, .inr ⟨_, tagged named, .inr ⟨methods, collected,
        (terminalFault?_eq_some_iff so).mpr ⟨sync, .inr ⟨async, rfl⟩⟩⟩⟩⟩

end Endpoint

theorem TagFault.location {belongs : Directive → Bool} {location : Location} {tag : String} {error : EndpointError}
    (fault : TagFault belongs location tag error) : error.location = location := by
  cases fault <;> rfl

theorem InterfaceMethod.Fault.location {interface : String} {alone : Bool} {before : List InterfaceMethod}
    {self : InterfaceMethod} {error : EndpointError} (fault : self.Fault interface alone before error) :
    error.location = ⟨interface, some self.name⟩ := by
  cases fault with
  | unclear unclear =>
    cases unclear with
    | tag fault =>
      obtain ⟨_, _, _, _, _, fault⟩ := fault
      exact fault.location
    | _ => rfl
  | signature => rfl
  | repeated _ _ repeats => cases repeats <;> rfl

theorem Interface.TagFault.location {interface tag : String} {before : List String} {error : EndpointError}
    (fault : TagFault interface before tag error) : error.location = ⟨interface, none⟩ := by
  cases fault with
  | unfit fault => exact fault.location
  | duplicate => rfl

namespace Interface.FirstViolation

variable {interface : Interface} {error : EndpointError}

theorem interface_eq (violated : interface.FirstViolation error) :
    error.location.interface = interface.name := by
  cases violated with
  | tag _ fault =>
    obtain ⟨_, _, _, _, _, fault⟩ := fault
    rw [fault.location]
  | method _ _ fault =>
    obtain ⟨_, _, _, _, _, fault⟩ := fault
    rw [fault.location]
  | _ => rfl

theorem of_method {name : String} (violated : interface.FirstViolation error)
    (named : error.location.method = some name) :
    interface.declaration.IsPlain ∧ (∃ method template, interface.NamesEndpoint method template) ∧
      FirstOf interface.MethodFault interface.methods error := by
  cases violated with
  | tag _ fault =>
    obtain ⟨_, _, _, _, _, fault⟩ := fault
    rw [fault.location] at named
    cases named
  | method plain endpoint fault => exact ⟨plain, ⟨_, _, endpoint⟩, fault⟩
  | _ => cases named

theorem reports (violated : interface.FirstViolation error) : error.Reports interface := by
  refine ⟨violated.interface_eq, error.location_prefix_message, fun name named => ?_⟩
  obtain ⟨plain, ⟨method, template, tag, single, read⟩, before, self, after, split, faultless, fault⟩ :=
    violated.of_method named
  have same : self.name = name := by
    rw [fault.location] at named
    exact Option.some.inj named
  refine ⟨before, self, after, split, same, faultless, fault, fun other agrees => ?_⟩
  have shaped : (Interface.ofTrait other).declaration.IsPlain :=
    Endpoint.isPlain_iff.mpr fun fault misshapen =>
      Endpoint.isPlain_iff.mp plain fault ((agrees.shape fault).mp misshapen)
  have alone : ((Interface.ofTrait other).methods.length == 1) = (interface.methods.length == 1) := by
    rw [Bool.eq_iff_iff, beq_iff_eq, beq_iff_eq, agrees.alone]
  obtain ⟨more, others⟩ := agrees.methods
  refine Endpoint.ofInterface_eq_error_iff.mpr (.method shaped ⟨tag, agrees.tags.trans single, read⟩
    ⟨before, self, more, by rw [← others, List.append_assoc, List.singleton_append], ?_, ?_⟩)
  · rwa [MethodFault, agrees.name, alone]
  · rwa [MethodFault, agrees.name, alone]

end Interface.FirstViolation

/-- A trait is refused exactly with its first violation. The error names the trait, and if it is about a
method then the first one at fault; every trait that is the same up to that method is refused alike. -/
theorem Endpoint.ofTrait_refused (declaration : TraitDeclaration) (error : EndpointError) :
    (ofInterface (.ofTrait declaration) = .error error ↔ (Interface.ofTrait declaration).FirstViolation error) ∧
      (ofInterface (.ofTrait declaration) = .error error → error.Reports (.ofTrait declaration)) :=
  ⟨ofInterface_eq_error_iff, fun failed => (ofInterface_eq_error_iff.mp failed).reports⟩

/-- A trait that sets its body twice, before a method with a tag that cannot be read. It has no terminal. -/
def twoBodiesTrait : TraitDeclaration where
  attributes := [Builder.documented "@POST(\"/photos\")"]
  visibility := .inherited
  isUnsafe := false
  isAuto := false
  name := "Upload"
  generics := .empty
  supertraits := .nil
  items := [setter "photo" "@BODY", setter "scan" "@BODY", setter "title" "@FORM"]
where
  setter (name tag : String) : TraitItem :=
    .method ⟨[Builder.documented tag],
      Builder.plainSignature name
        [.receiver ⟨[], none, false, none⟩,
          .parameter [] (.name false false "value" none) (.path (.ofName "Photo"))]
        (some selfTy), none⟩

/-- The second body is reported, and neither the tag after it nor the missing terminal. -/
theorem Endpoint.twoBodies_refused :
    (Interface.ofTrait twoBodiesTrait).FirstViolation (.duplicateBody "Upload" "scan") ∧
      EndpointError.Reports (.ofTrait twoBodiesTrait) (.duplicateBody "Upload" "scan") := by
  have failed : ofInterface (.ofTrait twoBodiesTrait) = .error (.duplicateBody "Upload" "scan") := by
    decide +kernel
  obtain ⟨violated, reports⟩ := ofTrait_refused twoBodiesTrait (.duplicateBody "Upload" "scan")
  exact ⟨violated.mp failed, reports failed⟩

end Endpoints
