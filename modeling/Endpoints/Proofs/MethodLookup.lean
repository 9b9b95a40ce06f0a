import Endpoints.Builder.Items
import Endpoints.Endpoint.Build

/-! What a call of a method means. A method is looked for by the type of its receiver: from the type of
the value outward to its references, then from what it refers to. At one type the routines of the builder
come before the methods of an interface. -/

namespace Endpoints

/-- A type as it is seen from a builder: that of the builder, or a reference. -/
inductive SelfView where
  | builder
  | reference (mutable : Bool) (target : SelfView)
  deriving DecidableEq, Repr

namespace SelfView

/-- What a shared reference to the builder sees. -/
def shared : SelfView := .reference false .builder

def reached : SelfView → List SelfView
  | .builder => [.builder]
  | .reference mutable target => .reference mutable target :: target.reached

def candidates (view : SelfView) : List SelfView :=
  view.reached.flatMap fun type => [type, .reference false type, .reference true type]

/-- The types of receivers that are tried before a shared reference to the builder. -/
def preferred (view : SelfView) : List SelfView := view.candidates.takeWhile (· ≠ shared)

end SelfView

/-- The type of the value in a method with a receiver of a kind. -/
def ReceiverKind.view : ReceiverKind → SelfView
  | .owned => .builder
  | .reference => .reference false .builder
  | .mutableReference => .reference true .builder

/-- What a call means: a routine of the builder, or a method of the interface. -/
inductive Callee where
  | routine (signature : Signature)
  | method (signature : Signature)

section
variable (resolve : Ty → Option SelfView)

/-- The type of the receiver. One that is written out stands for what its name resolves to. -/
def Signature.view? (signature : Signature) : Option SelfView :=
  signature.receiver?.bind fun receiver =>
    match receiver.type, receiver.reference with
    | some type, _ => resolve type
    | none, none => some .builder
    | none, some _ => some (.reference receiver.mutable .builder)

/-- Whether a function has a name and a receiver of a type. -/
def Signature.answers (name : String) (view : SelfView) (signature : Signature) : Bool :=
  Endpoint.bareName signature.name == name && signature.view? resolve == some view

def calleeAt? (routines methods : List Signature) (name : String) (view : SelfView) : Option Callee :=
  ((routines.find? (·.answers resolve name view)).map .routine).or
    ((methods.find? (·.answers resolve name view)).map .method)

def callee? (routines methods : List Signature) (name : String) (view : SelfView) : Option Callee :=
  view.candidates.findSome? (calleeAt? resolve routines methods name)

end

/-- The only routine of a name, for which a shared reference is enough. -/
structure Signature.IsSoleRoutine (resolve : Ty → Option SelfView) (routines : List Signature)
    (name : String) (routine : Signature) : Prop where
  shared : routine.view? resolve = some .shared
  only : routines.filter (Endpoint.bareName ·.name == name) = [routine]

section
variable {resolve : Ty → Option SelfView} {routines methods : List Signature} {routine : Signature}
  {name : String} (sole : routine.IsSoleRoutine resolve routines name)
include sole

theorem Signature.IsSoleRoutine.find?_eq (view : SelfView) :
    routines.find? (·.answers resolve name view) = if view = .shared then some routine else none := by
  have named : routines.find? (·.answers resolve name view) =
      (routines.filter (Endpoint.bareName ·.name == name)).find? (·.view? resolve == some view) := by
    rw [List.find?_filter]
    refine congrArg (routines.find? ·) (funext fun _ => ?_)
    rw [Bool.eq_iff_iff]
    simp [Signature.answers]
  rw [named, sole.only, List.find?_singleton, sole.shared]
  by_cases same : view = .shared
  · simp [same]
  · simp [same, Ne.symm same]

theorem calleeAt?_shared : calleeAt? resolve routines methods name .shared = some (.routine routine) := by
  simp [calleeAt?, sole.find?_eq]

theorem calleeAt?_of_ne {view : SelfView} (other : view ≠ .shared) :
    calleeAt? resolve routines methods name view =
      (methods.find? (·.answers resolve name view)).map .method := by
  simp [calleeAt?, sole.find?_eq, other]

theorem callee?_eq_routine_iff {view : SelfView} (reaches : .shared ∈ view.candidates) :
    callee? resolve routines methods name view = some (.routine routine) ↔
      ∀ method ∈ methods, Endpoint.bareName method.name = name →
        ∀ earlier ∈ view.preferred, method.view? resolve ≠ some earlier := by
  obtain ⟨before, after, order, first⟩ := List.eq_append_cons_of_mem reaches
  have different : ∀ earlier ∈ before, earlier ≠ .shared := fun earlier among same => first (same ▸ among)
  have preferred : view.preferred = before := by
    rw [SelfView.preferred, order, List.takeWhile_append_of_pos (by simpa using different)]
    simp
  have found : callee? resolve routines methods name view =
      (before.findSome? (calleeAt? resolve routines methods name)).or (some (.routine routine)) := by
    rw [callee?, order, List.findSome?_append, List.findSome?_cons, calleeAt?_shared sole]
  have none_iff : before.findSome? (calleeAt? resolve routines methods name) = none ↔
      ∀ method ∈ methods, Endpoint.bareName method.name = name →
        ∀ earlier ∈ before, method.view? resolve ≠ some earlier := by
    rw [List.findSome?_eq_none_iff]
    constructor
    · intro missing method among named earlier inside same
      have none := missing earlier inside
      rw [calleeAt?_of_ne sole (different earlier inside), Option.map_eq_none_iff, List.find?_eq_none] at none
      exact none method among (by simp [Signature.answers, named, same])
    · intro apart earlier inside
      rw [calleeAt?_of_ne sole (different earlier inside), Option.map_eq_none_iff, List.find?_eq_none]
      intro method among answers
      simp only [Signature.answers, Bool.and_eq_true, beq_iff_eq] at answers
      exact apart method among answers.1 earlier inside answers.2
  rw [preferred, found, ← none_iff]
  cases ahead : before.findSome? (calleeAt? resolve routines methods name) with
  | none => simp
  | some callee =>
    obtain ⟨earlier, inside, same⟩ := List.exists_of_findSome?_eq_some ahead
    rw [calleeAt?_of_ne sole (different earlier inside), Option.map_eq_some_iff] at same
    obtain ⟨_, _, rfl⟩ := same
    simp

end

end Endpoints
