import Endpoints.Client.Background
import Endpoints.Proofs.ClientSharing

/-! What callbacks are told about calls in the background, whatever else runs at the same time. The order
of notifications is a matter of one call alone; other calls show only through the registry. -/

namespace Endpoints

namespace Run

variable {call : Call}

theorem through_append (run : Run) (first second : List (Registry × Network)) :
    run.through call (first ++ second) = (run.through call first).through call second :=
  List.foldl_append

theorem advance_of_finished {run : Run} {outcome : Except CallError CallResult}
    (ended : run.phase = .finished outcome) (registry : Registry) (network : Network) :
    run.advance call registry network = run := by
  obtain ⟨phase, loads, told⟩ := run
  cases ended
  simp [advance, Call.step, Call.stepEvents, asksForClient]

theorem through_of_finished {run : Run} {outcome : Except CallError CallResult}
    (ended : run.phase = .finished outcome) (seen : List (Registry × Network)) :
    run.through call seen = run := by
  induction seen with
  | nil => rfl
  | cons sighting rest ih =>
    change (run.advance call sighting.1 sighting.2).through call rest = run
    rw [advance_of_finished ended]
    exact ih

end Run

namespace Background

variable {call : Call}

/-- Takes a call in the background on through what its steps find. -/
def through (call : Call) (background : Background) (seen : List (Registry × Network)) : Background :=
  seen.foldl (fun background (registry, network) => background.advance call registry network) background

/-- How a call in the background stands after the steps that have seen so much. Its thread runs the call
through what it sees, which excludes what the two steps of the caller see. -/
inductive Stands (call : Call) : List (Registry × Network) → Background → Prop where
  | idle : Stands call [] ⟨.idle, []⟩
  | announced (first : Registry × Network) : Stands call [first] ⟨.announced, [(.caller, .start)]⟩
  | running (first second : Registry × Network) (seen : List (Registry × Network)) :
    Stands call (first :: second :: seen) ⟨.running (Run.start.through call seen), [(.caller, .start)]⟩
  | finished (first second : Registry × Network) (seen : List (Registry × Network))
    {outcome : Except CallError CallResult}
    (ended : (Run.start.through call seen).phase = .finished outcome) :
    Stands call (first :: second :: seen)
      ⟨.finished (Run.start.through call seen), [(.caller, .start), (.thread, .ofEnd outcome)]⟩

theorem advance_running {run : Run} {received : List (Party × Notification)} (registry : Registry)
    (network : Network) (goesOn : ∀ outcome, run.phase ≠ .finished outcome) :
    (⟨.running run, received⟩ : Background).advance call registry network =
      ⟨.running (run.advance call registry network), received⟩ := by
  unfold advance
  split
  · next same => cases same
  · next same => cases same
  · next same =>
    cases same
    split
    · next outcome ended => exact absurd ended (goesOn outcome)
    · rfl
  · next same => cases same

theorem advance_ended {run : Run} {outcome : Except CallError CallResult}
    {received : List (Party × Notification)} (registry : Registry) (network : Network)
    (ended : run.phase = .finished outcome) :
    (⟨.running run, received⟩ : Background).advance call registry network =
      ⟨.finished run, received ++ [(.thread, .ofEnd outcome)]⟩ := by
  simp [advance, ended]

theorem Stands.advance {seen : List (Registry × Network)} {background : Background}
    (stands : background.Stands call seen) (registry : Registry) (network : Network) :
    (background.advance call registry network).Stands call (seen ++ [(registry, network)]) := by
  cases stands with
  | idle => exact .announced _
  | announced first => exact .running first _ []
  | running first second seen =>
    by_cases ended : ∃ outcome, (Run.start.through call seen).phase = .finished outcome
    · obtain ⟨outcome, ended⟩ := ended
      -- The step that tells the outcome is none of the run, which stays as it is.
      have same : Run.start.through call (seen ++ [(registry, network)]) = Run.start.through call seen := by
        rw [Run.through_append, Run.through_of_finished ended]
      rw [advance_ended registry network ended, ← same]
      exact .finished first second _ (ended.symm ▸ congrArg Run.phase same)
    · rw [advance_running registry network fun outcome same => ended ⟨outcome, same⟩]
      have next : (Run.start.through call seen).advance call registry network =
          Run.start.through call (seen ++ [(registry, network)]) := by
        rw [Run.through_append]
        rfl
      rw [next]
      exact .running first second _
  | finished first second seen ended =>
    have same : Run.start.through call (seen ++ [(registry, network)]) = Run.start.through call seen := by
      rw [Run.through_append, Run.through_of_finished ended]
    have stays : (⟨.finished (Run.start.through call (seen ++ [(registry, network)])), _⟩ : Background).Stands call
        (first :: second :: (seen ++ [(registry, network)])) :=
      .finished first second _ (ended.symm ▸ congrArg Run.phase same)
    rw [same] at stays
    exact stays

theorem Stands.through {seen : List (Registry × Network)} {background : Background}
    (stands : background.Stands call seen) (more : List (Registry × Network)) :
    (background.through call more).Stands call (seen ++ more) := by
  induction more generalizing seen background with
  | nil => simpa [Background.through] using stands
  | cons sighting rest ih =>
    have further := ih (stands.advance sighting.1 sighting.2)
    rw [List.append_assoc] at further
    exact further

end Background

namespace Activity

variable {ι : Type} [DecidableEq ι] {calls : ι → Call}

end Activity

end Endpoints
