import Endpoints.Client.Schedule
import Endpoints.Proofs.RequestAssembly

/-! Which clients a call uses while other calls run and the registry changes. A call reads the registry
twice, and only the interleaving decides whether it finds the same client both times. -/

namespace Endpoints

/-- How a run of a call can stand: what it sends is built for the first client that it loads, and is
shown and sent by the second. -/
inductive Call.Reached (call : Call) : Run → Prop where
  | started : Reached call .start
  | refused {registry : Registry} {error : CallError}
      (failed : call.draft.build call.endpoint registry call.boundary = .error error) :
      Reached call ⟨.finished (.error error), [registry], []⟩
  | built {client : Client} {request : Request}
      (made : call.draft.build call.endpoint (some client) call.boundary = .ok request) :
      Reached call ⟨.built request, [some client], []⟩
  | ordered {client : Client} {request : Request}
      (made : call.draft.build call.endpoint (some client) call.boundary = .ok request) :
      Reached call ⟨.ordered request.reencodeQuery, [some client], []⟩
  | stranded {client : Client} {request : Request}
      (made : call.draft.build call.endpoint (some client) call.boundary = .ok request) :
      Reached call ⟨.finished (.error .unregistered), [some client, none], []⟩
  | loaded {client : Client} {request : Request} (sender : Client)
      (made : call.draft.build call.endpoint (some client) call.boundary = .ok request) :
      Reached call ⟨.loaded sender request.reencodeQuery, [some client, some sender],
        sender.report request.reencodeQuery.event⟩
  | answered {client : Client} {request : Request} (sender : Client) (network : Network)
      (made : call.draft.build call.endpoint (some client) call.boundary = .ok request) :
      Reached call ⟨.finished (call.readAnswer (sender.send network request.reencodeQuery)),
        [some client, some sender], sender.report request.reencodeQuery.event ++
          sender.reportAnswer (sender.send network request.reencodeQuery)⟩

theorem Call.Reached.advance {call : Call} {run : Run} (reached : call.Reached run)
    (registry : Registry) (network : Network) : call.Reached (run.advance call registry network) := by
  cases reached with
  | started =>
    cases made : call.draft.build call.endpoint registry call.boundary with
    | error error => simpa [Run.advance, Run.start, Call.step, made] using .refused made
    | ok request =>
      cases registry with
      | none => cases made
      | some client => simpa [Run.advance, Run.start, Call.step, made] using .built made
  | refused failed => exact .refused failed
  | built made => exact .ordered made
  | ordered made =>
    cases registry with
    | none => exact .stranded made
    | some sender => exact .loaded sender made
  | stranded made => exact .stranded made
  | loaded sender made => exact .answered sender network made
  | answered sender network made =>
    simpa [Run.advance, Call.step, Call.stepEvents, Run.asksForClient] using .answered sender network made

namespace Run

/-- Every load of the run finds the client that the first one has found. -/
def KeepsClient (run : Run) : Prop :=
  ∀ client, run.loads.head? = some (some client) → ∀ load ∈ run.loads, load = some client

/-- The run asks for no client any more. -/
def HasAsked (run : Run) : Prop :=
  match run.phase with
  | .loaded .. | .finished _ => True
  | .started | .built _ | .ordered _ => False

/-- Takes a run on through what its steps find. -/
def through (call : Call) (run : Run) (seen : List (Registry × Network)) : Run :=
  seen.foldl (fun run (registry, network) => run.advance call registry network) run

variable {call : Call}

theorem HasAsked.advance {run : Run} (asked : run.HasAsked) (registry : Registry) (network : Network) :
    (run.advance call registry network).HasAsked ∧ (run.advance call registry network).loads = run.loads := by
  obtain ⟨phase, loads, told⟩ := run
  cases phase with
  | started | built _ | ordered _ => exact asked.elim
  | loaded client request => exact ⟨trivial, rfl⟩
  | finished outcome => exact ⟨trivial, rfl⟩

theorem HasAsked.through {run : Run} (asked : run.HasAsked) (seen : List (Registry × Network)) :
    (run.through call seen).loads = run.loads := by
  induction seen generalizing run with
  | nil => rfl
  | cons sighting rest ih =>
    obtain ⟨still, same⟩ : (run.advance call sighting.1 sighting.2).HasAsked ∧ _ := asked.advance _ _
    exact (ih still).trans same

/-- A run loads a client at its first step and, if a request is built, at its third. -/
theorem loads_through (seen : List (Registry × Network)) :
    (start.through call seen).loads =
      match seen with
      | [] => []
      | [first] | [first, _] => [first.1]
      | first :: _ :: third :: _ =>
        match call.draft.build call.endpoint first.1 call.boundary with
        | .ok _ => [first.1, third.1]
        | .error _ => [first.1] := by
  match seen with
  | [] => rfl
  | [first] => rfl
  | [first, second] =>
    cases made : call.draft.build call.endpoint first.1 call.boundary <;>
      simp [through, advance, start, Call.step, made, asksForClient]
  | first :: second :: third :: rest =>
    -- After its third step a run has asked for all the clients that it ever asks for.
    have split : start.through call (first :: second :: third :: rest) =
        (start.through call [first, second, third]).through call rest := rfl
    have asked : (start.through call [first, second, third]).HasAsked := by
      cases made : call.draft.build call.endpoint first.1 call.boundary <;>
        cases found : third.1 <;> simp [through, advance, start, Call.step, made, found, HasAsked]
    rw [split, asked.through]
    cases made : call.draft.build call.endpoint first.1 call.boundary <;>
      simp [through, advance, start, Call.step, made, asksForClient]

end Run

/-- Where a request is built for a client, the same client is registered two steps later. -/
def Call.FindsClientAgain (call : Call) (seen : List (Registry × Network)) : Prop :=
  ∀ client request first second third rest,
    seen = (some client, first) :: second :: third :: rest →
      call.draft.build call.endpoint (some client) call.boundary = .ok request → third.1 = some client

theorem Run.keepsClient_through_iff {call : Call} {seen : List (Registry × Network)} :
    (start.through call seen).KeepsClient ↔ call.FindsClientAgain seen := by
  unfold KeepsClient
  rw [loads_through]
  constructor
  · rintro keeps client request first second third rest rfl made
    simp only [made] at keeps
    exact keeps client rfl third.1 (by simp)
  · intro again client found load member
    match seen with
    | [] => cases found
    | [first] | [first, _] => simp_all
    | (registry, first) :: second :: third :: rest =>
      cases made : call.draft.build call.endpoint registry call.boundary with
      | error error => simp_all
      | ok request =>
        obtain rfl : registry = some client := by simpa [made] using found
        have same := again client request first second third rest rfl made
        simp_all

section
variable {ι : Type} [DecidableEq ι]

/-- What the steps of one run find: the registry, and what answers requests. -/
def sightings (name : ι) : Registry → List (Move ι) → List (Registry × Network)
  | _, [] => []
  | _, .register client :: rest => sightings name (some client) rest
  | _, .unregister :: rest => sightings name none rest
  | registry, .advance other network :: rest =>
    if name = other then (registry, network) :: sightings name registry rest
    else sightings name registry rest

namespace World

variable {calls : ι → Call}

/-- The steps of others show in a run through the registry alone. -/
theorem runs_after (name : ι) (world : World ι) (moves : List (Move ι)) :
    (world.after calls moves).runs name =
      (world.runs name).through (calls name) (sightings name world.registry moves) := by
  induction moves generalizing world with
  | nil => rfl
  | cons move rest ih =>
    have next : (world.after calls (move :: rest)).runs name =
        ((world.move calls move).after calls rest).runs name := rfl
    rw [next, ih]
    cases move with
    | register client => rfl
    | unregister => rfl
    | advance other network =>
      by_cases own : name = other
      · subst own
        simp [World.move, sightings, Run.through]
      · simp [World.move, sightings, own]

theorem reached_after {name : ι} {world : World ι} (reached : (calls name).Reached (world.runs name))
    (moves : List (Move ι)) : (calls name).Reached ((world.after calls moves).runs name) := by
  rw [runs_after]
  generalize sightings name world.registry moves = seen
  generalize world.runs name = run at reached
  induction seen generalizing run with
  | nil => exact reached
  | cons sighting rest ih => exact ih _ (reached.advance sighting.1 sighting.2)

/-- What a run of any interleaving can be, and which interleavings let it use one client throughout. -/
theorem run_keepsClient_iff (calls : ι → Call) (registry : Registry) (moves : List (Move ι)) (name : ι) :
    (calls name).Reached (((start registry).after calls moves).runs name) ∧
      ((((start registry).after calls moves).runs name).KeepsClient ↔
        (calls name).FindsClientAgain (sightings name registry moves)) := by
  refine ⟨reached_after .started moves, ?_⟩
  rw [runs_after]
  exact Run.keepsClient_through_iff

end World

end

/-- A client that is replaced between the loads of a run sends what is built for the client before it,
and a run that has built its request can find no client to send it. -/
theorem World.replaced_client_sends_request :
    let calls : Unit → Call := fun _ => ⟨photoEndpoint, .empty, "", .text⟩
    let step : Move Unit := .advance () .silent
    let replaced := (World.start (some (localClient 8080))).after calls
      [step, step, .register (localClient 9090), step]
    let removed := (World.start (some (localClient 8080))).after calls [step, step, .unregister, step]
    (replaced.runs ()).loads = [some (localClient 8080), some (localClient 9090)] ∧
      ¬ (replaced.runs ()).KeepsClient ∧
      (removed.runs ()).loads = [some (localClient 8080), none] ∧
      (removed.runs ()).phase = .finished (.error .unregistered) := by
  intro calls step replaced removed
  obtain ⟨request, made, _⟩ := Checks.exists_ok_of_toOption
    (Draft.empty.build photoEndpoint (some (localClient 8080)) "") (fun _ => True) (by decide +kernel)
  have mixed : (replaced.runs ()).loads = [some (localClient 8080), some (localClient 9090)] := by
    rw [World.runs_after]
    refine (Run.loads_through _).trans ?_
    simp [sightings, step, World.start, calls, made]
  refine ⟨mixed, fun keeps => ?_, ?_, ?_⟩
  · have same := keeps (localClient 8080) (by rw [mixed]; rfl) (some (localClient 9090)) (by simp [mixed])
    exact absurd same (by decide)
  · rw [World.runs_after]
    refine (Run.loads_through _).trans ?_
    simp [sightings, step, World.start, calls, made]
  · rw [World.runs_after]
    simp [sightings, step, World.start, calls, Run.through, Run.advance, Run.start, Call.step, made]

end Endpoints
