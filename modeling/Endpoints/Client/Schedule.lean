import Endpoints.Client.Call

/-! Calls that run at the same time. They share the registry, which can change between any two steps. -/

namespace Endpoints

/-- A call under way. -/
structure Run where
  phase : Call.Phase
  /-- What was registered each time the call asked for a client. -/
  loads : List Registry
  told : List Event

namespace Run

def start : Run := ⟨.started, [], []⟩

/-- A call asks for a client twice: to build its request, and to send it. -/
def asksForClient : Call.Phase → Bool
  | .started | .ordered _ => true
  | .built _ | .loaded .. | .finished _ => false

def advance (call : Call) (run : Run) (registry : Registry) (network : Network) : Run where
  phase := call.step registry network run.phase
  loads := if asksForClient run.phase then run.loads ++ [registry] else run.loads
  told := run.told ++ Call.stepEvents registry network run.phase

end Run

/-- What can happen next: the registry changes, or a call takes a step. -/
inductive Move (ι : Type) where
  | register (client : Client)
  | unregister
  | advance (name : ι) (network : Network)

/-- The registry, and how far the calls are. -/
structure World (ι : Type) where
  registry : Registry
  runs : ι → Run

namespace World

variable {ι : Type} [DecidableEq ι]

def start (registry : Registry) : World ι := ⟨registry, fun _ => .start⟩

def move (calls : ι → Call) (world : World ι) : Move ι → World ι
  | .register client => { world with registry := some client }
  | .unregister => { world with registry := none }
  | .advance name network =>
    let run := (world.runs name).advance (calls name) world.registry network
    { world with runs := fun other => if other = name then run else world.runs other }

def after (calls : ι → Call) (world : World ι) (moves : List (Move ι)) : World ι :=
  moves.foldl (move calls) world

end World

end Endpoints
