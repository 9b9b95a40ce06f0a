import Endpoints.Client.Schedule

/-! Calls in the background. The caller tells a callback of the start and then starts a thread, which runs
the call and tells the callback how it ended. -/

namespace Endpoints

/-- Who tells a callback something. -/
inductive Party where
  | caller
  | thread
  deriving DecidableEq, Repr

/-- What a callback is told when a call has ended. -/
def Notification.ofEnd : Except CallError CallResult → Notification
  | .ok value => .success value
  | .error fault => .error fault.message

/-- How far a call in the background is. -/
inductive Background.Stage where
  | idle
  /-- The callback knows of the start, and there is no thread yet. -/
  | announced
  | running (run : Run)
  /-- The thread has told the outcome of its run, and is finished. -/
  | finished (run : Run)

structure Background where
  stage : Background.Stage
  /-- What the callback has been told, and by whom. -/
  received : List (Party × Notification)

namespace Background

def start : Background := ⟨.idle, []⟩

/-- Takes a call in the background one step on: the caller takes the first two, and the thread all
others. -/
def advance (call : Call) (background : Background) (registry : Registry) (network : Network) : Background :=
  match background.stage with
  | .idle => ⟨.announced, background.received ++ [(.caller, .start)]⟩
  | .announced => { background with stage := .running .start }
  | .running run =>
    match run.phase with
    | .finished outcome => ⟨.finished run, background.received ++ [(.thread, .ofEnd outcome)]⟩
    | _ => { background with stage := .running (run.advance call registry network) }
  | .finished _ => background

end Background

/-- The registry, and how far the calls in the background are. -/
structure Activity (ι : Type) where
  registry : Registry
  backgrounds : ι → Background

namespace Activity

variable {ι : Type} [DecidableEq ι]

def start (registry : Registry) : Activity ι := ⟨registry, fun _ => .start⟩

def move (calls : ι → Call) (activity : Activity ι) : Move ι → Activity ι
  | .register client => { activity with registry := some client }
  | .unregister => { activity with registry := none }
  | .advance name network =>
    let background := (activity.backgrounds name).advance (calls name) activity.registry network
    { activity with
      backgrounds := fun other => if other = name then background else activity.backgrounds other }

def after (calls : ι → Call) (activity : Activity ι) (moves : List (Move ι)) : Activity ι :=
  moves.foldl (move calls) activity

end Activity

end Endpoints
