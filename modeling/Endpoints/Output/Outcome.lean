import Endpoints.Builder.Generate
import Endpoints.Event
import Endpoints.File.Walk

/-! What becomes of the inputs of a generator. -/

namespace Endpoints

inductive Outcome where
  /-- The input has no tagged interface. -/
  | skipped
  /-- The output holds what would be written. -/
  | unchanged (output : FilePath)
  | written (output : FilePath)
  /-- The output does not hold what would be written, and nothing was to be written. -/
  | stale (output : FilePath)
  deriving DecidableEq, Repr

/-- The event that tells of an outcome. -/
def Outcome.event? (input : FilePath) : Outcome → Option Event
  | .skipped => some ⟨.debug, "no annotated traits", [("input", input.text)]⟩
  | .written output => some ⟨.info, "generated", [("input", input.text), ("output", output.text)]⟩
  | .unchanged _ => none
  | .stale _ => none

/-- Why there is no outcome. -/
inductive Failure where
  | generation (error : GenerationError)
  | access (path : FilePath) (fault : FileFault)
  | search (start : FilePath) (fault : WalkFault)
  deriving DecidableEq, Repr

/-- What a failure says, and then what is behind it. -/
def Failure.messages : Failure → List String
  | .generation (.unreadable error) => [GenerationError.message (.unreadable error), error.message]
  | .generation error => [error.message]
  | .access path fault => [onPath path fault.message, fault.message]
  | .search start fault =>
    let behind := fault.messages start
    onPath (start.joinAll fault.place) (behind.headD "") :: behind
where
  onPath (path : FilePath) (reason : String) : String := "IO error on " ++ path.text ++ ": " ++ reason

def Failure.message (failure : Failure) : String := failure.messages.headD ""

end Endpoints
