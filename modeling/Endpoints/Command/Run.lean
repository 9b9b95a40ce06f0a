import Endpoints.Command.Usage
import Endpoints.Output.Generate

/-! Running the command on the files of a disk. -/

namespace Endpoints.Command

/-- What a run leaves behind apart from files. -/
structure Report where
  exitCode : Nat
  output : String
  errors : String
  deriving DecidableEq, Repr

/-- Lines that each start with a margin. The first one starts with a number if there are several texts. -/
def indented (number : Option Nat) (text : String) : String :=
  let lines := (Text.splitAt (· == '\n') text.toList).map String.ofList
  match number with
  | none => "    " ++ "\n    ".intercalate lines
  | some number =>
    let digits := toString number
    String.ofList (List.replicate (5 - digits.length) ' ') ++ digits ++ ": "
      ++ "\n       ".intercalate lines

/-- What was to be done, and why it was not. -/
def complaint (context : String) (causes : List String) : String :=
  let shown := match causes with
    | [] => []
    | [cause] => [indented none cause]
    | several => several.mapIdx fun number cause => indented (some number) cause
  let reasons := if shown.isEmpty then "" else "\n\nCaused by:\n" ++ "\n".intercalate shown
  "Error: " ++ context ++ reasons ++ "\n"

/-- The exit code of a run that fails. Code that cannot be generated at all is a fault of the command. -/
def exitCode : Failure → Nat
  | .generation (.constructorName _) => 101
  | .generation (.noLayout _) => 101
  | _ => 1

/-- The report of a run that fails after it has told of the outputs it wrote. -/
def failed (output context : String) (failure : Failure) : Report :=
  ⟨exitCode failure, output, complaint context failure.messages⟩

/-- What a run has to tell so far: of the outputs that were written, and of those that are out of date. -/
structure Progress where
  written : List FilePath
  stale : List FilePath
  deriving DecidableEq, Repr

namespace Progress

def start : Progress := ⟨[], []⟩

def record (progress : Progress) : Outcome → Progress
  | .written output => { progress with written := progress.written ++ [output] }
  | .stale output => { progress with stale := progress.stale ++ [output] }
  | .unchanged _ => progress
  | .skipped => progress

def output (progress : Progress) : String :=
  String.join (progress.written.map fun output => "generated " ++ output.text ++ "\n")

def report (progress : Progress) : Report :=
  if progress.stale.isEmpty then ⟨0, progress.output, ""⟩
  else
    let outOfDate := progress.stale.map fun output => "out of date: " ++ output.text ++ "\n"
    ⟨1, progress.output, String.join outOfDate
      ++ complaint (toString progress.stale.length ++ " generated file(s) out of date") []⟩

end Progress

variable {m : Type → Type} [Monad m] (disk : Disk m)

def processAll (runtime : Path) (options : Options) (progress : Progress) : List FilePath → m Report
  | [] => return progress.report
  | input :: rest => do
    match ← (Output.process disk runtime options.folder options.check input).run with
    | .error failure =>
      return failed progress.output ("Failed to generate builders for " ++ input.text) failure
    | .ok outcome => processAll runtime options (progress.record outcome) rest

def generate (options : Options) : m Report := do
  match runtimeOf options.runtime with
  | .error error =>
    return failed "" ("Invalid runtime path `" ++ options.runtime ++ "`") (.generation error)
  | .ok runtime =>
    match ← (Output.collect disk options.inputs).run with
    | .error failure => return failed "" "Failed to collect input files" failure
    | .ok inputs => processAll disk runtime options .start inputs

def run (arguments : List String) : m Report :=
  match read arguments with
  | .error misuse => return ⟨2, "", misuse.text⟩
  | .ok .help => return ⟨0, helpText, ""⟩
  | .ok .version => return ⟨0, versionText, ""⟩
  | .ok (.generate options) => generate disk options

end Endpoints.Command
