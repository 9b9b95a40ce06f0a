import Endpoints.File.Path

/-! The command line: options, and the files and folders to generate for. Arguments are read in order, and
the first that asks for help, or that means nothing, settles what is done. -/

namespace Endpoints.Command

structure Options where
  inputs : List FilePath
  /-- The folder for all outputs, if they do not go beside their inputs. -/
  folder : Option FilePath
  runtime : String
  check : Bool
  deriving DecidableEq, Repr

/-- What a command line asks for. -/
inductive Request where
  | help
  | version
  | generate (options : Options)
  deriving DecidableEq, Repr

inductive Misuse where
  | unexpected (argument : String)
  | unexpectedValue (option : String)
  | missingValue (option : String)
  | repeated (option : String)
  | missingInputs
  deriving DecidableEq, Repr

def Misuse.message : Misuse → String
  | .unexpected argument => "unexpected argument '" ++ argument ++ "' found"
  | .unexpectedValue option => "unexpected value for '" ++ option ++ "' found; no more were expected"
  | .missingValue option => "a value is required for '" ++ option ++ "' but none was supplied"
  | .repeated option => "the argument '" ++ option ++ "' cannot be used multiple times"
  | .missingInputs => "the following required arguments were not provided:\n  <INPUTS>..."

def defaultRuntime : String := "::restgen::restclient"

/-- The options that take a value. -/
inductive Valued where
  | folder
  | runtime
  deriving DecidableEq, Repr

def Valued.usage : Valued → String
  | .folder => "--out-dir <OUT_DIR>"
  | .runtime => "--runtime <RUNTIME>"

/-- What arguments have given so far. The inputs stand in reverse order. -/
structure Given where
  inputs : List String
  folder : Option String
  runtime : Option String
  check : Bool

namespace Given

def start : Given := ⟨[], none, none, false⟩

/-- A path cannot be the empty text. -/
def addInput (given : Given) (path : String) : Except Misuse Given :=
  if path = "" then .error (.missingValue "<INPUTS>...")
  else .ok { given with inputs := path :: given.inputs }

def setValue (given : Given) (option : Valued) (value : String) : Except Misuse Given :=
  match option with
  | .folder =>
    if value = "" then .error (.missingValue option.usage)
    else if given.folder.isSome then .error (.repeated option.usage)
    else .ok { given with folder := some value }
  | .runtime =>
    if given.runtime.isSome then .error (.repeated option.usage)
    else .ok { given with runtime := some value }

def setCheck (given : Given) : Except Misuse Given :=
  if given.check then .error (.repeated "--check") else .ok { given with check := true }

def request (given : Given) : Except Misuse Request :=
  if given.inputs.isEmpty then .error .missingInputs
  else .ok (.generate {
    inputs := given.inputs.reverse.map .ofText
    folder := given.folder.map .ofText
    runtime := given.runtime.getD defaultRuntime
    check := given.check })

end Given

/-- What one argument comes to. -/
inductive Step where
  | next (given : Given)
  /-- The next argument is the value of an option. -/
  | await (option : Valued)
  | settled (request : Request)

/-- Whether an argument starts as an option does. A single hyphen is a name. -/
def isOption (argument : String) : Bool :=
  match argument.toList with
  | '-' :: _ :: _ => true
  | _ => false

def valuedStep (given : Given) (option : Valued) (value : Option String) : Except Misuse Step :=
  match value with
  | some value => (given.setValue option value).map .next
  | none => .ok (.await option)

def plainStep (name : String) (value : Option String) (step : Except Misuse Step) : Except Misuse Step :=
  match value with
  | some _ => .error (.unexpectedValue name)
  | none => step

def longStep (given : Given) (name : String) (value : Option String) : Except Misuse Step :=
  match name with
  | "out-dir" => valuedStep given .folder value
  | "runtime" => valuedStep given .runtime value
  | "check" => plainStep "--check" value (given.setCheck.map .next)
  | "help" => plainStep "--help" value (.ok (.settled .help))
  | "version" => plainStep "--version" value (.ok (.settled .version))
  | _ => .error (.unexpected ("--" ++ name))

/-- An option of one letter. The value of one that takes a value may follow at once. -/
def shortStep (given : Given) (letter : Char) (rest : List Char) : Except Misuse Step :=
  match letter, rest with
  | 'h', _ => .ok (.settled .help)
  | 'V', _ => .ok (.settled .version)
  | 'o', [] => .ok (.await .folder)
  | 'o', '=' :: value => valuedStep given .folder (some (String.ofList value))
  | 'o', value => valuedStep given .folder (some (String.ofList value))
  | _, _ => .error (.unexpected ("-" ++ letter.toString))

def step (given : Given) (argument : String) : Except Misuse Step :=
  match argument.toList with
  | '-' :: '-' :: text =>
    let (name, value) := text.span (· ≠ '=')
    longStep given (String.ofList name) (value.tail?.map String.ofList)
  | '-' :: letter :: rest => shortStep given letter rest
  | _ => (given.addInput argument).map .next

/-- Reads arguments. All that follow `--` are inputs. -/
def readFrom (given : Given) : List String → Except Misuse Request
  | [] => given.request
  | "--" :: rest => rest.foldlM Given.addInput given >>= Given.request
  | argument :: rest =>
    match step given argument with
    | .error misuse => .error misuse
    | .ok (.settled request) => .ok request
    | .ok (.next given) => readFrom given rest
    | .ok (.await option) =>
      match rest with
      | [] => .error (.missingValue option.usage)
      | value :: rest =>
        if isOption value then .error (.missingValue option.usage)
        else match given.setValue option value with
          | .error misuse => .error misuse
          | .ok given => readFrom given rest

def read (arguments : List String) : Except Misuse Request := readFrom .start arguments

end Endpoints.Command
