import Workflow.Action.Surroundings
import Workflow.CommandLine.Terminal
import Workflow.Engine
import Workflow.Flow.Document
import Workflow.Flow.Export
import Workflow.Settings

/-!
# The command line

`validate` tells what is wrong with the flow in a file, `run` runs it and prints its steps, and `export`
writes it as a document without ids; `serve` announces the service. `CommandLine.perform` does what words ask for and gives what is
printed, the exit code, and the files afterwards.
-/
namespace Workflow.CommandLine

open Commanding

/-- The steps of commands among the surroundings of actions. -/
abbrev Acting (α : Type) := Commanding Surroundings α

/-- Whether the text of a path can only name a directory. -/
def namesDirectory (path : String) : Bool := path.endsWith "/" || path.endsWith "/."

/-- Whether something stands at a path, and if so whether it is a directory. -/
def directoryAt? (files : FileTree) (path : String) : Outcome (Option Bool) :=
  match Failure.ofPath? path with
  | some f => .error f
  | none =>
    if path == "" then .ok none
    else if files.isDirectory (.ofText path) then .ok (some true)
    else if namesDirectory path then .ok none
    else
      match files.read (.ofText path) with
      | .ok _ => .ok (some false)
      | .error _ => .ok none

/-- Reads the flow in a file. -/
def load (path : String) : Acting FlowGraph := do
  let t ← get
  match ← draw (Document.parseFile t.world.surroundings.files (.ofText path) "" t.world.now) with
  | .ok g => return g
  | .error f => if f.kind = .parse then refuse f.message else throw (.failure f)

/-- Prints what is wrong with a flow. -/
def complainOf (reports : List Report) : Acting Unit :=
  reports.forM fun r =>
    let place :=
      match r.node with
      | some id => if id == "" then "" else " [" ++ id ++ "]"
      | none => ""
    complain ("  - " ++ r.message ++ place)

def validate (path : String) : Acting Unit := do
  let g ← load path
  let reports ← ofOutcome g.reports
  let name ← ofOutcome g.flow.name.plain
  if reports.isEmpty then echo ("Flow \"" ++ name ++ "\" is valid")
  else
    complain ("Flow \"" ++ name ++ "\" has " ++ toString reports.length ++ " error(s):")
    complainOf reports
    exit refusedCode

/-- The payload that a text gives. -/
def readPayload (text : Option String) : Acting Value :=
  match text.map Json.read with
  | none => return .null
  | some (.ok v) => return v
  | some (.error .malformed) => misuse (.command .run) .malformedPayload
  | some (.error (.longInteger n)) => throw (.failure (.longNumeral n))
  | some (.error .tooDeep) => throw (.failure ⟨.recursion, "maximum recursion depth exceeded"⟩)

/-- The columns for the status of a step. -/
def statusWidth : Nat := 7

def statusColumn (s : StepStatus) : String :=
  String.ofList (List.replicate (statusWidth - s.name.length) ' ') ++ s.name

/-- The name of a node in a list of steps; of several with one id the last is shown. -/
def stepLabel (g : FlowGraph) (node : String) : Value :=
  match g.nodes.reverse.find? (·.id == node) with
  | some n => n.displayName
  | none => .text node

/-- Prints a step: how it ended, and what came out. -/
def showStep (g : FlowGraph) (s : Step) : Acting Unit := do
  let label ← ofOutcome (stepLabel g s.node).plain
  let duration := (s.duration.map fun ms => " (" ++ toString ms ++ "ms)").getD ""
  echo ("[" ++ statusColumn s.status ++ "] " ++ label ++ duration)
  let output := s.output.getD ""
  if output != "" && s.status != .skipped then echo ("          output: " ++ output)
  let error := s.error.getD ""
  if error != "" then echo ("          error: " ++ error)

/-- What the run of a flow gives: the execution, and its steps. -/
def runToEnd (settings : Settings) (g : FlowGraph) (payload : Value) :
    Acting (Except Refusal (Execution × List Step)) := do
  let t ← get
  let start : Engine Surroundings := {
    actions := Surroundings.builtin settings.shellTimeLimit settings.httpTimeLimit
      settings.userDataDirectory
    world := t.world }
  let (saved, e) := start.inWorld (World.onStore (Store.saveGraph g t.world.now))
  discard (ofOutcome saved)
  let (started, e) := Engine.finishRun (Engine.run g.flow.id "manual" payload e)
  set { t with world := e.world }
  match started with
  | .error r => return .error r
  | .ok id =>
    let (ended, e) := e.waitFor id
    return .ok (← ofOutcome ended, e.world.store.stepsOf id)

def run (settings : Settings) (path : String) (payload : Option String) : Acting Unit := do
  let g ← load path
  let payload ← readPayload payload
  match ← runToEnd settings g payload with
  | .error (.failure f) => throw (.failure f)
  | .error (.invalid reports) =>
    complain "Flow is invalid:"
    complainOf reports
    exit refusedCode
  | .ok (execution, steps) =>
    steps.forM (showStep g)
    echo ("Execution " ++ execution.id ++ ": " ++ execution.status.name)
    let error := execution.error.getD ""
    if error != "" then complain ("Error: " ++ error)
    if execution.status != .success then exit refusedCode

/-- Writes a text to the file at a path. -/
def writeText (path text : String) : Acting Unit := do
  let t ← get
  let files := t.world.surroundings.files
  let place :=
    if path.endsWith "/" then .error .isDirectory else files.newPlace FileTree.linkLimit (.ofText path)
  match place with
  | .error fault => throw (.failure (fault.toFailure path))
  | .ok parts =>
    let fault := Failure.ofHalves? text
    let files := files.write parts (if fault.isSome then [] else Text.encodeUtf8 text.toList)
    set { t with world := { t.world with surroundings := { t.world.surroundings with files } } }
    fault.forM fun f => throw (.failure f)

def convert (path : String) (output : Option String) : Acting Unit := do
  let g ← load path
  let document ← ofOutcome g.exportText
  match output.getD "" with
  | "" => echo document
  | output =>
    writeText output (document ++ "\n")
    echo ("Exported to " ++ output)

/-- Checks the file of an option, if it is given: a directory is none. -/
def checkOutput (c : Command) (output : Option String) : Acting Unit := do
  let files := (← get).world.surroundings.files
  match output with
  | none => pure ()
  | some path =>
    match ← ofOutcome (directoryAt? files path) with
    | some true => misuse (.command c) (.directory (some .output) path)
    | _ => pure ()

/-- Checks the flow file: it has to be there. -/
def checkFlowFile (c : Command) (words : List String) : Acting String := do
  let files := (← get).world.surroundings.files
  match words with
  | [] => misuse (.command c) .missingArgument
  | path :: _ =>
    match ← ofOutcome (directoryAt? files path) with
    | none => misuse (.command c) (.absentFile path)
    | some true => misuse (.command c) (.directory none path)
    | some false => return path

/-- Checks the number of a port, if one is given. -/
def checkPort (c : Command) (port : Option String) : Acting (Option Int) := do
  match port.map fun s => (s, Numeral.int? s) with
  | none => return none
  | some (_, some i) => return some i
  | some (s, none) => misuse (.command c) (.notInteger .port s)

/-- Announces the service at an address; what is not given comes from the settings. -/
def serve (settings : Settings) (host : Option String) (port : Option Int) : Acting Unit :=
  let host := (host.filter (· != "")).getD settings.host
  let port := (port.filter (· != 0)).getD settings.port
  echo ("Starting API server on " ++ host ++ ":" ++ toString port)

/-- Checks that no more words are left than a command takes. -/
def checkRest (c : Command) (rest : List String) : Acting Unit :=
  let further := if c.takesFile then rest.tail else rest
  if further.isEmpty then pure () else misuse (.command c) (.furtherArguments further)

/-- Does a command with the words behind it. -/
def command (settings : Settings) (c : Command) (words : List String) : Acting Unit := do
  match (Scope.command c).read words with
  | .error m => misuse (.command c) m
  | .ok r =>
    if (r.value? .help).isSome then echo (Scope.command c).help
    else
      checkOutput c (r.value? .output)
      let port ← checkPort c (r.value? .port)
      let path ← if c.takesFile then checkFlowFile c r.rest else pure ""
      checkRest c r.rest
      match c with
      | .validate => validate path
      | .run => run settings path (r.value? .payload)
      | .serve => serve settings (r.value? .host) port
      | .convert => convert path (r.value? .output)

/-- Does what words ask for; the settings are read when the command is known. -/
def program (settings : Outcome Settings) (words : List String) : Acting Unit := do
  match Scope.program.read words with
  | .error m => misuse .program m
  | .ok r =>
    if words.isEmpty then
      complain Scope.program.help
      exit misuseCode
    else if (r.value? .help).isSome then echo Scope.program.help
    else
      match r.rest with
      | [] => misuse .program .missingCommand
      | name :: words =>
        match Command.ofName? name with
        | some c => command (← ofOutcome settings) c words
        | none =>
          match Scope.program.read (name :: words) with
          | .error m => misuse .program m
          | .ok r =>
            if (r.value? .help).isSome then echo Scope.program.help
            else misuse .program (.unknownCommand name)

/-- What the program leaves: its exit code, what it has printed, the failure that nobody expected, and
the files. -/
structure Result where
  code : Nat
  output : String
  errors : String
  failure : Option Failure
  files : FileTree

/-- Does what words ask for, in an environment and among the surroundings of actions. -/
def perform (environment : Environment) (assignments : Option String) (now : Instant)
    (surroundings : Surroundings) (words : List String) : Result :=
  let (r, t) := (program (Settings.ofEnvironment environment assignments) words).run.run
    { world := { now, surroundings } }
  let result (code : Nat) (failure : Option Failure) : Result :=
    ⟨code, t.output, t.errors, failure, t.world.surroundings.files⟩
  match r with
  | .ok () => result 0 none
  | .error (.exit code) => result code none
  | .error (.failure f) => result 1 (some f)

end Workflow.CommandLine
