import Workflow.Action
import Workflow.Action.TimeLimit
import Workflow.Files
import Workflow.Text.Blank
import Workflow.Text.Utf8

/-!
# Shell actions

A shell action runs a command and shows what it wrote and how it ended. Of what it writes only so
many bytes are kept; a command that takes too long is killed.
-/
namespace Workflow.Shell

/-- A command, the directory in which it runs, and its time limit in seconds. -/
structure Command where
  text : String
  directory : Option String
  timeLimit : Double

/-- What a process wrote, chunk by chunk, and its exit code; a process without one was still running
at the time limit. -/
structure Process where
  output : List (List UInt8) := []
  errors : List (List UInt8) := []
  code : Option Int
  /-- Whether its outputs were still open at the time limit. -/
  isLate : Bool := false

/-- What runs commands on files, and leaves the files as they are then; the failure is that a process
cannot be started. -/
abbrev Host := Command → FileTree → Outcome (Process × FileTree)

/-- The most bytes that are kept of an output. -/
def outputLimit : Nat := 1048576

/-- Adds a chunk to a buffer as far as there is room. -/
def addChunk (limit : Nat) (buffer chunk : List UInt8) : List UInt8 :=
  buffer ++ chunk.take (limit - buffer.length)

/-- Reads a stream to its end, which is where it gives a chunk without bytes, and keeps what there is room
for in the buffer. The other result is what is left of the stream. -/
def readCapped (limit : Nat) (buffer : List UInt8) : List (List UInt8) → List UInt8 × List (List UInt8)
  | [] => (buffer, [])
  | [] :: rest => (buffer, rest)
  | chunk :: rest => readCapped limit (addChunk limit buffer chunk) rest

/-- The exit code of a process that is killed. -/
def killedCode : Int := -9

def refused (message : String) : ActionResult :=
  ⟨false, .record [("stdout", .text ""), ("stderr", .text message), ("exitCode", .int 1)]⟩

/-- The text of the bytes that are kept. -/
def shown (limit : Nat) (chunks : List (List UInt8)) : Value :=
  .text (String.ofList (Text.decodeReplacing (readCapped limit [] chunks).1))

/-- A process as a result. -/
def Process.toResult (limit : Nat) (p : Process) : ActionResult :=
  let isLate := p.isLate || p.code.isNone
  let code := p.code.getD killedCode
  ⟨code == 0 && !isLate,
    .record ([("stdout", shown limit p.output), ("stderr", shown limit p.errors),
      ("exitCode", .int code)] ++ if isLate then [("timedOut", .bool true)] else [])⟩

/-- The command that parameters describe, if they hold one that is not blank. -/
def command? (params : Fields) : Option String :=
  match (Value.object params).field "command" with
  | .text s => if Text.allBlank s then none else some s
  | _ => none

/-- A text that a system is to take as a name or an argument. -/
def systemText (s : String) : Outcome String :=
  match Failure.ofPath? s with
  | some f => .error f
  | none => .ok s

/-- The directory that a value names, if it counts as given. -/
def directory (v : Value) : Outcome (Option String) :=
  if !v.isGiven then .ok none
  else
    match v with
    | .text s => (systemText s).map some
    | v => .error ⟨.wrongType, "expected str, bytes or os.PathLike object, not " ++ v.typeName⟩

/-- The command that parameters describe, with its directory and time limit. -/
def commandOf (usual : Int) (params : Fields) (text : String) : Outcome Command := do
  let timeLimit ← TimeLimit.seconds ((Value.object params).field "timeout") usual
  let text ← systemText text
  let directory ← directory ((Value.object params).field "workingDirectory")
  return ⟨text, directory, timeLimit⟩

/-- The result of a shell action, and the files after it. -/
def perform (host : Host) (usual : Int) (limit : Nat) (params : Fields) (files : FileTree) :
    Outcome ActionResult × FileTree :=
  match command? params with
  | none => (.ok (refused "Shell action requires a command"), files)
  | some text =>
    match commandOf usual params text with
    | .error f => (.error f, files)
    | .ok command =>
      match host command files with
      | .ok (process, files) => (.ok (process.toResult limit), files)
      | .error f => (if f.kind.isOfSystem then .ok (refused (f.describe "")) else .error f, files)

end Workflow.Shell
