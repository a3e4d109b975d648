import Workflow.Action.Shell
import Workflow.Shell.Evaluation

/-!
# The host of commands

Runs the commands of shell actions in a given environment, each on the files that the one before has
left. A process is not started if its directory cannot be entered or its command is too long.
-/
namespace Workflow.Shell

/-- The bytes that one argument of a process may have, less one. -/
def argumentLimit : Nat := 131071

/-- The commands that one script can run, one within or after the other. -/
def scriptFuel : Nat := 10000

/-- A process begins with the environment of its host. -/
def Machine.start (files : FileTree) (directory : FilePath) (environment : List (String × String))
    (limit : Option Nat) : Machine :=
  let bindings := environment.map fun (name, value) => (name, byteText value)
  { files, directory, limit
    bindings := bindings ++ [("PWD", byteText directory.text)]
    exported := environment.map (·.1) }

/-- Runs a whole script up to its end. -/
def whole (fuel : Nat) (script : List Char) : Running Unit :=
  ended fuel (scripts fuel (Program.read script))

/-- All that an output holds; of one without an end more than anybody keeps. -/
def Source.bytes (s : Source) : List UInt8 :=
  toBytes (if s.isEndless then s.take (s.text.length + outputLimit) else s.text)

/-- An output without bytes is at its end at once. -/
def Source.chunks (s : Source) : List (List UInt8) := [s.bytes].filter (!·.isEmpty)

/-- What a script has done. -/
def Machine.process? (r : Except Stop Unit) (m : Machine) : Process :=
  let code : Option Int :=
    match r with
    | .error .late => none
    | .error (.killed n) => some (-n)
    | _ => some m.status
  let m := m.settle (fun _ => true) m.limit
  { output := (m.buffers[0]?.map Source.chunks).getD []
    errors := (m.buffers[1]?.map Source.chunks).getD []
    code
    isLate := m.isHeld || m.limit.any (· < m.held) }

/-- A time limit in milliseconds; none if it is never reached. -/
def milliseconds (limit : Double) : Option Nat :=
  let ms := limit.mul (.roundInt 1000)
  if ms.isFinite then some ms.truncate.toNat else none

/-- Where a process begins, or why it cannot be started. -/
def startDirectory (files : FileTree) (directory : Option String) : Outcome FilePath :=
  match directory with
  | none => .ok files.current
  | some name =>
    match files.locate FileTree.linkLimit (.ofText name) with
    | .error f => .error ⟨.os, f.message name⟩
    | .ok parts =>
      if files.isDirectory ⟨"/", parts⟩ then .ok ⟨"/", parts⟩
      else .error ⟨.os, FileFault.notDirectory.message name⟩

/-- Runs commands in an environment. -/
def host (environment : List (String × String)) : Host := fun c files => do
  let directory ← startDirectory files c.directory
  let script := byteText c.text
  if argumentLimit < script.length then
    throw ⟨.os, "[Errno 7] Argument list too long: '/bin/sh'"⟩
  if !Double.zero.lt c.timeLimit then return ({ code := none }, files)
  let (r, m) := (whole scriptFuel script).run
    (Machine.start files directory environment (milliseconds c.timeLimit))
  return (m.process? r, m.files)

end Workflow.Shell
