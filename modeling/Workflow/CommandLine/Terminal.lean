import Workflow.CommandLine.Usage
import Workflow.World

/-!
# What the command line shows

Commands print lines on two streams, and end with an exit code or with a failure that nobody expects.
What marks the style of a text on a screen is not printed.
-/
namespace Workflow.CommandLine

def escape : Char := '\x1b'

def isLatinLetter (c : Char) : Bool :=
  ('a' ≤ c && c ≤ 'z') || ('A' ≤ c && c ≤ 'Z')

def isStyleDigit (c : Char) : Bool := ('0' ≤ c && c ≤ '9') || c == ';' || c == '?'

/-- A text without marks of style: an escape, a bracket, digits and a letter. The characters that may
be the beginning of a mark are held back, the last one first. -/
def unstyled : List Char → List Char → List Char
  | held, [] => held.reverse
  | [], c :: rest => if c == escape then unstyled [c] rest else c :: unstyled [] rest
  | [e], c :: rest =>
    if c == '[' then unstyled [c, e] rest
    else if c == escape then e :: unstyled [c] rest
    else e :: c :: unstyled [] rest
  | held, c :: rest =>
    if isLatinLetter c then unstyled [] rest
    else if isStyleDigit c then unstyled (c :: held) rest
    else if c == escape then held.reverse ++ unstyled [c] rest
    else held.reverse ++ c :: unstyled [] rest

/-- Why a command does not come to its last line. -/
inductive Ending where
  | exit (code : Nat)
  | failure (f : Failure)

/-- What has been printed so far, and the world in which commands take place. -/
structure Terminal (σ : Type) where
  output : String := ""
  errors : String := ""
  world : World σ

/-- The steps of a command: what they have printed and changed stays when one is the last. -/
abbrev Commanding (σ α : Type) := ExceptT Ending (StateM (Terminal σ)) α

namespace Commanding

variable {σ α : Type}

def printed (line : String) : String := String.ofList (unstyled [] line.toList) ++ "\n"

/-- Prints a line. One that cannot be written as bytes is a failure. -/
def echo (line : String) : Commanding σ Unit :=
  match Failure.ofHalves? (printed line) with
  | some f => throw (.failure f)
  | none => modify fun t => { t with output := t.output ++ printed line }

/-- Prints a line on the second stream; what cannot be written as bytes is written as escapes. -/
def complain (line : String) : Commanding σ Unit :=
  modify fun t => { t with errors := t.errors ++ Text.withHalves (printed line) }

def exit (code : Nat) : Commanding σ α := throw (.exit code)

def ofOutcome (r : Outcome α) : Commanding σ α :=
  match r with
  | .ok a => return a
  | .error f => throw (.failure f)

/-- The exit code after a complaint about what was asked for. -/
def refusedCode : Nat := 1

/-- The exit code after words that do not fit. -/
def misuseCode : Nat := 2

/-- Ends a command with an error. -/
def refuse (message : String) : Commanding σ α := do
  complain ("Error: " ++ message)
  exit refusedCode

/-- Ends because words do not fit what they are for. -/
def misuse (s : Scope) (m : Misuse) : Commanding σ α := do
  complain s.usage
  complain ("Try '" ++ s.path ++ " --help' for help.")
  complain ""
  complain ("Error: " ++ m.message)
  exit misuseCode

/-- A drawing in the world of commands. -/
def draw (d : Drawing α) : Commanding σ (Outcome α) := do
  let t ← get
  let (r, drawn) := d.run.run t.world.drawn
  set { t with world := { t.world with drawn } }
  return r

end Commanding

end Workflow.CommandLine
