import Workflow.Shell.Reader
import Workflow.Shell.Utility
import Workflow.Shelf

/-!
# The state of a shell

What a running script can change: files, variables, functions, where its outputs go, how much time has
gone by. Outputs go to numbered buffers, of which the first two are what the whole script writes.
-/
namespace Workflow.Shell

/-- Where the bytes written to a descriptor go. -/
inductive Sink where
  | buffer (number : Nat)
  | file (parts : List String)
  | nowhere
  | closed
deriving DecidableEq

structure Machine where
  files : FileTree
  directory : FilePath
  bindings : Shelf (List Char) := []
  exported : List String := []
  functions : Shelf Script := []
  traps : Shelf (List Char) := []
  arguments : List (List Char) := []
  status : Nat := 0
  /-- The line of the command that is run. -/
  line : Nat := 1
  /-- How many loops are being run. -/
  loops : Nat := 0
  /-- How many functions are being run. -/
  depth : Nat := 0
  /-- The status of the last script that a word was expanded with. -/
  substituted : Nat := 0
  /-- The values that variables had before a function made them its own. -/
  hidden : List (String × Option (List Char)) := []
  /-- Whether a command that fails ends the script. -/
  isStrict : Bool := false
  /-- Whether a parameter without a value ends the script. -/
  needsValues : Bool := false
  /-- Whether commands are shown before they are run. -/
  isTraced : Bool := false
  /-- Whether words stand for no names of files. -/
  isPlain : Bool := false
  /-- The variables that keep their values. -/
  fixed : List String := []
  /-- The command in whose name messages are written. -/
  command : Option (List Char) := none
  input : Source := {}
  sinks : List (Nat × Sink) := [(1, .buffer 0), (2, .buffer 1)]
  buffers : List Source := [{}, {}]
  /-- In milliseconds. -/
  elapsed : Nat := 0
  limit : Option Nat := none
  /-- Until when the outputs of the script are held open. -/
  held : Nat := 0
  /-- Whether they are held open for ever. -/
  isHeld : Bool := false
  /-- When what runs behind the script was begun, if this is it. -/
  launched : Option Nat := none
  /-- What will be written behind the script: when, to which buffer, and what. -/
  pending : List (Nat × Nat × List Char) := []
  /-- How the shell is called. -/
  title : List Char := "/bin/sh".toList

/-- Why a script does not go on with the next command. -/
inductive Stop where
  | exit
  /-- Leaves loops. -/
  | leave (loops : Nat)
  /-- Goes on with the next round of a loop. -/
  | again (loops : Nat)
  /-- Returns from a function. -/
  | back
  | killed (signal : Nat)
  /-- It takes too long. -/
  | late

abbrev Running (α : Type) := ExceptT Stop (StateM Machine) α

namespace Machine

def process : Nat := 4242

def setStatus (n : Nat) : Running Unit := modify fun m => { m with status := n }

def sinkOf (m : Machine) (descriptor : Nat) : Sink := (m.sinks.lookup descriptor).getD .closed

def setSink (descriptor : Nat) (s : Sink) : Running Unit :=
  modify fun m => { m with sinks := (descriptor, s) :: m.sinks.filter (·.1 != descriptor) }

def append (number : Nat) (s : Source) (m : Machine) : Machine :=
  { m with buffers := m.buffers.modify number fun b => b.append s }

/-- Writes what is pending for some buffers and comes up to a time. -/
def settle (isMeant : Nat → Bool) (time : Option Nat) (m : Machine) : Machine :=
  let isDue (p : Nat × Nat × List Char) : Bool := isMeant p.2.1 && !time.any (· < p.1)
  let due := (m.pending.filter isDue).mergeSort fun p q => p.1 ≤ q.1
  due.foldl (fun m (_, number, text) => m.append number ⟨text, []⟩)
    { m with pending := m.pending.filter fun p => !isDue p }

/-- Writes to a sink; an output without an end is the last thing that a script does. -/
def writeTo (sink : Sink) (s : Source) : Running Unit := do
  let m ← get
  match sink with
  | .buffer n =>
    if m.launched.any (· < m.elapsed) && !s.isEndless then
      set { m with pending := m.pending ++ [(m.elapsed, n, s.text)] }
    else set ((m.settle (fun _ => true) (some m.elapsed)).append n s)
  | .file parts =>
    let old := (m.files.read ⟨"/", parts⟩).toOption.getD []
    set { m with files := m.files.write parts (old ++ toBytes s.text) }
  | .nowhere => pure ()
  | .closed => pure ()
  if s.isEndless then throw .late

/-- Writes to a descriptor. -/
def write (descriptor : Nat) (s : Source) : Running Unit := do writeTo ((← get).sinkOf descriptor) s

def print (cs : List Char) : Running Unit := write 1 ⟨cs, []⟩

/-- A message in the name of a command or of the shell itself, with the number of the line. -/
def complainAs (command : Option (List Char)) (message : List Char) : Running Unit := do
  let m ← get
  let source := (command.map fun c => c ++ ": ".toList).getD []
  write 2 ⟨m.title ++ (": " ++ toString m.line ++ ": ").toList ++ source ++ message ++ ['\n'], []⟩

def complain (message : List Char) : Running Unit := do complainAs (← get).command message

/-- A message about what a command of the shell was given. -/
def complainOf (command : String) (message : List Char) : Running Unit :=
  complainAs (some command.toList) message

/-- Ends the script, or the command of the shell that a fault is in. -/
def fail {α : Type} : Running α := do
  setStatus 2
  throw .exit

/-- A message that ends the script. -/
def refuse {α : Type} (message : List Char) : Running α := do
  complain message
  fail

def refuseOf {α : Type} (command : String) (message : List Char) : Running α := do
  complainOf command message
  fail

/-- Whether one of the outputs of the script is open. -/
def holdsOutput (m : Machine) : Bool :=
  m.sinks.any fun (_, s) => s == .buffer 0 || s == .buffer 1

/-- Lets time go by. -/
def pass (duration : Option Nat) : Running Unit := do
  match duration with
  | none =>
    modify fun m => { m with isHeld := m.isHeld || m.holdsOutput }
    throw .late
  | some ms =>
    modify fun m =>
      let elapsed := m.elapsed + ms
      { m with elapsed, held := if m.holdsOutput then max m.held elapsed else m.held }
    let m ← get
    if m.limit.any (· < m.elapsed) then throw .late

def flags (m : Machine) : List Char :=
  (if m.isStrict then ['e'] else []) ++ (if m.isPlain then ['f'] else []) ++
    (if m.isTraced then ['x'] else []) ++ (if m.needsValues then ['u'] else [])

/-- The characters at which fields are split. -/
def separators (m : Machine) : List Char := (m.bindings.get? "IFS").getD [' ', '\t', '\n']

/-- The arguments as one text. -/
def argumentText (m : Machine) : List Char := (m.separators.take 1).intercalate m.arguments

/-- The value of a parameter. -/
def value? (m : Machine) (name : String) : Option (List Char) :=
  match name with
  | "#" => some (Utility.number m.arguments.length)
  | "?" => some (Utility.number m.status)
  | "$" => some (Utility.number process)
  | "-" => some m.flags
  | "!" => none
  | "@" => some m.argumentText
  | "*" => some m.argumentText
  | "0" => some m.title
  | name =>
    match Utility.natural? name.toList with
    | some n => m.arguments[n - 1]?
    | none => m.bindings.get? name

/-- Tells that a variable keeps its value, if it does. -/
def checkFree (name : String) : Running Unit := do
  if (← get).fixed.contains name then refuse (name.toList ++ ": is read only".toList)

def assign (name : String) (value : List Char) : Running Unit := do
  checkFree name
  modify fun m => { m with bindings := m.bindings.put name value }

def environment (m : Machine) : List (String × List Char) :=
  m.exported.filterMap fun name => (m.bindings.get? name).map fun v => (name, v)

end Machine

/-- What a word expands to, before it is split into fields. -/
inductive Piece where
  | glyph (g : Glyph)
  /-- A quoted text, even if it is empty, makes a field. -/
  | mark
  /-- A field ends here. -/
  | edge

namespace Piece

def literal (cs : List Char) : List Piece := cs.map fun c => .glyph ⟨c, false, true⟩

def quoted (cs : List Char) : List Piece := .mark :: cs.map fun c => .glyph ⟨c, false, false⟩

/-- The value of an expansion. -/
def expanded (isQuoted : Bool) (cs : List Char) : List Piece :=
  if isQuoted then quoted cs else cs.map fun c => .glyph ⟨c, true, true⟩

/-- Arguments, each a field of its own. -/
def each (isQuoted : Bool) : List (List Char) → List Piece
  | [] => []
  | [a] => expanded isQuoted a
  | a :: rest => expanded isQuoted a ++ .edge :: each isQuoted rest

def glyphs (ps : List Piece) : List Glyph :=
  ps.flatMap fun p =>
    match p with
    | .glyph g => [g]
    | .mark => []
    | .edge => [⟨' ', false, false⟩]

def text (ps : List Piece) : List Char := (glyphs ps).map Glyph.char

def isBlank (c : Char) : Bool := c == ' ' || c == '\t' || c == '\n'

/-- Splits into fields: `here` is the field that has begun, `mayJoin` tells that it was ended by a
blank, so that one separator more does not make an empty field. -/
def split (separators : List Char) : List Piece → Option (List Glyph) → Bool → List (List Glyph)
  | [], none, _ => []
  | [], some here, _ => [here.reverse]
  | .edge :: rest, none, _ => split separators rest none false
  | .edge :: rest, some here, _ => here.reverse :: split separators rest none false
  | .mark :: rest, here, _ => split separators rest (some (here.getD [])) false
  | .glyph g :: rest, here, mayJoin =>
    if g.canSplit && separators.contains g.char then
      if isBlank g.char then
        match here with
        | none => split separators rest none mayJoin
        | some here => here.reverse :: split separators rest none true
      else
        match here with
        | none =>
          if mayJoin then split separators rest none false else [] :: split separators rest none false
        | some here => here.reverse :: split separators rest none false
    else split separators rest (some (g :: here.getD [])) false

end Piece

/-- The signals by their names. Those without a name have their number. -/
def signalNames : List String :=
  ["HUP", "INT", "QUIT", "ILL", "TRAP", "ABRT", "BUS", "FPE", "KILL", "USR1", "SEGV", "USR2", "PIPE", "ALRM",
    "TERM", "16", "CHLD", "CONT", "STOP", "TSTP", "TTIN", "TTOU", "URG", "XCPU", "XFSZ", "VTALRM", "PROF",
    "WINCH", "IO", "PWR", "SYS", "32", "33", "RTMIN"] ++
    (List.range 15).map (fun k => "RTMIN+" ++ toString (k + 1)) ++
    (List.range 14).map (fun k => "RTMAX-" ++ toString (14 - k)) ++ ["RTMAX"]

/-- The number of a signal. -/
def signal? (name : String) : Option Nat :=
  let name := if name.startsWith "SIG" then (name.drop 3).toString else name
  match Utility.natural? name.toList with
  | some n => if n < 65 then some n else none
  | none =>
    if name == "EXIT" then some 0
    else if signalNames.contains name then some (signalNames.idxOf name + 1)
    else none

end Workflow.Shell
