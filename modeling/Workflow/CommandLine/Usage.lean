import Workflow.Text.Likeness
import Workflow.Value.Text

/-!
# What the command line accepts

The program has a few commands, each with an argument or none and some options, and options of its own
that come before the command. `Scope.read` tells which option has which value and which words are left. Where
words do not fit, a `Misuse` says why.
-/
namespace Workflow.CommandLine

inductive Command where
  | convert
  | run
  | serve
  | validate
deriving DecidableEq

namespace Command

def name : Command → String
  | convert => "export"
  | run => "run"
  | serve => "serve"
  | validate => "validate"

def summary : Command → String
  | convert => "Convert a flow document to the portable export format"
  | run => "Run a flow document and print its steps"
  | serve => "Start the API server"
  | validate => "Validate a flow document"

def all : List Command := [convert, run, serve, validate]

/-- Whether a flow file is named behind the command. -/
def takesFile : Command → Bool
  | serve => false
  | _ => true

def ofName? (s : String) : Option Command := all.find? (·.name == s)

end Command

inductive Switch where
  | help
  | host
  | logLevel
  | output
  | payload
  | port
  | reload
deriving DecidableEq

namespace Switch

/-- The spellings of an option: with two hyphens, or with one hyphen and one letter. -/
def spellings : Switch → List String
  | help => ["--help"]
  | host => ["--host"]
  | logLevel => ["--log-level"]
  | output => ["--output", "-o"]
  | payload => ["--payload"]
  | port => ["--port"]
  | reload => ["--reload"]

/-- What the value of an option is, if it has one. -/
def valueName? : Switch → Option String
  | help => none
  | host => some "TEXT"
  | logLevel => some "TEXT"
  | output => some "FILE"
  | payload => some "TEXT"
  | port => some "INTEGER"
  | reload => none

/-- Whether the option has no value. -/
def isFlag (o : Switch) : Bool := o.valueName?.isNone

def summary : Switch → String
  | help => "Show this message and exit."
  | host => "Host to bind to"
  | logLevel => "Log level (defaults to LOG_LEVEL or INFO)"
  | output => "Write to file"
  | payload => "Trigger payload as JSON"
  | port => "Port to bind to"
  | reload => "Enable auto-reload"

end Switch

/-- For what words are read: the program itself, or one of its commands. -/
inductive Scope where
  | program
  | command (c : Command)

namespace Scope

def switches : Scope → List Switch
  | program => [.logLevel, .help]
  | command .convert => [.output, .help]
  | command .run => [.payload, .help]
  | command .serve => [.host, .port, .reload, .help]
  | command .validate => [.help]

/-- Whether options may stand behind other words. -/
def isMixed : Scope → Bool
  | program => false
  | command _ => true

def programName : String := "cli"

def path : Scope → String
  | program => programName
  | command c => programName ++ " " ++ c.name

def usage : Scope → String
  | program => "Usage: " ++ programName ++ " [OPTIONS] COMMAND [ARGS]..."
  | command c => "Usage: " ++ (command c).path ++ " [OPTIONS]" ++ if c.takesFile then " FLOW_FILE" else ""

def summary : Scope → String
  | program => "Flow Runtime CLI"
  | command c => c.summary

/-- Lines with two columns. -/
def columns (rows : List (String × String)) : String :=
  let width := (rows.map fun r => r.1.length).foldl max 0
  "\n".intercalate (rows.map fun (left, right) =>
    "  " ++ left ++ String.ofList (List.replicate (width - left.length) ' ') ++ "  " ++ right)

/-- The options and commands, with what they are for. -/
def help (s : Scope) : String :=
  let switchRow (o : Switch) : String × String :=
    (", ".intercalate o.spellings.reverse ++ (o.valueName?.map (" " ++ ·)).getD "", o.summary)
  let commands :=
    match s with
    | program => "\n\nCommands:\n" ++ columns (Command.all.map fun c => (c.name, c.summary))
    | command _ => ""
  s.usage ++ "\n\n  " ++ s.summary ++ "\n\nOptions:\n" ++ columns (s.switches.map switchRow) ++ commands

end Scope

/-- The name of the argument of commands. -/
def argumentName : String := "FLOW_FILE"

/-- Why words do not fit. -/
inductive Misuse where
  | missingCommand
  | unknownCommand (name : String)
  | unknownOption (name : String) (choices : List String)
  | missingValue (option : String)
  | unwantedValue (option : String)
  | missingArgument
  | furtherArguments (words : List String)
  /-- The flow file does not exist. -/
  | absentFile (name : String)
  /-- A directory stands where a file is wanted: that of an option, or that of the argument. -/
  | directory (option : Option Switch) (name : String)
  /-- A text that is no integer stands where one is wanted. -/
  | notInteger (option : Switch) (text : String)
  | malformedPayload

namespace Misuse

/-- What may have been meant, behind a message. -/
def withOffers (message word : String) (choices : List String) : String :=
  match Text.closest word choices with
  | [] => message
  | [one] => message ++ " Did you mean " ++ Text.quoted one ++ "?"
  | several =>
    let offers := several.mergeSort fun a b => decide (a ≤ b)
    message ++ " (Did you mean one of: " ++ ", ".intercalate (offers.map Text.quoted) ++ "?)"

/-- The place of a value in messages. -/
def place : Option Switch → String
  | some o => " / ".intercalate (o.spellings.map Text.quoted)
  | none => Text.quoted argumentName

def message : Misuse → String
  | missingCommand => "Missing command."
  | unknownCommand name =>
    withOffers ("No such command " ++ Text.quoted name ++ ".") name (Command.all.map Command.name)
  | unknownOption name choices =>
    withOffers ("No such option " ++ Text.quoted name ++ ".") name choices
  | missingValue option => "Option " ++ Text.quoted option ++ " requires an argument."
  | unwantedValue option => "Option " ++ Text.quoted option ++ " does not take a value."
  | missingArgument => "Missing argument " ++ place none ++ "."
  | furtherArguments words =>
    "Got unexpected extra argument" ++ (if words.length == 1 then " (" else "s (") ++
      " ".intercalate words ++ ")"
  | absentFile name =>
    "Invalid value for " ++ place none ++ ": File " ++ Text.quoted name ++ " does not exist."
  | directory option name =>
    "Invalid value for " ++ place option ++ ": File " ++ Text.quoted name ++ " is a directory."
  | notInteger option text =>
    "Invalid value for " ++ place (some option) ++ ": " ++ Text.quoted text ++ " is not a valid integer."
  | malformedPayload => "Invalid value for --payload: Invalid JSON"

end Misuse

/-- What a word is. -/
inductive Word where
  | plain
  /-- An option in one of its spellings, with a value if the word holds one. -/
  | option (o : Switch) (spelling : String) (value : Option String)

/-- What words say: the values of options in the order in which they come, and the words left. -/
structure Reading where
  given : List (Switch × String) := []
  rest : List String := []

namespace Reading

def value? (r : Reading) (o : Switch) : Option String := r.given.reverse.lookup o

/-- Puts an option before what is read behind it. -/
def withValue (r : Reading) (o : Switch) (value : String) : Reading :=
  { r with given := (o, value) :: r.given }

/-- Puts a word before the words left. -/
def withWord (r : Reading) (word : String) : Reading := { r with rest := word :: r.rest }

end Reading

namespace Scope

def switch? (s : Scope) (spelling : String) : Option Switch :=
  s.switches.find? (·.spellings.contains spelling)

/-- The spellings with two hyphens. -/
def longSpellings (s : Scope) : List String :=
  (s.switches.flatMap Switch.spellings).filter (·.startsWith "--")

/-- A word that begins with one hyphen: the letter behind it is an option, and the rest its value. -/
def shortWord (s : Scope) (cs : List Char) : Except Misuse Word :=
  let spelling := String.ofList (cs.take 2)
  match s.switch? spelling, cs.drop 2 with
  | none, _ => .error (.unknownOption spelling [])
  | some o, [] => .ok (.option o spelling none)
  | some o, value => .ok (.option o spelling (some (String.ofList value)))

/-- Tells what a word is; behind an equals sign stands the value of an option. -/
def word (s : Scope) (w : String) : Except Misuse Word :=
  let cs := w.toList
  if cs.head? != some '-' || cs.length < 2 then .ok .plain
  else
    let spelling := String.ofList (cs.takeWhile (· != '='))
    let value := match cs.dropWhile (· != '=') with
      | _ :: value => some (String.ofList value)
      | [] => none
    if s.longSpellings.contains spelling then
      match s.switch? spelling with
      | some o =>
        if o.isFlag && value.isSome then .error (.unwantedValue spelling)
        else .ok (.option o spelling value)
      | none => .ok .plain
    else if cs.take 2 == ['-', '-'] then .error (.unknownOption spelling s.longSpellings)
    else s.shortWord cs

/-- Reads words. Two hyphens end the options. -/
def read (s : Scope) : List String → Except Misuse Reading
  | [] => .ok {}
  | w :: words =>
    if w == "--" then .ok { rest := words }
    else
      match s.word w with
      | .error m => .error m
      | .ok .plain =>
        if s.isMixed then (s.read words).map (·.withWord w) else .ok { rest := w :: words }
      | .ok (.option o _ (some value)) => (s.read words).map (·.withValue o value)
      | .ok (.option o spelling none) =>
        if o.isFlag then (s.read words).map (·.withValue o "")
        else
          match words with
          | [] => .error (.missingValue spelling)
          | value :: words => (s.read words).map (·.withValue o value)

end Scope

end Workflow.CommandLine
