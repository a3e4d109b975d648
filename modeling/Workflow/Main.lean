import Workflow.CommandLine
import Workflow.Shell.Host

/-!
# The program

Gathers what the command line works with: the variables of the environment that settings know, and the
files that words name. Then prints what it gives, and writes the files that it has changed.
-/
namespace Workflow

/-- The variables that are handed on. -/
def variableNames : List String :=
  ["HOME", "PATH", "DATABASE_URL", "API_HOST", "API_PORT", "API_RELOAD", "LOG_LEVEL",
    "FLOW_RUNTIME_USER_DATA_DIR", "SHELL_TIMEOUT_MS", "HTTP_TIMEOUT_MS", "TRIGGER_REFRESH_SECONDS"]

def readEnvironment : IO Environment :=
  variableNames.filterMapM fun name => return (← IO.getEnv name).map fun v => (name, Text.inward v)

/-- What a path leads to, if it can be read. -/
def readEntry (path : String) : IO (Option FileEntry) := do
  try return some (.file (← IO.FS.readBinFile path).toList)
  catch
    | .inappropriateType .. => return some .directory
    | _ => return none

/-- The paths that a word may name, itself or behind the name of an option, and the directories on
their way. -/
def namedPaths (word : String) : List FilePath :=
  let cs := word.toList
  [cs, cs.drop 2, (cs.dropWhile (· != '=')).drop 1].flatMap fun path =>
    let p := FilePath.ofText (String.ofList path)
    (List.range p.parts.length).map fun n => ⟨p.root, p.parts.take (n + 1)⟩

/-- The files that words name. -/
def readFiles (current : FilePath) (words : List String) : IO FileTree := do
  let entries ← (words.flatMap namedPaths).eraseDups.filterMapM fun path =>
    return (← readEntry path.text).map ((path.within current).normalise.parts, ·)
  return ⟨FileTree.systemDirectories ++ [(current.parts, .directory)] ++ entries, current⟩

/-- Writes the files that are not as they were. -/
def writeFiles (before after : FileTree) : IO Unit :=
  after.entries.forM fun (parts, entry) =>
    match entry with
    | .file bytes =>
      if before.entry? parts == some entry then pure ()
      else IO.FS.writeBinFile (FilePath.text ⟨"/", parts⟩) ⟨bytes.toArray⟩
    | _ => pure ()

/-- The assignments in the file beside the program, if there is one. -/
def readAssignments : IO (Option String) := do
  try return some (Text.inward (← IO.FS.readFile ((← IO.appDir) / ".env")))
  catch _ => return none

/-- No request leaves this program. -/
def noTransport : Http.Transport := fun _ => .error ⟨.client, "No transport for requests"⟩

/-- Does what words ask for, and gives the exit code. -/
def start (words : List String) : IO UInt32 := do
  let environment ← readEnvironment
  let files ← readFiles (.ofText (← IO.currentDir).toString) words
  let surroundings : Surroundings :=
    { files, host := Shell.host environment, transport := noTransport }
  let r := CommandLine.perform environment (← readAssignments) ⟨0⟩ surroundings words
  IO.print (Text.outward r.output)
  IO.eprint (Text.outward r.errors)
  r.failure.forM fun f => IO.eprintln (Text.outward (f.kind.name ++ ": " ++ f.message))
  writeFiles files r.files
  return .ofNat r.code

end Workflow

def main (words : List String) : IO UInt32 := Workflow.start (words.map Workflow.Text.inward)
