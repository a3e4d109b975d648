import Workflow.Failure
import Workflow.Files
import Workflow.Text.Case

/-!
# Settings

Settings come from environment variables, for which a file of assignments may give values where the
environment has none. Every setting has a value without either.
-/
namespace Workflow

/-- Environment variables, in order. -/
abbrev Environment := List (String × String)

namespace Dotenv

/-- White space inside a line. -/
def isInlineBlank (c : Char) : Bool := Text.isBlank c && c != '\r' && c != '\n'

def isLineEnd (c : Char) : Bool := c == '\r' || c == '\n'

/-- Drops one line end. -/
def dropLineEnd : List Char → List Char
  | '\r' :: '\n' :: rest => rest
  | '\r' :: rest => rest
  | '\n' :: rest => rest
  | cs => cs

/-- What is left behind a line that is not understood. -/
def nextLine (cs : List Char) : List Char :=
  match cs.dropWhile (!isLineEnd ·) with
  | '\r' :: rest => rest
  | '\n' :: rest => rest
  | rest => rest

/-- The text up to an unescaped quote, with the escapes as they stand, and the rest. -/
def untilQuote? (quote : Char) : List Char → Option (List Char × List Char)
  | [] => none
  | '\\' :: c :: rest =>
    if c == quote then
      match untilQuote? quote rest with
      | some (inner, tail) => some ('\\' :: c :: inner, tail)
      | none => some (['\\'], rest)
    else (untilQuote? quote (c :: rest)).map fun (inner, tail) => ('\\' :: inner, tail)
  | c :: rest =>
    if c == quote then some ([], rest)
    else (untilQuote? quote rest).map fun (inner, tail) => (c :: inner, tail)

/-- The character behind a backslash that is an escape between double quotes. -/
def doubleEscape? (c : Char) : Option Char :=
  match c with
  | '\\' => some '\\'
  | '\'' => some '\''
  | '"' => some '"'
  | 'a' => some '\x07'
  | 'b' => some '\x08'
  | 'f' => some '\x0c'
  | 'n' => some '\n'
  | 'r' => some '\r'
  | 't' => some '\t'
  | 'v' => some '\x0b'
  | _ => none

def singleEscape? (c : Char) : Option Char := if c == '\\' || c == '\'' then some c else none

/-- Replaces escapes. -/
def unescape (escape? : Char → Option Char) : List Char → List Char
  | '\\' :: c :: rest =>
    match escape? c with
    | some e => e :: unescape escape? rest
    | none => '\\' :: unescape escape? (c :: rest)
  | c :: rest => c :: unescape escape? rest
  | [] => []

/-- Cuts a comment off: white space and a number sign. -/
def dropComment : List Char → List Char
  | [] => []
  | c :: rest =>
    if Text.isBlank c && (rest.dropWhile Text.isBlank).head? == some '#' then []
    else c :: dropComment rest

def trimEnd (cs : List Char) : List Char := (cs.reverse.dropWhile Text.isBlank).reverse

/-- A value, and the rest; none if a quote is not closed. -/
def value? (cs : List Char) : Option (List Char × List Char) :=
  match cs with
  | '\'' :: rest => (untilQuote? '\'' rest).map fun (v, tail) => (unescape singleEscape? v, tail)
  | '"' :: rest => (untilQuote? '"' rest).map fun (v, tail) => (unescape doubleEscape? v, tail)
  | _ =>
    some (trimEnd (dropComment (cs.takeWhile (!isLineEnd ·))), cs.dropWhile (!isLineEnd ·))

/-- The end of a line behind an assignment: a comment and a line end. -/
def lineEnd? (cs : List Char) : Option (List Char) :=
  let rest := cs.dropWhile isInlineBlank
  let rest := if rest.head? == some '#' then rest.dropWhile (!isLineEnd ·) else rest
  match rest with
  | [] => some []
  | c :: _ => if isLineEnd c then some (dropLineEnd rest) else none

/-- Skips the word `export`. -/
def dropExport (cs : List Char) : List Char :=
  let word := "export".toList
  let rest := cs.drop word.length
  if word.isPrefixOf cs && rest.head?.any isInlineBlank then rest.dropWhile isInlineBlank else cs

/-- A key, if one stands here, and the rest. A line that begins with a number sign has none. -/
def key? (cs : List Char) : Option (Option (List Char) × List Char) :=
  match cs with
  | '#' :: _ => some (none, cs)
  | '\'' :: rest =>
    let name := rest.takeWhile (· != '\'')
    match rest.dropWhile (· != '\'') with
    | _ :: tail => if name.isEmpty then none else some (some name, tail)
    | [] => none
  | _ =>
    let stops (c : Char) : Bool := c == '=' || c == '#' || Text.isBlank c
    let name := cs.takeWhile (!stops ·)
    if name.isEmpty then none else some (some name, cs.dropWhile (!stops ·))

/-- A variable, and what it is to be; a variable alone is to be nothing. -/
abbrev Binding := List Char × Option (List Char)

/-- One assignment, and the rest; where a line is not understood, the rest behind that line. -/
def binding (cs : List Char) : Option Binding × List Char :=
  let body := dropExport cs
  match key? body with
  | none => (none, nextLine body)
  | some (key, rest) =>
    let rest := rest.dropWhile isInlineBlank
    match rest with
    | '=' :: tail =>
      let tail := tail.dropWhile isInlineBlank
      match value? tail with
      | none => (none, nextLine tail)
      | some (v, after) =>
        match lineEnd? after with
        | some after' => (key.map fun k => (k, some v), after')
        | none => (none, nextLine after)
    | _ =>
      match lineEnd? rest with
      | some after => (key.map fun k => (k, none), after)
      | none => (none, nextLine rest)

/-- The assignments of a text, in order. -/
def bindings : Nat → List Char → List Binding
  | 0, _ => []
  | fuel + 1, cs =>
    let cs := cs.dropWhile Text.isBlank
    if cs.isEmpty then []
    else
      let (b, rest) := binding cs
      b.toList ++ bindings fuel rest

/-- Replaces references to variables, with a default behind `:-`. -/
def expand (lookup : String → Option String) : Nat → List Char → List Char
  | 0, cs => cs
  | fuel + 1, '$' :: '\x7b' :: rest =>
    let name := rest.takeWhile fun c => c != '\x7d' && c != ':'
    match rest.drop name.length with
    | '\x7d' :: tail => ((lookup (String.ofList name)).getD "").toList ++ expand lookup fuel tail
    | ':' :: '-' :: more =>
      let other := more.takeWhile (· != '\x7d')
      match more.drop other.length with
      | _ :: tail =>
        ((lookup (String.ofList name)).getD (String.ofList other)).toList ++ expand lookup fuel tail
      | [] => '$' :: expand lookup fuel ('\x7b' :: rest)
    | _ => '$' :: expand lookup fuel ('\x7b' :: rest)
  | fuel + 1, c :: rest => c :: expand lookup fuel rest
  | _, [] => []

/-- What variables are to be, so far. -/
abbrev Assignments := List (String × Option String)

/-- Says what a variable is to be, whatever was said before. -/
def assign (name : String) (value : Option String) : Assignments → Assignments
  | [] => [(name, value)]
  | (n, v) :: rest => if n == name then (n, value) :: rest else (n, v) :: assign name value rest

/-- The variables that a text assigns; references are to the environment and to earlier ones. -/
def assigned (environment : Environment) (text : String) : Environment :=
  let cs := unifyLineEnds text.toList
  let all := (bindings (cs.length + 1) cs).foldl (fun (seen : Assignments) (k, value) =>
    let lookup (name : String) : Option String :=
      (environment.lookup name).orElse fun _ => (seen.lookup name).map (·.getD "")
    assign (String.ofList k) (value.map fun v => String.ofList (expand lookup v.length v)) seen) []
  all.filterMap fun (name, value) => value.map (name, ·)

/-- Why a variable cannot be set, if it cannot. -/
def settingFault? (name value : String) : Option Failure :=
  if name.contains '\x00' || value.contains '\x00' then some ⟨.invalidValue, "embedded null byte"⟩
  else if name.contains '=' then some ⟨.invalidValue, "illegal environment variable name"⟩
  else none

/-- The environment with the variables that a text assigns and that it does not have. -/
def extend (environment : Environment) (text : String) : Outcome Environment := do
  let more := (assigned environment text).filter fun (name, _) => (environment.lookup name).isNone
  match more.findSome? fun (name, value) => settingFault? name value with
  | some f => throw f
  | none => return environment ++ more

end Dotenv

structure Settings where
  databaseUrl : String := "sqlite+aiosqlite:///./flow_runtime.db"
  host : String := "0.0.0.0"
  port : Int := 8000
  reload : Bool := false
  logLevel : String := "INFO"
  userDataDirectory : FilePath
  /-- The usual time limits of actions, in milliseconds. -/
  shellTimeLimit : Int := 30000
  httpTimeLimit : Int := 30000
  /-- The seconds between two looks at the schedules of all flows. -/
  triggerRefresh : Double := .roundInt 60

namespace Settings

/-- The home directory. -/
def home (environment : Environment) : String :=
  let home := ((environment.lookup "HOME").getD "/root").toList
  let home := (home.reverse.dropWhile (· == '/')).reverse
  if home.isEmpty then "/" else String.ofList home

def homePath (environment : Environment) : FilePath := .ofText (home environment)

/-- The settings without any variables but the home directory. -/
def usual (environment : Environment) : Settings :=
  { userDataDirectory :=
      let home := homePath environment
      ⟨home.root, home.parts ++ [".flow-runtime"]⟩ }

/-- No home directory is known. -/
def homeless : Failure := ⟨.runtime, "Could not determine home directory."⟩

/-- The home directories of the users that every system has. -/
def homes : List (String × String) := [
  ("root", "/root"), ("daemon", "/usr/sbin"), ("bin", "/bin"), ("sys", "/dev"), ("sync", "/bin"),
  ("games", "/usr/games"), ("man", "/var/cache/man"), ("lp", "/var/spool/lpd"), ("mail", "/var/mail"),
  ("news", "/var/spool/news"), ("uucp", "/var/spool/uucp"), ("proxy", "/bin"),
  ("www-data", "/var/www"), ("backup", "/var/backups"), ("list", "/var/list"), ("irc", "/run/ircd"),
  ("_apt", "/nonexistent"), ("nobody", "/nonexistent")]

/-- A path whose first segment may be the sign for a home directory. -/
def expandHome (environment : Environment) (p : FilePath) : Outcome FilePath :=
  match p.root, p.parts with
  | "", first :: rest =>
    if first == "~" then
      let home := homePath environment
      .ok ⟨home.root, home.parts ++ rest⟩
    else if first.startsWith "~" then
      match homes.lookup (String.ofList (first.toList.drop 1)) with
      | some home => .ok ⟨"/", (FilePath.ofText home).parts ++ rest⟩
      | none => .error homeless
    else .ok p
  | _, _ => .ok p

def readInt (s : String) : Outcome Int :=
  match Numeral.readInt s with
  | .ok i => .ok i
  | .error .malformed => .error (.notInteger 10 s)
  | .error (.tooLong n) => .error (.longNumeral n)

def readDouble (s : String) : Outcome Double :=
  match Numeral.double? s with
  | some d => .ok d
  | none => .error (.notDouble s)

/-- The setting of a variable, if it is set. -/
def given {α : Type} (environment : Environment) (name : String) (usual : α)
    (read : String → Outcome α) : Outcome α :=
  match environment.lookup name with
  | some s => read s
  | none => .ok usual

/-- The settings that variables give, with a file of assignments for those that are not set. -/
def ofEnvironment (environment : Environment) (assignments : Option String) : Outcome Settings := do
  let environment ← match assignments with
    | some text => Dotenv.extend environment text
    | none => .ok environment
  if (home environment).startsWith "~" then throw homeless
  let base := usual environment
  let databaseUrl ← given environment "DATABASE_URL" base.databaseUrl .ok
  let host ← given environment "API_HOST" base.host .ok
  let port ← given environment "API_PORT" base.port readInt
  let reload ← given environment "API_RELOAD" base.reload fun s => .ok (Text.lower s == "true")
  let logLevel ← given environment "LOG_LEVEL" base.logLevel fun s => .ok (Text.upper s)
  let userDataDirectory ← given environment "FLOW_RUNTIME_USER_DATA_DIR" base.userDataDirectory
    fun s => if s == "" then .ok base.userDataDirectory else expandHome environment (.ofText s)
  let shellTimeLimit ← given environment "SHELL_TIMEOUT_MS" base.shellTimeLimit readInt
  let httpTimeLimit ← given environment "HTTP_TIMEOUT_MS" base.httpTimeLimit readInt
  let triggerRefresh ← given environment "TRIGGER_REFRESH_SECONDS" base.triggerRefresh readDouble
  return { databaseUrl, host, port, reload, logLevel, userDataDirectory, shellTimeLimit,
           httpTimeLimit, triggerRefresh }

def toValue (s : Settings) : Value :=
  .record [("database_url", .text s.databaseUrl), ("api_host", .text s.host), ("api_port", .int s.port),
    ("api_reload", .bool s.reload), ("log_level", .text s.logLevel),
    ("user_data_dir", .text s.userDataDirectory.text), ("shell_timeout_ms", .int s.shellTimeLimit),
    ("http_timeout_ms", .int s.httpTimeLimit), ("trigger_refresh_seconds", .float s.triggerRefresh)]

end Settings

end Workflow
