import Workflow.Shell.Condition

/-!
# Running scripts

Words are expanded and split, redirections take effect around a command, and a command is a function,
one of the shell's own commands, or a program. What runs apart from the script - the stages of a pipe, a
script in parentheses, the script of an expansion - changes files and time, but no variables.
-/
namespace Workflow.Shell

namespace Machine

/-- The state after something that ran apart in the state `inner`. -/
def rejoin (outer inner : Machine) : Machine :=
  { outer with
    files := inner.files, buffers := inner.buffers, elapsed := inner.elapsed, held := inner.held
    pending := inner.pending, isHeld := inner.isHeld, status := inner.status, input := inner.input }

/-- Runs something apart; that it exits ends nothing else. -/
def apart (body : Running Unit) : Running Unit := do
  let outer ← get
  let (r, inner) := body.run { outer with traps := [] }
  set (outer.rejoin inner)
  match r with
  | .ok () => pure ()
  | .error (.killed n) => throw (.killed n)
  | .error .late => throw .late
  | .error _ => pure ()

/-- Gives a variable back the value it had among older ones. -/
def restored (old : Shelf (List Char)) (name : String) (now : Shelf (List Char)) : Shelf (List Char) :=
  match old.get? name with
  | some v => now.put name v
  | none => now.remove name

/-- Runs something with other descriptors and another input, if it is given one. -/
def withDescriptors {α : Type} (body : Running α) : Running α := do
  let before ← get
  let (r, after) := body.run before
  set { after with sinks := before.sinks }
  MonadExcept.ofExcept r

/-- Ends a script whose last command failed, if it is strict. -/
def checked (isTested : Bool) : Running Unit := do
  let m ← get
  if m.isStrict && !isTested && m.status != 0 then throw .exit

/-- Shows the words of a command, if commands are shown. -/
def trace (sink : Sink) (words : List (List Char)) : Running Unit := do
  if (← get).isTraced then writeTo sink ⟨"+ ".toList ++ [' '].intercalate words ++ ['\n'], []⟩

/-- Prints what one of the shell's own commands has to say, and tells if there is no place for it. -/
def say (command : String) (cs : List Char) : Running Unit := do
  print cs
  setStatus 0
  if !cs.isEmpty && (← get).sinkOf 1 == .closed then
    complainOf command (command ++ ": I/O error").toList
    setStatus 1

def ofBool (b : Bool) : Running Unit := setStatus (if b then 0 else 1)

/-- The number that an argument gives, or the message that it is none. -/
def countArgument (command : String) (a : List Char) : Running Nat := do
  match Utility.natural? a with
  | some n => return n
  | none => refuseOf command (Test.illegal a)

def echo (arguments : List (List Char)) : Running Unit := do
  let (isOpen, words) : Bool × List (List Char) :=
    match arguments with
    | ['-', 'n'] :: rest => (true, rest)
    | ws => (false, ws)
  let u := Escape.replace ([' '].intercalate words)
  say "echo" (u.text ++ if isOpen || u.isCut then [] else ['\n'])

def printf (arguments : List (List Char)) : Running Unit := do
  match (match arguments with
    | ['-', '-'] :: rest => rest
    | ws => ws) with
  | [] =>
    complainOf "printf" "usage: printf format [arg ...]".toList
    setStatus 2
  | format :: rest =>
    let s := Printf.run format rest
    for c in s.complaints do complainOf "printf" c.toList
    match s.fault with
    | some f =>
      complainOf "printf" f.toList
      print s.output
      setStatus 2
    | none =>
      say "printf" s.output
      if !s.complaints.isEmpty then setStatus 1

def test (command : String) (arguments : List (List Char)) : Running Unit := do
  let m ← get
  let judge (ws : List (List Char)) : Running Unit := do
    match Test.run ⟨m.files, m.directory⟩ ws with
    | .ok b => ofBool b
    | .error message =>
      complainOf command message
      setStatus 2
  if command == "[" then
    if arguments.getLast? == some [']'] then judge arguments.dropLast
    else
      complainOf "[" "missing ]".toList
      setStatus 2
  else judge arguments

def changeDirectory (arguments : List (List Char)) : Running Unit := do
  let m ← get
  let target := (arguments.head?.orElse fun _ => m.bindings.get? "HOME").getD []
  let target := if target == ['-'] then (m.bindings.get? "OLDPWD").getD [] else target
  let path := ((pathOf target).within m.directory).normalise
  if m.files.isDirectory path then
    let old := byteText m.directory.text
    set { m with directory := path }
    assign "OLDPWD" old
    assign "PWD" (byteText path.text)
    if arguments.head? == some ['-'] then print (byteText path.text ++ ['\n'])
    setStatus 0
  else
    complainOf "cd" ("can't cd to ".toList ++ target)
    setStatus 2

/-- The name of a variable, or the message that it is none. -/
def variableName (command : String) (cs : List Char) : Running String := do
  if Token.isName cs then return String.ofList cs
  else refuseOf command (cs ++ ": bad variable name".toList)

/-- Marks variables, with or without a value. -/
def marking (command : String) (mark : String → Machine → Machine) (arguments : List (List Char)) :
    Running Unit := do
  for a in arguments do
    let name ← variableName command (a.takeWhile (· != '='))
    if a.contains '=' then assign name ((a.dropWhile (· != '=')).drop 1)
    modify (mark name)
  setStatus 0

/-- Marks a variable for the environment of programs. -/
def publish (name : String) (m : Machine) : Machine :=
  if m.exported.contains name then m else { m with exported := m.exported ++ [name] }

/-- Marks a variable as one that keeps its value. -/
def fix (name : String) (m : Machine) : Machine := { m with fixed := name :: m.fixed }

def unset (arguments : List (List Char)) : Running Unit := do
  for a in arguments.filter (·.head? != some '-') do
    let name ← variableName "unset" a
    checkFree name
    modify fun m => { m with
      bindings := m.bindings.remove name
      functions := if arguments.head? == some ['-', 'f'] then m.functions.remove name else m.functions }
  setStatus 0

/-- The letters of options that have names. -/
def optionNames : List (String × Char) :=
  [("errexit", 'e'), ("noglob", 'f'), ("nounset", 'u'), ("xtrace", 'x'), ("noclobber", 'C'),
    ("allexport", 'a'), ("notify", 'b'), ("ignoreeof", 'I'), ("interactive", 'i'), ("monitor", 'm'),
    ("noexec", 'n'), ("stdin", 's'), ("verbose", 'v'), ("vi", 'V'), ("emacs", 'E'), ("nolog", ' '),
    ("debug", ' ')]

/-- Switches an option on or off. -/
def switch (isOn : Bool) (letter : Char) (m : Machine) : Machine :=
  match letter with
  | 'e' => { m with isStrict := isOn }
  | 'u' => { m with needsValues := isOn }
  | 'x' => { m with isTraced := isOn }
  | 'f' => { m with isPlain := isOn }
  | _ => m

/-- Sets options and arguments. -/
def setOptions : List (List Char) → Running Unit
  | [] => setStatus 0
  | [sign, 'o'] :: name :: rest => do
    if sign == '-' || sign == '+' then
      match optionNames.lookup (String.ofList name) with
      | some letter => modify (switch (sign == '-') letter)
      | none => refuseOf "set" ("Illegal option -o ".toList ++ name)
      setOptions rest
    else
      modify fun m => { m with arguments := [sign, 'o'] :: name :: rest }
      setStatus 0
  | ['-', '-'] :: rest => do
    modify fun m => { m with arguments := rest }
    setStatus 0
  | (sign :: c :: letters) :: rest => do
    if sign == '-' || sign == '+' then
      for letter in c :: letters do
        if !"eufxabCimnsvVEI".contains letter then
          refuseOf "set" ("Illegal option ".toList ++ [sign, letter])
        modify (switch (sign == '-') letter)
      setOptions rest
    else
      modify fun m => { m with arguments := (sign :: c :: letters) :: rest }
      setStatus 0
  | words => do
    modify fun m => { m with arguments := words }
    setStatus 0

/-- The first line with the characters at which it may be split, how many characters it takes, and
whether it has an end. A backslash keeps the next character from that, and joins lines. -/
def splittableLine (isRaw : Bool) : List Char → List (Char × Bool) × Nat × Bool
  | [] => ([], 0, false)
  | '\\' :: c :: rest =>
    if isRaw then
      let (line, size, isWhole) := splittableLine isRaw (c :: rest)
      (('\\', true) :: line, size + 1, isWhole)
    else
      let (line, size, isWhole) := splittableLine isRaw rest
      (if c == '\n' then line else (c, false) :: line, size + 2, isWhole)
  | ['\\'] => (if isRaw then [('\\', true)] else [], 1, false)
  | c :: rest =>
    if c == '\n' then ([], 1, true)
    else
      let (line, size, isWhole) := splittableLine isRaw rest
      ((c, true) :: line, size + 1, isWhole)

/-- Reads a line into variables: each takes a word, the last what is left. -/
def readLine (arguments : List (List Char)) : Running Unit := do
  let (isRaw, names) : Bool × List (List Char) :=
    match arguments with
    | ['-', 'r'] :: rest => (true, rest)
    | ws => (false, ws)
  if names.isEmpty then refuseOf "read" "arg count".toList
  let m ← get
  let reach := if m.input.isEndless then m.input.text.length + m.input.cycle.length else m.input.text.length
  let (line, size, isWhole) := splittableLine isRaw (m.input.take reach)
  set { m with input := m.input.drop size }
  let splits (c : Char × Bool) : Bool := c.2 && m.separators.contains c.1
  let skip (cs : List (Char × Bool)) : List (Char × Bool) :=
    cs.dropWhile fun c => splits c && Piece.isBlank c.1
  let trimmed (cs : List (Char × Bool)) : List (Char × Bool) := (skip (skip cs).reverse).reverse
  let mut rest := skip line
  let mut left := names.length
  for name in names do
    left := left - 1
    let target ← variableName "read" name
    if left == 0 then assign target ((trimmed rest).map (·.1))
    else
      let field := rest.takeWhile fun c => !splits c
      assign target (field.map (·.1))
      rest := skip ((rest.drop field.length).drop 1)
  ofBool isWhole

/-- Sends a signal to a process; only the shell itself is there. -/
def kill (arguments : List (List Char)) : Running (Option Nat) := do
  if arguments.head? == some ['-', 'l'] then
    match arguments.drop 1 with
    | [] =>
      print (unlines (("0" :: signalNames).map String.toList))
      setStatus 0
    | a :: _ =>
      let n ← countArgument "kill" a
      let n := if n > 128 then n - 128 else n
      match (if n == 0 then none else signalNames[n - 1]?) with
      | some name =>
        print (name.toList ++ ['\n'])
        setStatus 0
      | none =>
        complainOf "kill" ("invalid signal number or exit status: ".toList ++ a)
        setStatus 2
    return none
  let (name, targets) : Option (List Char) × List (List Char) :=
    match arguments with
    | ['-', 's'] :: name :: rest => (some name, rest)
    | ('-' :: name) :: rest => (some name, rest)
    | ws => (none, ws)
  let name := String.ofList (name.getD "TERM".toList)
  match signal? name with
  | none =>
    complainOf "kill" ("Illegal option -" ++ (name.take 1).toString).toList
    setStatus 2
    return none
  | some n =>
    if targets.isEmpty then
      complainOf "kill" "Usage: kill [-s sigspec | -signum | -sigspec] [pid | job]... or\nkill -l [exitstatus]".toList
      setStatus 2
      return none
    let isSelf (t : List Char) : Bool := t == Utility.number process || t == ['0']
    for t in targets do
      if (Utility.natural? t).isNone then refuseOf "kill" (Test.illegal t)
      if !isSelf t then complainOf "kill" "No such process\n".toList
    ofBool (targets.all isSelf)
    let isHarmless := [0, 17, 18, 23, 28].contains n
    return if targets.any isSelf && !isHarmless then some n else none

/-- The text of a trap for a condition. -/
def trapFor (m : Machine) (condition : Nat) : Option (List Char) := m.traps.get? (toString condition)

/-- Lays down what is run on conditions. -/
def trap (arguments : List (List Char)) : Running Unit := do
  match arguments with
  | [] => setStatus 0
  | action :: conditions =>
    let (action, conditions) : Option (List Char) × List (List Char) :=
      if conditions.isEmpty then (none, [action])
      else if action == ['-'] then (none, conditions)
      else (some action, conditions)
    for c in conditions do
      match signal? (String.ofList c) with
      | none =>
        complainOf "trap" (c ++ ": bad trap".toList)
        setStatus 1
      | some n =>
        modify fun m => { m with traps :=
          match action with
          | some a => m.traps.put (toString n) a
          | none => m.traps.remove (toString n) }
        setStatus 0

/-- Runs a program by its name, or tells why there is none. -/
def program (isReplaced : Bool) (command : List Char) (arguments : List (List Char)) (assigned : List (String × List Char)) :
    Running Unit := do
  let m ← get
  let segments := (pathOf command).parts
  let isSystem := [["bin"], ["usr", "bin"]].contains segments.dropLast
  let hasSlash := command.contains '/'
  let name := if !hasSlash then some (shownText command) else if isSystem then segments.getLast? else none
  match name.bind Utility.named? with
  | some run =>
    let c := run ⟨arguments, m.input, m.files, m.directory, m.environment ++ assigned⟩
    write 2 ⟨c.errors, []⟩
    modify fun m => { m with files := c.files.getD m.files, input := {} }
    write 1 c.output
    pass c.duration
    setStatus c.status
  | none =>
    let place := (pathOf command).within m.directory
    if hasSlash && (m.files.locate FileTree.linkLimit place).toBool then
      complain (command ++ ": Permission denied".toList)
      setStatus 126
    else
      complain ((if isReplaced then "exec: ".toList else []) ++ command ++ ": not found".toList)
      setStatus 127

end Machine

open Machine

/-- The commands whose assignments stay. -/
def specialCommands : List String :=
  [":", ".", "break", "continue", "eval", "exec", "exit", "export", "local", "readonly", "return", "set",
    "shift", "times", "trap", "unset"]

/-- The commands of the shell that run others. -/
def runningCommands : List String := ["eval", "exec", ".", "command", "kill", "type"]

/-- How deep functions may run within another. -/
def depthLimit : Nat := 1000

/-- The names of shells. -/
def shells : List String :=
  ["sh", "dash", "/bin/sh", "/bin/dash", "/usr/bin/sh", "/usr/bin/dash"]

/-- The commands of the shell that are programs as well. -/
def ownPrograms : List String := ["echo", "printf", "true", "false", "test", "[", "pwd"]

/-- The commands of the shell that need nothing but arguments. -/
def plainCommand? (name : String) : Option (List (List Char) → Running Unit) :=
  match name with
  | ":" => some fun _ => setStatus 0
  | "true" => some fun _ => setStatus 0
  | "false" => some fun _ => setStatus 1
  | "echo" => some echo
  | "printf" => some printf
  | "test" => some (test "test")
  | "[" => some (test "[")
  | "cd" => some changeDirectory
  | "pwd" => some fun _ => do say "pwd" (byteText (← get).directory.text ++ ['\n'])
  | "export" => some (marking "export" publish)
  | "readonly" => some (marking "readonly" fix)
  | "local" => some fun arguments => do
    if (← get).depth == 0 then refuse "not in a function".toList
    for a in arguments do
      let name ← variableName "local" (a.takeWhile (· != '='))
      modify fun m => { m with hidden := (name, m.bindings.get? name) :: m.hidden }
      if a.contains '=' then assign name ((a.dropWhile (· != '=')).drop 1)
    setStatus 0
  | "unset" => some unset
  | "set" => some setOptions
  | "read" => some readLine
  | "trap" => some trap
  | "wait" => some fun _ => do
    let m ← get
    if m.isHeld then throw .late
    pass (some (m.held - m.elapsed))
    setStatus 0
  | "umask" => some fun arguments => do
    if arguments.isEmpty then print "0022\n".toList
    setStatus 0
  | "hash" => some fun _ => setStatus 0
  | "exit" => some fun arguments => do
    match arguments with
    | [] => throw .exit
    | a :: _ =>
      setStatus ((← countArgument "exit" a) % 256)
      throw .exit
  | "return" => some fun arguments => do
    match arguments with
    | [] => throw .back
    | a :: _ =>
      setStatus (← countArgument "return" a)
      throw .back
  | "break" => some fun arguments => do
    let n ← match arguments with
      | [] => pure 1
      | a :: _ => countArgument "break" a
    setStatus 0
    let loops := (← get).loops
    if loops != 0 then throw (.leave (min n loops))
  | "continue" => some fun arguments => do
    let n ← match arguments with
      | [] => pure 1
      | a :: _ => countArgument "continue" a
    setStatus 0
    let loops := (← get).loops
    if loops != 0 then throw (.again (min n loops))
  | "shift" => some fun arguments => do
    let n ← match arguments with
      | [] => pure 1
      | a :: _ => countArgument "shift" a
    let m ← get
    if n > m.arguments.length then refuseOf "shift" "can't shift that many".toList
    else
      set { m with arguments := m.arguments.drop n }
      setStatus 0
  | _ => none

/-- What a name stands for as a command, in words and as `command` writes it. -/
def described? (m : Machine) (cs : List Char) : Option (String × List Char) :=
  let name := String.ofList cs
  let isOwn := (plainCommand? name).isSome || runningCommands.contains name
  if Program.keywords.contains name then some ("a shell keyword", cs)
  else if specialCommands.contains name then some ("a special shell builtin", cs)
  else if (m.functions.get? name).isSome then some ("a shell function", cs)
  else if isOwn then some ("a shell builtin", cs)
  else if (Utility.named? name).isSome || shells.contains name then
    let path := "/usr/bin/" ++ name
    some (path, path.toList)
  else none

/-- Tells what names stand for as commands. -/
def describe (names : List (List Char)) : Running Unit := do
  setStatus 0
  for name in names do
    match described? (← get) name with
    | some (what, _) => print (name ++ " is ".toList ++ what.toList ++ ['\n'])
    | none =>
      print (name ++ ": not found\n".toList)
      setStatus 127

/-- How another shell is called: its options, whether the first of the other arguments is its script,
and those. -/
def shellOptions : List (List Char) → List Char × List (List Char)
  | ('-' :: c :: letters) :: rest =>
    let (more, rest) := shellOptions rest
    (c :: letters ++ more, rest)
  | rest => ([], rest)

/-- The state in which another shell begins. -/
def Machine.another (m : Machine) (assigned : List (String × List Char)) (title : List Char)
    (letters : List Char) (arguments : List (List Char)) : Machine :=
  let held := assigned.foldl (fun vs (name, value) => Shelf.put vs name value) m.environment
  { m with
    bindings := held, exported := Shelf.names held, functions := [], traps := [], arguments
    title, status := 0, line := 1, loops := 0, depth := 0, hidden := [], fixed := [], command := none
    isStrict := letters.contains 'e', needsValues := letters.contains 'u'
    isTraced := letters.contains 'x', isPlain := letters.contains 'f' }

/-- How a shell tells that a signal has ended a program. -/
def signalText (signal : Nat) : String :=
  ([(1, "Hangup"), (3, "Quit"), (4, "Illegal instruction"), (6, "Aborted"), (8, "Floating point exception"),
    (9, "Killed"), (10, "User defined signal 1"), (11, "Segmentation fault"),
    (12, "User defined signal 2"), (14, "Alarm clock"), (15, "Terminated")].lookup signal).getD ""

mutual

/-- What a part of a word expands to. -/
def part : Nat → Part → Running (List Piece)
  | 0, _ => throw .late
  | fuel + 1, p => do
    match p with
    | .literal cs => return Piece.literal cs
    | .quoted cs => return Piece.quoted cs
    | .malformed => refuse "Bad substitution".toList
    | .output isQuoted line script =>
      let text ← output fuel (line.getD 1) script
      return Piece.expanded isQuoted text
    | .arithmetic isQuoted text =>
      let last := (← get).line + Token.newlines text
      let text ← match Token.quotedWordOf last text with
        | .ok w => plain fuel w
        | .error _ => pure text
      let m ← get
      let malformed (what : String) : Running (List Piece) :=
        refuse (("arithmetic expression: " ++ what ++ ": \"").toList ++ text ++ ['"'])
      match Arithmetic.evaluate m.value? text with
      | .error .divisionByZero => malformed "division by zero"
      | .error (.expecting what) => malformed ("expecting " ++ what)
      | .error (.notNumber cs) => refuse (Test.illegal cs)
      | .ok (n, changed) =>
        for (name, n) in changed.reverse do assign name (toString n).toList
        return Piece.expanded isQuoted (toString n).toList
    | .parameter isQuoted name change =>
      let m ← get
      let found := m.value? name
      let isListed := name == "@" || (name == "*" && !isQuoted)
      let present : Running (List Char) := do
        if found.isNone && m.needsValues && name != "!" then
          refuse (name.toList ++ ": parameter not set".toList)
        return found.getD []
      let given : Running (List Piece) := do
        if isListed then return Piece.each isQuoted m.arguments
        return Piece.expanded isQuoted (← present)
      let counts (orEmpty : Bool) : Bool :=
        match found with
        | some cs => !(orEmpty && cs.isEmpty)
        | none => false
      let other (cs : List Char) : Running (List Piece) := do
        if isQuoted then
          match Token.quotedWordOf (m.line + Token.newlines cs) (Token.withoutQuotes cs.length cs) with
          | .ok w => return Piece.mark :: (← pieces fuel w)
          | .error e => refuse ("Syntax error: " ++ e).toList
        else
          match Token.wordOf (m.line + Token.newlines cs) cs with
          | .ok w =>
            let ps ← pieces fuel w
            return ps.map fun p =>
              match p with
              | .glyph g => .glyph { g with canSplit := g.canSplit || g.canMatch }
              | p => p
          | .error e => refuse ("Syntax error: " ++ e).toList
      match change with
      | .value => given
      | .length => return Piece.expanded isQuoted (Utility.number (← present).length)
      | .instead orEmpty word => if counts orEmpty then given else other word
      | .present orEmpty word => if counts orEmpty then other word else return Piece.expanded isQuoted []
      | .assign orEmpty word =>
        if counts orEmpty then given
        else
          let ps ← other word
          assign name (Piece.text ps)
          return Piece.expanded isQuoted (Piece.text ps)
      | .require orEmpty word =>
        if counts orEmpty then given
        else
          let text := Piece.text (← other word)
          refuse (name.toList ++ ": ".toList ++
            if text.isEmpty then
              (if orEmpty then "parameter not set or null".toList else "parameter not set".toList)
            else text)
      | .dropStart longest pattern =>
        let text ← present
        let wild ← wildOf fuel pattern
        return Piece.expanded isQuoted (Wild.dropStart longest wild text)
      | .dropEnd longest pattern =>
        let text ← present
        let wild ← wildOf fuel pattern
        return Piece.expanded isQuoted (Wild.dropEnd longest wild text)

/-- What a word expands to. -/
def pieces : Nat → Word → Running (List Piece)
  | 0, _ => throw .late
  | fuel + 1, w => do
    let home := ((← get).bindings.get? "HOME").getD []
    let w : Word :=
      match w with
      | .literal ('~' :: '/' :: cs) :: rest => .quoted home :: .literal ('/' :: cs) :: rest
      | [.literal ['~']] => [.quoted home]
      | w => w
    return (← w.mapM (part fuel)).flatten

/-- The pattern that a text is. -/
def wildOf : Nat → List Char → Running (List Wild)
  | 0, _ => throw .late
  | fuel + 1, cs => do
    match Token.wordOf ((← get).line + Token.newlines cs) cs with
    | .ok w => return Wild.ofGlyphs (Piece.glyphs (← pieces fuel w))
    | .error e => refuse ("Syntax error: " ++ e).toList

/-- A word as one text. -/
def plain : Nat → Word → Running (List Char)
  | 0, _ => throw .late
  | fuel + 1, w => return Piece.text (← pieces fuel w)

/-- Words as fields, with the names of files in the place of patterns. -/
def fields : Nat → List Word → Running (List (List Char))
  | 0, _ => throw .late
  | fuel + 1, ws => do
    let expanded ← ws.mapM (pieces fuel)
    let m ← get
    return expanded.flatMap fun ps =>
      let fields := Piece.split m.separators ps none false
      if m.isPlain then fields.map fun f => f.map Glyph.char
      else fields.flatMap (pathnames m.files m.directory)

/-- Runs what has been laid down for the end of a script. -/
def atExit : Nat → Running Unit
  | 0 => throw .late
  | fuel + 1 => do
    match (← get).trapFor 0 with
    | none => pure ()
    | some action =>
      let status := (← get).status
      modify fun m => { m with traps := m.traps.remove "0", loops := 0 }
      scripts fuel (Program.read action)
      setStatus status

/-- Runs something up to its end, and what has been laid down for that. -/
def ended : Nat → Running Unit → Running Unit
  | 0, _ => throw .late
  | fuel + 1, body => do
    try body
    catch
      | .killed n => throw (.killed n)
      | .late => throw .late
      | _ => pure ()
    atExit fuel

/-- What a script writes that begins on a line, without line ends behind it. -/
def output : Nat → Nat → List Char → Running (List Char)
  | 0, _, _ => throw .late
  | fuel + 1, line, script => do
    let before ← get
    let place := before.buffers.length
    set { before with buffers := before.buffers ++ [({} : Source)] }
    setSink 1 (.buffer place)
    apart (ended fuel (scripts fuel (Program.readFrom line script)))
    modify fun m => { m.settle (· == place) none with
      sinks := before.sinks, status := before.status, substituted := m.status }
    let written := ((← get).buffers[place]?).getD {}
    let text := written.text.filter (· != '\x00')
    return (text.reverse.dropWhile (· == '\n')).reverse

/-- Makes redirections; whether all could be made. -/
def redirect : Nat → List Redirection → Running Bool
  | 0, _ => throw .late
  | _, [] => return true
  | fuel + 1, r :: rest => do
    let target ← plain fuel r.word
    let m ← get
    let path := (pathOf target).within m.directory
    let fail (message : String) : Running Bool := do
      complain (message.toList ++ target ++ ": No such file".toList)
      setStatus 2
      return false
    let place := if target.isEmpty then .error .notFound else m.files.newPlace FileTree.linkLimit path
    let special? : Option Sink :=
      match String.ofList target with
      | "/dev/null" => some .nowhere
      | "/dev/stdout" => some (m.sinkOf 1)
      | "/dev/stderr" => some (m.sinkOf 2)
      | _ => none
    let toFile (isAppended : Bool) : Running Bool := do
      match special? with
      | some s =>
        setSink r.descriptor s
        redirect fuel rest
      | none =>
        match place with
        | .error _ =>
          complain ("cannot create ".toList ++ target ++ ": Directory nonexistent".toList)
          setStatus 2
          return false
        | .ok parts =>
          if m.files.isDirectory path then
            complain ("cannot create ".toList ++ target ++ ": Is a directory".toList)
            setStatus 2
            return false
          else
            if !isAppended || (m.files.entry? parts).isNone then
              modify fun m => { m with files := m.files.write parts [] }
            setSink r.descriptor (.file parts)
            redirect fuel rest
    match r.direction with
    | .here _ =>
      modify fun m => { m with input := ⟨target, []⟩ }
      redirect fuel rest
    | .input =>
      match Utility.source ⟨[], m.input, m.files, m.directory, []⟩ target with
      | .error .isDirectory =>
        if target.isEmpty then return (← fail "cannot open ")
        modify fun m => { m with input := {} }
        redirect fuel rest
      | .error _ => fail "cannot open "
      | .ok s =>
        modify fun m => { m with input := s }
        redirect fuel rest
    | .output => toFile false
    | .append => toFile true
    | .copy =>
      if target == ['-'] then setSink r.descriptor .closed
      else
        match Utility.natural? target with
        | none => refuse "Syntax error: Bad fd number".toList
        | some n =>
          if n != 0 && m.sinkOf n == .closed then
            complain (target ++ ": Bad file descriptor".toList)
            setStatus 2
            return false
          if n != 0 then setSink r.descriptor (m.sinkOf n)
      redirect fuel rest

/-- Runs something with redirections around it, if they can be made; whether they can. -/
def redirecting : Nat → List Redirection → Running Unit → Running Bool
  | 0, _, _ => throw .late
  | fuel + 1, rs, body => do
    let input := (← get).input
    let isMade ← withDescriptors do
      let isMade ← redirect fuel rs
      if isMade then body
      return isMade
    if rs.any fun r => r.descriptor == 0 then modify fun m => { m with input }
    return isMade

/-- Runs something in the name of a command. -/
def naming : Nat → List Char → Running Unit → Running Unit
  | 0, _, _ => throw .late
  | _, command, body => do
    let before := (← get).command
    modify fun m => { m with command := some command }
    let (r, after) := body.run (← get)
    set { after with command := before }
    MonadExcept.ofExcept r

/-- Runs a command that has been expanded. -/
def invoke : Nat → List Char → List (List Char) → List (String × List Char) → Running Unit
  | 0, _, _, _ => throw .late
  | fuel + 1, command, arguments, assigned => do
    let name := String.ofList command
    let m ← get
    match m.functions.get? name with
    | some body =>
      if m.depth ≥ depthLimit then
        refuse ("Maximum function recursion depth (" ++ toString depthLimit ++ ") reached").toList
      set { m with arguments, hidden := [], depth := m.depth + 1, loops := 0 }
      let leave : Running Unit := modify fun n => { n with
        arguments := m.arguments
        depth := m.depth
        loops := m.loops
        hidden := m.hidden
        bindings := n.hidden.foldl (fun vs (name, old) =>
          match old with
          | some v => vs.put name v
          | none => vs.remove name) n.bindings }
      try evaluate fuel false body
      catch
        | .back => pure ()
        | stop =>
          leave
          throw stop
      leave
    | none =>
      match plainCommand? name with
      | some run =>
        try naming fuel command (run arguments)
        catch stop =>
          match stop with
          | .exit => if specialCommands.contains name then throw .exit else pure ()
          | stop => throw stop
      | none =>
        if name == "eval" then
          naming fuel command (scripts fuel (Program.read ([' '].intercalate arguments)))
        else if name == "exec" then
          match arguments with
          | [] => setStatus 0
          | command :: arguments =>
            match (if ownPrograms.contains (String.ofList command) then
                plainCommand? (String.ofList command) else none) with
            | some run => run arguments
            | none => program true command arguments assigned
            throw .exit
        else if name == "." then
          let place := (pathOf (arguments.headD [])).within m.directory
          match m.files.read place with
          | .ok bytes => naming fuel (arguments.headD []) (scripts fuel (Program.read (ofBytes bytes)))
          | .error _ =>
            let file := arguments.headD []
            if file.contains '/' then refuseOf "." ("cannot open ".toList ++ file ++ ": No such file".toList)
            else refuseOf "." (file ++ ": not found".toList)
        else if name == "command" then
          match arguments with
          | ['-', 'v'] :: sought :: _ =>
            match described? m sought with
            | some (_, text) =>
              print (text ++ ['\n'])
              setStatus 0
            | none => setStatus 127
          | ['-', 'V'] :: sought :: _ => describe [sought]
          | [] => setStatus 0
          | command :: arguments => invoke fuel command arguments assigned
        else if name == "type" then describe arguments
        else if name == "kill" then
          let signal ← try kill arguments
            catch
              | .exit => pure none
              | stop => throw stop
          match signal with
          | none => pure ()
          | some n =>
            let m ← get
            match (if n == 9 then none else m.trapFor n) with
            | some action => scripts fuel (Program.read action)
            | none => throw (.killed n)
        else
          match (if (pathOf command).parts.dropLast.getLast? == some "bin" then
              (pathOf command).parts.getLast?.filter ownPrograms.contains else none) with
          | some own => ((plainCommand? own).getD fun _ => pure ()) arguments
          | none => external fuel command arguments assigned

/-- Runs a program that is not the shell itself. -/
def external : Nat → List Char → List (List Char) → List (String × List Char) → Running Unit
  | 0, _, _, _ => throw .late
  | fuel + 1, command, arguments, assigned => do
    if shells.contains (String.ofList command) then another fuel command arguments assigned
    else if String.ofList command == "env" then
      let m ← get
      let held := assigned.foldl (fun vs (name, value) => Shelf.put vs name value) m.environment
      let (held, rest) := Utility.settings held arguments
      apart do
        modify fun m => { m with bindings := held, exported := Shelf.names held }
        match rest with
        | [] => program false command [] []
        | command :: arguments =>
          match (if ownPrograms.contains (String.ofList command) then
              plainCommand? (String.ofList command) else none) with
          | some run => run arguments
          | none =>
            if !command.contains '/' && (described? { m with functions := [] } command).isNone then
              write 2 ⟨"env: '".toList ++ command ++ "': No such file or directory\n".toList, []⟩
              setStatus 127
            else external fuel command arguments []
    else program false command arguments assigned

/-- Runs another shell. -/
def another : Nat → List Char → List (List Char) → List (String × List Char) → Running Unit
  | 0, _, _, _ => throw .late
  | fuel + 1, command, arguments, assigned => do
    let m ← get
    let (letters, rest) := shellOptions arguments
    let fault (message : List Char) : Running Unit := do
      write 2 ⟨command ++ ": 0: ".toList ++ message ++ ['\n'], []⟩
      setStatus 2
    let start (title : List Char) (arguments : List (List Char)) (script : List Char) : Running Unit := do
      let (r, inner) := (ended fuel (scripts fuel (Program.read script))).run
        (m.another assigned title letters arguments)
      set (m.rejoin inner)
      match r with
      | .error .late => throw .late
      | .error (.killed n) =>
        write 2 ⟨(signalText n).toList ++ ['\n'], []⟩
        setStatus (128 + n)
      | _ => pure ()
    if letters.contains 'c' then
      match rest with
      | [] => fault "-c requires an argument".toList
      | [script] => start command [] script
      | script :: title :: arguments => start title arguments script
    else
      match rest with
      | [] =>
        set { m with input := {} }
        start command [] m.input.text
      | file :: arguments =>
        match m.files.read ((pathOf file).within m.directory) with
        | .ok bytes => start file arguments (ofBytes bytes)
        | .error _ => fault ("cannot open ".toList ++ file ++ ": No such file".toList)

/-- Runs the scripts of a program, and tells of its fault. -/
def scripts : Nat → Program → Running Unit
  | 0, _ => throw .late
  | fuel + 1, p => do
    match p.scripts with
    | s :: rest =>
      evaluate fuel false s
      scripts fuel { p with scripts := rest }
    | [] =>
      match p.fault with
      | none => pure ()
      | some f =>
        modify fun m => { m with line := f.line }
        refuse ("Syntax error: " ++ f.message).toList

/-- Runs a script; one that is tested may fail although the whole is strict. -/
def evaluate : Nat → Bool → Script → Running Unit
  | 0, _, _ => throw .late
  | fuel + 1, isTested, s => do
    match s with
    | .nothing => setStatus 0
    | .simple line assignments words redirections =>
      modify fun m => { m with line, substituted := 0 }
      let words ← fields fuel words
      let old := (← get).bindings
      let sink := (← get).sinkOf 2
      let assigned : Running (List (String × List Char)) := do
        let assigned ← assignments.mapM fun (name, w) => do
          let value ← plain fuel w
          assign name value
          return (name, value)
        trace sink (assigned.map (fun (name, value) => name.toList ++ '=' :: value) ++ words)
        return assigned
      match words with
      | [] =>
        let _ ← redirecting fuel redirections do
          let _ ← assigned
          setStatus (← get).substituted
      | command :: arguments =>
        let name := String.ofList command
        if name == "exec" && arguments.isEmpty then
          if !(← redirect fuel redirections) then throw .exit
          let _ ← assigned
          setStatus 0
        else
          let isKept := specialCommands.contains name
          let isMade ← redirecting fuel redirections do
            let assigned ← assigned
            invoke fuel command arguments assigned
            if !isKept then
              for (name, _) in assigned do
                modify fun m => { m with bindings := restored old name m.bindings }
          if !isMade && isKept then throw .exit
      checked isTested
    | .pipe stages =>
      let sinks := (← get).sinks
      let input := (← get).input
      pipe fuel stages
      modify fun m => { m with sinks, input }
      checked isTested
    | .negate s =>
      evaluate fuel true s
      ofBool ((← get).status != 0)
    | .both s t =>
      evaluate fuel true s
      if (← get).status == 0 then evaluate fuel isTested t
    | .either s t =>
      evaluate fuel true s
      if (← get).status != 0 then evaluate fuel isTested t
    | .sequence s t =>
      evaluate fuel isTested s
      evaluate fuel isTested t
    | .background s =>
      let m ← get
      let (_, inner) := (ended fuel (evaluate fuel isTested s)).run
        { m with input := {}, traps := [], launched := some (m.launched.getD m.elapsed) }
      set { m.rejoin inner with elapsed := m.elapsed, input := m.input, status := 0 }
    | .subshell line s =>
      modify fun m => { m with line }
      apart (ended fuel (evaluate fuel isTested s))
      checked isTested
    | .redirected line s redirections =>
      modify fun m => { m with line }
      let _ ← redirecting fuel redirections (evaluate fuel isTested s)
    | .branch condition yes no =>
      evaluate fuel true condition
      if (← get).status == 0 then evaluate fuel isTested yes else evaluate fuel isTested no
    | .loop goal condition body =>
      rounds fuel isTested goal condition body 0
    | .each line name words body =>
      modify fun m => { m with line }
      let values ← match words with
        | some ws => fields fuel ws
        | none => pure (← get).arguments
      if values.isEmpty then setStatus 0
      overEach fuel isTested name values body
    | .choice line subject arms =>
      modify fun m => { m with line }
      let text ← plain fuel subject
      choose fuel isTested text arms
    | .define name body =>
      modify fun m => { m with functions := m.functions.put name body }
      setStatus 0

/-- Runs stages, each with what the one before wrote as its input. -/
def pipe : Nat → List Script → Running Unit
  | 0, _ => throw .late
  | _, [] => pure ()
  | fuel + 1, [s] => apart (ended fuel (evaluate fuel false s))
  | fuel + 1, s :: rest => do
    let m ← get
    let place := m.buffers.length
    let start := m.elapsed
    set { m with buffers := m.buffers ++ [({} : Source)] }
    setSink 1 (.buffer place)
    let isLate ← try
        apart (ended fuel (evaluate fuel false s))
        pure false
      catch
        | .late => pure true
        | stop => throw stop
    modify (settle (· == place) none)
    let written := ((← get).buffers[place]?).getD {}
    if isLate && !written.isEndless then throw .late
    let finish := (← get).elapsed
    modify fun n => { n with sinks := m.sinks, input := written, elapsed := start, status := m.status }
    pipe fuel rest
    modify fun n => { n with elapsed := max n.elapsed finish }

/-- Runs the body of a loop once; whether the loop goes on. -/
def round : Nat → Bool → Script → Running Bool
  | 0, _, _ => throw .late
  | fuel + 1, isTested, body =>
    try
      modify fun m => { m with loops := m.loops + 1 }
      evaluate fuel isTested body
      modify fun m => { m with loops := m.loops - 1 }
      return true
    catch stop =>
      modify fun m => { m with loops := m.loops - 1 }
      match stop with
      | .leave n => if n ≤ 1 then return false else throw (.leave (n - 1))
      | .again n => if n ≤ 1 then return true else throw (.again (n - 1))
      | stop => throw stop

def rounds : Nat → Bool → Bool → Script → Script → Nat → Running Unit
  | 0, _, _, _, _, _ => throw .late
  | fuel + 1, isTested, goal, condition, body, status => do
    evaluate fuel true condition
    if ((← get).status == 0) == goal then
      if ← round fuel isTested body then rounds fuel isTested goal condition body (← get).status
    else setStatus status

def overEach : Nat → Bool → String → List (List Char) → Script → Running Unit
  | 0, _, _, _, _ => throw .late
  | _, _, _, [], _ => pure ()
  | fuel + 1, isTested, name, value :: rest, body => do
    assign name value
    if ← round fuel isTested body then overEach fuel isTested name rest body

def choose : Nat → Bool → List Char → List (List Word × Script) → Running Unit
  | 0, _, _, _ => throw .late
  | _, _, _, [] => setStatus 0
  | fuel + 1, isTested, text, (patterns, s) :: rest => do
    let wilds ← patterns.mapM fun w => do return Wild.ofGlyphs (Piece.glyphs (← pieces fuel w))
    if wilds.any fun w => Wild.accept w text then evaluate fuel isTested s
    else choose fuel isTested text rest

end

end Workflow.Shell
