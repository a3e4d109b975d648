import Workflow.Shell.Token

/-!
# Reading scripts

The tokens of a text as scripts. A text is read line by line: each line gives a script, and a line that
cannot be read ends the text with a fault, after the scripts of the lines before it.
-/
namespace Workflow.Shell

structure SyntaxFault where
  line : Nat
  message : String

/-- The scripts of a text, and the fault behind them if there is one. -/
structure Program where
  scripts : List Script
  fault : Option SyntaxFault := none

namespace Program

/-- A reader of tokens. -/
abbrev Reading (α : Type) := StateT (List Placed) (Except SyntaxFault) α

def keywords : List String :=
  ["if", "then", "elif", "else", "fi", "while", "until", "do", "done", "for", "case", "esac", "in",
    "!", String.ofList [Token.openBrace], String.ofList [Token.closeBrace]]

def keyword? (t : Token) : Option String :=
  match t with
  | .word w => (Token.literal? w).filter keywords.contains
  | _ => none

/-- How a token is called in a fault. -/
def called (isCommand : Bool) : Option Token → String
  | none => "end of file"
  | some .newline => "newline"
  | some (.sign s) => "\"" ++ s ++ "\""
  | some (.redirect _ _) => "redirection"
  | some (.fault m) => m
  | some (.word w) =>
    match (if isCommand then keyword? (.word w) else none) with
    | some k => "\"" ++ k ++ "\""
    | none => "word"

def peek : Reading (Option Token) := return (← get).head?.map Placed.token

def skip : Reading Unit := modify (·.drop 1)

/-- The fault that the next token does not belong where it stands. -/
def unexpected {α : Type} (last : Nat) (expected : Option String) : Reading α := do
  let tokens ← get
  let line := (tokens.head?.map Placed.line).getD last
  match tokens.head?.map Placed.token with
  | some (.fault m) => throw ⟨line, m⟩
  | t =>
    let expecting := (expected.map fun e => " (expecting \"" ++ e ++ "\")").getD ""
    throw ⟨line, called true t ++ " unexpected" ++ expecting⟩

def isSign (s : String) : Option Token → Bool
  | some (.sign t) => s == t
  | _ => false

def isKeyword (s : String) : Option Token → Bool
  | some t => keyword? t == some s
  | none => false

def isNewline : Option Token → Bool
  | some .newline => true
  | _ => false

/-- Reads over a keyword that must stand here. -/
def expectKeyword (last : Nat) (s : String) : Reading Unit := do
  if isKeyword s (← peek) then skip else unexpected last (some s)

def expectSign (last : Nat) (s : String) : Reading Unit := do
  if isSign s (← peek) then skip else unexpected last (some s)

def skipNewlines : Reading Unit :=
  modify fun tokens => tokens.dropWhile fun t => isNewline (some t.token)

/-- Whether a token may begin a command. -/
def beginsCommand : Option Token → Bool
  | some (.word w) =>
    match keyword? (.word w) with
    | some k => ["if", "while", "until", "for", "case", "!", String.ofList [Token.openBrace]].contains k
    | none => true
  | some (.redirect _ _) => true
  | some (.fault _) => true
  | t => isSign "(" t

/-- Whether commands end at a token. -/
def endsList (t : Option Token) : Bool :=
  t.isNone || isSign ")" t || isSign ";;" t || (t.bind keyword?).any fun k =>
    ["then", "elif", "else", "fi", "do", "done", "esac", String.ofList [Token.closeBrace]].contains k

/-- The name and value of a word that assigns a variable. -/
def assignment? (w : Word) : Option (String × Word) :=
  match w with
  | .literal text :: rest =>
    let name := text.takeWhile (· != '=')
    match text.drop name.length with
    | '=' :: value =>
      if Token.isName name then
        some (String.ofList name, if value.isEmpty then rest else .literal value :: rest)
      else none
    | _ => none
  | _ => none

/-- A redirection whose operator has been read. -/
def redirection (last descriptor : Nat) (direction : Direction) : Reading Redirection := do
  match ← peek with
  | some (.word w) => skip; return ⟨descriptor, direction, w⟩
  | _ => unexpected last none

/-- The redirections behind a command. -/
def redirections (last : Nat) : Nat → Reading (List Redirection)
  | 0 => return []
  | fuel + 1 => do
    match ← peek with
    | some (.redirect d direction) =>
      skip
      let r ← redirection last d direction
      return r :: (← redirections last fuel)
    | _ => return []

/-- Words up to the end of a line or a sign. -/
def words : Nat → Reading (List Word)
  | 0 => return []
  | fuel + 1 => do
    match ← peek with
    | some (.word w) => skip; return w :: (← words fuel)
    | _ => return []

/-- The patterns of an arm, up to the sign behind them. -/
def patterns (last : Nat) : Nat → Reading (List Word)
  | 0 => return []
  | fuel + 1 => do
    match ← peek with
    | some (.word w) =>
      skip
      if isSign "|" (← peek) then
        skip
        return w :: (← patterns last fuel)
      else
        expectSign last ")"
        return [w]
    | _ => unexpected last (some ")")

/-- What a simple command has when it is read: assignments, words and redirections. -/
structure SimpleParts where
  assignments : List (String × Word) := []
  words : List Word := []
  redirections : List Redirection := []

/-- The parts of a simple command, up to the token that ends it. -/
def simpleParts (last : Nat) : Nat → SimpleParts → Reading SimpleParts
  | 0, p => return p
  | fuel + 1, p => do
    match ← peek with
    | some (.word w) =>
      skip
      match (if p.words.isEmpty then assignment? w else none) with
      | some a => simpleParts last fuel { p with assignments := p.assignments ++ [a] }
      | none => simpleParts last fuel { p with words := p.words ++ [w] }
    | some (.redirect d direction) =>
      skip
      let r ← redirection last d direction
      simpleParts last fuel { p with redirections := p.redirections ++ [r] }
    | some (.fault _) => unexpected last none
    | _ => return p

/-- Puts redirections around a command that has some. -/
def around (line : Nat) (s : Script) : List Redirection → Script
  | [] => s
  | rs => .redirected line s rs

mutual

/-- Commands up to a token that cannot begin one; line ends separate them if `isOpen`. -/
def list (last : Nat) (isOpen : Bool) : Nat → Reading Script
  | 0 => return .nothing
  | fuel + 1 => do
    if isOpen then skipNewlines
    if isOpen && (← peek).isNone then return .nothing
    let first ← chain last fuel
    let next ← peek
    let (first, isSeparated) ←
      if isSign ";" next then do skip; pure (first, true)
      else if isSign "&" next then do skip; pure (Script.background first, true)
      else pure (first, isOpen && isNewline next)
    if isSeparated then
      if isOpen then skipNewlines
      let next ← peek
      if beginsCommand next then return .sequence first (← list last isOpen fuel)
      else if isOpen && !endsList next then unexpected last none
      else return first
    else return first

/-- Commands joined by signs that look at how the one before ended. -/
def chain (last : Nat) : Nat → Reading Script
  | 0 => return .nothing
  | fuel + 1 => do chainFrom last (← pipeline last fuel) fuel

def chainFrom (last : Nat) (first : Script) : Nat → Reading Script
  | 0 => return first
  | fuel + 1 => do
    let next ← peek
    if isSign "&&" next then
      skip; skipNewlines
      chainFrom last (.both first (← pipeline last fuel)) fuel
    else if isSign "||" next then
      skip; skipNewlines
      chainFrom last (.either first (← pipeline last fuel)) fuel
    else return first

def pipeline (last : Nat) : Nat → Reading Script
  | 0 => return .nothing
  | fuel + 1 => do
    let isTurned := isKeyword "!" (← peek)
    if isTurned then skip
    let s : Script := match ← stages last fuel with
      | [s] => s
      | all => .pipe all
    return if isTurned then .negate s else s

def stages (last : Nat) : Nat → Reading (List Script)
  | 0 => return []
  | fuel + 1 => do
    let first ← command last fuel
    if isSign "|" (← peek) then
      skip; skipNewlines
      return first :: (← stages last fuel)
    else return [first]

def command (last : Nat) : Nat → Reading Script
  | 0 => return .nothing
  | fuel + 1 => do
    let next ← peek
    let line := ((← get).head?.map Placed.line).getD last
    if !beginsCommand next || isKeyword "!" next then unexpected last none
    else if isSign "(" next then
      skip
      let s ← list last true fuel
      expectSign last ")"
      return around line (.subshell line s) (← redirections last fuel)
    else
      match next.bind keyword? with
      | some "if" =>
        skip
        let s ← branches last fuel
        return around line s (← redirections last fuel)
      | some "while" =>
        skip
        return around line (← loop last true fuel) (← redirections last fuel)
      | some "until" =>
        skip
        return around line (← loop last false fuel) (← redirections last fuel)
      | some "for" =>
        skip
        return around line (← each last line fuel) (← redirections last fuel)
      | some "case" =>
        skip
        return around line (← choice last line fuel) (← redirections last fuel)
      | some _ =>
        skip
        let s ← list last true fuel
        expectKeyword last (String.ofList [Token.closeBrace])
        return around line s (← redirections last fuel)
      | none =>
        let p ← simpleParts last fuel {}
        if isSign "(" (← peek) then
          match p.words.map Token.literal? with
          | [some name] =>
            if p.assignments.isEmpty && p.redirections.isEmpty then
              skip
              expectSign last ")"
              skipNewlines
              return .define name (← command last fuel)
            else unexpected last none
          | _ => unexpected last none
        else return .simple line p.assignments p.words p.redirections

/-- What follows `if`. -/
def branches (last : Nat) : Nat → Reading Script
  | 0 => return .nothing
  | fuel + 1 => do
    let condition ← list last true fuel
    expectKeyword last "then"
    let yes ← list last true fuel
    let next ← peek
    if isKeyword "elif" next then
      skip
      return .branch condition yes (← branches last fuel)
    else if isKeyword "else" next then
      skip
      let no ← list last true fuel
      expectKeyword last "fi"
      return .branch condition yes no
    else
      expectKeyword last "fi"
      return .branch condition yes .nothing

def loop (last : Nat) (goal : Bool) : Nat → Reading Script
  | 0 => return .nothing
  | fuel + 1 => do
    let condition ← list last true fuel
    return .loop goal condition (← body last fuel)

/-- The commands between `do` and `done`. -/
def body (last : Nat) : Nat → Reading Script
  | 0 => return .nothing
  | fuel + 1 => do
    expectKeyword last "do"
    let s ← list last true fuel
    expectKeyword last "done"
    return s

def each (last line : Nat) : Nat → Reading Script
  | 0 => return .nothing
  | fuel + 1 => do
    match ← peek with
    | some (.word w) =>
      match (Token.literal? w).filter fun name => Token.isName name.toList with
      | none => throw ⟨((← get).head?.map Placed.line).getD last, "Bad for loop variable"⟩
      | some name =>
        skip
        let isListed := isKeyword "in" (← peek)
        let values ←
          if isListed then do
            skip
            pure (some (← words fuel))
          else pure none
        let next ← peek
        if isSign ";" next then skip
        else if isListed && !isNewline next then unexpected last none
        skipNewlines
        return .each line name values (← body last fuel)
    | _ => throw ⟨((← get).head?.map Placed.line).getD last, "Bad for loop variable"⟩

def choice (last line : Nat) : Nat → Reading Script
  | 0 => return .nothing
  | fuel + 1 => do
    match ← peek with
    | some (.word subject) =>
      skip; skipNewlines
      expectKeyword last "in"
      return .choice line subject (← arms last fuel)
    | _ => unexpected last none

def arms (last : Nat) : Nat → Reading (List (List Word × Script))
  | 0 => return []
  | fuel + 1 => do
    skipNewlines
    if isKeyword "esac" (← peek) then
      skip
      return []
    if isSign "(" (← peek) then skip
    let ps ← patterns last fuel
    skipNewlines
    let s ← if beginsCommand (← peek) then list last true fuel else pure .nothing
    if isSign ";;" (← peek) then
      skip
      return (ps, s) :: (← arms last fuel)
    else
      expectKeyword last "esac"
      return [(ps, s)]

end

/-- The scripts within words that are read together with the words, each with its line. -/
def inlineScripts (ws : List Word) : List (Nat × List Char) :=
  ws.flatten.filterMap fun p =>
    match p with
    | .output _ (some line) text => some (line, text)
    | _ => none

/-- The scripts within the words of a script, each with its line. -/
def scriptsWithin : Nat → Script → List (Nat × List Char)
  | 0, _ => []
  | fuel + 1, s =>
    match s with
    | .nothing => []
    | .simple _ assignments words redirections =>
      inlineScripts (assignments.map (·.2) ++ words ++ redirections.map Redirection.word)
    | .pipe stages => stages.flatMap (scriptsWithin fuel)
    | .negate s => scriptsWithin fuel s
    | .both s t => scriptsWithin fuel s ++ scriptsWithin fuel t
    | .either s t => scriptsWithin fuel s ++ scriptsWithin fuel t
    | .sequence s t => scriptsWithin fuel s ++ scriptsWithin fuel t
    | .background s => scriptsWithin fuel s
    | .subshell _ s => scriptsWithin fuel s
    | .redirected _ s redirections =>
      scriptsWithin fuel s ++ inlineScripts (redirections.map Redirection.word)
    | .branch c s t => scriptsWithin fuel c ++ scriptsWithin fuel s ++ scriptsWithin fuel t
    | .loop _ c s => scriptsWithin fuel c ++ scriptsWithin fuel s
    | .each _ _ words s => inlineScripts (words.getD []) ++ scriptsWithin fuel s
    | .choice _ subject arms =>
      inlineScripts [subject] ++ arms.flatMap fun (patterns, s) =>
        inlineScripts patterns ++ scriptsWithin fuel s
    | .define _ s => scriptsWithin fuel s

mutual

/-- Reads line by line. A line whose words hold a script that cannot be read cannot be read either. -/
def readWithin (last : Nat) : Nat → List Placed → Program
  | 0, _ => ⟨[], none⟩
  | fuel + 1, tokens =>
    let tokens := tokens.dropWhile fun t => isNewline (some t.token)
    if tokens.isEmpty then ⟨[], none⟩
    else
      let limit := 8 * tokens.length + 8
      match (list last false limit).run tokens with
      | .error f => ⟨[], some f⟩
      | .ok (s, rest) =>
        match (scriptsWithin limit s).findSome? fun (line, text) => (readText fuel line text).fault with
        | some f => ⟨[], some f⟩
        | none =>
          match rest with
          | [] => ⟨[s], none⟩
          | ⟨_, .newline⟩ :: rest =>
            let p := readWithin last fuel rest
            { p with scripts := s :: p.scripts }
          | rest =>
            match (unexpected (α := Unit) last none).run rest with
            | .error f => ⟨[], some f⟩
            | .ok _ => ⟨[], none⟩

def readText : Nat → Nat → List Char → Program
  | 0, _, _ => ⟨[], none⟩
  | fuel + 1, line, text => readWithin (line + Token.newlines text) fuel (Token.read line text)

end

/-- The program that a text is which begins on a line. -/
def readFrom (line : Nat) (text : List Char) : Program := readText (text.length + 2) line text

/-- The program that a text is. -/
def read (text : List Char) : Program := readFrom 1 text

end Program

end Workflow.Shell
