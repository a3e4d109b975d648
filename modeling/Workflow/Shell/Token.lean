import Workflow.Shell.Script

/-!
# Tokens

A script is read as words, signs, redirections and line ends, each with the number of its line. What
cannot be read is the last token, a fault: the tokens before it still count.
-/
namespace Workflow.Shell

inductive Token where
  | word (w : Word)
  | sign (text : String)
  | redirect (descriptor : Nat) (direction : Direction)
  | newline
  | fault (message : String)

structure Placed where
  line : Nat
  token : Token

namespace Token

/-- The sign that opens and closes a script within a word, by its number. -/
def backquote : Char := Char.ofNat 96

def openBrace : Char := '\x7b'

def closeBrace : Char := '\x7d'

def unterminated : String := "Unterminated quoted string"

def isNameStart (c : Char) : Bool := c.isAlpha || c == '_'

def isNameChar (c : Char) : Bool := c.isAlphanum || c == '_'

def isName (cs : List Char) : Bool :=
  match cs with
  | [] => false
  | c :: rest => isNameStart c && rest.all isNameChar

/-- The text up to a single quote, and what follows it. -/
def singleQuoted? : List Char → Option (List Char × List Char)
  | [] => none
  | '\'' :: rest => some ([], rest)
  | c :: rest => (singleQuoted? rest).map fun (text, rest) => (c :: text, rest)

/-- The script up to a backquote, and what follows it; a backslash there keeps few characters. -/
def backquoted? : List Char → Option (List Char × List Char)
  | [] => none
  | '\\' :: c :: rest =>
    (backquoted? rest).map fun (text, rest) =>
      (if c == '$' || c == '\\' || c == backquote then c :: text else '\\' :: c :: text, rest)
  | c :: rest =>
    if c == backquote then some ([], rest)
    else (backquoted? rest).map fun (text, rest) => (c :: text, rest)

/-- What a place in a text is inside of. -/
inductive Enclosure where
  /-- A script in parentheses: how many choices are open in it, whether a command begins here, and the
  word so far, the last character first. -/
  | script (choices : Nat) (isFirst : Bool) (word : List Char)
  /-- Braces behind a dollar sign. -/
  | braces
  | quotes
  /-- Braces behind a dollar sign within quotes. -/
  | quotedBraces
  | single
  | backquotes
  | comment
  /-- An expression: how many parentheses are open in it. -/
  | arithmetic (depth : Nat)

def scriptStart : Enclosure := .script 0 true []

/-- The words behind which another command begins. -/
def leadingWords : List String :=
  ["if", "then", "elif", "else", "while", "until", "do", "!", String.ofList [openBrace]]

/-- How many choices are open behind a word, and whether a command begins there. -/
def behindWord (choices : Nat) (isFirst : Bool) (word : List Char) : Nat × Bool :=
  let w := String.ofList word.reverse
  if word.isEmpty then (choices, isFirst)
  else if !isFirst then (choices, false)
  else if w == "case" then (choices + 1, false)
  else if w == "esac" then (choices - 1, false)
  else (choices, leadingWords.contains w)

/-- What the inside of a script becomes at a character that is no start of quotes, or none if the
character closes the script. -/
def inScript? (choices : Nat) (isFirst : Bool) (text : List Char) (c : Char) : Option (List Enclosure) :=
  let (open', first) := behindWord choices isFirst text
  if c == ' ' || c == '\t' then some [.script open' first []]
  else if c == '\n' || c == ';' || c == '&' || c == '|' then some [.script open' true []]
  else if c == '(' then some [scriptStart, .script open' true []]
  else if c == ')' then if open' == 0 then none else some [.script open' true []]
  else if c == '#' && text.isEmpty then some [.comment, .script choices isFirst []]
  else some [.script choices isFirst (c :: text)]

/-- What the inside becomes at a character, and how many of those behind it are read as well; none if the
character closes the innermost. -/
def Enclosure.step (e : Enclosure) (c : Char) (rest : List Char) : Option (List Enclosure) × Nat :=
  let d := rest.headD '\x00'
  let opening (isQuoted : Bool) (here : Enclosure) : Option (Enclosure × Nat) :=
    if c == '$' && d == '(' then
      if (rest.drop 1).head? == some '(' then some (.arithmetic 0, 2) else some (scriptStart, 1)
    else if c == '$' && d == openBrace then some (if isQuoted then .quotedBraces else .braces, 1)
    else if c == backquote then some (.backquotes, 0)
    else if c == '"' then (match here with
      | .quotes => none
      | .arithmetic _ => none
      | _ => some (.quotes, 0))
    else if c == '\'' && !isQuoted then some (.single, 0)
    else none
  let within (isQuoted : Bool) (here : Enclosure) (closes : Char) : Option (List Enclosure) × Nat :=
    match opening isQuoted here with
    | some (inner, more) => (some [inner, here], more)
    | none => (if c == closes then none else some [here], 0)
  let isEscape := c == '\\'
  match e with
  | .script choices isFirst text =>
    if isEscape then (some [.script choices isFirst (c :: text)], 1)
    else
      match opening false e with
      | some (inner, more) => (some [inner, .script choices isFirst (c :: text)], more)
      | none => (inScript? choices isFirst text c, 0)
  | .braces => if isEscape then (some [e], 1) else within false e closeBrace
  | .quotes => if isEscape then (some [e], 1) else within true e '"'
  | .quotedBraces => if isEscape then (some [e], 1) else within true e closeBrace
  | .single => (if c == '\'' then none else some [e], 0)
  | .backquotes => if isEscape then (some [e], 1) else (if c == backquote then none else some [e], 0)
  | .comment => (if c == '\n' then none else some [e], 0)
  | .arithmetic depth =>
    if isEscape then (some [e], 1)
    else if c == '(' then (some [.arithmetic (depth + 1)], 0)
    else if c == ')' then
      if depth > 0 then (some [.arithmetic (depth - 1)], 0)
      else if d == ')' then (none, 1)
      else (some [e], 0)
    else
      match opening true e with
      | some (inner, more) => (some [inner, e], more)
      | none => (some [e], 0)

/-- The text up to the sign that closes the outermost, and what follows; or what the text ends in. -/
def enclosed : Nat → List Enclosure → List Char → Except Enclosure (List Char × List Char)
  | _, [], cs => .ok ([], cs)
  | _, e :: _, [] => .error e
  | 0, e :: _, _ => .error e
  | fuel + 1, e :: outer, c :: rest =>
    let (inner, more) := e.step c rest
    let go (stack : List Enclosure) : Except Enclosure (List Char × List Char) :=
      (enclosed fuel stack (rest.drop more)).map fun (text, after) => (c :: rest.take more ++ text, after)
    match inner with
    | some inner => go (inner ++ outer)
    | none => if outer.isEmpty then .ok ([], rest.drop more) else go outer

def enclosedBy (e : Enclosure) (cs : List Char) : Except Enclosure (List Char × List Char) :=
  enclosed (cs.length + 1) [e] cs

/-- The fault of a text that ends inside something. -/
def Enclosure.fault : Enclosure → String
  | .script _ _ _ => "end of file unexpected (expecting \")\")"
  | .comment => "end of file unexpected (expecting \")\")"
  | .braces => "Missing '" ++ String.ofList [closeBrace] ++ "'"
  | .quotedBraces => "Missing '" ++ String.ofList [closeBrace] ++ "'"
  | .backquotes => "EOF in backquote substitution"
  | .arithmetic _ => "Missing '))'"
  | .quotes => unterminated
  | .single => unterminated

def isSpecial (c : Char) : Bool := "@*#?-$!".contains c

/-- The name of a parameter at the front, and what follows. -/
def parameterName (cs : List Char) : List Char × List Char :=
  match cs with
  | [] => ([], [])
  | c :: rest =>
    if c.isDigit then (cs.takeWhile Char.isDigit, cs.dropWhile Char.isDigit)
    else if isNameStart c then (cs.takeWhile isNameChar, cs.dropWhile isNameChar)
    else if isSpecial c then ([c], rest)
    else ([], cs)

/-- What the text behind the name of a parameter does with its value. -/
def changeOf? : List Char → Option Change
  | [] => some .value
  | ':' :: '-' :: other => some (.instead true other)
  | '-' :: other => some (.instead false other)
  | ':' :: '=' :: other => some (.assign true other)
  | '=' :: other => some (.assign false other)
  | ':' :: '?' :: other => some (.require true other)
  | '?' :: other => some (.require false other)
  | ':' :: '+' :: other => some (.present true other)
  | '+' :: other => some (.present false other)
  | '#' :: '#' :: pattern => some (.dropStart true pattern)
  | '#' :: pattern => some (.dropStart false pattern)
  | '%' :: '%' :: pattern => some (.dropEnd true pattern)
  | '%' :: pattern => some (.dropEnd false pattern)
  | _ => none

/-- Whether the length of a value is meant by a name that begins with a character. -/
def hasLength (c : Char) : Bool := isNameStart c || c.isDigit || c == '@' || c == '*'

/-- The expansion that stands in braces. -/
def braced (isQuoted : Bool) (text : List Char) : Part :=
  let (name, rest) :=
    match text with
    | '#' :: c :: rest => if hasLength c then (['#'], c :: rest) else parameterName text
    | _ => parameterName text
  match name, rest with
  | ['#'], c :: rest =>
    if hasLength c then
      if (parameterName (c :: rest)).2.isEmpty then
        .parameter isQuoted (String.ofList (c :: rest)) .length
      else .malformed
    else ((changeOf? (c :: rest)).map (.parameter isQuoted "#")).getD .malformed
  | [], _ => .malformed
  | name, rest => ((changeOf? rest).map (.parameter isQuoted (String.ofList name))).getD .malformed

def newlines (cs : List Char) : Nat := cs.count '\n'

/-- The expansion behind a dollar sign, and what follows; the whole text ends on the line `last`. -/
def expansion (last : Nat) (isQuoted : Bool) (cs : List Char) : Except String (Part × List Char) :=
  match cs with
  | '(' :: '(' :: rest =>
    match enclosedBy (.arithmetic 0) rest with
    | .ok (text, rest) => .ok (.arithmetic isQuoted text, rest)
    | .error e => .error e.fault
  | '(' :: rest =>
    match enclosedBy scriptStart rest with
    | .ok (text, after) => .ok (.output isQuoted (some (last - newlines rest)) text, after)
    | .error e => .error e.fault
  | c :: rest =>
    if c == openBrace then
      match enclosedBy (if isQuoted then .quotedBraces else .braces) rest with
      | .ok (text, rest) => .ok (braced isQuoted text, rest)
      | .error e => .error e.fault
    else if c.isDigit then .ok (.parameter isQuoted (String.ofList [c]) .value, rest)
    else
      match parameterName cs with
      | ([], _) => .ok (if isQuoted then .quoted ['$'] else .literal ['$'], cs)
      | (name, rest) => .ok (.parameter isQuoted (String.ofList name) .value, rest)
  | [] => .ok (if isQuoted then .quoted ['$'] else .literal ['$'], [])

/-- Puts a part in front of others; neighbouring texts of one kind become one. -/
def join (p : Part) (w : Word) : Word :=
  match p, w with
  | .literal s, .literal t :: rest => .literal (s ++ t) :: rest
  | .quoted s, .quoted t :: rest => .quoted (s ++ t) :: rest
  | p, w => p :: w

/-- The parts of a text in which quotes have no meaning, up to the character `closes`. -/
def inQuotes (last : Nat) (closes : Option Char) : Nat → List Char → Except String (Word × List Char)
  | 0, _ => .error unterminated
  | _, [] => if closes.isNone then .ok ([], []) else .error unterminated
  | fuel + 1, '\\' :: c :: rest => do
    let (w, after) ← inQuotes last closes fuel rest
    if c == '\n' then return (w, after)
    let isKept := !(c == '$' || c == '\\' || c == backquote || some c == closes)
    return (join (.quoted (if isKept then ['\\', c] else [c])) w, after)
  | fuel + 1, c :: rest => do
    if some c == closes then return ([], rest)
    else if c == '$' then
      let (p, rest) ← expansion last true rest
      let (w, after) ← inQuotes last closes fuel rest
      return (join p w, after)
    else if c == backquote then
      match backquoted? rest with
      | none => throw "EOF in backquote substitution"
      | some (script, rest) =>
        let (w, after) ← inQuotes last closes fuel rest
        return (join (.output true none script) w, after)
    else
      let (w, after) ← inQuotes last closes fuel rest
      return (join (.quoted [c]) w, after)

/-- Whether a character ends a word. -/
def endsWord (c : Char) : Bool := " \t\n;&|<>()".contains c

/-- A word, up to the character that ends it or to the end. -/
def wordWithin (last : Nat) (ends : Char → Bool) : Nat → List Char → Except String (Word × List Char)
  | 0, cs => .ok ([], cs)
  | _, [] => .ok ([], [])
  | fuel + 1, c :: rest => do
    if ends c then return ([], c :: rest)
    else if c == '\\' then
      match rest with
      | [] => return ([.literal ['\\']], [])
      | '\n' :: rest => wordWithin last ends fuel rest
      | c :: rest =>
        let (w, after) ← wordWithin last ends fuel rest
        return (join (.quoted [c]) w, after)
    else if c == '\'' then
      match singleQuoted? rest with
      | none => throw unterminated
      | some (text, rest) =>
        let (w, after) ← wordWithin last ends fuel rest
        return (join (.quoted text) w, after)
    else if c == '"' then
      let (inner, rest) ← inQuotes last (some '"') (rest.length + 1) rest
      let (w, after) ← wordWithin last ends fuel rest
      let quoted := inner.foldr join w
      return (if inner.length == 1 then quoted else join (.quoted []) quoted, after)
    else if c == '$' then
      let (p, rest) ← expansion last false rest
      let (w, after) ← wordWithin last ends fuel rest
      return (join p w, after)
    else if c == backquote then
      match backquoted? rest with
      | none => throw "EOF in backquote substitution"
      | some (script, rest) =>
        let (w, after) ← wordWithin last ends fuel rest
        return (.output false none script :: w, after)
    else
      let (w, after) ← wordWithin last ends fuel rest
      return (join (.literal [c]) w, after)

/-- The whole of a text as a word. -/
def wordOf (last : Nat) (cs : List Char) : Except String Word :=
  (wordWithin last (fun _ => false) (cs.length + 1) cs).map (·.1)

/-- A text without the quotes in it that stand in no script. -/
def withoutQuotes : Nat → List Char → List Char
  | 0, cs => cs
  | _, [] => []
  | fuel + 1, '\\' :: c :: rest => '\\' :: c :: withoutQuotes fuel rest
  | fuel + 1, '$' :: '(' :: rest =>
    match enclosedBy scriptStart rest with
    | .ok (text, rest) => '$' :: '(' :: text ++ ')' :: withoutQuotes fuel rest
    | .error _ => '$' :: '(' :: rest
  | fuel + 1, c :: rest => if c == '"' then withoutQuotes fuel rest else c :: withoutQuotes fuel rest

/-- The whole of a text as if it stood in quotes. -/
def quotedWordOf (last : Nat) (cs : List Char) : Except String Word :=
  (inQuotes last none (cs.length + 1) cs).map (·.1)

/-- The text of a word that is all literal. -/
def literal? : Word → Option String
  | [.literal text] => some (String.ofList text)
  | _ => none

/-- A word as plain text, for the word that ends a document. -/
def plainText (w : Word) : List Char :=
  w.flatMap fun p =>
    match p with
    | .literal text => text
    | .quoted text => text
    | _ => []

/-- The sign at the front, and what follows. -/
def sign? : List Char → Option (Token × List Char)
  | ';' :: ';' :: rest => some (.sign ";;", rest)
  | ';' :: rest => some (.sign ";", rest)
  | '&' :: '&' :: rest => some (.sign "&&", rest)
  | '&' :: rest => some (.sign "&", rest)
  | '|' :: '|' :: rest => some (.sign "||", rest)
  | '|' :: rest => some (.sign "|", rest)
  | '(' :: rest => some (.sign "(", rest)
  | ')' :: rest => some (.sign ")", rest)
  | _ => none

/-- The redirection at the front, with the descriptor that it has if none is written. -/
def redirection? : List Char → Option (Nat × Direction × List Char)
  | '<' :: '<' :: '-' :: rest => some (0, .here true, rest)
  | '<' :: '<' :: rest => some (0, .here false, rest)
  | '<' :: '&' :: rest => some (0, .copy, rest)
  | '<' :: rest => some (0, .input, rest)
  | '>' :: '>' :: rest => some (1, .append, rest)
  | '>' :: '&' :: rest => some (1, .copy, rest)
  | '>' :: '|' :: rest => some (1, .output, rest)
  | '>' :: rest => some (1, .output, rest)
  | _ => none

/-- The lines up to the one that ends a document, and what follows. -/
def document (isIndented : Bool) (last : List Char) : Nat → List Char → List Char × List Char
  | 0, cs => ([], cs)
  | _, [] => ([], [])
  | fuel + 1, cs =>
    let (line, rest) := splitLine' (if isIndented then cs.dropWhile (· == '\t') else cs)
    if line == last then ([], rest)
    else
      let (text, after) := document isIndented last fuel rest
      (line ++ '\n' :: text, after)
where
  splitLine' (cs : List Char) : List Char × List Char :=
    (cs.takeWhile (· != '\n'), (cs.dropWhile (· != '\n')).drop 1)

/-- Puts the documents that begin on a line into the places of the words that announce them. -/
def fillDocuments (last : Nat) : List Placed → List Char → List Placed × List Char
  | [], cs => ([], cs)
  | ⟨line, .redirect d (.here isIndented)⟩ :: ⟨line', .word w⟩ :: rest, cs =>
    let (text, after) := document isIndented (plainText w) (cs.length + 1) cs
    let isPlain := w.any fun p => match p with
      | .quoted _ => true
      | _ => false
    let body : Word :=
      if isPlain then [.quoted text] else (quotedWordOf (last - newlines after) text).toOption.getD [.quoted text]
    let (rest, after) := fillDocuments last rest after
    (⟨line, .redirect d (.here isIndented)⟩ :: ⟨line', .word body⟩ :: rest, after)
  | t :: rest, cs =>
    let (rest, after) := fillDocuments last rest cs
    (t :: rest, after)

/-- Reads tokens; `seen` are those of the line so far, the last first. -/
def readWithin (last : Nat) : Nat → Nat → List Placed → List Char → List Placed
  | 0, _, seen, _ => seen.reverse
  | _, _, seen, [] => (fillDocuments last seen.reverse []).1
  | fuel + 1, line, seen, c :: rest =>
    if c == ' ' || c == '\t' then readWithin last fuel line seen rest
    else if c == '\n' then
      let (tokens, after) := fillDocuments last (⟨line, .newline⟩ :: seen).reverse rest
      tokens ++ readWithin last fuel (line + 1 + (newlines rest - newlines after)) [] after
    else if c == '#' then readWithin last fuel line seen (rest.dropWhile (· != '\n'))
    else if c == '\\' && rest.head? == some '\n' then readWithin last fuel (line + 1) seen (rest.drop 1)
    else
      match sign? (c :: rest) with
      | some (t, after) => readWithin last fuel line (⟨line, t⟩ :: seen) after
      | none =>
        let digits := (c :: rest).takeWhile Char.isDigit
        match redirection? ((c :: rest).drop digits.length) with
        | some (usual, direction, after) =>
          let descriptor :=
            if digits.isEmpty then usual else digits.foldl (fun n d => n * 10 + (d.toNat - 48)) 0
          readWithin last fuel line (⟨line, .redirect descriptor direction⟩ :: seen) after
        | none =>
          match wordWithin last endsWord ((c :: rest).length + 1) (c :: rest) with
          | .error message => (⟨last, .fault message⟩ :: seen).reverse
          | .ok (w, after) =>
            let line := line + (newlines (c :: rest) - newlines after)
            readWithin last fuel line (⟨line, .word w⟩ :: seen) after

/-- The tokens of a script that begins on a line. -/
def read (line : Nat) (script : List Char) : List Placed := 
  readWithin (line + newlines script) (script.length + 1) line [] script

end Token

end Workflow.Shell
