import Workflow.Json.Reader
import Workflow.Text.Utf8
import Workflow.Yaml.Cursor

/-!
# Scalars, tags and directives in YAML text

The functions here read one lexeme that begins at a cursor, and give it with the cursor behind it.
-/
namespace Workflow.Yaml

/-! ## Directives, anchors and tags -/

/-- The name of an anchor or an alias, behind its indicator. -/
def anchorName (c : Cursor) : Except Fault (String × Cursor) :=
  let (name, c) := c.next.span isNameChar
  if name.isEmpty then .error .malformed
  else if isGapOrEnd c.peek || "?:,]\x7d%@\x60".toList.contains c.peek then
    .ok (String.ofList name, c)
  else .error .malformed

/-- A tag handle: `!`, `!!` or a name between two. -/
def tagHandle (c : Cursor) : Except Fault (String × Cursor) :=
  if c.peek != '!' then .error .malformed
  else if c.peekAt 1 == ' ' then .ok ("!", c.next)
  else
    let (name, c') := c.next.span isNameChar
    if c'.peek == '!' then .ok (String.ofList ('!' :: name ++ ['!']), c'.next)
    else .error .malformed

def isUriChar (c : Char) : Bool :=
  c.isAlphanum || "-;/?:@&=+$,_.!~*'()[]".toList.contains c

/-- The bytes of a run of percent escapes. -/
def uriEscapes : Nat → Cursor → Except Fault ((List UInt8) × Cursor)
  | 0, c => .ok ([], c)
  | fuel + 1, c =>
    if c.peek != '%' then .ok ([], c)
    else
      match Json.hexDigit? (c.peekAt 1), Json.hexDigit? (c.peekAt 2) with
      | some high, some low =>
        match uriEscapes fuel (c.skip 3) with
        | .ok (bytes, c') => .ok (UInt8.ofNat (high * 16 + low) :: bytes, c')
        | .error e => .error e
      | _, _ => .error .malformed

/-- The parts of a tag's name: runs of characters, and runs of percent escapes. -/
def uriParts : Nat → Cursor → Except Fault ((List Char) × Cursor)
  | 0, c => .ok ([], c)
  | fuel + 1, c =>
    if c.peek == '%' then do
      let (bytes, c) ← uriEscapes c.size c
      match Text.decodeUtf8? bytes with
      | none => .error .malformed
      | some cs =>
        let (more, c) ← uriParts fuel c
        return (cs ++ more, c)
    else if isUriChar c.peek then do
      let (cs, c) := c.span isUriChar
      let (more, c) ← uriParts fuel c
      return (cs ++ more, c)
    else .ok ([], c)

def tagUri (c : Cursor) : Except Fault (String × Cursor) :=
  if c.peek == '%' || isUriChar c.peek then do
    let (cs, c) ← uriParts c.size c
    return (String.ofList cs, c)
  else .error .malformed

/-- A tag that begins with `!`. -/
def tag (c : Cursor) : Except Fault (Token × Cursor) := do
  let ((handle, suffix), c) ←
    if c.peekAt 1 == '<' then do
      let (uri, c) ← tagUri (c.skip 2)
      if c.peek == '>' then .ok (((none, uri) : Option String × String), c.next)
      else .error .malformed
    else if isGapOrEnd (c.peekAt 1) then .ok ((none, "!"), c.next)
    else if ((c.rest.drop 1).takeWhile (!isSpaceOrEnd ·)).contains '!' then do
      let (handle, c) ← tagHandle c
      let (uri, c) ← tagUri c
      .ok ((some handle, uri), c)
    else do
      let (uri, c) ← tagUri c.next
      .ok ((some "!", uri), c)
  if isSpaceOrEnd c.peek then .ok (.tag handle suffix, c) else .error .malformed

/-- The digits of a version. -/
def versionNumber (c : Cursor) : Except Fault (Nat × Cursor) :=
  let (ds, c) := c.span Char.isDigit
  if ds.isEmpty then .error .malformed
  else if ds.length > Numeral.digitLimit then .error (.value (.longNumeral ds.length))
  else .ok (Numeral.ofDigits (ds.map fun d => d.toNat - 0x30), c)

/-- A directive that begins with a percent sign, with the rest of its line. -/
def directive (c : Cursor) : Except Fault (Token × Cursor) := do
  let (name, c) := c.next.span isNameChar
  if name.isEmpty || !isSpaceOrEnd c.peek then .error .malformed
  else
    let (token, c) ←
      if name == "YAML".toList then do
        let (major, c) ← versionNumber (c.skipWhile (· == ' '))
        if c.peek != '.' then .error .malformed
        else
          let (_, c) ← versionNumber c.next
          if isSpaceOrEnd c.peek then .ok (Token.versionDirective major, c) else .error .malformed
      else if name == "TAG".toList then do
        let (handle, c) ← tagHandle (c.skipWhile (· == ' '))
        if c.peek != ' ' then .error .malformed
        else
          let (start, c) ← tagUri (c.skipWhile (· == ' '))
          if isSpaceOrEnd c.peek then .ok (Token.tagDirective handle start, c)
          else .error .malformed
      else .ok (Token.otherDirective, c.skipWhile (!isBreakOrEnd ·))
    let c ← c.restOfLine
    return (token, c)

/-! ## Block scalars -/

/-- The empty lines at the front, each after at most `indent` columns of spaces. -/
def emptyLines (indent : Nat) : Nat → Cursor → List Char × Cursor
  | 0, c => ([], c)
  | fuel + 1, c =>
    let spaces := (c.rest.takeWhile (· == ' ')).length
    let c := c.skip (min spaces (indent - c.column))
    if isBreak c.peek then
      let (ending, c) := c.lineBreak
      let (more, c) := emptyLines indent fuel c
      (ending ++ more, c)
    else ([], c)

/-- The empty lines at the front and the greatest indentation up to the first text. -/
def leadingLines : Nat → Nat → Cursor → List Char × Nat × Cursor
  | 0, deepest, c => ([], deepest, c)
  | fuel + 1, deepest, c =>
    if isBreak c.peek then
      let (ending, c) := c.lineBreak
      let (more, deepest, c) := leadingLines fuel deepest c
      (ending ++ more, deepest, c)
    else if c.peek == ' ' then
      let c := c.next
      leadingLines fuel (max deepest c.column) c
    else ([], deepest, c)

/-- How the line breaks at the end of a block scalar are kept. -/
inductive Chomping where
  | strip
  | clip
  | keep
deriving DecidableEq

def isIncrement (c : Char) : Bool := c.isDigit

/-- The header of a block scalar: how its end is chomped and how far it is indented. -/
def blockHeader (c : Cursor) : Except Fault ((Chomping × Option Nat) × Cursor) :=
  let chomping? (ch : Char) : Option Chomping :=
    if ch == '+' then some .keep else if ch == '-' then some .strip else none
  let increment? (ch : Char) : Option Nat := if ch.isDigit then some (ch.toNat - 0x30) else none
  let (chomping, increment, c) :=
    match chomping? c.peek with
    | some chomping =>
      match increment? (c.peekAt 1) with
      | some n => (chomping, some n, c.skip 2)
      | none => (chomping, none, c.next)
    | none =>
      match increment? c.peek with
      | some n =>
        match chomping? (c.peekAt 1) with
        | some chomping => (chomping, some n, c.skip 2)
        | none => (.clip, some n, c.next)
      | none => (.clip, none, c)
  if increment == some 0 || !isSpaceOrEnd c.peek then .error .malformed
  else .ok ((chomping, increment), c)

/-- The lines of a block scalar with the given indentation. `gap` is what was passed since the last
line, `ending` the break of that line. -/
def blockLines (folded : Bool) (indent : Nat) :
    Nat → List Char → List Char → Cursor → List Char × List Char × List Char × Cursor
  | 0, gap, ending, c => ([], ending, gap, c)
  | fuel + 1, gap, ending, c =>
    if c.column == indent && c.peek != '\x00' then
      let tight := c.peek != ' ' && c.peek != '\t'
      let (text, c) := c.span (!isBreakOrEnd ·)
      let (ending', c) := c.lineBreak
      let (gap', c) := emptyLines indent c.size c
      let joint :=
        if c.column == indent && c.peek != '\x00' then
          if folded && ending' == ['\n'] && tight && c.peek != ' ' && c.peek != '\t' then
            (if gap'.isEmpty then [' '] else [])
          else ending'
        else []
      let (more, last, tail, c) := blockLines folded indent fuel gap' ending' c
      (gap ++ text ++ joint ++ more, last, tail, c)
    else ([], ending, gap, c)

/-- A block scalar that begins with its indicator, inside a block with the given indentation. -/
def blockScalar (folded : Bool) (parent : Int) (c : Cursor) : Except Fault (Token × Cursor) := do
  let ((chomping, increment), c) ← blockHeader c.next
  let c ← c.restOfLine
  let least := (max (parent + 1) 1).toNat
  let (gap, indent, c) :=
    match increment with
    | some n =>
      let indent := least + n - 1
      let (gap, c) := emptyLines indent (c.size + 1) c
      (gap, indent, c)
    | none =>
      let (gap, deepest, c) := leadingLines (c.size + 1) 0 c
      (gap, max least deepest, c)
  let (text, ending, tail, c) := blockLines folded indent (c.size + 1) gap [] c
  let close :=
    match chomping with
    | .strip => []
    | .clip => ending
    | .keep => ending ++ tail
  return (.scalar (String.ofList (text ++ close)) false, c)

/-! ## Quoted scalars -/

/-- The character of a one-letter escape. -/
def escapeChar? (c : Char) : Option Char :=
  match c with
  | '0' => some '\x00'
  | 'a' => some '\x07'
  | 'b' => some '\x08'
  | 't' => some '\t'
  | '\t' => some '\t'
  | 'n' => some '\n'
  | 'v' => some '\x0b'
  | 'f' => some '\x0c'
  | 'r' => some '\r'
  | 'e' => some '\x1b'
  | ' ' => some ' '
  | '"' => some '"'
  | '\\' => some '\\'
  | '/' => some '/'
  | 'N' => some '\x85'
  | '_' => some '\xa0'
  | 'L' => some '\u2028'
  | 'P' => some '\u2029'
  | _ => none

/-- The count of hexadecimal digits behind an escape letter. -/
def escapeDigits? (c : Char) : Option Nat :=
  if c == 'x' then some 2 else if c == 'u' then some 4 else if c == 'U' then some 8 else none

def hexNumber? (ds : List Char) : Option Nat :=
  ds.foldl (fun n d => do return (← n) * 16 + (← Json.hexDigit? d)) (some 0)

/-- The refusal of a number that is no code point. -/
def outOfRange (n : Nat) : Failure :=
  if n < twoTo 31 then ⟨.invalidValue, "chr() arg not in range(0x110000)"⟩
  else ⟨.overflow, "Python int too large to convert to C int"⟩

/-- The line breaks in a gap of a quoted scalar, without the blanks between them. -/
def quotedBreaks : Nat → Cursor → Except Fault ((List Char) × Cursor)
  | 0, c => .ok ([], c)
  | fuel + 1, c =>
    if c.isSeparator then .error .malformed
    else
      let c := c.skipWhile fun ch => ch == ' ' || ch == '\t'
      if isBreak c.peek then do
        let (ending, c) := c.lineBreak
        let (more, c) ← quotedBreaks fuel c
        return (ending ++ more, c)
      else .ok ([], c)

/-- The gap of a quoted scalar at blanks or a line break: blanks inside a line are kept, a single
line break becomes a space. -/
def quotedGap (c : Cursor) : Except Fault ((List Char) × Cursor) :=
  let (blanks, c) := c.span fun ch => ch == ' ' || ch == '\t'
  if c.peek == '\x00' then .error .malformed
  else if isBreak c.peek then do
    let (ending, c) := c.lineBreak
    let (breaks, c) ← quotedBreaks (c.size + 1) c
    let joint := if ending != ['\n'] then ending else if breaks.isEmpty then [' '] else []
    return (joint ++ breaks, c)
  else .ok (blanks, c)

/-- The characters of an escape behind its backslash. -/
def quotedEscape (c : Cursor) : Except Fault ((List Char) × Cursor) :=
  match escapeChar? c.peek with
  | some ch => .ok ([ch], c.next)
  | none =>
    match escapeDigits? c.peek with
    | some count =>
      let ds := (c.rest.drop 1).take count
      match hexNumber? ds with
      | some n =>
        if ds.length < count then .error .malformed
        else if n ≥ 0x110000 then .error (.value (outOfRange n))
        else .ok (Text.ofCode n, c.skip (count + 1))
      | none => .error .malformed
    | none =>
      if isBreak c.peek then
        let c := c.lineBreak.2
        quotedBreaks (c.size + 1) c
      else .error .malformed

/-- The text of a quoted scalar up to its closing quote. -/
def quotedText (double : Bool) : Nat → Cursor → Except Fault ((List Char) × Cursor)
  | 0, _ => .error .malformed
  | fuel + 1, c =>
    let ch := c.peek
    if isGapOrEnd ch then do
      let (gap, c) ← quotedGap c
      let (more, c) ← quotedText double fuel c
      return (gap ++ more, c)
    else if !double && ch == '\'' && c.peekAt 1 == '\'' then do
      let (more, c) ← quotedText double fuel (c.skip 2)
      return ('\'' :: more, c)
    else if ch == (if double then '"' else '\'') then .ok ([], c.next)
    else if double && ch == '\\' then do
      let (cs, c) ← quotedEscape c.next
      let (more, c) ← quotedText double fuel c
      return (cs ++ more, c)
    else do
      let (more, c) ← quotedText double fuel c.next
      return (ch :: more, c)

/-- A quoted scalar that begins with its quote. -/
def quotedScalar (double : Bool) (c : Cursor) : Except Fault (Token × Cursor) := do
  let (cs, c) ← quotedText double (c.size + 1) c.next
  return (.scalar (String.ofList cs) false, c)

/-! ## Plain scalars -/

/-- The characters of a plain scalar up to a gap or an indicator. -/
def plainRun (flow : Bool) : List Char → List Char
  | [] => []
  | ch :: rest =>
    let following := rest.headD '\x00'
    if isGapOrEnd ch || (flow && ",?[]\x7b\x7d".toList.contains ch) ||
        (ch == ':' && (isGapOrEnd following || (flow && ",[]\x7b\x7d".toList.contains following)))
    then []
    else ch :: plainRun flow rest

/-- The line breaks in a gap of a plain scalar; nothing if a document marker follows one. -/
def plainBreaks : Nat → Cursor → Option (List Char) × Cursor
  | 0, c => (some [], c)
  | fuel + 1, c =>
    if c.peek == ' ' then plainBreaks fuel c.next
    else if isBreak c.peek then
      let (ending, c) := c.lineBreak
      if c.isSeparator then (none, c)
      else
        let (more, c) := plainBreaks fuel c
        (more.map (ending ++ ·), c)
    else (some [], c)

/-- The gap of a plain scalar, whether it holds a line break, and what follows; no text is left of
it if a document marker follows. -/
def plainGap (c : Cursor) : List Char × Bool × Cursor :=
  let (blanks, c) := c.span (· == ' ')
  if isBreak c.peek then
    let (ending, c) := c.lineBreak
    if c.isSeparator then ([], true, c)
    else
      match plainBreaks (c.size + 1) c with
      | (none, c) => ([], true, c)
      | (some breaks, c) =>
        let joint := if ending != ['\n'] then ending else if breaks.isEmpty then [' '] else []
        (joint ++ breaks, true, c)
  else (blanks, false, c)

/-- The lines of a plain scalar, and whether a line break was passed at its end. -/
def plainLines (flow : Bool) (indent : Int) :
    Nat → List Char → Bool → Cursor → List Char × Bool × Cursor
  | 0, _, broken, c => ([], broken, c)
  | fuel + 1, gap, broken, c =>
    if c.peek == '#' then ([], broken, c)
    else
      let run := plainRun flow c.rest
      if run.isEmpty then ([], broken, c)
      else
        let (gap', broken', c) := plainGap (c.skip run.length)
        if gap'.isEmpty || c.peek == '#' || (!flow && (c.column : Int) < indent) then
          (gap ++ run, broken', c)
        else
          let (more, broken'', c) := plainLines flow indent fuel gap' broken' c
          (gap ++ run ++ more, broken'', c)

/-- A plain scalar inside a block with the given indentation, and whether it ends at a line break
behind which a key may begin. -/
def plainScalar (flow : Bool) (parent : Int) (c : Cursor) : Token × Bool × Cursor :=
  let (cs, broken, c) := plainLines flow (parent + 1) (c.size + 1) [] false c
  (.scalar (String.ofList cs) true, broken, c)

end Workflow.Yaml
