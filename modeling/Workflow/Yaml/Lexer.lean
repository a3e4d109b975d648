import Workflow.Yaml.Lexeme

/-!
# The lexer

Indentation opens and closes block collections, and a `:` makes a key of what stands before it on the
same line. So the lexer remembers for each depth of brackets where a key may have begun, and puts the
key's token, and the start of its mapping, there when the `:` comes.
-/
namespace Workflow.Yaml

/-- A place where a key may have begun. -/
structure KeyMark where
  /-- The count of tokens before it. -/
  position : Nat
  /-- Whether nothing else than a key can stand there. -/
  required : Bool
  index : Nat
  line : Nat
  column : Nat

structure Lexer where
  cursor : Cursor
  /-- The tokens read so far, the last one first. -/
  tokens : List Token
  count : Nat
  /-- The depth of brackets. -/
  depth : Nat
  /-- The indentation of the block, before the first one -1. -/
  indent : Int
  /-- The indentations of the blocks around, the innermost first. -/
  outer : List Int
  /-- Whether a key may begin here. -/
  keyAllowed : Bool
  /-- The marks by depth of brackets. -/
  marks : List (Nat × KeyMark)

namespace Lexer

def start (cs : List Char) : Lexer := ⟨.start cs, [], 0, 0, -1, [], true, []⟩

def push (l : Lexer) (t : Token) : Lexer := { l with tokens := t :: l.tokens, count := l.count + 1 }

/-- Puts a token behind the first `position` tokens. -/
def insert (l : Lexer) (position : Nat) (t : Token) : Lexer :=
  let later := l.count - position
  { l with tokens := l.tokens.take later ++ t :: l.tokens.drop later, count := l.count + 1 }

def moveTo (l : Lexer) (c : Cursor) : Lexer := { l with cursor := c }

def mark? (l : Lexer) : Option KeyMark := l.marks.lookup l.depth

/-- Gives up the mark of this depth; one that must become a key cannot be given up. -/
def dropMark (l : Lexer) : Except Fault Lexer :=
  match l.mark? with
  | none => .ok l
  | some m =>
    if m.required then .error .malformed
    else .ok { l with marks := l.marks.filter (·.1 != l.depth) }

/-- Marks this place if a key may begin here. -/
def markKey (l : Lexer) : Except Fault Lexer := do
  if !l.keyAllowed then return l
  let l ← l.dropMark
  let c := l.cursor
  let m : KeyMark :=
    ⟨l.count, l.depth == 0 && l.indent == c.column, c.index, c.line, c.column⟩
  return { l with marks := (l.depth, m) :: l.marks }

/-- Gives up the marks of other lines and those too far back. -/
def dropStale (l : Lexer) : Except Fault Lexer :=
  let stale (m : KeyMark) : Bool := m.line != l.cursor.line || l.cursor.index - m.index > 1024
  if l.marks.any fun (_, m) => stale m && m.required then .error .malformed
  else .ok { l with marks := l.marks.filter fun (_, m) => !stale m }

/-- Closes the blocks that are indented further than a column. -/
def closeBlocks (column : Int) : List Int → Lexer → Lexer
  | [], l => l
  | indent :: outer, l =>
    if l.indent > column then
      closeBlocks column outer ({ l with indent := indent, outer := outer }.push .blockEnd)
    else l

def unwind (l : Lexer) (column : Int) : Lexer :=
  if l.depth != 0 then l else closeBlocks column l.outer l

/-- Opens a block if the column is indented further than the present one. -/
def openBlock (l : Lexer) (column : Nat) (position : Nat) (t : Token) : Lexer :=
  if l.depth == 0 && l.indent < column then
    { l with indent := column, outer := l.indent :: l.outer }.insert position t
  else l

/-- Skips spaces, comments and line breaks; behind a line break a key may begin. -/
def skipGap : Nat → Lexer → Lexer
  | 0, l => l
  | fuel + 1, l =>
    let c := l.cursor.skipWhile (· == ' ')
    let c := if c.peek == '#' then c.skipWhile (!isBreakOrEnd ·) else c
    if isBreak c.peek then
      skipGap fuel { l with cursor := c.lineBreak.2, keyAllowed := l.keyAllowed || l.depth == 0 }
    else l.moveTo c

/-- Skips a byte order mark at the beginning of the text. -/
def skipMark (l : Lexer) : Lexer :=
  if l.cursor.index == 0 && l.cursor.peek == '\ufeff' then l.moveTo l.cursor.next else l

/-- A token of some characters between which no key can begin. -/
def document (l : Lexer) (t : Token) : Except Fault Lexer := do
  let l ← (l.unwind (-1)).dropMark
  return ({ l with keyAllowed := false }.push t).moveTo (l.cursor.skip 3)

def directiveLine (l : Lexer) : Except Fault Lexer := do
  let l ← (l.unwind (-1)).dropMark
  let (t, c) ← directive l.cursor
  return ({ l with keyAllowed := false }.push t).moveTo c

def openFlow (l : Lexer) (t : Token) : Except Fault Lexer := do
  let l ← l.markKey
  return ({ l with depth := l.depth + 1, keyAllowed := true }.push t).moveTo l.cursor.next

def closeFlow (l : Lexer) (t : Token) : Except Fault Lexer := do
  let l ← l.dropMark
  return ({ l with depth := l.depth - 1, keyAllowed := false }.push t).moveTo l.cursor.next

def flowEntry (l : Lexer) : Except Fault Lexer := do
  let l ← l.dropMark
  return ({ l with keyAllowed := true }.push .flowEntry).moveTo l.cursor.next

def blockEntry (l : Lexer) : Except Fault Lexer := do
  if l.depth == 0 && !l.keyAllowed then .error .malformed
  else
    let l ← (l.openBlock l.cursor.column l.count .blockSequenceStart).dropMark
    return ({ l with keyAllowed := true }.push .blockEntry).moveTo l.cursor.next

def explicitKey (l : Lexer) : Except Fault Lexer := do
  if l.depth == 0 && !l.keyAllowed then .error .malformed
  else
    let l ← (l.openBlock l.cursor.column l.count .blockMappingStart).dropMark
    return ({ l with keyAllowed := l.depth == 0 }.push .key).moveTo l.cursor.next

/-- A `:`: behind a mark it makes a key of what stands there. -/
def valueMark (l : Lexer) : Except Fault Lexer := do
  match l.mark? with
  | some m =>
    let l := { l with marks := l.marks.filter (·.1 != l.depth), keyAllowed := false }
    let l := (l.insert m.position .key).openBlock m.column m.position .blockMappingStart
    return (l.push .value).moveTo l.cursor.next
  | none =>
    if l.depth == 0 && !l.keyAllowed then .error .malformed
    else
      let l := l.openBlock l.cursor.column l.count .blockMappingStart
      let l ← { l with keyAllowed := l.depth == 0 }.dropMark
      return (l.push .value).moveTo l.cursor.next

/-- A lexeme before which a key may begin and behind which none does. -/
def content (l : Lexer) (read : Cursor → Except Fault (Token × Cursor)) : Except Fault Lexer := do
  let l ← l.markKey
  let (t, c) ← read l.cursor
  return ({ l with keyAllowed := false }.push t).moveTo c

def block (l : Lexer) (folded : Bool) : Except Fault Lexer := do
  let l ← { l with keyAllowed := true }.dropMark
  let (t, c) ← blockScalar folded l.indent l.cursor
  return (l.push t).moveTo c

def plain (l : Lexer) : Except Fault Lexer := do
  let l ← l.markKey
  let (t, broken, c) := plainScalar (l.depth != 0) l.indent l.cursor
  return ({ l with keyAllowed := broken }.push t).moveTo c

/-- Whether a plain scalar can begin here. -/
def startsPlain (l : Lexer) : Bool :=
  let ch := l.cursor.peek
  !(isGapOrEnd ch || "-?:,[]\x7b\x7d#&*!|>'\"%@\x60".toList.contains ch) ||
    (!isGapOrEnd (l.cursor.peekAt 1) && (ch == '-' || (l.depth == 0 && (ch == '?' || ch == ':'))))

/-- Reads the token that begins here. -/
def token (l : Lexer) : Except Fault Lexer :=
  let c := l.cursor
  let ch := c.peek
  let gapFollows := isGapOrEnd (c.peekAt 1)
  let inFlow := l.depth != 0
  let named (make : String → Token) (c : Cursor) : Except Fault (Token × Cursor) :=
    (anchorName c).map fun (name, c) => (make name, c)
  if ch == '%' && c.column == 0 then l.directiveLine
  else if c.column == 0 && c.isMarker '-' then l.document .documentStart
  else if c.column == 0 && c.isMarker '.' then l.document .documentEnd
  else if ch == '[' then l.openFlow .flowSequenceStart
  else if ch == '\x7b' then l.openFlow .flowMappingStart
  else if ch == ']' then l.closeFlow .flowSequenceEnd
  else if ch == '\x7d' then l.closeFlow .flowMappingEnd
  else if ch == ',' then l.flowEntry
  else if ch == '-' && gapFollows then l.blockEntry
  else if ch == '?' && (inFlow || gapFollows) then l.explicitKey
  else if ch == ':' && (inFlow || gapFollows) then l.valueMark
  else if ch == '*' then l.content (named .alias)
  else if ch == '&' then l.content (named .anchor)
  else if ch == '!' then l.content tag
  else if ch == '|' && !inFlow then l.block false
  else if ch == '>' && !inFlow then l.block true
  else if ch == '\'' then l.content (quotedScalar false)
  else if ch == '"' then l.content (quotedScalar true)
  else if l.startsPlain then l.plain
  else .error .malformed

/-- Ends the text. -/
def finish (l : Lexer) : Except Fault Lexer := do
  let l ← (l.unwind (-1)).dropMark
  return l.push .streamEnd

/-- Ends with a fault. Nobody looks at a token before it is known whether it begins a key; so the fault
stands in the place of the first token for which this is not known. -/
def failAt (l : Lexer) (e : Fault) : Lexer :=
  let first := l.marks.foldl (fun n (_, m) => min n m.position) l.count
  { l with tokens := l.tokens.drop (l.count - first), count := first }.push (.fault e)

/-- Reads tokens up to the end or a fault. -/
def run : Nat → Lexer → Lexer
  | 0, l => l.push (.fault .malformed)
  | fuel + 1, l =>
    let l := skipGap (l.cursor.size + 1) l
    match l.dropStale with
    | .error e => l.failAt e
    | .ok l =>
      let l := l.unwind l.cursor.column
      if l.cursor.peek == '\x00' then
        match l.finish with
        | .error e => l.failAt e
        | .ok l => l
      else
        match l.token with
        | .error e => l.failAt e
        | .ok l => run fuel l

end Lexer

/-- The tokens of a text. -/
def tokens (s : String) : List Token :=
  let cs := s.toList
  if (Text.codes cs).all isAllowed then
    (Lexer.run (cs.length + 2) (Lexer.start cs).skipMark).tokens.reverse
  else [.fault .malformed]

end Workflow.Yaml
