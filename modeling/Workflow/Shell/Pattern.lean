import Workflow.Files
import Workflow.Shell.Source

/-!
# Patterns

A pattern matches whole texts: `*` any text, `?` any character, brackets one of some characters. Of what
a word expands to only the characters outside quotes have these meanings. A word with a pattern that
matches names of files becomes these names.
-/
namespace Workflow.Shell

/-- A character of an expanded word. -/
structure Glyph where
  char : Char
  /-- It comes from an expansion outside quotes, so fields are split at it. -/
  canSplit : Bool := false
  /-- It stands outside quotes, so it may mean more than itself. -/
  canMatch : Bool := false

inductive Wild where
  | char (c : Char)
  | one
  | any
  | among (isNegated : Bool) (ranges : List (Char × Char))

namespace Wild

/-- The ranges up to the bracket that closes them, and what follows. -/
def ranges? : Nat → List Glyph → Option (List (Char × Char) × List Glyph)
  | 0, _ => none
  | _, [] => none
  | fuel + 1, g :: rest =>
    if g.char == ']' && g.canMatch then some ([], rest)
    else
      match rest with
      | ⟨'-', _, _⟩ :: last :: rest' =>
        if last.char == ']' then
          (ranges? fuel rest).map fun (rs, rest) => ((g.char, g.char) :: rs, rest)
        else (ranges? fuel rest').map fun (rs, rest) => ((g.char, last.char) :: rs, rest)
      | _ => (ranges? fuel rest).map fun (rs, rest) => ((g.char, g.char) :: rs, rest)

/-- The characters in brackets, and what follows. -/
def bracket? (gs : List Glyph) : Option (Wild × List Glyph) :=
  let (isNegated, gs) :=
    match gs with
    | g :: rest => if g.char == '!' || g.char == '^' then (true, rest) else (false, gs)
    | [] => (false, [])
  match gs with
  | ⟨']', _, _⟩ :: rest =>
    (ranges? (rest.length + 1) rest).map fun (rs, rest) => (among isNegated ((']', ']') :: rs), rest)
  | gs => (ranges? (gs.length + 1) gs).map fun (rs, rest) => (among isNegated rs, rest)

def ofGlyphsWithin : Nat → List Glyph → List Wild
  | 0, _ => []
  | _, [] => []
  | fuel + 1, g :: rest =>
    if !g.canMatch then char g.char :: ofGlyphsWithin fuel rest
    else if g.char == '*' then any :: ofGlyphsWithin fuel rest
    else if g.char == '?' then one :: ofGlyphsWithin fuel rest
    else if g.char == '[' then
      match bracket? rest with
      | some (w, rest) => w :: ofGlyphsWithin fuel rest
      | none => char '[' :: ofGlyphsWithin fuel rest
    else if g.char == '\\' then
      match rest with
      | next :: rest => char next.char :: ofGlyphsWithin fuel rest
      | [] => [char '\\']
    else char g.char :: ofGlyphsWithin fuel rest

/-- The pattern that an expanded word is. -/
def ofGlyphs (gs : List Glyph) : List Wild := ofGlyphsWithin (gs.length + 1) gs

/-- Whether one character is matched. -/
def accepts : Wild → Char → Bool
  | char c, d => c == d
  | one, _ => true
  | any, _ => true
  | among isNegated ranges, d => ranges.any (fun (a, b) => a ≤ d && d ≤ b) != isNegated

/-- Whether a whole text is matched. -/
def accept : List Wild → List Char → Bool
  | [], cs => cs.isEmpty
  | any :: ws, [] => accept ws []
  | any :: ws, c :: cs => accept ws (c :: cs) || accept (any :: ws) cs
  | _ :: _, [] => false
  | w :: ws, c :: cs => w.accepts c && accept ws cs
termination_by ws cs => ws.length + cs.length

/-- Whether a pattern can match more than one text. -/
def isOpen (ws : List Wild) : Bool :=
  ws.any fun w => match w with
    | char _ => false
    | _ => true

/-- The text of a pattern without open places. -/
def plain (ws : List Wild) : List Char :=
  ws.map fun w => match w with
    | char c => c
    | _ => '?'

/-- A text without the shortest or longest start that is matched. -/
def dropStart (longest : Bool) (ws : List Wild) (cs : List Char) : List Char :=
  let cuts := (List.range (cs.length + 1)).filter fun n => accept ws (cs.take n)
  match (if longest then cuts.getLast? else cuts.head?) with
  | some n => cs.drop n
  | none => cs

def dropEnd (longest : Bool) (ws : List Wild) (cs : List Char) : List Char :=
  let cuts := (List.range (cs.length + 1)).filter fun n => accept ws (cs.drop n)
  match (if longest then cuts.head? else cuts.getLast?) with
  | some n => cs.take n
  | none => cs

end Wild

/-- A text of bytes as it is read. -/
def shownText (cs : List Char) : String := String.ofList (Text.decodeReplacing (toBytes cs))

def pathOf (cs : List Char) : FilePath := .ofText (shownText cs)

/-- The segments of an expanded word between its slashes. -/
def segments : List Glyph → List (List Glyph)
  | [] => [[]]
  | g :: rest =>
    match segments rest with
    | [] => [[g]]
    | s :: others => if g.char == '/' then [] :: s :: others else (g :: s) :: others

/-- The names of files that match segments, below a directory; `front` is what was written so far. -/
def matchingPaths (files : FileTree) (here : FilePath) : List (List Glyph) → List Char → List (List Char)
  | [], front => [front]
  | s :: rest, front =>
    let pattern := Wild.ofGlyphs s
    let behind (name : List Char) : List Char := if rest.isEmpty then name else name ++ ['/']
    if !Wild.isOpen pattern then
      let next := front ++ behind (Wild.plain pattern)
      let place := (pathOf next).within here
      if rest.isEmpty then
        match files.locate FileTree.linkLimit place with
        | .ok _ => if pattern.isEmpty && !files.isDirectory place then [] else [next]
        | .error _ => []
      else matchingPaths files here rest next
    else
      match files.locate FileTree.linkLimit ((pathOf front).within here) with
      | .error _ => []
      | .ok parts =>
        let isShown (name : List Char) : Bool :=
          name.head? != some '.' || (s.head?.map Glyph.char) == some '.'
        let names := ((files.names parts).map byteText).filter fun n => isShown n && Wild.accept pattern n
        names.flatMap fun n =>
          if rest.isEmpty then [front ++ n] else matchingPaths files here rest (front ++ n ++ ['/'])

/-- An expanded word as names of files in order; as itself if it matches none. -/
def pathnames (files : FileTree) (here : FilePath) (gs : List Glyph) : List (List Char) :=
  let text := gs.map Glyph.char
  if !Wild.isOpen (Wild.ofGlyphs gs) then [text]
  else
    match matchingPaths files here (segments gs) [] with
    | [] => [text]
    | found => found.mergeSort fun a b => String.ofList a ≤ String.ofList b

end Workflow.Shell
