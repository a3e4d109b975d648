import Workflow.Comparison
import Workflow.Path

/-!
# Templates

A template is a text with placeholders: a path between double braces. A placeholder begins at the
leftmost possible place, ends at the first closing braces that leave it at least one character, and
holds no line break. `Template.parse` cuts a text into literal parts and placeholders, and rendering
puts the texts of the values in the places of the placeholders, once.
-/
namespace Workflow

/-- A part of a template. -/
inductive TemplatePart where
  | literal (c : Char)
  | placeholder (path : List Char)
deriving DecidableEq

namespace Template

/-- The characters up to the next closing braces on the same line, and what follows them. -/
def untilClose? : List Char → Option (List Char × List Char)
  | [] => none
  | '\x7d' :: '\x7d' :: rest => some ([], rest)
  | c :: rest =>
    if c == '\n' then none
    else (untilClose? rest).map fun (inner, tail) => (c :: inner, tail)

/-- The inside of a placeholder whose opening braces are read. -/
def placeholder? : List Char → Option (List Char × List Char)
  | [] => none
  | c :: rest =>
    if c == '\n' then none
    else (untilClose? rest).map fun (inner, tail) => (c :: inner, tail)

/-- The parts of a template, of which at most `fuel` are cut. -/
def partsWithin : Nat → List Char → List TemplatePart
  | 0, _ => []
  | _, [] => []
  | fuel + 1, '\x7b' :: '\x7b' :: rest =>
    match placeholder? rest with
    | some (inner, tail) => .placeholder inner :: partsWithin fuel tail
    | none => .literal '\x7b' :: partsWithin fuel ('\x7b' :: rest)
  | fuel + 1, c :: rest => .literal c :: partsWithin fuel rest

/-- The parts of a template, in order. -/
def parse (cs : List Char) : List TemplatePart := partsWithin cs.length cs

/-- The path in a placeholder, without the white space around it. -/
def pathOf (inner : List Char) : String := String.ofList (Text.trim inner)

/-- The text that stands for a part. -/
def renderPart (root : Value) : TemplatePart → Outcome (List Char)
  | .literal c => .ok [c]
  | .placeholder inner => (root.at (pathOf inner)).toText.map String.toList

def renderParts (root : Value) : List TemplatePart → Outcome (List Char)
  | [] => .ok []
  | part :: rest => do
    let first ← renderPart root part
    let others ← renderParts root rest
    return first ++ others

/-- A template with the values of a context in its placeholders. -/
def render (root : Value) (s : String) : Outcome String :=
  (renderParts root (parse s.toList)).map String.ofList

mutual

/-- Renders a text, and every text in an object; anything else is left as it is. -/
def renderValue (root : Value) : Value → Outcome Value
  | .text s => (render root s).map .text
  | .object fields => (renderFields root fields).map .object
  | v => .ok v

/-- Renders the values of fields. -/
def renderFields (root : Value) : List (Key × Value) → Outcome (List (Key × Value))
  | [] => .ok []
  | (key, v) :: rest => do
    let first ← renderValue root v
    let others ← renderFields root rest
    return (key, first) :: others

end

end Template

end Workflow
