import Workflow.Yaml.Lexer
import Workflow.Yaml.Resolution

/-!
# The nodes of a YAML document

A text holds at most one document, a tree of tagged nodes. An alias stands for the node with its
anchor; inside that node it is a `loop`. Collections have numbers, by which they are the same
wherever they stand, and a `Composition` keeps those with an anchor for the loops.
-/
namespace Workflow.Yaml

inductive Node where
  | scalar (tag : Tag) (text : String)
  | sequence (number : Nat) (tag : Tag) (items : List Node)
  | mapping (number : Nat) (tag : Tag) (entries : List (Node × Node))
  /-- The collection with a number, met inside itself. -/
  | loop (number : Nat)

/-- The collections with an anchor by their numbers. -/
abbrev Anchored := List (Nat × Node)

namespace Node

instance : Inhabited Node := ⟨.scalar .null ""⟩

/-- The node of a place where nothing is written. -/
def empty : Node := scalar .null ""

/-- The node that a loop goes back to; any other node is itself. -/
def target (anchored : Anchored) : Node → Node
  | loop number => (anchored.lookup number).getD (loop number)
  | n => n

end Node

/-- The tokens that are left, and what earlier ones have named. -/
structure Composer where
  tokens : List Token
  anchors : List (String × Node)
  anchored : Anchored
  /-- The number of the next collection. -/
  next : Nat
  /-- The beginnings of tags that handles stand for. -/
  handles : List (String × String)
  /-- The count of collections around the present node. -/
  depth : Nat

/-- Reading nodes from tokens. -/
abbrev Compose := StateT Composer (Except Fault)

namespace Compose

/-- The next token; a fault of the lexer appears when it is looked at. -/
def look : Compose Token := do
  match (← get).tokens with
  | [] => throw .malformed
  | .fault e :: _ => throw e
  | t :: _ => return t

def drop : Compose Unit := modify fun s => { s with tokens := s.tokens.drop 1 }

def expect (t : Token) : Compose Unit := do
  if (← look) == t then drop else throw .malformed

/-- Drops the token if it comes next. -/
def accept (t : Token) : Compose Bool := do
  if (← look) == t then
    drop
    return true
  else return false

def anchor? : Compose (Option String) := do
  match ← look with
  | .anchor name =>
    drop
    return some name
  | _ => return none

/-- The written tag of a node, its handle replaced. -/
def tag? : Compose (Option String) := do
  match ← look with
  | .tag none suffix =>
    drop
    return some suffix
  | .tag (some handle) suffix =>
    drop
    match (← get).handles.lookup handle with
    | some start => return some (start ++ suffix)
    | none => throw .malformed
  | _ => return none

/-- The anchor and the tag of a node, in either order. -/
def properties : Compose (Option String × Option String) := do
  match ← anchor? with
  | some name => return (some name, ← tag?)
  | none =>
    match ← tag? with
    | some tag => return (← anchor?, some tag)
    | none => return (none, none)

/-- Names a node that is begun; a name is used once. -/
def begin (name : Option String) (node : Node) : Compose Unit := do
  match name with
  | none => return
  | some name =>
    if ((← get).anchors.lookup name).isSome then throw .malformed
    else modify fun s => { s with anchors := (name, node) :: s.anchors }

/-- Reads a collection with a new number; one with a name is a loop until it is read. -/
def collection (name : Option String) (read : Nat → Compose Node) : Compose Node := do
  let number := (← get).next
  begin name (.loop number)
  modify fun s => { s with next := number + 1 }
  let node ← read number
  match name with
  | none => return node
  | some anchor =>
    modify fun s =>
      { s with
        anchors := (anchor, node) :: s.anchors.filter (·.1 != anchor)
        anchored := (number, node) :: s.anchored }
    return node

/-- The tag of a collection: the one that is written, unless it is absent or `!`. -/
def collectionTag (written : Option String) (usual : Tag) : Tag :=
  match written with
  | none => usual
  | some "!" => usual
  | some name => Tag.ofName name

/-- The tag of a scalar: plain ones have the type of their text. -/
def scalarTag (written : Option String) (text : String) (plain : Bool) : Tag :=
  match written with
  | none => if plain then Resolution.plainTag text else .text
  | some "!" => Resolution.plainTag text
  | some name => Tag.ofName name

/-- Whether a block collection is left empty before this token. -/
def endsBlockItem (indentless : Bool) : Token → Bool
  | .blockEntry => true
  | .blockEnd => true
  | .key => indentless
  | .value => indentless
  | _ => false

def endsBlockKey : Token → Bool
  | .key => true
  | .value => true
  | .blockEnd => true
  | _ => false

/-- The most collections that may stand around a node. -/
def depthLimit : Nat := 485

/-- A collection inside too many others. -/
def tooDeep : Fault := .value ⟨.recursion, "maximum recursion depth exceeded"⟩

/-- Reads what a collection holds. -/
def nested {α : Type} (read : Compose α) : Compose α := do
  if (← get).depth ≥ depthLimit then throw tooDeep
  else
    modify fun s => { s with depth := s.depth + 1 }
    let a ← read
    modify fun s => { s with depth := s.depth - 1 }
    return a

mutual

/-- Reads a node. Block collections are allowed if `block`, and if `indentless` also a sequence whose
entries are not indented. -/
def node : Nat → Bool → Bool → Compose Node
  | 0, _, _ => throw .malformed
  | fuel + 1, block, indentless => do
    match ← look with
    | .alias name =>
      drop
      match (← get).anchors.lookup name with
      | some n => return n
      | none => throw .malformed
    | _ =>
      let (name, tag) ← properties
      match ← look with
      | .blockEntry =>
        if indentless then
          collection name fun number => do
            return .sequence number (collectionTag tag .list) (← nested (blockItems fuel true))
        else emptyNode name tag
      | .scalar text plain =>
        drop
        let n := Node.scalar (scalarTag tag text plain) text
        begin name n
        return n
      | .flowSequenceStart =>
        drop
        collection name fun number => do
          return .sequence number (collectionTag tag .list) (← nested (flowItems fuel true))
      | .flowMappingStart =>
        drop
        collection name fun number => do
          return .mapping number (collectionTag tag .object) (← nested (flowEntries fuel true))
      | .blockSequenceStart =>
        if block then
          drop
          collection name fun number => do
            return .sequence number (collectionTag tag .list) (← nested (blockItems fuel false))
        else emptyNode name tag
      | .blockMappingStart =>
        if block then
          drop
          collection name fun number => do
            return .mapping number (collectionTag tag .object) (← nested (blockEntries fuel))
        else emptyNode name tag
      | _ => emptyNode name tag

/-- A node of which only an anchor or a tag is written. -/
def emptyNode (name tag : Option String) : Compose Node := do
  if name.isNone && tag.isNone then throw .malformed
  else
    let plain := tag.isNone || tag == some "!"
    let n := Node.scalar (if plain then .null else scalarTag tag "" false) ""
    begin name n
    return n

/-- Reads the entries of a block sequence and what ends it. -/
def blockItems : Nat → Bool → Compose (List Node)
  | 0, _ => throw .malformed
  | fuel + 1, indentless => do
    if ← accept .blockEntry then
      let item ←
        if endsBlockItem indentless (← look) then pure Node.empty else node fuel true false
      return item :: (← blockItems fuel indentless)
    else if indentless then return []
    else
      expect .blockEnd
      return []

/-- Reads the entries of a block mapping and its end. -/
def blockEntries : Nat → Compose (List (Node × Node))
  | 0 => throw .malformed
  | fuel + 1 => do
    match ← look with
    | .key =>
      drop
      let key ← if endsBlockKey (← look) then pure Node.empty else node fuel true true
      let value ← blockValue fuel
      return (key, value) :: (← blockEntries fuel)
    | .value =>
      throw .malformed
    | _ =>
      expect .blockEnd
      return []

/-- Reads the value behind a key of a block mapping. -/
def blockValue : Nat → Compose Node
  | 0 => throw .malformed
  | fuel + 1 => do
    if ← accept .value then
      if endsBlockKey (← look) then return Node.empty else node fuel true true
    else return Node.empty

/-- Reads the items of a sequence in brackets; an item may be a single entry of a mapping. -/
def flowItems : Nat → Bool → Compose (List Node)
  | 0, _ => throw .malformed
  | fuel + 1, first => do
    if ← accept .flowSequenceEnd then return []
    else
      if !first then expect .flowEntry
      match ← look with
      | .key =>
        drop
        let ends (t : Token) : Bool := t == .flowEntry || t == .flowSequenceEnd
        let number := (← get).next
        modify fun s => { s with next := number + 1 }
        let entry ← nested do
          let next ← look
          let key ← if next == .value || ends next then pure Node.empty else node fuel false false
          let value ←
            if ← accept .value then
              if ends (← look) then pure Node.empty else node fuel false false
            else pure Node.empty
          return (key, value)
        return .mapping number .object [entry] :: (← flowItems fuel false)
      | .flowSequenceEnd =>
        drop
        return []
      | _ =>
        let item ← node fuel false false
        return item :: (← flowItems fuel false)

/-- Reads the entries of a mapping in braces. -/
def flowEntries : Nat → Bool → Compose (List (Node × Node))
  | 0, _ => throw .malformed
  | fuel + 1, first => do
    if ← accept .flowMappingEnd then return []
    else
      if !first then expect .flowEntry
      match ← look with
      | .key =>
        drop
        let ends (t : Token) : Bool := t == .flowEntry || t == .flowMappingEnd
        let next ← look
        let key ← if next == .value || ends next then pure Node.empty else node fuel false false
        let value ←
          if ← accept .value then
            if ends (← look) then pure Node.empty else node fuel false false
          else pure Node.empty
        return (key, value) :: (← flowEntries fuel false)
      | .flowMappingEnd =>
        drop
        return []
      | _ =>
        let key ← node fuel false false
        return (key, Node.empty) :: (← flowEntries fuel false)

end

/-- The handles that need no directive. -/
def usualHandles : List (String × String) := [("!", "!"), ("!!", Tag.standard)]

/-- Reads the directives before a document. -/
def directives : Nat → Bool → List (String × String) → Compose Unit
  | 0, _, _ => throw .malformed
  | fuel + 1, versioned, handles => do
    match ← look with
    | .versionDirective major =>
      drop
      if versioned || major != 1 then throw .malformed else directives fuel true handles
    | .tagDirective handle start =>
      drop
      if (handles.lookup handle).isSome then throw .malformed
      else directives fuel versioned ((handle, start) :: handles)
    | .otherDirective =>
      drop
      directives fuel versioned handles
    | _ => modify fun s => { s with handles := handles ++ usualHandles }

/-- Whether a document is left empty before this token. -/
def endsDocument : Token → Bool
  | .versionDirective _ => true
  | .tagDirective _ _ => true
  | .otherDirective => true
  | .documentStart => true
  | .documentEnd => true
  | .streamEnd => true
  | _ => false

/-- Skips the marks of ends of documents. -/
def skipEnds : Nat → Compose Unit
  | 0 => return
  | fuel + 1 => do if ← accept .documentEnd then skipEnds fuel

def startsExplicitly : Token → Bool
  | .versionDirective _ => true
  | .tagDirective _ _ => true
  | .otherDirective => true
  | .documentStart => true
  | .streamEnd => true
  | _ => false

/-- Reads the document of a text, if it has one, up to the end of the text. -/
def single (fuel : Nat) : Compose (Option Node) := do
  let root ←
    if startsExplicitly (← look) then do
      if (← look) == .streamEnd then pure none
      else
        directives fuel false []
        expect .documentStart
        if endsDocument (← look) then pure (some Node.empty) else some <$> node fuel true false
    else some <$> node fuel true false
  if root.isSome then
    skipEnds fuel
  if (← look) == .streamEnd then return root
  else throw .malformed

end Compose

/-- What a text is composed of. -/
structure Composition where
  /-- The document, if there is one. -/
  root : Option Node
  anchored : Anchored
  /-- A bound of the count of collections. -/
  size : Nat

/-- Composes the document of a text. -/
def compose (s : String) : Except Fault Composition :=
  let ts := tokens s
  let start : Composer := ⟨ts, [], [], 0, Compose.usualHandles, 0⟩
  match (Compose.single (4 * ts.length + 8)).run start with
  | .ok (root, composer) => .ok ⟨root, composer.anchored, ts.length⟩
  | .error e => .error e

end Workflow.Yaml
