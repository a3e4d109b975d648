import Workflow.Text.Case
import Workflow.Yaml.Members
import Workflow.Yaml.Node

/-!
# The value of a YAML document

The value of a node follows from its tag. A mapping becomes an object, in which fields that are
merged in come before its own; a key must be a scalar. A tag without a type is refused, and so is a
scalar whose text is no text of its type.
-/
namespace Workflow.Yaml

namespace Scalar

/-- The value of a digit of any base up to sixteen. -/
def digitOf? (base : Nat) (c : Char) : Option Nat :=
  ((Json.hexDigit? c).orElse fun _ => Text.digit? c).filter (· < base)

/-- The number written by digits of a base, behind a sign and the mark of the base if they are there. -/
def number (base : Nat) (mark : Char) (s : List Char) : Except Fault Int :=
  let (negative, body) := Numeral.sign (Text.trimBy Text.isNumeralBlank s)
  let digits :=
    match body with
    | '0' :: m :: rest => if m.toLower == mark then rest else body
    | _ => body
  match digits.mapM (digitOf? base) with
  | some (d :: ds) =>
    let n := ds.foldl (fun n d => n * base + d) d
    .ok (if negative then -(n : Int) else n)
  | _ => .error (.value (.notInteger base (String.ofList s)))

/-- A decimal integer of bounded length. -/
def decimal (s : List Char) : Except Fault Int :=
  match Numeral.readInt (String.ofList s) with
  | .ok i => .ok i
  | .error .malformed => .error (.value (.notInteger 10 (String.ofList s)))
  | .error (.tooLong n) => .error (.value (.longNumeral n))

/-- The parts between colons. -/
def colonParts : List Char → List (List Char)
  | [] => [[]]
  | ':' :: rest => [] :: colonParts rest
  | c :: rest =>
    match colonParts rest with
    | [] => [[c]]
    | part :: parts => (c :: part) :: parts

/-- Splits a sign off. -/
def signed : List Char → Bool × List Char
  | '-' :: rest => (true, rest)
  | '+' :: rest => (false, rest)
  | cs => (false, cs)

/-- A scalar without characters where a number is wanted. -/
def noCharacter : Fault := .value ⟨.missingItem, "string index out of range"⟩

def magnitude (cs : List Char) : Except Fault Int :=
  match cs with
  | [] => .error noCharacter
  | ['0'] => .ok 0
  | '0' :: 'b' :: ds => number 2 'b' ds
  | '0' :: 'x' :: ds => number 16 'x' ds
  | '0' :: _ => number 8 'o' cs
  | _ =>
    if cs.contains ':' then do
      let parts ← (colonParts cs).mapM decimal
      return parts.foldl (fun n d => n * 60 + d) 0
    else decimal cs

/-- The value of an integer: in base two, eight, ten, sixteen or sixty. -/
def int (s : String) : Except Fault Value := do
  let cs := s.toList.filter (· != '_')
  if cs.isEmpty then .error noCharacter
  else
    let (negative, body) := signed cs
    let n ← magnitude body
    return .int (if negative then -n else n)

def double (cs : List Char) : Except Fault Double :=
  let s := String.ofList cs
  match Numeral.double? s with
  | some d => .ok d
  | none => .error (.value (.notDouble s))

/-- The value of digits of base sixty, the last ones first. -/
def sixties (base : Nat) (sum : Double) : List Double → Except Fault Double
  | [] => .ok sum
  | d :: rest =>
    let unit := Double.roundInt base
    if unit.isFinite then sixties (base * 60) (sum.add (d.mul unit)) rest
    else .error (.value .integerOverflow)

def float (s : String) : Except Fault Value := do
  let cs := (Text.lower (String.ofList (s.toList.filter (· != '_')))).toList
  if cs.isEmpty then .error noCharacter
  else
    let (negative, body) := signed cs
    let d ←
      if body == ".inf".toList then .ok Double.infinity
      else if body == ".nan".toList then .ok Double.nan
      else if body.contains ':' then do
        let parts ← (colonParts body).mapM double
        sixties 1 .zero parts.reverse
      else double body
    return .float (if negative && body != ".nan".toList then d.neg else d)

def bool (s : String) : Except Fault Value :=
  let word := Text.lower s
  if ["yes", "true", "on"].contains word then .ok (.bool true)
  else if ["no", "false", "off"].contains word then .ok (.bool false)
  else .error (.value ⟨.missingKey, Text.quoted word⟩)

/-! ## Dates and times -/

def dateFault? (d : Date) : Option String :=
  if d.year == 0 then some "year 0 is out of range"
  else if d.month == 0 || d.month > 12 then some "month must be in 1..12"
  else if d.day == 0 || d.day > Date.daysInMonth d.year d.month then
    some "day is out of range for month"
  else none

def timeFault? (t : TimeOfDay) : Option String :=
  if t.hour > 23 then some "hour must be in 0..23"
  else if t.minute > 59 then some "minute must be in 0..59"
  else if t.second > 59 then some "second must be in 0..59"
  else none

def invalid (message : String) : Fault := .value ⟨.invalidValue, message⟩

/-- The text of a span of seconds in a message. -/
def spanText (seconds : Int) : String :=
  let days := seconds.fdiv 86400
  let rest := seconds - days * 86400
  let parts := ["days=" ++ toString days] ++
    (if rest == 0 then [] else ["seconds=" ++ toString rest])
  "datetime.timedelta(" ++ ", ".intercalate parts ++ ")"

/-- The distance from universal time in seconds: less than a day either way. -/
def offset (o : Bool × Nat × Nat) : Except Fault Int :=
  let (negative, hours, minutes) := o
  let seconds : Int := (hours * 60 + minutes) * 60
  let seconds := if negative then -seconds else seconds
  if seconds.natAbs < 86400 then .ok seconds
  else
    .error (invalid ("offset must be a timedelta strictly between -timedelta(hours=24) and " ++
      "timedelta(hours=24), not " ++ spanText seconds ++ "."))

def timestamp (s : String) : Except Fault Value :=
  match Resolution.written? (Resolution.withoutFinalBreak s.toList) with
  | none =>
    .error (.value ⟨.missingAttribute, "'NoneType' object has no attribute 'groupdict'"⟩)
  | some w => do
    let offset ← match w.offset with
      | some o => (offset o).map some
      | none => .ok none
    match dateFault? w.date with
    | some message => .error (invalid message)
    | none =>
      match w.time with
      | none => return .foreign (.date w.date)
      | some t =>
        match timeFault? t with
        | some message => .error (invalid message)
        | none => return .foreign (.timestamp ⟨w.date, t, offset⟩)

/-! ## Bytes -/

/-- The value of a character of base sixty-four. -/
def sextet? (c : Char) : Option Nat :=
  if 'A' ≤ c && c ≤ 'Z' then some (c.toNat - 0x41)
  else if 'a' ≤ c && c ≤ 'z' then some (c.toNat - 0x61 + 26)
  else if c.isDigit then some (c.toNat - 0x30 + 52)
  else if c == '+' then some 62
  else if c == '/' then some 63
  else none

/-- The bytes that characters write; those without a value are passed over. `place` counts the
characters of a group of four so far, `left` are their bits that are in no byte, and `pads` counts the
signs that fill the group up; when they do the text ends. -/
def bytesFrom (place left pads : Nat) : List Char → Option (List UInt8)
  | [] => if place == 0 then some [] else none
  | c :: rest =>
    match sextet? c with
    | none =>
      if c == '=' && place ≥ 2 then
        if place + pads + 1 ≥ 4 then some [] else bytesFrom place left (pads + 1) rest
      else bytesFrom place left pads rest
    | some n =>
      match place with
      | 0 => bytesFrom 1 n 0 rest
      | 1 => (bytesFrom 2 (n % 16) 0 rest).map (UInt8.ofNat (left * 4 + n / 16) :: ·)
      | 2 => (bytesFrom 3 (n % 4) 0 rest).map (UInt8.ofNat (left * 16 + n / 4) :: ·)
      | _ => (bytesFrom 0 0 0 rest).map (UInt8.ofNat (left * 64 + n) :: ·)

/-- Bytes in base sixty-four. -/
def binary (s : String) : Except Fault Value :=
  let cs := s.toList
  if cs.any (·.toNat ≥ 0x80) then .error .malformed
  else
    match bytesFrom 0 0 0 cs with
    | some bytes => .ok (.foreign (.bytes bytes))
    | none => .error .malformed

/-- The value of a scalar with a tag. -/
def value (tag : Tag) (s : String) : Except Fault Value :=
  match tag with
  | .null => .ok .null
  | .bool => bool s
  | .int => int s
  | .float => float s
  | .timestamp => timestamp s
  | .text => .ok (.text s)
  | .binary => binary s
  | _ => .error .malformed

end Scalar

namespace Node

/-- The tag of a node as a key: a lone `=` is a text there. -/
def asKey : Node → Node
  | scalar .value s => .scalar .text s
  | n => n

def isMerge : Node → Bool
  | scalar .merge _ => true
  | _ => false

/-- The entries of the mappings with merge keys, as far as these are replaced. -/
abbrev Merged := List (Nat × List (Node × Node))

/-- Replacing the merge keys of mappings. -/
abbrev Merging := StateT Merged (Except Fault)

/-- The entries of a mapping as they are now. -/
def present (merged : Merged) (number : Nat) (entries : List (Node × Node)) : List (Node × Node) :=
  (merged.lookup number).getD (entries.map fun (key, v) => (key.asKey, v))

def put (number : Nat) (entries : List (Node × Node)) : Merging Unit :=
  modify fun merged => (number, entries) :: merged.filter (·.1 != number)

mutual

/-- Replaces the merge keys of a mapping, and gives its entries: those that are merged in first. -/
def flatten (anchored : Anchored) : Nat → Node → Merging (List (Node × Node))
  | 0, _ => throw .malformed
  | fuel + 1, n => do
    match n.target anchored with
    | mapping number _ entries =>
      let now := present (← get) number entries
      if now.any (·.1.isMerge) then
        put number now
        let before ← mergedFrom anchored fuel number 0
        let own := present (← get) number entries
        put number (before ++ own)
        return before ++ own
      else return now
    | _ => throw .malformed

/-- What the merge keys of a mapping from a position on give; the keys go. A sequence of mappings
gives theirs, the last mapping first. -/
def mergedFrom (anchored : Anchored) : Nat → Nat → Nat → Merging (List (Node × Node))
  | 0, _, _ => throw .malformed
  | fuel + 1, number, position => do
    let now := present (← get) number []
    match now[position]? with
    | none => return []
    | some (key, v) =>
      if key.isMerge then
        put number (now.eraseIdx position)
        let here ←
          match v.target anchored with
          | sequence _ _ items => do
            let parts ← items.mapM (flatten anchored fuel)
            pure parts.reverse.flatten
          | n => flatten anchored fuel n
        return here ++ (← mergedFrom anchored fuel number position)
      else mergedFrom anchored fuel number (position + 1)

end

mutual

/-- The text of a node where a scalar is wanted: a mapping stands for the value of its key `=`. -/
def scalarText : Node → Except Fault String
  | scalar _ s => .ok s
  | mapping _ _ entries => defaultText entries
  | _ => .error .malformed

def defaultText : List (Node × Node) → Except Fault String
  | [] => .error .malformed
  | (scalar .value _, v) :: _ => scalarText v
  | _ :: rest => defaultText rest

end

end Node

/-! ## The order of faults

The values of a collection are made after it, and together with those of all collections at its level.
So of several faults in a text that of the least depth is told.
-/

namespace Node

/-- The value of a node with the tag of a scalar. -/
def scalarValue (n : Node) (tag : Tag) : Except Fault Value := do
  let s ← n.scalarText
  match tag, n with
  | .timestamp, mapping _ _ _ =>
    throw (.value ⟨.wrongType, "expected string or bytes-like object, got 'list'"⟩)
  | _, _ => Scalar.value tag s

/-- A collection, whose values are made later. -/
def isDeferred : Node → Bool
  | scalar tag _ => tag.isCollection
  | sequence _ tag _ => tag.isCollection
  | mapping _ tag _ => tag.isCollection
  | loop _ => false

/-- Makes the value of a node if it is no collection. -/
def check (n : Node) : Except Fault Unit :=
  if n.isDeferred then .ok ()
  else
    match n with
    | scalar tag _ => (n.scalarValue tag).map fun _ => ()
    | sequence _ tag _ => (n.scalarValue tag).map fun _ => ()
    | mapping _ tag _ => (n.scalarValue tag).map fun _ => ()
    | loop _ => .ok ()

/-- Checks the entry of a mapping; a collection is no key. -/
def checkEntry (entry : Node × Node) : Except Fault Unit := do
  entry.1.check
  match entry.1 with
  | loop _ => throw .malformed
  | key => if key.isDeferred then throw .malformed else entry.2.check

/-- The pairs that a sequence of mappings with one entry each writes. -/
def pairs (anchored : Anchored) (merged : Merged) (items : List Node) :
    Except Fault (List (Node × Node)) :=
  items.mapM fun item =>
    match item.target anchored with
    | mapping number _ entries =>
      match (merged.lookup number).getD entries with
      | [entry] => .ok entry
      | _ => .error .malformed
    | _ => .error .malformed

def checkPairs (anchored : Anchored) (merged : Merged) : List Node → Except Fault (List Node)
  | [] => .ok []
  | item :: rest => do
    let entries ← pairs anchored merged [item]
    entries.forM fun (key, v) => do
      key.check
      v.check
    return entries.flatMap (fun (key, v) => [key, v]) ++ (← checkPairs anchored merged rest)

/-- Checks what a collection holds, and gives it. -/
def checkWithin (anchored : Anchored) (fuel : Nat) (n : Node) : Merging (List Node) := do
  match n with
  | sequence _ .list items =>
    items.forM fun item => item.check
    return items
  | sequence _ .orderedPairs items => checkPairs anchored (← get) items
  | sequence _ .pairs items => checkPairs anchored (← get) items
  | mapping _ .object _ => checkEntries n
  | mapping _ .set _ => checkEntries n
  | _ => throw .malformed
where
  checkEntries (n : Node) : Merging (List Node) := do
    let entries ← flatten anchored fuel n
    entries.forM fun entry => checkEntry entry
    return entries.map (·.2)

/-- The number of a collection. -/
def number? : Node → Option Nat
  | sequence number _ _ => some number
  | mapping number _ _ => some number
  | _ => none

/-- The collections among nodes, each one once and only if the bit of its number is not set in
`seen`; and `seen` with their bits. -/
def collections (seen : Nat) : List Node → List Node × Nat
  | [] => ([], seen)
  | n :: rest =>
    if !n.isDeferred || n.number?.any seen.testBit then collections seen rest
    else
      let bit := (n.number?.map (1 <<< ·)).getD 0
      let (others, seen) := collections (seen ||| bit) rest
      (n :: others, seen)

/-- Checks the collections of a level, and then those inside them. The second argument bounds the
steps of merging. -/
def checkLevels (anchored : Anchored) : Nat → Nat → Nat → List Node → Merging Unit
  | 0, _, _, _ => return
  | fuel + 1, steps, seen, level => do
    let inside ← level.mapM (checkWithin anchored steps)
    match collections seen inside.flatten with
    | ([], _) => return
    | (next, seen) => checkLevels anchored fuel steps seen next

end Node

/-- Tells the fault of the least depth; without one gives the entries of mappings with merge keys. -/
def Composition.check (c : Composition) (root : Node) : Except Fault Node.Merged := do
  root.check
  if root.isDeferred then
    let (level, seen) := Node.collections 0 [root]
    let work := Node.checkLevels c.anchored (c.size + 1) (Nat.pow (c.size + 1) 3) seen level
    return (← work.run []).2
  else return []

/-- The key of a field, if the value can be one. -/
def keyOf : Value → Except Fault Key
  | .null => .ok .null
  | .bool b => .ok (.bool b)
  | .int i => .ok (.int i)
  | .float d => .ok (.float d)
  | .text s => .ok (.text s)
  | .foreign f =>
    match f with
    | .members _ => .error .malformed
    | .loop _ => .error .malformed
    | f => .ok (.foreign f)
  | .list _ => .error .malformed
  | .pair _ _ => .error .malformed
  | .object _ => .error .malformed

/-- The member of a set as its quoted text. -/
def memberText (k : Key) : String := (k.quoted?).getD ""

namespace Node

/-- Whether a node is written `.nan`; as keys all these are one. -/
def isNan : Node → Bool
  | scalar .float s =>
    let cs := (Text.lower (String.ofList (s.toList.filter (· != '_')))).toList
    (Scalar.signed cs).2 == ".nan".toList
  | _ => false

/-- The entries of a mapping with a single one for the key `.nan`: the first, with the last value. -/
def joinNan (entries : List (Node × Node)) : List (Node × Node) :=
  match (entries.filter fun (key, _) => key.isNan).getLast? with
  | none => entries
  | some (_, last) => keepFirst last entries
where
  keepFirst (last : Node) : List (Node × Node) → List (Node × Node)
    | [] => []
    | (key, v) :: rest =>
      if key.isNan then (key, last) :: rest.filter fun (key, _) => !key.isNan
      else (key, v) :: keepFirst last rest

end Node

namespace Composition

/-- The key that a node writes. -/
def key (n : Node) : Except Fault Key := do
  match n with
  | .scalar tag s => keyOf (← Scalar.value tag s)
  | .mapping _ tag _ => keyOf (← n.scalarValue tag)
  | _ => throw .malformed

/-- The value of a node inside the collections with the numbers in `around`. The first argument
bounds the depth. -/
def value (anchored : Anchored) (merged : Node.Merged) :
    Nat → List Nat → Node → Except Fault Value
  | 0, _, _ => .error .malformed
  | fuel + 1, around, n =>
    let n := n.target anchored
    let inside := n.number?.toList ++ around
    match n with
    | .scalar tag s => Scalar.value tag s
    | .loop _ => .error .malformed
    | .sequence number tag items =>
      if around.contains number then .ok (.foreign (.loop false))
      else
        match tag with
        | .list => do return .list (← items.mapM fun item => value anchored merged fuel inside item)
        | _ => do
          let pairs ← Node.pairs anchored merged items
          return .list (← pairs.mapM fun (k, v) => do
            let first ← value anchored merged fuel inside k
            let second ← value anchored merged fuel inside v
            return .pair first second)
    | .mapping number tag entries =>
      if around.contains number then .ok (.foreign (.loop true))
      else
        match tag with
        | .object => do
          let entries := Node.joinNan (Node.present merged number entries)
          let fields ← entries.mapM fun (k, v) => do
            return (← key k, ← value anchored merged fuel inside v)
          return .object (Fields.ofList fields)
        | .set => do
          let entries := Node.joinNan (Node.present merged number entries)
          let keys ← entries.mapM fun (k, _) => key k
          let members := (Fields.ofList (keys.map fun k => (k, .null))).map (·.1)
          return .foreign (.members ((Members.ordered members).map memberText))
        | tag => n.scalarValue tag

end Composition

/-- How far a reader looks into a value: at the value as a whole, or at some fields of an object or
the items of a list on their own. A whole value is cut where it stands inside itself. -/
inductive Shape where
  | whole
  | fields (shapes : List (String × Shape))
  | items (shape : Shape)

/-- The value of a node as a reader sees it who looks at it in a shape. -/
def Composition.shaped (anchored : Anchored) (merged : Node.Merged) (size : Nat) :
    Nat → Shape → Node → Except Fault Value
  | 0, _, n => value anchored merged size [] n
  | fuel + 1, shape, n =>
    match shape, n.target anchored with
    | .fields shapes, .mapping number .object entries => do
      let fields ← (Node.present merged number entries).filterMapM fun (k, v) => do
        match ← key k with
        | .text name =>
          match shapes.lookup name with
          | some shape => return some (Key.text name, ← shaped anchored merged size fuel shape v)
          | none => return none
        | _ => return none
      return .object (Fields.ofList fields)
    | .items shape, .sequence _ .list items => do
      return .list (← items.mapM fun item => shaped anchored merged size fuel shape item)
    | _, n => value anchored merged size [] n

/-- Reads the value of the document of a text in a shape; without a document it is null. -/
def read (shape : Shape) (s : String) : Except Fault Value := do
  let c ← compose s
  match c.root with
  | none => return .null
  | some n => do
    let merged ← c.check n
    Composition.shaped c.anchored merged (c.size + 1) (c.size + 1) shape n

end Workflow.Yaml
