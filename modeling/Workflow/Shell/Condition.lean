import Workflow.Shell.Machine

/-!
# Tests

The conditions of `test`: properties of texts and files, comparisons of texts and integers, and their
combinations.
-/
namespace Workflow.Shell

namespace Test

/-- Where a test looks for files. -/
structure Place where
  files : FileTree
  directory : FilePath

def path (p : Place) (cs : List Char) : FilePath := (pathOf cs).within p.directory

def isThere (p : Place) (cs : List Char) : Bool :=
  !cs.isEmpty && (p.files.locate FileTree.linkLimit (path p cs)).toBool

def size (p : Place) (cs : List Char) : Nat :=
  ((p.files.read (path p cs)).toOption.map List.length).getD 0

def isLink (p : Place) (cs : List Char) : Bool :=
  match p.files.entry? (path p cs).normalise.parts with
  | some (.link _) => true
  | _ => false

def illegal (cs : List Char) : List Char := "Illegal number: ".toList ++ cs

def integer (cs : List Char) : Except (List Char) Int :=
  let body := (cs.reverse.dropWhile Piece.isBlank).reverse.dropWhile Piece.isBlank
  let digits := if body.head? == some '-' || body.head? == some '+' then body.drop 1 else body
  match Utility.natural? digits with
  | some n =>
    if n ≤ Arithmetic.highest then .ok (if body.head? == some '-' then -n else n)
    else .error (illegal cs)
  | none => .error (illegal cs)

/-- A test of one operand. -/
def unary? (p : Place) (op : String) (a : List Char) : Option (Except (List Char) Bool) :=
  let isDirectory := isThere p a && p.files.isDirectory (path p a)
  let isDevice := ["/dev/null", "/dev/zero", "/dev/tty"].contains (String.ofList a)
  match op with
  | "-n" => some (.ok !a.isEmpty)
  | "-z" => some (.ok a.isEmpty)
  | "-e" => some (.ok (isThere p a || isDevice))
  | "-f" => some (.ok (isThere p a && (p.files.read (path p a)).toBool))
  | "-d" => some (.ok isDirectory)
  | "-r" => some (.ok (isThere p a || isDevice))
  | "-w" => some (.ok (isThere p a || isDevice))
  | "-x" => some (.ok isDirectory)
  | "-s" => some (.ok (size p a > 0 || isDirectory))
  | "-L" => some (.ok (isLink p a))
  | "-h" => some (.ok (isLink p a))
  | "-c" => some (.ok isDevice)
  | "-t" => some ((integer a).map fun _ => false)
  | "-O" => some (.ok (isThere p a))
  | "-G" => some (.ok (isThere p a))
  | "-b" => some (.ok false)
  | "-p" => some (.ok false)
  | "-u" => some (.ok false)
  | "-g" => some (.ok false)
  | "-k" => some (.ok false)
  | "-S" => some (.ok false)
  | _ => none

/-- Whether two names lead to one file. -/
def isSame (p : Place) (a b : List Char) : Bool :=
  match p.files.locate FileTree.linkLimit (path p a), p.files.locate FileTree.linkLimit (path p b) with
  | .ok x, .ok y => x == y
  | _, _ => false

/-- A test of two operands. -/
def binary? (p : Place) (op : String) (a b : List Char) : Option (Except (List Char) Bool) :=
  let compare (f : Int → Int → Bool) : Option (Except (List Char) Bool) :=
    some do return f (← integer a) (← integer b)
  match op with
  | "=" => some (.ok (a == b))
  | "!=" => some (.ok (a != b))
  | "<" => some (.ok (String.ofList a < String.ofList b))
  | ">" => some (.ok (String.ofList b < String.ofList a))
  | "-eq" => compare (· == ·)
  | "-ne" => compare (· != ·)
  | "-lt" => compare (· < ·)
  | "-le" => compare (· ≤ ·)
  | "-gt" => compare (fun x y => decide (y < x))
  | "-ge" => compare (fun x y => decide (y ≤ x))
  | "-ef" => some (.ok (isSame p a b))
  | "-nt" => some (.ok false)
  | "-ot" => some (.ok false)
  | _ => none

/-- What a word is at its place. -/
inductive Role where
  | nothing
  | operand
  | unary
  | binary
  /-- A sign that joins conditions, turns one around, or encloses some. -/
  | sign
deriving DecidableEq

def isUnary (p : Place) (w : List Char) : Bool := (unary? p (String.ofList w) []).isSome

def isBinary (p : Place) (w : List Char) : Bool := (binary? p (String.ofList w) [] []).isSome

def isJoint (w : List Char) : Bool := ["!", "-a", "-o", "(", ")"].contains (String.ofList w)

/-- What the word at a place is: the sign of a unary test is an operand where nothing, or a binary test,
follows. -/
def role (p : Place) (ws : List (List Char)) (k : Nat) : Role :=
  match ws[k]? with
  | none => .nothing
  | some w =>
    if isUnary p w then
      match ws[k + 1]?, ws[k + 2]? with
      | none, _ => .operand
      | some _, none => .unary
      | some next, some _ => if isBinary p next then .operand else .unary
    else if isBinary p w then .binary
    else if isJoint w then if w == ['('] && (ws[k + 1]?).isNone then .operand else .sign
    else .operand

/-- Whether a sign stands at a place. -/
def isSign (p : Place) (ws : List (List Char)) (k : Nat) (s : String) : Bool :=
  role p ws k == .sign && ws[k]? == some s.toList

mutual

/-- Conditions joined by `-o` from a place on: the outcome, and the place of the last word of them. -/
def either (p : Place) (ws : List (List Char)) : Nat → Role → Nat → Except (List Char) (Bool × Nat)
  | 0, _, k => .ok (false, k)
  | fuel + 1, r, k => do
    let (x, k) ← both p ws fuel r k
    if isSign p ws (k + 1) "-o" then
      let (y, k) ← either p ws fuel (role p ws (k + 2)) (k + 2)
      return (x || y, k)
    else return (x, k)

/-- Conditions joined by `-a`. -/
def both (p : Place) (ws : List (List Char)) : Nat → Role → Nat → Except (List Char) (Bool × Nat)
  | 0, _, k => .ok (false, k)
  | fuel + 1, r, k => do
    let (x, k) ← turned p ws fuel r k
    if isSign p ws (k + 1) "-a" then
      let (y, k) ← both p ws fuel (role p ws (k + 2)) (k + 2)
      return (x && y, k)
    else return (x, k)

/-- A condition that may be turned around. -/
def turned (p : Place) (ws : List (List Char)) : Nat → Role → Nat → Except (List Char) (Bool × Nat)
  | 0, _, k => .ok (false, k)
  | fuel + 1, r, k => do
    if r == .sign && ws[k]? == some ['!'] then
      let next := role p ws (k + 1)
      let (x, k) ← turned p ws fuel next (if next == .nothing then k else k + 1)
      return (!x, k)
    else single p ws fuel r k

def single (p : Place) (ws : List (List Char)) : Nat → Role → Nat → Except (List Char) (Bool × Nat)
  | 0, _, k => .ok (false, k)
  | fuel + 1, r, k => do
    let w := (ws[k]?).getD []
    if r == .nothing then return (false, k)
    else if r == .sign && w == ['('] then
      if isSign p ws (k + 1) ")" then return (false, k + 1)
      let (x, k) ← either p ws fuel (role p ws (k + 1)) (k + 1)
      if isSign p ws (k + 1) ")" then return (x, k + 1) else throw "closing paren expected".toList
    else if r == .unary then
      match ws[k + 1]? with
      | none => throw (w ++ ": argument expected".toList)
      | some a => return (← (unary? p (String.ofList w) a).getD (.ok false), k + 1)
    else if role p ws (k + 1) == .binary then
      let op := (ws[k + 1]?).getD []
      match ws[k + 2]? with
      | none => throw (op ++ ": argument expected".toList)
      | some b => return (← (binary? p (String.ofList op) w b).getD (.ok false), k + 2)
    else return (!w.isEmpty, k)

end

/-- The role of the first word, which the count of words can tell, and the words that are meant. -/
def opening (p : Place) (ws : List (List Char)) : Role × List (List Char) :=
  let isEnclosed := ws.head? == some ['('] && ws.getLast? == some [')']
  let isTurned := ws.head? == some ['!']
  if ws.length == 3 && ((ws[1]?).map (isBinary p)).getD false then (.operand, ws)
  else if ws.length == 3 || ws.length == 4 then
    if isEnclosed then
      let ws := (ws.drop 1).dropLast
      (role p ws 0, ws)
    else if isTurned then (.sign, ws)
    else (role p ws 0, ws)
  else (role p ws 0, ws)

/-- The outcome of a test, or what is wrong with it. -/
def run (p : Place) (ws : List (List Char)) : Except (List Char) Bool := do
  if ws.isEmpty then return false
  let (r, ws) := opening p ws
  let (x, k) ← either p ws (4 * ws.length + 4) r 0
  if k + 1 < ws.length then throw ((ws[k]?).getD [] ++ ": unexpected operator".toList)
  return x

end Test

end Workflow.Shell
