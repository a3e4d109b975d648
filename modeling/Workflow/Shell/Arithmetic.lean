import Workflow.Number.Power
import Workflow.Shell.Token

/-!
# Arithmetic expansion

Expressions over integers of 64 bits, with names for variables. An expression is evaluated as far as it
has been read, so that of two faults the one further to the left is told. The operands that do not count
are read, but nothing in them is looked up or assigned.
-/
namespace Workflow.Shell.Arithmetic

inductive Symbol where
  | number (n : Int)
  | name (s : String)
  | op (s : String)
  /-- A character that is in no expression. -/
  | other
deriving DecidableEq

/-- What an expression can fail with. -/
inductive Fault where
  | divisionByZero
  /-- A variable whose text is no integer. -/
  | notNumber (text : List Char)
  /-- Something else stands where a part of an expression has to come. -/
  | expecting (what : String)

/-- An integer of 64 bits. -/
def wrap (n : Int) : Int := n.bmod (twoTo 64)

def highest : Int := twoTo 63 - 1

def digitOf (c : Char) : Nat :=
  if c.isDigit then c.toNat - 48 else if c.isLower then c.toNat - 87 else c.toNat - 55

def isDigitOf (base : Nat) (c : Char) : Bool := c.isAlphanum && digitOf c < base

/-- The digits at the front, as a number, and the rest. -/
def spanDigits (base : Nat) (cs : List Char) : Int × List Char :=
  (Int.ofNat ((cs.takeWhile (isDigitOf base)).foldl (fun n c => n * base + digitOf c) 0),
    cs.dropWhile (isDigitOf base))

/-- The number at the front, in one of three bases, and the rest. -/
def leading? (cs : List Char) : Option (Int × List Char) :=
  match cs with
  | '0' :: x :: d :: rest =>
    if (x == 'x' || x == 'X') && isDigitOf 16 d then some (spanDigits 16 (d :: rest))
    else some (spanDigits 8 ('0' :: x :: d :: rest))
  | '0' :: rest => some (spanDigits 8 rest)
  | c :: rest => if c.isDigit then some (spanDigits 10 (c :: rest)) else none
  | [] => none

def isSpace (c : Char) : Bool := c == ' ' || ('\t' ≤ c && c ≤ '\r')

/-- The integer at the front behind spaces, with an optional sign, and the rest. -/
def leadingSigned? (cs : List Char) : Option (Int × List Char) :=
  match cs.dropWhile isSpace with
  | '-' :: rest => (leading? rest).map fun (n, rest) => (-n, rest)
  | '+' :: rest => leading? rest
  | cs => leading? cs

/-- An integer with an optional sign, in one of three bases. -/
def unbounded? (cs : List Char) : Option Int :=
  match leadingSigned? cs with
  | some (n, []) => some n
  | _ => none

def integer? (cs : List Char) : Option Int := (unbounded? cs).map wrap

/-- The integer that the text of a variable is; a blank text is zero. -/
def ofVariable? (cs : List Char) : Option Int :=
  match leadingSigned? cs with
  | none => if cs.all isSpace then some 0 else none
  | some (n, rest) => if rest.all isSpace && -highest - 1 ≤ n && n ≤ highest then some n else none

def operators : List String :=
  ["<<=", ">>=", "||", "&&", "==", "!=", "<=", ">=", "<<", ">>", "+=", "-=", "*=", "/=", "%=", "&=",
    "|=", "^=", "+", "-", "*", "/", "%", "<", ">", "=", "!", "~", "&", "|", "^", "(", ")", "?", ":"]

def symbolsWithin : Nat → List Char → List Symbol
  | 0, _ => []
  | _, [] => []
  | fuel + 1, c :: rest =>
    if c == ' ' || c == '\t' || c == '\n' then symbolsWithin fuel rest
    else
      match leading? (c :: rest) with
      | some (n, rest) => .number (min n highest) :: symbolsWithin fuel rest
      | none =>
        if Token.isNameStart c then
          let name := (c :: rest).takeWhile Token.isNameChar
          .name (String.ofList name) :: symbolsWithin fuel ((c :: rest).drop name.length)
        else
          match operators.find? fun s => s.toList.isPrefixOf (c :: rest) with
          | some op => .op op :: symbolsWithin fuel ((c :: rest).drop op.length)
          | none => [.other]

/-- The operators between two operands that are always evaluated, from the loosest to the tightest. -/
def levels : List (List String) :=
  [["|"], ["^"], ["&"], ["==", "!="], ["<=", ">=", "<", ">"], ["<<", ">>"], ["+", "-"], ["*", "/", "%"]]

def assigning : List String :=
  ["=", "+=", "-=", "*=", "/=", "%=", "&=", "|=", "^=", "<<=", ">>="]

def ofBool (b : Bool) : Int := if b then 1 else 0

/-- The bits of an integer, as a natural number. -/
def bits (n : Int) : Nat := (n % (twoTo 64 : Int)).toNat

def applyUnary (op : String) (n : Int) : Int :=
  match op with
  | "-" => wrap (-n)
  | "!" => ofBool (n == 0)
  | "~" => -n - 1
  | _ => n

/-- The value of an operator. -/
def applyBinary (op : String) (a b : Int) : Except Fault Int :=
  match op with
  | "|" => .ok (wrap (Int.ofNat (bits a ||| bits b)))
  | "^" => .ok (wrap (Int.ofNat (bits a ^^^ bits b)))
  | "&" => .ok (wrap (Int.ofNat (bits a &&& bits b)))
  | "==" => .ok (ofBool (a == b))
  | "!=" => .ok (ofBool (a != b))
  | "<=" => .ok (ofBool (a ≤ b))
  | ">=" => .ok (ofBool (b ≤ a))
  | "<" => .ok (ofBool (a < b))
  | ">" => .ok (ofBool (b < a))
  | "<<" => .ok (wrap (a * twoTo (b % 64).toNat))
  | ">>" => .ok (a.fdiv (twoTo (b % 64).toNat))
  | "+" => .ok (wrap (a + b))
  | "-" => .ok (wrap (a - b))
  | "*" => .ok (wrap (a * b))
  | "/" => if b == 0 then .error .divisionByZero else .ok (wrap (a.tdiv b))
  | _ => if b == 0 then .error .divisionByZero else .ok (a.tmod b)

/-- What is left of an expression, and the variables that it has assigned, the last one first. -/
structure State where
  symbols : List Symbol
  assigned : List (String × Int) := []

abbrev Reading (α : Type) := StateT State (Except Fault) α

/-- Goes on behind the symbol at the front. -/
def advance : Reading Unit := modify fun s => { s with symbols := s.symbols.drop 1 }

/-- The symbol at the front. -/
def front : Reading (Option Symbol) := return (← get).symbols.head?

def expect (op what : String) : Reading Unit := do
  if (← front) == some (.op op) then advance else throw (.expecting what)

/-- The value of a variable, of which `lookup` tells the texts from before. -/
def textValue (lookup : String → Option (List Char)) (name : String) : Reading Int := do
  match (← get).assigned.lookup name with
  | some n => return n
  | none =>
    let text := (lookup name).getD []
    match ofVariable? text with
    | some n => return n
    | none => throw (.notNumber text)

mutual

/-- An assignment, or an expression without one at its front. -/
def expression (lookup : String → Option (List Char)) : Nat → Bool → Reading Int
  | 0, _ => throw (.expecting "primary")
  | fuel + 1, counts => do
    match (← get).symbols with
    | .name name :: .op op :: rest =>
      if assigning.contains op then
        modify fun s => { s with symbols := rest }
        let n ← expression lookup fuel counts
        if !counts then return n
        let n ←
          if op == "=" then pure n
          else liftM (applyBinary (op.dropEnd 1).toString (← textValue lookup name) n)
        modify fun s => { s with assigned := (name, n) :: s.assigned }
        return n
      else conditional lookup fuel counts
    | _ => conditional lookup fuel counts

def conditional (lookup : String → Option (List Char)) : Nat → Bool → Reading Int
  | 0, _ => throw (.expecting "primary")
  | fuel + 1, counts => do
    let c ← alternatives lookup fuel counts
    if (← front) != some (.op "?") then return c
    advance
    let a ← expression lookup fuel (counts && c != 0)
    expect ":" "':'"
    let b ← conditional lookup fuel (counts && c == 0)
    return if c != 0 then a else b

/-- Operands of which one has to be true. -/
def alternatives (lookup : String → Option (List Char)) : Nat → Bool → Reading Int
  | 0, _ => throw (.expecting "primary")
  | fuel + 1, counts => do
    let a ← conjunction lookup fuel counts
    if (← front) != some (.op "||") then return a
    advance
    let b ← alternatives lookup fuel (counts && a == 0)
    return ofBool (a != 0 || b != 0)

/-- Operands that all have to be true. -/
def conjunction (lookup : String → Option (List Char)) : Nat → Bool → Reading Int
  | 0, _ => throw (.expecting "primary")
  | fuel + 1, counts => do
    let a ← level lookup fuel counts levels
    if (← front) != some (.op "&&") then return a
    advance
    let b ← conjunction lookup fuel (counts && a != 0)
    return ofBool (a != 0 && b != 0)

/-- An expression whose operators are on some levels. -/
def level (lookup : String → Option (List Char)) : Nat → Bool → List (List String) → Reading Int
  | 0, _, _ => throw (.expecting "primary")
  | fuel + 1, counts, [] => operand lookup fuel counts
  | fuel + 1, counts, ops :: tighter => do
    let a ← level lookup fuel counts tighter
    further lookup fuel counts ops tighter a

/-- What follows a value on one level. -/
def further (lookup : String → Option (List Char)) :
    Nat → Bool → List String → List (List String) → Int → Reading Int
  | 0, _, _, _, _ => throw (.expecting "primary")
  | fuel + 1, counts, ops, tighter, a => do
    match ← front with
    | some (.op op) =>
      if ops.contains op then
        advance
        let b ← level lookup fuel counts tighter
        let a ← if counts then liftM (applyBinary op a b) else pure b
        further lookup fuel counts ops tighter a
      else return a
    | _ => return a

def operand (lookup : String → Option (List Char)) : Nat → Bool → Reading Int
  | 0, _ => throw (.expecting "primary")
  | fuel + 1, counts => do
    match ← front with
    | some (.number n) =>
      advance
      return n
    | some (.name name) =>
      advance
      if counts then textValue lookup name else return 0
    | some (.op "(") =>
      advance
      let n ← expression lookup fuel counts
      expect ")" "')'"
      return n
    | some (.op op) =>
      if ["+", "-", "!", "~"].contains op then
        advance
        return applyUnary op (← operand lookup fuel counts)
      else throw (.expecting "primary")
    | _ => throw (.expecting "primary")

end

/-- The value of a text, and the variables that it assigns, the last one first. -/
def evaluate (lookup : String → Option (List Char)) (cs : List Char) :
    Except Fault (Int × List (String × Int)) := do
  let symbols := symbolsWithin (cs.length + 1) cs
  let (n, s) ← (expression lookup (20 * symbols.length + 20) true).run { symbols }
  if s.symbols.isEmpty then return (n, s.assigned) else throw (.expecting "EOF")

end Workflow.Shell.Arithmetic
