/-!
# Halves of surrogate pairs

An escape in a text may write half of a surrogate pair, which is no character. A character of an
unassigned block stands for each half, so that a text with such an escape is still a text. The characters
of the block themselves have a mark in front, as has the mark: so a text says which code points it has,
and `codes` tells them.
-/
namespace Workflow.Text

/-- The first of the characters that stand for halves. -/
def surrogateBlock : Nat := 0xe1000

/-- What stands in front of a character of the block that is meant as itself: the character behind the
block. -/
def selfMark : Char := Char.ofNat (surrogateBlock + 0x800)

/-- Whether a code point is half of a surrogate pair. -/
def isHalf (code : Nat) : Bool := 0xd800 ≤ code && code < 0xe000

/-- The character that a half is written as. -/
def surrogate (half : Nat) : Char := Char.ofNat (surrogateBlock + (half - 0xd800))

/-- The code point that a character without a mark stands for. -/
def codeOf (c : Char) : Nat :=
  if surrogateBlock ≤ c.toNat && c.toNat < surrogateBlock + 0x800 then
    c.toNat - surrogateBlock + 0xd800
  else c.toNat

/-- A character that is meant as itself. -/
def marked (c : Char) : List Char :=
  if surrogateBlock ≤ c.toNat && c.toNat ≤ surrogateBlock + 0x800 then [selfMark, c] else [c]

/-- The characters that a code point is written as. -/
def ofCode (code : Nat) : List Char :=
  if isHalf code then [surrogate code] else marked (Char.ofNat code)

/-- The text of characters that are all meant as themselves. -/
def withMarks (cs : List Char) : List Char := cs.flatMap marked

def withoutMarks : List Char → List Char
  | m :: c :: rest => if m == selfMark then c :: withoutMarks rest else m :: withoutMarks (c :: rest)
  | cs => cs

/-- The code points of a text. -/
def codes : List Char → List Nat
  | m :: c :: rest => if m == selfMark then c.toNat :: codes rest else codeOf m :: codes (c :: rest)
  | [c] => [codeOf c]
  | [] => []

/-- Whether a text comes before another, by their code points. -/
def precedes (x y : List Char) : Bool := go (codes x) (codes y)
where
  go : List Nat → List Nat → Bool
    | _, [] => false
    | [], _ :: _ => true
    | a :: as, b :: bs => a < b || (a == b && go as bs)

/-- The byte that a half stands for among the names of a system, which may hold bytes that are no
text. -/
def systemByte? (code : Nat) : Option Nat :=
  if 0xdc80 ≤ code && code < 0xdd00 then some (code - 0xdc00) else none

/-- The first code point that is refused and the halves right behind it, with the place of the first. -/
def refusedHalves? (isRefused : Nat → Bool) : Nat → List Nat → Option (Nat × List Nat)
  | _, [] => none
  | place, code :: rest =>
    if isRefused code then some (place, code :: rest.takeWhile isHalf)
    else refusedHalves? isRefused (place + 1) rest

end Workflow.Text
