/-!
# Likeness of texts

Two texts are alike if most of their characters match. The longest run that both hold is matched
first, and then what stands before it and what stands behind it; so the matched runs come in the same
order in both. `closest` finds the texts that somebody may have meant.
-/
namespace Workflow.Text

/-- The length of the longest beginning that two texts share. -/
def sharedStart : List Char → List Char → Nat
  | a :: as, b :: bs => if a == b then sharedStart as bs + 1 else 0
  | _, _ => 0

/-- Where a run stands in two texts, and its length. -/
structure SharedRun where
  left : Nat := 0
  right : Nat := 0
  size : Nat := 0

/-- The longest run that two texts share, of several the first one. -/
def longestRun (a b : List Char) : SharedRun :=
  (List.range a.length).foldl (fun best i =>
    (List.range b.length).foldl (fun best j =>
      let size := sharedStart (a.drop i) (b.drop j)
      if best.size < size then ⟨i, j, size⟩ else best) best) {}

/-- The number of characters that match; `fuel` bounds the depth of runs. -/
def matched : Nat → List Char → List Char → Nat
  | 0, _, _ => 0
  | fuel + 1, a, b =>
    let run := longestRun a b
    if run.size == 0 then 0
    else
      matched fuel (a.take run.left) (b.take run.right) + run.size +
        matched fuel (a.drop (run.left + run.size)) (b.drop (run.right + run.size))

/-- The part of the characters of two texts that match, as a numerator and a denominator. -/
structure Likeness where
  matching : Nat
  total : Nat

def Likeness.atLeast (l : Likeness) (numerator denominator : Nat) : Bool :=
  l.total * numerator ≤ 2 * l.matching * denominator

def likeness (a b : List Char) : Likeness := ⟨matched (a.length + 1) a b, a.length + b.length⟩

/-- Whether six tenths of the characters match. Where the lengths forbid it nothing is compared. -/
def isAlike (a b : List Char) : Bool :=
  Likeness.atLeast ⟨min a.length b.length, a.length + b.length⟩ 6 10 && (likeness a b).atLeast 6 10

/-- The most texts that are offered instead of one. -/
def offerLimit : Nat := 3

/-- Of the choices the most alike to a word, the closest first. -/
def closest (word : String) (choices : List String) : List String :=
  let scored := (choices.filter fun c => isAlike c.toList word.toList).map fun c =>
    (c, likeness c.toList word.toList)
  let isBefore (x y : String × Likeness) : Bool :=
    let l := x.2.matching * y.2.total
    let r := y.2.matching * x.2.total
    r < l || (l == r && decide (y.1 ≤ x.1))
  ((scored.mergeSort isBefore).take offerLimit).map (·.1)

end Workflow.Text
