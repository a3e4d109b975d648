import Workflow.Text.Surrogate
import Workflow.Text.Utf8

/-!
# Bytes as text

The command language works on bytes. A text of it has one character for each byte, with the number of
the byte. A `Source` is what a command reads: some bytes, and after them perhaps others that come
again and again.
-/
namespace Workflow.Shell

/-- The bytes of a text, each as the character of its number. A half of a surrogate pair may stand for
a byte. -/
def byteText (s : String) : List Char :=
  (Text.codes s.toList).flatMap fun code =>
    match Text.systemByte? code with
    | some n => [Char.ofNat n]
    | none => (Text.encodeChar (Char.ofNat code)).map fun b => Char.ofNat b.toNat

def ofBytes (bytes : List UInt8) : List Char := bytes.map fun b => Char.ofNat b.toNat

def toBytes (cs : List Char) : List UInt8 := cs.map fun c => UInt8.ofNat c.toNat

structure Source where
  text : List Char := []
  /-- What comes again and again after the text, if it is not empty. -/
  cycle : List Char := []

namespace Source

def isEndless (s : Source) : Bool := !s.cycle.isEmpty

/-- The first bytes. -/
def take (s : Source) (n : Nat) : List Char :=
  let missing := n - s.text.length
  let rounds := if s.isEndless then missing / s.cycle.length + 1 else 0
  s.text.take n ++ ((List.replicate rounds s.cycle).flatten).take missing

/-- What is left behind the first bytes. -/
def drop (s : Source) (n : Nat) : Source :=
  if n ≤ s.text.length || !s.isEndless then ⟨s.text.drop n, s.cycle⟩
  else
    let shift := (n - s.text.length) % s.cycle.length
    ⟨[], s.cycle.drop shift ++ s.cycle.take shift⟩

/-- One source after the other: what stands behind an endless one is never reached. -/
def append (s t : Source) : Source := if s.isEndless then s else ⟨s.text ++ t.text, t.cycle⟩

/-- Changes each byte by itself. -/
def flatMap (f : Char → List Char) (s : Source) : Source := ⟨s.text.flatMap f, s.cycle.flatMap f⟩

end Source

/-- The first line without its end, and what follows. -/
def splitLine (cs : List Char) : List Char × List Char :=
  (cs.takeWhile (· != '\n'), (cs.dropWhile (· != '\n')).drop 1)

/-- Lines without their ends; a last line need not have one. -/
def linesWithin : Nat → List Char → List (List Char)
  | 0, _ => []
  | _, [] => []
  | fuel + 1, cs => (splitLine cs).1 :: linesWithin fuel (splitLine cs).2

def lines (cs : List Char) : List (List Char) := linesWithin cs.length cs

def unlines (ls : List (List Char)) : List Char := ls.flatMap fun l => l ++ ['\n']

end Workflow.Shell
