import Workflow.Number.Power
import Workflow.Value

/-!
# The order of the members of a set

The numbers in a set stand in the order of their places in an open table. The place of a number
follows from its residue; where that place is taken, some of the places behind it are tried and then
others further off. A table that is filled to three fifths is replaced by a larger one.
-/
namespace Workflow.Yaml.Members

/-- The modulus of residues, a prime. -/
def modulus : Nat := twoTo 61 - 1

/-- Residues are words of this size. -/
def wordSize : Nat := twoTo 64

/-- A magnitude with its sign as a word; minus one is taken for minus two. -/
def signed (negative : Bool) (magnitude : Nat) : Nat :=
  if !negative || magnitude == 0 then magnitude
  else if magnitude == 1 then wordSize - 2
  else wordSize - magnitude

/-- The residue of a number. -/
def residue? : Key → Option Nat
  | .bool b => some (if b then 1 else 0)
  | .int i => some (signed (i < 0) (i.natAbs % modulus))
  | .float (.number negative rank _) =>
    if rank == infinityRank then some (signed negative 314159)
    else
      let shift := (Double.exponentOf rank).emod 61
      some (signed negative (Double.mantissaOf rank * twoTo shift.toNat % modulus))
  | _ => none

/-- A table of a power of two of places. -/
abbrev Table (α : Type) := List (Option (Nat × α))

/-- The places at and behind a place that are tried together. -/
def neighbours (size place : Nat) : List Nat :=
  if place + 9 < size then (List.range 10).map (place + ·) else [place]

/-- The first free place for a residue, beginning at a place. -/
def freePlace {α : Type} (table : Table α) : Nat → Nat → Nat → Nat
  | 0, place, _ => place
  | fuel + 1, place, rest =>
    match (neighbours table.length place).find? fun p => (table[p]?.bind id).isNone with
    | some p => p
    | none =>
      let rest := rest / 32
      freePlace table fuel ((place * 5 + 1 + rest) % table.length) rest

def insert {α : Type} (table : Table α) (entry : Nat × α) : Table α :=
  let (residue, _) := entry
  table.set (freePlace table (table.length + 16) (residue % table.length) residue) (some entry)

/-- A table for more than so many entries, with those of another. -/
def resized {α : Type} (table : Table α) (count : Nat) : Table α :=
  let size := twoTo (max 3 (Nat.log2 count + 1))
  (table.filterMap id).foldl insert (List.replicate size none)

def used {α : Type} (table : Table α) : Nat := (table.filterMap id).length

/-- Adds an entry, and makes room for others. -/
def add {α : Type} (table : Table α) (entry : Nat × α) : Table α :=
  let table := insert table entry
  let n := used table
  if n * 5 < (table.length - 1) * 3 then table
  else resized table (if n > 50000 then n * 2 else n * 4)

/-- The members of a set in order; without order for others than numbers they stay as they are. -/
def ordered (keys : List Key) : List Key :=
  match keys.mapM fun key => (residue? key).map fun residue => (residue, key) with
  | none => keys
  | some entries =>
    let start : Table Key := List.replicate 8 none
    let start := if entries.length * 5 < 21 then start else resized start (entries.length * 2)
    ((entries.foldl add start).filterMap id).map (·.2)

end Workflow.Yaml.Members
