/-!
# Shelves

A `Shelf` keeps values under names, in the order in which the names came. A `Page` is the part of a
list that a reader asks for.
-/
namespace Workflow

abbrev Shelf (α : Type) := List (String × α)

namespace Shelf

variable {α : Type}

/-- What is kept under a name. -/
def get? (s : Shelf α) (name : String) : Option α := (s.find? (·.1 == name)).map (·.2)

def has (s : Shelf α) (name : String) : Bool := s.any (·.1 == name)

/-- Puts a value under a name: in the old place if the name is there, else at the end. -/
def put (s : Shelf α) (name : String) (value : α) : Shelf α :=
  if s.has name then s.map fun entry => if entry.1 == name then (name, value) else entry
  else s ++ [(name, value)]

def remove (s : Shelf α) (name : String) : Shelf α := s.filter (·.1 != name)

def names (s : Shelf α) : List String := s.map (·.1)

def values (s : Shelf α) : List α := s.map (·.2)

end Shelf

structure Page where
  offset : Int := 0
  limit : Int := 100

namespace Page

/-- The place that an index names in a list of some length: a negative one counts from the end. -/
def place (length : Nat) (i : Int) : Nat :=
  if i < 0 then (i + length).toNat else min i.toNat length

/-- The items from the offset up to, but not including, the offset plus the limit. -/
def slice {α : Type} (p : Page) (items : List α) : List α :=
  (items.take (place items.length (p.offset + p.limit))).drop (place items.length p.offset)

/-- At most `limit` items after the first `offset`; a negative limit is none. -/
def window {α : Type} (p : Page) (items : List α) : List α :=
  let rest := items.drop p.offset.toNat
  if p.limit < 0 then rest else rest.take p.limit.toNat

end Page

end Workflow
