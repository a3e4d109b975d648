import Workflow.Failure

/-!
# New ids

Ids are drawn one after the other and never come twice.
-/
namespace Workflow

/-- Operations that draw new ids: the count of ids drawn so far goes through, also when one stops
with a failure. -/
abbrev Drawing := ExceptT Failure (StateM Nat)

/-- The id with a number. -/
def idOf (n : Nat) : String := "uuid-" ++ toString n

/-- A new id. -/
def drawId : Drawing String := do
  modify (· + 1)
  return idOf (← get)

/-- An outcome as a step of a larger operation. -/
def Drawing.ofExcept {α : Type} (r : Outcome α) : Drawing α := ExceptT.mk (pure r)

end Workflow
