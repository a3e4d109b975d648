import Workflow.Flow.Validation
import Workflow.Proofs.WrittenForm

/-!
# Conditions without faults

Nothing is wrong with what a condition can be read from: validation lists no issue for any form of a
condition, at whatever depth (`WrittenAs.conditionIssues`). So a condition that validation finds fault
with is one that cannot be read, and holds nowhere (`conditionIssues_of_read`).
-/

namespace Workflow

namespace Validation

/-- What is wrong with the parts of a condition is what is wrong with the items of the list that holds them. -/
theorem partsIssues_eq {joined : String} {items : List Value} {fields : List (Key × Value)}
    (h : Fields.get? "conditions" fields = some (.list items)) (hne : items ≠ []) :
    partsIssues joined fields = allIssues items := by
  obtain ⟨first, others, rfl⟩ := List.exists_cons_of_ne_nil hne
  induction fields with
  | nil => cases h
  | cons f rest ih =>
    -- both stop at the first field of that name
    obtain ⟨key, v⟩ := f
    by_cases hkey : key = .text "conditions"
    · rw [Fields.get?, if_pos hkey] at h
      cases h
      rw [partsIssues.eq_def]
      simp only [if_pos hkey, allIssues]
    · rw [Fields.get?, if_neg hkey] at h
      rw [partsIssues.eq_def]
      simp only [if_neg hkey, ih h]

theorem not_isBlank_of_field? {v w : Value} {name : String} (h : v.field? name = some w) : isBlank v = false := by
  obtain ⟨fields, rfl⟩ := Value.object_of_field? h
  rfl

/-- An operand is an object, whatever stands in it. -/
theorem not_isBlank_of_written {r : Reference} {v : Value} (h : r.WrittenAs v) : isBlank v = false := by
  cases h with
  | literal type => exact not_isBlank_of_field? type
  | context type => exact not_isBlank_of_field? type
  | node type => exact not_isBlank_of_field? type

theorem not_isBlank_name (r : Relation) : isBlank (.text r.name) = false := by cases r <;> rfl

end Validation

open Validation

namespace Condition

mutual

theorem WrittenAs.conditionIssues : ∀ {c : Condition} {v : Value}, c.WrittenAs v → conditionIssues v = []
  | .compare left relation right, v, .compare type hl operator hr hwl hwr => by
    obtain ⟨fields, rfl⟩ := Value.object_of_field? type
    rw [Value.field?] at type
    rw [Validation.conditionIssues, type]
    simp only [Value.field_eq, hl, operator, hr, Option.getD_some, not_isBlank_of_written hwl,
      not_isBlank_of_written hwr, not_isBlank_name]
    rfl
  | .all parts, v, .all type hc hne hw => by
    obtain ⟨fields, rfl⟩ := Value.object_of_field? type
    rw [Value.field?] at type hc
    rw [Validation.conditionIssues, type]
    exact (partsIssues_eq hc hne).trans (allIssues_of_written hw)
  | .any parts, v, .any type hc hne hw => by
    obtain ⟨fields, rfl⟩ := Value.object_of_field? type
    rw [Value.field?] at type hc
    rw [Validation.conditionIssues, type]
    exact (partsIssues_eq hc hne).trans (allIssues_of_written hw)

theorem allIssues_of_written : ∀ {parts : List Condition} {items : List Value},
    List.Forall₂ WrittenAs parts items → allIssues items = []
  | [], _, .nil => by rw [allIssues]
  | c :: rest, _, .cons h hs => by rw [allIssues, WrittenAs.conditionIssues h, allIssues_of_written hs, List.nil_append]

end

/-- Validation finds nothing wrong with a value that a condition is read from. If it does find fault with a
value, no condition is read from it, so that it does not hold in any context. -/
theorem conditionIssues_of_read (raw : Value) :
    ((parse? raw).isSome = true → conditionIssues raw = []) ∧
      (conditionIssues raw ≠ [] → ∀ root, evaluate raw root = .ok false) := by
  have hread : (parse? raw).isSome = true → conditionIssues raw = [] := by
    intro h
    obtain ⟨c, hc⟩ := Option.isSome_iff_exists.1 h
    exact (parse?_eq_some_iff.1 hc).1.conditionIssues
  refine ⟨hread, fun hissues root => ?_⟩
  have hnone : parse? raw = none := Option.not_isSome_iff_eq_none.1 (mt hread hissues)
  rw [evaluate, hnone]

/-- The form with a title and the other key for the id of a node has no faults; a comparison with nothing
on its left has one, and does not hold. -/
theorem conditionIssues_of_aliased :
    conditionIssues aliased = [] ∧
    evaluate (.record [("type", .text "compare"), ("operator", .text "eq"),
      ("right", .record [("type", .text "literal"), ("value", .int 1)])]) (.object []) = .ok false := by
  refine ⟨(conditionIssues_of_read aliased).1 rfl, (conditionIssues_of_read _).2 (fun h => ?_) _⟩
  cases h

end Condition

end Workflow
