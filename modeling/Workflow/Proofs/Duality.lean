import Workflow.Proofs.Ordering

/-!
# The dual of a condition

In the dual of a condition `and` and `or` are exchanged at every level, and every comparison is turned
into its complement. It is written with as many levels, so that it is read where the condition is, and in
every context it holds just if the condition does not (`evaluate_dual`): both look at the same
comparisons in the same order, and fail at the same one if one fails.
-/

namespace Workflow

theorem Value.compare_complement (r : Relation) (x y : Value) :
    compare r.complement x y = (compare r x y).map (!·) := by
  rw [compare_eq_order, compare_eq_order]
  cases x.order y with
  | error f => rfl
  | ok o => exact congrArg Except.ok (r.admits_complement o)

namespace Condition

mutual

/-- The condition with `and` and `or` exchanged and every comparison turned into its complement. -/
def dual : Condition → Condition
  | compare left relation right => compare left relation.complement right
  | all parts => any (duals parts)
  | any parts => all (duals parts)

def duals : List Condition → List Condition
  | [] => []
  | c :: rest => dual c :: duals rest

end

mutual

theorem holds_dual (root : Value) : ∀ c : Condition, c.dual.holds root = (c.holds root).map (!·)
  | compare left relation right => by
    rw [dual, holds, holds]
    exact Value.compare_complement relation _ _
  | all parts => by
    rw [dual, holds, holds]
    exact anyHolds_duals root parts
  | any parts => by
    rw [dual, holds, holds]
    exact allHold_duals root parts

theorem anyHolds_duals (root : Value) :
    ∀ parts : List Condition, anyHolds root (duals parts) = (allHold root parts).map (!·)
  | [] => rfl
  | c :: rest => by
    rw [duals, anyHolds, allHold, holds_dual root c]
    cases c.holds root with
    | error f => rfl
    | ok b =>
      cases b with
      | false => rfl
      | true => exact anyHolds_duals root rest

theorem allHold_duals (root : Value) :
    ∀ parts : List Condition, allHold root (duals parts) = (anyHolds root parts).map (!·)
  | [] => rfl
  | c :: rest => by
    rw [duals, allHold, anyHolds, holds_dual root c]
    cases c.holds root with
    | error f => rfl
    | ok b =>
      cases b with
      | false => exact allHold_duals root rest
      | true => rfl

end

/-! ### The written form of the dual -/

mutual

theorem levels_dual : ∀ c : Condition, c.dual.levels = c.levels
  | compare _ _ _ => by rw [dual, levels, levels]
  | all parts => by rw [dual, levels, levels, levelsOf_duals parts]
  | any parts => by rw [dual, levels, levels, levelsOf_duals parts]

theorem levelsOf_duals : ∀ parts : List Condition, levelsOf (duals parts) = levelsOf parts
  | [] => by rw [duals]
  | c :: rest => by rw [duals, levelsOf, levelsOf, levels_dual c, levelsOf_duals rest]

end

theorem toValues_duals_ne_nil {parts : List Condition} {items : List Value}
    (h : List.Forall₂ WrittenAs parts items) (hne : items ≠ []) : toValues (duals parts) ≠ [] := by
  cases h with
  | nil => exact absurd rfl hne
  | cons => simp [duals, toValues]

mutual

/-- The dual of a condition that has a form has one too. -/
theorem written_dual : ∀ {c : Condition} {v : Value}, c.WrittenAs v → c.dual.WrittenAs c.dual.toValue
  | compare left relation right, _, _ => by
    rw [dual, toValue]
    exact .compare rfl rfl rfl rfl left.written_toValue right.written_toValue
  | all parts, _, .all _ _ hne hw => by
    rw [dual, toValue]
    exact .any rfl rfl (toValues_duals_ne_nil hw hne) (written_duals hw)
  | any parts, _, .any _ _ hne hw => by
    rw [dual, toValue]
    exact .all rfl rfl (toValues_duals_ne_nil hw hne) (written_duals hw)

theorem written_duals : ∀ {parts : List Condition} {items : List Value},
    List.Forall₂ WrittenAs parts items → List.Forall₂ WrittenAs (duals parts) (toValues (duals parts))
  | [], _, _ => by
    rw [duals, toValues]
    exact .nil
  | c :: rest, _, .cons h hs => by
    rw [duals, toValues]
    exact .cons (written_dual h) (written_duals hs)

end

/-- In every context the dual of a condition holds just if the condition does not, and fails just where
and as the condition does. A condition that is read from some form has a dual that is read from its own
form; and from whatever form that is read, its evaluation gives the opposite or fails likewise. -/
theorem evaluate_dual (c : Condition) :
    (∀ root, c.dual.holds root = (c.holds root).map (!·)) ∧
      ∀ raw, parse? raw = some c → parse? c.dual.toValue = some c.dual ∧
        ∀ w root, parse? w = some c.dual → evaluate w root = (evaluate raw root).map (!·) := by
  refine ⟨fun root => holds_dual root c, fun raw h => ?_⟩
  obtain ⟨hw, hl⟩ := parse?_eq_some_iff.1 h
  refine ⟨parse?_eq_some_iff.2 ⟨written_dual hw, (levels_dual c).trans_le hl⟩, fun w root hdual => ?_⟩
  unfold evaluate
  rw [h, hdual]
  exact holds_dual _ c

/-- A status of 400 or more, or else a comparison with an integer of 401 digits. -/
def contested : Condition :=
  any [all [compare (.context "status") .gte (.literal (.int 400))],
    compare (.literal (.int (tenTo 400))) .eq (.literal (.int 1))]

/-- While the first part holds the dual does not; otherwise both come to the comparison and fail. -/
theorem evaluate_of_contested :
    parse? contested.toValue = some contested ∧
    parse? contested.dual.toValue = some contested.dual ∧
    evaluate contested.dual.toValue (.record [("status", .int 500)]) = .ok false ∧
    evaluate contested.dual.toValue (.record [("status", .int 200)]) = .error .integerOverflow := by
  have hparse : parse? contested.toValue = some contested := rfl
  obtain ⟨hdual, heval⟩ := (evaluate_dual contested).2 _ hparse
  have holds : evaluate contested.toValue (.record [("status", .int 500)]) = .ok true := rfl
  have hfails : evaluate contested.toValue (.record [("status", .int 200)]) = .error .integerOverflow := by
    decide +kernel
  refine ⟨hparse, hdual, ?_, ?_⟩
  · rw [heval _ _ hdual, holds]
    rfl
  · rw [heval _ _ hdual, hfails]
    rfl

end Condition

end Workflow
