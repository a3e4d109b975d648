import Workflow.Proofs.Faultless
import Workflow.Proofs.Unwritable
import Workflow.Proofs.Validity
import Workflow.Run

/-!
# Conditions that pass validation

Validation looks at the outline of a condition: comparisons for which both sides and an operator are given,
joined by `and` and `or` (`conditionIssues_eq_nil_iff`). What the sides and the operator are, and how many
levels there are, is left to the reader, and a condition that it does not read is false in every context. So
in a valid flow a condition is read just if each of its comparisons is one and stands deep enough, and else
the branch for false is taken (`decided_of_valid`).
-/

namespace Workflow

open Validation

namespace Condition

/-- The types of conditions that join others. -/
def IsJoining (type : String) : Prop := type = "and" ∨ type = "or"

/-- What validation wants a condition to be. -/
inductive Outline : Value → Prop where
  | compare {v : Value} (type : v.field? "type" = some (.text "compare"))
      (left : isBlank (v.field "left") = false) (operator : isBlank (v.field "operator") = false)
      (right : isBlank (v.field "right") = false) : Outline v
  | joined {v : Value} {name : String} {items : List Value} (type : v.field? "type" = some (.text name))
      (hname : IsJoining name) (conditions : v.field? "conditions" = some (.list items))
      (nonempty : items ≠ []) (parts : ∀ w ∈ items, Outline w) : Outline v

/-- Under `n` levels of `and` and `or` the comparison `w` stands in `v`. -/
inductive Compares : (n : Nat) → (w v : Value) → Prop where
  | self {v : Value} (type : v.field? "type" = some (.text "compare")) : Compares 0 v v
  | part {v w part : Value} {name : String} {items : List Value} {n : Nat}
      (type : v.field? "type" = some (.text name)) (hname : IsJoining name)
      (conditions : v.field? "conditions" = some (.list items)) (mem : part ∈ items)
      (h : Compares n w part) : Compares (n + 1) w v

variable {v w : Value} {items : List Value} {k n : Nat}

/-! ### What validation passes -/

theorem allIssues_eq_nil_iff : allIssues items = [] ↔ ∀ v ∈ items, conditionIssues v = [] := by
  induction items with
  | nil => simp [allIssues]
  | cons v rest ih => rw [allIssues, List.append_eq_nil_iff, ih, List.forall_mem_cons]

theorem partsIssues_eq_nil_iff {joined : String} {fields : Fields} : partsIssues joined fields = [] ↔
    ∃ items, Fields.get? "conditions" fields = some (.list items) ∧ items ≠ [] ∧ allIssues items = [] := by
  constructor
  · intro h
    induction fields with
    | nil => rw [partsIssues] at h; cases h
    | cons f rest ih =>
      obtain ⟨key, v⟩ := f
      rw [partsIssues.eq_def] at h
      rw [Fields.get?]
      by_cases hkey : key = .text "conditions"
      · simp only [if_pos hkey] at h ⊢
        cases v with
        | list items =>
          cases items with
          | nil => cases h
          | cons first others => exact ⟨_, rfl, by simp, by rw [allIssues]; exact h⟩
        | _ => cases h
      · simp only [if_neg hkey] at h ⊢
        exact ih h
  · rintro ⟨items, hget, hne, hall⟩
    rw [partsIssues_eq hget hne, hall]

theorem conditionIssues_compare (type : v.field? "type" = some (.text "compare")) :
    conditionIssues v = [] ↔ isBlank (v.field "left") = false ∧ isBlank (v.field "operator") = false ∧
      isBlank (v.field "right") = false := by
  obtain ⟨fields, rfl⟩ := Value.object_of_field? type
  rw [Value.field?] at type
  rw [conditionIssues, type]
  simp only [List.append_eq_nil_iff, issueIf_eq_nil, and_assoc]

theorem conditionIssues_joined {name : String} (type : v.field? "type" = some (.text name))
    (hname : IsJoining name) : conditionIssues v = [] ↔
      ∃ items, v.field? "conditions" = some (.list items) ∧ items ≠ [] ∧ ∀ w ∈ items, conditionIssues w = [] := by
  obtain ⟨fields, rfl⟩ := Value.object_of_field? type
  rw [Value.field?] at type
  simp only [← allIssues_eq_nil_iff]
  rcases hname with rfl | rfl <;> rw [conditionIssues, type] <;> exact partsIssues_eq_nil_iff

/-- What has no issues has one of the three types. -/
theorem type_of_conditionIssues (h : conditionIssues v = []) :
    ∃ name, v.field? "type" = some (.text name) ∧ (name = "compare" ∨ IsJoining name) := by
  cases v with
  | object fields =>
    rw [conditionIssues] at h
    split at h
    next type => exact ⟨_, type, .inl rfl⟩
    next type => exact ⟨_, type, .inr (.inl rfl)⟩
    next type => exact ⟨_, type, .inr (.inr rfl)⟩
    next => cases h
  | _ =>
    rw [conditionIssues.eq_def] at h
    simp only at h
    split at h <;> cases h

theorem Outline.conditionIssues_eq_nil (h : Outline v) : conditionIssues v = [] := by
  induction h with
  | compare type left operator right => exact (conditionIssues_compare type).2 ⟨left, operator, right⟩
  | joined type hname conditions nonempty _ ih =>
    exact (conditionIssues_joined type hname).2 ⟨_, conditions, nonempty, ih⟩

theorem outline_of_conditionIssues (h : conditionIssues v = []) : Outline v := by
  -- the conditions of a list stand two levels below the object, so that what holds of them is carried along
  have both : (conditionIssues v = [] → Outline v) ∧
      ∀ items, v = .list items → ∀ w ∈ items, conditionIssues w = [] → Outline w := by
    clear h
    induction v using Value.byParts with
    | list items ih =>
      refine ⟨fun h => ?_, ?_⟩
      · obtain ⟨name, type, -⟩ := type_of_conditionIssues h
        cases type
      · rintro _ ⟨⟩ w hw
        exact (ih w hw).1
    | object fields ih =>
      refine ⟨fun h => ?_, fun items hv => by cases hv⟩
      obtain ⟨name, type, rfl | hname⟩ := type_of_conditionIssues h
      · obtain ⟨left, operator, right⟩ := (conditionIssues_compare type).1 h
        exact .compare type left operator right
      · obtain ⟨items, conditions, nonempty, hitems⟩ := (conditionIssues_joined type hname).1 h
        refine .joined type hname conditions nonempty fun w hw => ?_
        exact (ih _ (Value.get?_mem conditions)).2 items rfl w hw (hitems w hw)
    | _ =>
      refine ⟨fun h => ?_, fun items hv => by cases hv⟩
      obtain ⟨name, type, -⟩ := type_of_conditionIssues h
      cases type
  exact both.1 h

/-- Validation finds nothing wrong with just the outlines of conditions. -/
theorem conditionIssues_eq_nil_iff : conditionIssues v = [] ↔ Outline v :=
  ⟨outline_of_conditionIssues, Outline.conditionIssues_eq_nil⟩

/-! ### What is read of it -/

theorem type_ne_compare {name : String} (hname : IsJoining name) : name ≠ "compare" := by
  rcases hname with rfl | rfl <;> decide

theorem Compares.of_compare (type : v.field? "type" = some (.text "compare")) (h : Compares n w v) :
    n = 0 ∧ w = v := by
  cases h with
  | self => exact ⟨rfl, rfl⟩
  | part type' hname =>
    cases type.symm.trans type'
    exact absurd rfl (type_ne_compare hname)

/-- The comparisons of joined conditions are those of the parts, one level deeper. -/
theorem compares_joined {name : String} (type : v.field? "type" = some (.text name)) (hname : IsJoining name)
    (conditions : v.field? "conditions" = some (.list items)) :
    Compares n w v ↔ ∃ k, n = k + 1 ∧ ∃ part ∈ items, Compares k w part := by
  constructor
  · intro h
    cases h with
    | self type' =>
      cases type.symm.trans type'
      exact absurd rfl (type_ne_compare hname)
    | part _ _ conditions' mem h =>
      cases conditions.symm.trans conditions'
      exact ⟨_, rfl, _, mem, h⟩
  · rintro ⟨k, rfl, part, mem, h⟩
    exact .part type hname conditions mem h

theorem Outline.exists_compares (h : Outline v) : ∃ n w, Compares n w v := by
  induction h with
  | compare type => exact ⟨0, _, .self type⟩
  | joined type hname conditions nonempty _ ih =>
    obtain ⟨part, mem⟩ := List.exists_mem_of_ne_nil _ nonempty
    obtain ⟨n, w, h⟩ := ih part mem
    exact ⟨n + 1, w, .part type hname conditions mem h⟩

/-- The parts of a written condition, whether all of them are to hold or any. -/
theorem written_joined {name : String} (type : v.field? "type" = some (.text name)) (hname : IsJoining name)
    (conditions : v.field? "conditions" = some (.list items)) (nonempty : items ≠ []) :
    (∃ c : Condition, c.WrittenAs v ∧ c.levels ≤ k) ↔
      ∃ parts, List.Forall₂ WrittenAs parts items ∧ levelsOf parts < k := by
  constructor
  · rintro ⟨c, hc, hk⟩
    cases hc with
    | compare type' =>
      cases type.symm.trans type'
      exact absurd rfl (type_ne_compare hname)
    | all _ conditions' _ written =>
      cases conditions.symm.trans conditions'
      exact ⟨_, written, hk⟩
    | any _ conditions' _ written =>
      cases conditions.symm.trans conditions'
      exact ⟨_, written, hk⟩
  · rintro ⟨parts, written, hk⟩
    rcases hname with rfl | rfl
    · exact ⟨.all parts, .all type conditions nonempty written, hk⟩
    · exact ⟨.any parts, .any type conditions nonempty written, hk⟩

/-- Items that are written each are written together, and the levels of all are bounded by the levels of each. -/
theorem exists_written_parts (nonempty : items ≠ []) :
    (∃ parts, List.Forall₂ WrittenAs parts items ∧ levelsOf parts < k) ↔
      ∀ part ∈ items, ∃ c : Condition, c.WrittenAs part ∧ c.levels < k := by
  constructor
  · rintro ⟨parts, written, hk⟩ part mem
    have hne : parts ≠ [] := by
      rintro rfl
      exact nonempty (List.forall₂_nil_left_iff.1 written)
    obtain ⟨c, hc, hw⟩ := (exists_of_forall₂ written).2 part mem
    exact ⟨c, hw, (levelsOf_lt hne).1 hk c hc⟩
  · intro h
    have : Nonempty Condition := ⟨.all []⟩
    choose! f hf using h
    refine ⟨items.map f, ?_, ?_⟩
    · rw [List.forall₂_map_left_iff, List.forall₂_same]
      exact fun part mem => (hf part mem).1
    · rw [levelsOf_lt (by simpa using nonempty), List.forall_mem_map]
      exact fun part mem => (hf part mem).2

/-- An outline is read just if each of its comparisons is one, under no more levels than are allowed. -/
theorem Outline.written_iff (h : Outline v) : (∃ c : Condition, c.WrittenAs v ∧ c.levels ≤ k) ↔
    ∀ n w, Compares n w v →
      n ≤ k ∧ ∃ left relation right, (Condition.compare left relation right).WrittenAs w := by
  induction h generalizing k with
  | compare type =>
    constructor
    · rintro ⟨c, hc, -⟩ n w hw
      obtain ⟨rfl, rfl⟩ := hw.of_compare type
      refine ⟨Nat.zero_le k, ?_⟩
      cases hc with
      | compare type' hl operator hr hwl hwr => exact ⟨_, _, _, .compare type' hl operator hr hwl hwr⟩
      | all type' => simp [type] at type'
      | any type' => simp [type] at type'
    · intro hall
      obtain ⟨-, left, relation, right, hc⟩ := hall 0 _ (.self type)
      exact ⟨_, hc, Nat.zero_le k⟩
  | joined type hname conditions nonempty parts ih =>
    rw [written_joined type hname conditions nonempty, exists_written_parts nonempty]
    constructor
    · intro hall n w hw
      obtain ⟨m, rfl, part, mem, hm⟩ := (compares_joined type hname conditions).1 hw
      obtain ⟨c, hc, hlt⟩ := hall part mem
      have hpart := (ih part mem).1 ⟨c, hc, Nat.le_sub_one_of_lt hlt⟩ m w hm
      exact ⟨by omega, hpart.2⟩
    · intro hall part mem
      have hdeeper : ∀ {n w}, Compares n w part → n + 1 ≤ k ∧
          ∃ left relation right, (Condition.compare left relation right).WrittenAs w :=
        fun h => hall _ _ (.part type hname conditions mem h)
      obtain ⟨n, w, hw⟩ := (parts part mem).exists_compares
      have hk : n + 1 ≤ k := (hdeeper hw).1
      obtain ⟨c, hc, hle⟩ := (ih part mem (k := k - 1)).2 fun n w hw =>
        ⟨Nat.le_sub_one_of_lt (hdeeper hw).1, (hdeeper hw).2⟩
      exact ⟨c, hc, by omega⟩

theorem isSome_parse?_iff : (parse? v).isSome = true ↔ ∃ c : Condition, c.WrittenAs v ∧ c.levels ≤ depthLimit := by
  simp only [Option.isSome_iff_exists, parse?_eq_some_iff]

/-! ### In a valid flow -/

/-- A valid flow has the outline of a condition at each of its condition nodes. It is read just if each of its
comparisons is one and has no more levels above it than are allowed; if it is not read, the node gives false
in every context, and the branch for false is taken. -/
theorem decided_of_valid {nodes : List Node} {edges : List Edge} {node : Node} {raw : Value}
    (hvalid : isValid nodes edges = true) (hnode : node ∈ nodes) (hconfig : node.parsedConfig = .condition raw) :
    Outline raw ∧
    ((parse? raw).isSome = true ↔ ∀ n w, Compares n w raw →
      n ≤ depthLimit ∧ ∃ left relation right, (Condition.compare left relation right).WrittenAs w) ∧
    (parse? raw = none → ∀ c : RunContext, Run.decided raw c =
      { output := .record [("result", .bool false)], input := raw, branch := some false }) := by
  have hissues : configIssues node = [] := (isValid_iff.1 hvalid).configs node hnode
  have houtline : Outline raw := by
    rw [configIssues, hconfig] at hissues
    exact conditionIssues_eq_nil_iff.1 hissues
  refine ⟨houtline, isSome_parse?_iff.trans houtline.written_iff, fun hnone c => ?_⟩
  rw [Run.decided, evaluate, hnone]

/-- Whether one is equal to one, with an operator that there is not. -/
def misspelt : Value :=
  .record [("type", .text "compare"), ("left", .record [("type", .text "literal"), ("value", .int 1)]),
    ("operator", .text "=="), ("right", .record [("type", .text "literal"), ("value", .int 1)])]

def misspeltTest : Node := { id := "test", type := "condition", config := .record [("condition", misspelt)] }

/-- A trigger and the condition behind it. -/
def misspeltFlow : FlowGraph where
  flow := { id := "misspelt", created := ⟨0⟩, updated := ⟨0⟩ }
  nodes := [{ id := "start", type := "trigger", config := .object [] }, misspeltTest]
  edges := [{ id := "first", source := "start", target := "test" }]

/-- The flow is valid, and its condition node gives false. -/
theorem decided_of_misspelt :
    isValid misspeltFlow.nodes misspeltFlow.edges = true ∧ misspeltTest ∈ misspeltFlow.nodes ∧
    misspeltTest.parsedConfig = .condition misspelt ∧
    (Run.decided misspelt (.start (.object []))).branch = some false := by
  have hvalid : isValid misspeltFlow.nodes misspeltFlow.edges = true := by decide
  have hnode : misspeltTest ∈ misspeltFlow.nodes := List.mem_cons_of_mem _ (List.mem_singleton_self _)
  have hconfig : misspeltTest.parsedConfig = .condition misspelt := rfl
  have hdecided := (decided_of_valid hvalid hnode hconfig).2.2 rfl (.start (.object []))
  exact ⟨hvalid, hnode, hconfig, congrArg NodeOutcome.branch hdecided⟩

/-- So not every condition of a valid flow is read. -/
theorem not_read_of_misspelt :
    ¬ ∀ (nodes : List Node) (edges : List Edge), isValid nodes edges = true →
      ∀ node ∈ nodes, ∀ raw, node.parsedConfig = .condition raw → (parse? raw).isSome = true := by
  intro hall
  have hread := hall misspeltFlow.nodes misspeltFlow.edges (by decide) misspeltTest
    (List.mem_cons_of_mem _ (List.mem_singleton_self _)) misspelt rfl
  cases hread

end Condition

end Workflow
