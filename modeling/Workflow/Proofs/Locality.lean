import Workflow.Proofs.Recount

/-!
# What a node reads of the context

The parameters of an action and the condition of a node read the context of a run at paths. A node is
local to some nodes if none of its paths leads to the output of another one (`Node.LocalTo`); what an
attempt at it comes to is then the same in all contexts that agree on the outputs of those nodes
(`Run.attempted_congr`). A flow is local if each node is local to the nodes from which edges lead to it.
-/

namespace Workflow

/-! ### Contexts that agree -/

theorem Key.same_text {k : Key} {s : String} : k.same (.text s) = true ↔ k = .text s := by
  cases k with
  | float d => by_cases h : d.isInteger = true <;> simp [Key.same, Key.whole?, h]
  | foreign f => cases f <;> simp [Key.same, Key.whole?]
  | _ => simp [Key.same, Key.whole?]

theorem Fields.get?_set (name key : String) (v : Value) (fields : Fields) :
    Fields.get? name (Fields.set (.text key) v fields) =
      if key = name then some v else Fields.get? name fields := by
  induction fields with
  | nil => simp [Fields.set, Fields.get?]
  | cons f fields ih =>
    obtain ⟨k, u⟩ := f
    by_cases hk : k.same (.text key) = true
    · obtain rfl := Key.same_text.1 hk
      by_cases hn : key = name <;> simp [Fields.set, Fields.get?, Key.same_text.2, hn]
    · -- a key that is looked up by `name` is that text, and is replaced by no other one
      by_cases hkn : k = .text name
      · have hn : key ≠ name := fun h => hk (Key.same_text.2 (h ▸ hkn))
        rw [Fields.set, if_neg hk, Fields.get?, Fields.get?, if_pos hkn, if_pos hkn, if_neg hn]
      · simp [Fields.set, Fields.get?, hk, hkn, ih]

/-- Two contexts with the same outputs of some nodes, and the same of all that is no output of a node. -/
structure RunContext.Agree (known : String → Prop) (c c' : RunContext) : Prop where
  trigger : c.trigger = c'.trigger
  assigned : c.assigned = c'.assigned
  nodes : ∀ id, known id → Fields.get? id c.nodes = Fields.get? id c'.nodes

namespace RunContext

variable {c c' : RunContext} {known : String → Prop}

theorem step_root (c : RunContext) (first : String) :
    Path.step c.root first =
      if first = "nodes" then .object c.nodes
      else if first = "trigger" then c.trigger else (Fields.get? first c.assigned).getD .null := by
  simp only [root, Path.step, Fields.get?_set, eq_comm (b := first)]
  split
  next => rfl
  next => split <;> rfl

theorem root_isGiven (c : RunContext) : c.root.isGiven = true := by
  have hset : ∀ (key : Key) (v : Value) (fields : Fields), (Fields.set key v fields).isEmpty = false := by
    intro key v fields
    cases fields with
    | nil => rfl
    | cons f fields => simp only [Fields.set]; split <;> rfl
  simp [root, Value.isGiven, hset]

end RunContext

/-! ### Paths -/

/-- A path leads to no output of a node but of known ones. -/
inductive Path.LocalTo (known : String → Prop) (path : String) : Prop where
  | other {first : String} {rest : List String} (hs : Path.segments path = first :: rest)
      (hf : first ≠ "nodes") : LocalTo known path
  | node {id : String} {rest : List String} (hs : Path.segments path = "nodes" :: id :: rest)
      (hk : known id) : LocalTo known path

theorem Path.LocalTo.at_eq {known : String → Prop} {c c' : RunContext} {path : String}
    (hp : Path.LocalTo known path) (h : c.Agree known c') : c.root.at path = c'.root.at path := by
  have hother : ∀ {first : String}, first ≠ "nodes" → Path.step c.root first = Path.step c'.root first := by
    intro first hf
    rw [c.step_root, c'.step_root, if_neg hf, if_neg hf, h.trigger, h.assigned]
  unfold Value.at
  cases hp with
  | other hs hf => rw [hs, List.foldl_cons, List.foldl_cons, hother hf]
  | node hs hk =>
    simp only [hs, List.foldl_cons]
    rw [c.step_root, c'.step_root, if_pos rfl, if_pos rfl]
    simp only [Path.step, h.nodes _ hk]

/-! ### Templates -/

/-- The path of a placeholder. -/
def TemplatePart.path? : TemplatePart → Option String
  | literal _ => none
  | placeholder inner => some (Template.pathOf inner)

namespace Template

mutual

/-- The paths in a value that is rendered. -/
def paths : Value → List String
  | .text s => (parse s.toList).filterMap TemplatePart.path?
  | .object fields => fieldPaths fields
  | _ => []

def fieldPaths : List (Key × Value) → List String
  | [] => []
  | (_, v) :: rest => paths v ++ fieldPaths rest

end

variable {root root' : Value}

theorem renderParts_congr {parts : List TemplatePart}
    (h : ∀ path ∈ parts.filterMap TemplatePart.path?, root.at path = root'.at path) :
    renderParts root parts = renderParts root' parts := by
  induction parts with
  | nil => rfl
  | cons part parts ih =>
    have hrest : renderParts root parts = renderParts root' parts :=
      ih fun path hp => h path (List.mem_filterMap.2 (by
        obtain ⟨q, hq, hqp⟩ := List.mem_filterMap.1 hp
        exact ⟨q, List.mem_cons_of_mem _ hq, hqp⟩))
    have hpart : renderPart root part = renderPart root' part := by
      cases part with
      | literal c => rfl
      | placeholder inner =>
        simp only [renderPart, h (pathOf inner) (List.mem_filterMap.2 ⟨_, List.mem_cons_self, rfl⟩)]
    rw [renderParts, renderParts, hpart, hrest]

mutual

theorem renderValue_congr : ∀ v : Value, (∀ path ∈ paths v, root.at path = root'.at path) →
    renderValue root v = renderValue root' v
  | .text s, h => by simp only [renderValue, render, renderParts_congr h]
  | .object fields, h => by simp only [renderValue, renderFields_congr fields h]
  | .null, _ => rfl
  | .bool _, _ => rfl
  | .int _, _ => rfl
  | .float _, _ => rfl
  | .list _, _ => rfl
  | .pair _ _, _ => rfl
  | .foreign _, _ => rfl

theorem renderFields_congr : ∀ fields : List (Key × Value),
    (∀ path ∈ fieldPaths fields, root.at path = root'.at path) →
    renderFields root fields = renderFields root' fields
  | [], _ => rfl
  | (key, v) :: rest, h => by
    rw [renderFields, renderFields, renderValue_congr v fun path hp => h path (List.mem_append_left _ hp),
      renderFields_congr rest fun path hp => h path (List.mem_append_right _ hp)]

end

end Template

/-! ### Conditions -/

/-- A reference leads to no output of a node but of known ones. -/
inductive Reference.LocalTo (known : String → Prop) : Reference → Prop where
  | literal (value : Literal) : LocalTo known (.literal value)
  | context {path : String} (hp : Path.LocalTo known path) : LocalTo known (.context path)
  | node {id : String} (path : String) (hk : known id) : LocalTo known (.node id path)

theorem Reference.LocalTo.resolve_eq {known : String → Prop} {c c' : RunContext} {r : Reference}
    (hr : r.LocalTo known) (h : c.Agree known c') : r.resolve c.root = r.resolve c'.root := by
  cases hr with
  | literal value => rfl
  | context hp => exact hp.at_eq h
  | node path hk =>
    have hnodes : ∀ c : RunContext, c.root.at "nodes" = .object c.nodes := fun c => c.step_root "nodes"
    simp only [resolve, hnodes, Value.field, h.nodes _ hk]

namespace Condition

mutual

/-- What the comparisons in a condition refer to. -/
def references : Condition → List Reference
  | compare left _ right => [left, right]
  | all conditions => allReferences conditions
  | any conditions => allReferences conditions

def allReferences : List Condition → List Reference
  | [] => []
  | c :: rest => references c ++ allReferences rest

end

variable {root root' : Value}

mutual

theorem holds_congr : ∀ c : Condition, (∀ r ∈ references c, r.resolve root = r.resolve root') →
    holds root c = holds root' c
  | compare left relation right, h => by
    rw [holds, holds, h left (by simp [references]), h right (by simp [references])]
  | all conditions, h => by rw [holds, holds, (allHold_congr conditions h).1]
  | any conditions, h => by rw [holds, holds, (allHold_congr conditions h).2]

theorem allHold_congr : ∀ conditions : List Condition,
    (∀ r ∈ allReferences conditions, r.resolve root = r.resolve root') →
    allHold root conditions = allHold root' conditions ∧
      anyHolds root conditions = anyHolds root' conditions
  | [], _ => ⟨rfl, rfl⟩
  | c :: rest, h => by
    have hc := holds_congr c fun r hr => h r (List.mem_append_left _ hr)
    obtain ⟨hall, hany⟩ := allHold_congr rest fun r hr => h r (List.mem_append_right _ hr)
    exact ⟨by rw [allHold, allHold, hc, hall], by rw [anyHolds, anyHolds, hc, hany]⟩

end

end Condition

/-! ### Nodes -/

/-- What a node refers to: the places in the context of its parameters or its condition. -/
def Node.references (n : Node) : List Reference :=
  match n.parsedConfig with
  | .action _ params => (Template.fieldPaths (params.getD [])).map .context
  | .condition raw => (Condition.parse? raw).elim [] Condition.references
  | _ => []

/-- A node leads to no output of a node but of known ones. -/
def Node.LocalTo (known : String → Prop) (n : Node) : Prop := ∀ r ∈ n.references, r.LocalTo known

/-- Edges lead from a node with an id to another one. -/
def FlowGraph.Ancestor (g : FlowGraph) (n : Node) (id : String) : Prop :=
  Digraph.Leads (g.edges.map Edge.ends) id n.id

/-- The parameters and conditions of nodes lead to no outputs but of their ancestors. -/
def FlowGraph.Local (g : FlowGraph) : Prop := ∀ n ∈ g.nodes, n.LocalTo (g.Ancestor n)

theorem FlowGraph.local_of_references {g : FlowGraph} {refs : List (String × List Reference)}
    (h : g.nodes.map (fun n => (n.id, n.references)) = refs)
    (hl : ∀ p ∈ refs, ∀ r ∈ p.2, r.LocalTo fun id => Digraph.Leads (g.edges.map Edge.ends) id p.1) :
    g.Local :=
  fun n hn => hl (n.id, n.references) (h ▸ List.mem_map.2 ⟨n, hn, rfl⟩)

namespace Run

variable {σ : Type} {known : String → Prop} {n : Node} {c c' : RunContext}

theorem decided_congr {raw : Value} (h : c.Agree known c')
    (hr : ∀ r ∈ (Condition.parse? raw).elim [] Condition.references, r.LocalTo known) :
    decided raw c = decided raw c' := by
  have heval : Condition.evaluate raw c.root = Condition.evaluate raw c'.root := by
    unfold Condition.evaluate
    split
    next => rfl
    next cond hp =>
      rw [hp] at hr
      rw [Value.orElse, if_pos c.root_isGiven, Value.orElse, if_pos c'.root_isGiven]
      exact Condition.holds_congr cond fun r hmem => (hr r hmem).resolve_eq h
  rw [decided, decided, heval]

/-- The attempt at a node is the same in all contexts that agree on the nodes to which it is local. -/
theorem attempted_congr (actions : Registry σ) (s : σ) (hn : n.LocalTo known) (h : c.Agree known c') :
    attempted actions s c n = attempted actions s c' n := by
  unfold Node.LocalTo Node.references at hn
  cases hc : n.parsedConfig with
  | trigger _ _ => simp only [attempted, hc, triggered, h.trigger]
  | action type params =>
    rw [hc] at hn
    have hpaths : ∀ path ∈ Template.fieldPaths (params.getD []), c.root.at path = c'.root.at path :=
      fun path hp => (hn (.context path) (List.mem_map_of_mem hp)).resolve_eq h
    simp only [attempted, hc, Template.renderFields_congr _ hpaths]
  | condition raw =>
    rw [hc] at hn
    simp only [attempted, hc, decided_congr h hn]
  | other _ => simp only [attempted, hc]

end Run

end Workflow
