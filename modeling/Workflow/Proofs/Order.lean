import Workflow.Flow.Order
import Workflow.Flow.Validation
import Workflow.Proofs.Cycle

/-!
# The order of a valid flow

An order lists every node once, each after the nodes its edges come from (`IsOrder`). There is one
if and only if the ids of the nodes are pairwise different and the links between them have no cycle.
The checks before a run rule a cycle out, but not that an id is repeated, so that of the valid flows
just those with pairwise different ids have an order (`isValid_order_iff`).
-/

namespace Workflow

open Workflow.Digraph (Arrangement Leads)

namespace FlowGraph

variable {g : FlowGraph} {l : List Node} {id : String} {n : Node}

theorem mem_ids : id ∈ g.ids ↔ ∃ n ∈ g.nodes, n.id = id := by
  rw [ids, Digraph.mem_firstPlaces, List.mem_map]

theorem ids_nodup (g : FlowGraph) : g.ids.Nodup := Digraph.nodup_firstPlaces _

theorem mem_links {a b : String} :
    (a, b) ∈ g.links ↔ (∃ e ∈ g.edges, e.source = a ∧ e.target = b) ∧ a ∈ g.ids ∧ b ∈ g.ids := by
  simp [links, Edge.ends]

theorem arrangement (g : FlowGraph) : Arrangement g.ids g.links (Digraph.arrange g.ids g.links) :=
  Digraph.arrange_spec g.ids_nodup fun _ hp => (mem_links.1 hp).2.2

theorem node?_of_mem_ids (h : id ∈ g.ids) : ∃ n, g.node? id = some n := by
  obtain ⟨n, hn, rfl⟩ := mem_ids.1 h
  exact Option.isSome_iff_exists.1 (List.find?_isSome.2 ⟨n, hn, by simp⟩)

theorem id_of_node? (h : g.node? id = some n) : n.id = id := by simpa using List.find?_some h

theorem mem_of_node? (h : g.node? id = some n) : n ∈ g.nodes := List.mem_of_find?_eq_some h

theorem map_id_filterMap_node? {ids : List String} (h : ids ⊆ g.ids) :
    (ids.filterMap g.node?).map Node.id = ids := by
  induction ids with
  | nil => rfl
  | cons id ids ih =>
    obtain ⟨n, hn⟩ := node?_of_mem_ids (h List.mem_cons_self)
    rw [List.filterMap_cons, hn, List.map_cons, id_of_node? hn, ih fun a ha => h (by simp [ha])]

theorem map_id_arranged (g : FlowGraph) : g.arranged.map Node.id = Digraph.arrange g.ids g.links :=
  map_id_filterMap_node? g.arrangement.subset

/-- An order of the nodes in which they can run. -/
structure IsOrder (g : FlowGraph) (l : List Node) : Prop where
  nodup : (l.map Node.id).Nodup
  perm : l.Perm g.nodes
  sorted : ∀ l₁ n l₂, l = l₁ ++ n :: l₂ → ∀ e ∈ g.edges, e.target = n.id → e.source ∈ g.ids →
    e.source ∈ l₁.map Node.id

theorem order_eq_ok (h : g.order = .ok l) : l = g.arranged ∧ g.arranged.length = g.nodes.length := by
  unfold order at h
  split at h
  next hlen => exact ⟨(Except.ok.inj h).symm, by simpa using hlen⟩
  next => cases h

theorem order_eq_error {f : Failure} (h : g.order = .error f) : f = .cyclicFlow := by
  unfold order at h
  split at h
  next => cases h
  next => exact (Except.error.inj h).symm

theorem length_arranged_le (g : FlowGraph) : g.arranged.length ≤ g.ids.length := by
  rw [← List.length_map Node.id, map_id_arranged]
  exact (List.subperm_of_subset g.arrangement.nodup g.arrangement.subset).length_le

theorem isOrder_of_order (h : g.order = .ok l) : g.IsOrder l := by
  obtain ⟨rfl, hlen⟩ := order_eq_ok h
  have hnd : (g.arranged.map Node.id).Nodup := map_id_arranged g ▸ g.arrangement.nodup
  have hmem : g.arranged ⊆ g.nodes := fun n hn => by
    obtain ⟨_, -, hn⟩ := List.mem_filterMap.1 hn
    exact mem_of_node? hn
  refine ⟨hnd, (List.subperm_of_subset hnd.of_map hmem).perm_of_length_le hlen.ge, ?_⟩
  intro l₁ n l₂ hl e he hn hs
  have hmap : Digraph.arrange g.ids g.links = l₁.map Node.id ++ n.id :: l₂.map Node.id := by
    rw [← map_id_arranged, hl, List.map_append, List.map_cons]
  have hid : n.id ∈ g.ids := mem_ids.2 ⟨n, hmem (by simp [hl]), rfl⟩
  exact g.arrangement.sorted _ _ _ hmap _ (mem_links.2 ⟨⟨e, he, rfl, hn⟩, hs, hid⟩)

theorem nodup_of_order (h : g.order = .ok l) : (g.nodes.map Node.id).Nodup :=
  ((isOrder_of_order h).perm.map Node.id).nodup (isOrder_of_order h).nodup

theorem exists_order (hids : (g.nodes.map Node.id).Nodup) (hlinks : ∀ v, ¬ Leads g.links v v) :
    ∃ l, g.order = .ok l := by
  refine ⟨g.arranged, if_pos ?_⟩
  have hsub : g.ids ⊆ Digraph.arrange g.ids g.links := fun v hv => by
    by_contra hl
    obtain ⟨a, ha⟩ := g.arrangement.exists_cycle (fun p hp => (mem_links.1 hp).2.1) hv hl
    exact hlinks a ha
  have hle := (List.subperm_of_subset g.ids_nodup hsub).length_le
  rw [← map_id_arranged, List.length_map] at hle
  have hlen : g.ids.length = g.nodes.length := by
    rw [ids, Digraph.firstPlaces_of_nodup hids, List.length_map]
  exact beq_iff_eq.2 (le_antisymm (hlen ▸ length_arranged_le g) (hlen ▸ hle))

end FlowGraph

namespace Validation

variable {nodes : List Node} {edges : List Edge}

theorem findings_nil (h : isValid nodes edges = true) : findings nodes edges = [] := by
  simpa [isValid] using h

theorem nonempty_of_isValid (h : isValid nodes edges = true) : nodes ≠ [] := by
  rintro rfl
  simp [isValid, findings] at h

/-- What `findings` lists if there are nodes is all empty. -/
theorem parts_of_isValid (h : isValid nodes edges = true) :
    triggerFindings (nodes.filter (·.isTrigger)) edges = [] ∧
    edges.flatMap (edgeFindings nodes) = [] ∧
    findingIf (hasCycle (nodes.map Node.id) edges) .cycle none = [] := by
  have := findings_nil h
  rw [findings, if_neg (by simpa using nonempty_of_isValid h)] at this
  simp only [List.append_eq_nil_iff] at this
  exact ⟨this.1.1.1.1.1, this.1.1.2, this.1.2⟩

theorem findingIf_eq_nil {c : Bool} {issue : Issue} {node : Option String} :
    findingIf c issue node = [] ↔ c = false := by
  cases c <;> simp [findingIf]

theorem issueIf_eq_nil {c : Bool} {issue : ConfigIssue} : issueIf c issue = [] ↔ c = false := by
  cases c <;> simp [issueIf]

theorem known_ends (h : isValid nodes edges = true) {e : Edge} (he : e ∈ edges) :
    (∃ n ∈ nodes, n.id = e.source) ∧ ∃ n ∈ nodes, n.id = e.target := by
  have := List.flatMap_eq_nil_iff.1 (parts_of_isValid h).2.1 e he
  simp only [edgeFindings, List.flatMap_cons, List.flatMap_nil, List.append_nil,
    List.append_eq_nil_iff, findingIf_eq_nil, List.all_eq_false] at this
  simpa using this

/-- Following the edges of a valid flow never leads back. -/
theorem not_leads (h : isValid nodes edges = true) (v : String) :
    ¬ Leads (edges.map Edge.ends) v v := by
  intro hv
  have hno := findingIf_eq_nil.1 (parts_of_isValid h).2.2
  rw [hasCycle, Digraph.hasCycle_iff.2 ⟨v, hv⟩] at hno
  cases hno

/-- A valid flow has just one trigger. -/
theorem one_trigger (h : isValid nodes edges = true) : ∃ t, nodes.filter (·.isTrigger) = [t] := by
  have ht := (List.append_eq_nil_iff.1 (parts_of_isValid h).1).1
  generalize nodes.filter (·.isTrigger) = triggers at ht
  match triggers with
  | [] => cases ht
  | [t] => exact ⟨t, rfl⟩
  | _ :: _ :: _ => cases ht

end Validation

namespace FlowGraph

variable {g : FlowGraph}

theorem leads_of_link (a b : String) (h : (a, b) ∈ g.links) : (a, b) ∈ g.edges.map Edge.ends := by
  obtain ⟨⟨e, he, rfl, rfl⟩, -⟩ := mem_links.1 h
  exact List.mem_map_of_mem he

/-- Of the valid flows just those have an order whose nodes have pairwise different ids; it lists
every node once, after the sources of its edges. -/
theorem isValid_order_iff (h : Validation.isValid g.nodes g.edges = true) :
    ((g.nodes.map Node.id).Nodup ∧ ∃ l, g.order = .ok l ∧ g.IsOrder l) ∨
    (¬ (g.nodes.map Node.id).Nodup ∧ g.order = .error .cyclicFlow) := by
  by_cases hids : (g.nodes.map Node.id).Nodup
  · have hlinks : ∀ v, ¬ Leads g.links v v := fun v hv =>
      Validation.not_leads h v (Relation.TransGen.mono leads_of_link v v hv)
    obtain ⟨l, hl⟩ := exists_order hids hlinks
    exact .inl ⟨hids, l, hl, isOrder_of_order hl⟩
  · refine .inr ⟨hids, ?_⟩
    cases ho : g.order with
    | ok l => exact absurd (nodup_of_order ho) hids
    | error f => rw [order_eq_error ho]

theorem reports_of_isValid (h : Validation.isValid g.nodes g.edges = true) : g.reports = .ok [] := by
  rw [reports, Validation.findings_nil h]
  rfl

theorem isValid_of_reports (h : g.reports = .ok []) : Validation.isValid g.nodes g.edges = true := by
  unfold reports at h
  cases hf : Validation.findings g.nodes g.edges with
  | nil => simp [Validation.isValid, hf]
  | cons f rest =>
    rw [hf, List.mapM_cons] at h
    cases hr : f.report with
    | error _ => rw [hr] at h; cases h
    | ok r =>
      cases hrs : rest.mapM Finding.report with
      | error _ => rw [hr, hrs] at h; cases h
      | ok rs => rw [hr, hrs] at h; cases h

/-- A trigger with one node behind it, which does nothing. -/
def pair : FlowGraph where
  flow := { id := "pair", created := ⟨0⟩, updated := ⟨0⟩ }
  nodes := [{ id := "start", type := "trigger", config := .object [] },
    { id := "note", type := "note", config := .object [] }]
  edges := [{ id := "first", source := "start", target := "note" }]

end FlowGraph

end Workflow
