import Mathlib.Data.List.Chain
import Workflow.Proofs.Order

/-!
# Circuits

Edges one after the other that come back to where they began are a circuit. The search for cycles finds
out whether there is one, whatever ids are listed beside the edges (`hasCycle_iff_circuit`). In an order
of the nodes every edge leads forward, so that no circuit can close; and where none does, a flow whose
ids are pairwise different has an order (`order_of_distinct`). Edges with an unknown end lead nowhere in
an order, but the search follows them.
-/

namespace Workflow

open Workflow.Digraph (Leads)

/-- Edges one after the other that lead from `a` to `b`. -/
structure IsWalk (edges : List Edge) (a b : String) (walk : List Edge) : Prop where
  subset : ∀ e ∈ walk, e ∈ edges
  linked : walk.IsChain fun e f => e.target = f.source
  first : walk.head?.map Edge.source = some a
  last : walk.getLast?.map Edge.target = some b

/-- Edges one after the other that come back to where they began. -/
def IsCircuit (edges walk : List Edge) : Prop := ∃ v, IsWalk edges v v walk

variable {edges walk : List Edge} {e : Edge} {a b : String}

theorem IsWalk.single (he : e ∈ edges) : IsWalk edges e.source e.target [e] :=
  ⟨by simpa using he, .singleton e, rfl, rfl⟩

theorem IsWalk.cons (he : e ∈ edges) (h : IsWalk edges e.target b walk) :
    IsWalk edges e.source b (e :: walk) := by
  cases walk with
  | nil => cases h.first
  | cons f rest =>
    have hf : f.source = e.target := Option.some.inj h.first
    refine ⟨List.forall_mem_cons.2 ⟨he, h.subset⟩, h.linked.cons_cons hf.symm, rfl, ?_⟩
    rw [List.getLast?_cons_cons]
    exact h.last

theorem IsWalk.leads (h : IsWalk edges a b walk) : Leads (edges.map Edge.ends) a b := by
  induction walk generalizing a with
  | nil => cases h.first
  | cons e rest ih =>
    have ha : e.source = a := Option.some.inj h.first
    have he : (a, e.target) ∈ edges.map Edge.ends :=
      List.mem_map.2 ⟨e, h.subset e List.mem_cons_self, by rw [Edge.ends, ha]⟩
    cases rest with
    | nil =>
      have hb : e.target = b := Option.some.inj h.last
      exact .single (hb ▸ he)
    | cons f rest =>
      obtain ⟨hef, hlinked⟩ := List.isChain_cons_cons.1 h.linked
      have hlast := h.last
      rw [List.getLast?_cons_cons] at hlast
      have hrest := ih ⟨(List.forall_mem_cons.1 h.subset).2, hlinked, rfl, hlast⟩
      exact .head he (hef ▸ hrest)

theorem leads_iff_walk : Leads (edges.map Edge.ends) a b ↔ ∃ walk, IsWalk edges a b walk := by
  refine ⟨fun h => ?_, fun ⟨_, h⟩ => h.leads⟩
  induction h using Relation.TransGen.head_induction_on with
  | single h =>
    obtain ⟨e, he, hends⟩ := List.mem_map.1 h
    cases hends
    exact ⟨[e], .single he⟩
  | head h _ ih =>
    obtain ⟨e, he, hends⟩ := List.mem_map.1 h
    cases hends
    obtain ⟨walk, hwalk⟩ := ih
    exact ⟨e :: walk, .cons he hwalk⟩

theorem exists_circuit_iff : (∃ walk, IsCircuit edges walk) ↔ ∃ v, Leads (edges.map Edge.ends) v v := by
  simp only [leads_iff_walk, IsCircuit]
  exact exists_comm

/-- A flow counts as having a cycle if and only if some of its edges are a circuit: loops and edges
between ids that no node has count too, and the ids that are listed do not matter. -/
theorem hasCycle_iff_circuit (ids : List String) (edges : List Edge) :
    Validation.hasCycle ids edges = true ↔ ∃ walk, IsCircuit edges walk := by
  rw [Validation.hasCycle, Digraph.hasCycle_iff, exists_circuit_iff]

namespace FlowGraph

variable {g : FlowGraph} {l : List Node}

/-- The edges of which both ends are nodes of the flow. -/
def inner (g : FlowGraph) : List Edge := g.edges.filter fun e => e.source ∈ g.ids ∧ e.target ∈ g.ids

theorem mem_inner : e ∈ g.inner ↔ e ∈ g.edges ∧ e.source ∈ g.ids ∧ e.target ∈ g.ids := by
  simp [inner]

theorem links_eq (g : FlowGraph) : g.links = g.inner.map Edge.ends := by
  rw [links, List.filter_map, inner]
  congr 1
  refine List.filter_congr fun e _ => Bool.eq_iff_iff.2 ?_
  simp only [Function.comp_apply, Edge.ends, Bool.and_eq_true, List.contains_iff_mem, decide_eq_true_eq]

/-- In an order every edge between nodes leads forward. -/
theorem IsOrder.index_lt (h : g.IsOrder l) (he : e ∈ g.inner) :
    (l.map Node.id).idxOf e.source < (l.map Node.id).idxOf e.target := by
  obtain ⟨he, hsource, htarget⟩ := mem_inner.1 he
  obtain ⟨n, hn, hid⟩ := mem_ids.1 htarget
  obtain ⟨l₁, l₂, rfl⟩ := List.append_of_mem (h.perm.mem_iff.2 hn)
  have hbefore := h.sorted l₁ n l₂ rfl e he hid.symm hsource
  have hnd := h.nodup
  rw [List.map_append, List.map_cons] at hnd ⊢
  have hnew : n.id ∉ l₁.map Node.id := fun hmem =>
    (List.nodup_append.1 hnd).2.2 _ hmem _ List.mem_cons_self rfl
  calc (l₁.map Node.id ++ n.id :: l₂.map Node.id).idxOf e.source
      = (l₁.map Node.id).idxOf e.source := List.idxOf_append_of_mem hbefore
    _ < (l₁.map Node.id).length := List.idxOf_lt_length_iff.2 hbefore
    _ = (l₁.map Node.id ++ n.id :: l₂.map Node.id).idxOf e.target := by
      rw [← hid, List.idxOf_append_of_notMem hnew, List.idxOf_cons_self, Nat.add_zero]

theorem IsOrder.index_lt_of_leads (h : g.IsOrder l) (hab : Leads (g.inner.map Edge.ends) a b) :
    (l.map Node.id).idxOf a < (l.map Node.id).idxOf b := by
  have hedge : ∀ a b, (a, b) ∈ g.inner.map Edge.ends →
      (l.map Node.id).idxOf a < (l.map Node.id).idxOf b := fun a b hab => by
    obtain ⟨e, he, hends⟩ := List.mem_map.1 hab
    cases hends
    exact h.index_lt he
  induction hab with
  | single hab => exact hedge _ _ hab
  | tail _ hbc ih => exact ih.trans (hedge _ _ hbc)

/-- Where there is an order no circuit closes. -/
theorem not_circuit_of_order (h : g.order = .ok l) (walk : List Edge) : ¬ IsCircuit g.inner walk := by
  intro hwalk
  obtain ⟨v, hv⟩ := exists_circuit_iff.1 ⟨walk, hwalk⟩
  exact lt_irrefl _ ((isOrder_of_order h).index_lt_of_leads hv)

theorem order_of_circuit (h : ∃ walk, IsCircuit g.inner walk) : g.order = .error .cyclicFlow := by
  obtain ⟨walk, hwalk⟩ := h
  cases ho : g.order with
  | ok l => exact absurd hwalk (not_circuit_of_order ho walk)
  | error f => rw [order_eq_error ho]

theorem exists_order_of_distinct (hids : (g.nodes.map Node.id).Nodup)
    (h : ¬ ∃ walk, IsCircuit g.inner walk) : ∃ l, g.order = .ok l ∧ g.IsOrder l := by
  rw [exists_circuit_iff, ← links_eq, not_exists] at h
  obtain ⟨l, hl⟩ := exists_order hids h
  exact ⟨l, hl, isOrder_of_order hl⟩

theorem inner_eq_edges (h : ∀ e ∈ g.edges, e.source ∈ g.ids ∧ e.target ∈ g.ids) : g.inner = g.edges :=
  List.filter_eq_self.2 fun e he => by simpa using h e he

/-- If the ids of the nodes are pairwise different and no edges between them are a circuit, the nodes
have an order: each of them comes once, and of each edge between nodes the source before the target. If
there is a circuit between nodes they have none. So if all edges are between nodes, they have no order
just if the flow counts as having a cycle. -/
theorem order_of_distinct (hids : (g.nodes.map Node.id).Nodup) :
    ((¬ ∃ walk, IsCircuit g.inner walk) → ∃ l, g.order = .ok l ∧ l.Perm g.nodes ∧
      ∀ e ∈ g.inner, (l.map Node.id).idxOf e.source < (l.map Node.id).idxOf e.target) ∧
    ((∃ walk, IsCircuit g.inner walk) → g.order = .error .cyclicFlow) ∧
    ((∀ e ∈ g.edges, e.source ∈ g.ids ∧ e.target ∈ g.ids) →
      (g.order = .error .cyclicFlow ↔ Validation.hasCycle (g.nodes.map Node.id) g.edges = true)) := by
  refine ⟨fun h => ?_, order_of_circuit, fun hends => ?_⟩
  · obtain ⟨l, hl, hord⟩ := exists_order_of_distinct hids h
    exact ⟨l, hl, hord.perm, fun e he => hord.index_lt he⟩
  · rw [Validation.hasCycle, Digraph.hasCycle_iff, ← exists_circuit_iff, ← inner_eq_edges hends]
    refine ⟨fun h => ?_, order_of_circuit⟩
    by_contra hno
    obtain ⟨l, hl, -⟩ := exists_order_of_distinct hids hno
    rw [hl] at h
    cases h

/-- Two branches of which one is drawn twice, and a join; `more` edges come last. -/
def braid (more : List Edge) : FlowGraph where
  flow := { id := "braid", created := ⟨0⟩, updated := ⟨0⟩ }
  nodes := [{ id := "join", type := "note" }, { id := "left", type := "note" },
    { id := "right", type := "note" }, { id := "start", type := "trigger" }]
  edges := [{ id := "1", source := "start", target := "left" },
    { id := "2", source := "start", target := "left" }, { id := "3", source := "start", target := "right" },
    { id := "4", source := "left", target := "join" }, { id := "5", source := "right", target := "join" }] ++ more

/-- A loop at an id that no node has is no obstacle to an order; an edge back from the join leaves none. -/
theorem order_of_braid :
    let strange : Edge := { id := "6", source := "ghost", target := "ghost" }
    let back : Edge := { id := "6", source := "join", target := "left" }
    (∃ l, (braid [strange]).order = .ok l ∧ l.Perm (braid [strange]).nodes ∧
      ∀ e ∈ (braid [strange]).inner, (l.map Node.id).idxOf e.source < (l.map Node.id).idxOf e.target) ∧
    (braid [back]).order = .error .cyclicFlow ∧
    Validation.hasCycle ((braid [back]).nodes.map Node.id) (braid [back]).edges = true := by
  intro strange back
  have hopen : ¬ ∃ walk, IsCircuit (braid [strange]).inner walk := by
    intro h
    have hcycle : Digraph.hasCycle [] ((braid [strange]).inner.map Edge.ends) = true :=
      Digraph.hasCycle_iff.2 (exists_circuit_iff.1 h)
    exact absurd hcycle (by decide)
  let there : Edge := { id := "4", source := "left", target := "join" }
  have hthere : there ∈ (braid [back]).inner := mem_inner.2 ⟨by simp [braid, there], by decide, by decide⟩
  have hback : back ∈ (braid [back]).inner := mem_inner.2 ⟨by simp [braid], by decide, by decide⟩
  have hclosed : ∃ walk, IsCircuit (braid [back]).inner walk :=
    ⟨[there, back], "left", .cons hthere (.single hback)⟩
  have hspec := order_of_distinct (g := braid [back]) (by decide)
  exact ⟨(order_of_distinct (g := braid [strange]) (by decide)).1 hopen, hspec.2.1 hclosed,
    (hspec.2.2 (by decide)).1 (hspec.2.1 hclosed)⟩

end FlowGraph

end Workflow
