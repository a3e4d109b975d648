import Mathlib.Data.List.Chain
import Mathlib.Order.WellFoundedSet
import Workflow.Proofs.Order

/-!
# Every node lies behind the trigger

The checks before a run look at every node by itself: a node other than the trigger must have an edge
that leads to it. As the edges have no cycle, going back along them ends, and it can only end in the
trigger (`Digraph.exists_source`). So every node of a valid flow lies behind the trigger, to which no
edge leads, and the trigger is the first to run (`rooted_of_valid`).
-/

namespace Workflow

namespace Digraph

variable {α : Type} {E : List (α × α)} {V : List α} {v : α}

/-- Going back along the edges of a graph without cycles ends in a source. -/
theorem exists_source (hE : ∀ v, ¬ Leads E v v) (hv : v ∈ V) :
    ∃ u ∈ V, Relation.ReflTransGen (fun a b => (a, b) ∈ E) u v ∧ ∀ a ∈ V, (a, u) ∉ E := by
  have : IsTrans α (Leads E) := ⟨fun _ _ _ => Relation.TransGen.trans⟩
  have : Std.Irrefl (Leads E) := ⟨hE⟩
  have : IsStrictOrder α (Leads E) := ⟨⟩
  have hwf : {a | a ∈ V}.WellFoundedOn (Leads E) := V.finite_toSet.wellFoundedOn
  refine hwf.induction (P := fun y => ∃ u ∈ V,
    Relation.ReflTransGen (fun a b => (a, b) ∈ E) u y ∧ ∀ a ∈ V, (a, u) ∉ E) hv fun y hy ih => ?_
  by_cases hs : ∃ a ∈ V, (a, y) ∈ E
  · obtain ⟨a, ha, hay⟩ := hs
    obtain ⟨u, hu, hua, hfree⟩ := ih a ha (.single hay)
    exact ⟨u, hu, hua.tail hay, hfree⟩
  · exact ⟨y, hy, .refl, fun a ha hay => hs ⟨a, ha, hay⟩⟩

theorem nodup_of_isChain (hE : ∀ v, ¬ Leads E v v) {way : List α}
    (h : way.IsChain fun a b => (a, b) ∈ E) : way.Nodup := by
  have hleads : way.IsChain (Leads E) := h.imp fun _ _ => .single
  have : IsTrans α (Leads E) := ⟨fun _ _ _ => Relation.TransGen.trans⟩
  refine (List.isChain_iff_pairwise.1 hleads).imp ?_
  rintro a b hab rfl
  exact hE a hab

end Digraph

namespace Validation

variable {nodes : List Node} {edges : List Edge}

theorem connected (h : isValid nodes edges = true) {n : Node} (hn : n ∈ nodes)
    (ht : n.isTrigger = false) : ∃ e ∈ edges, e.target = n.id := by
  have hnil := findings_nil h
  rw [findings, if_neg (by simpa using nonempty_of_isValid h)] at hnil
  simp only [List.append_eq_nil_iff] at hnil
  have hothers := hnil.1.1.1.2
  have hmem : n ∈ nodes.filter (!·.isTrigger) := by simp [hn, ht]
  have hn := findingIf_eq_nil.1 (List.flatMap_eq_nil_iff.1 hothers n hmem)
  simpa using hn

end Validation

namespace FlowGraph

open Validation

variable {g : FlowGraph} {t : Node}

/-- Ids of which each is the end of an edge that begins in the one before. -/
def IsPath (g : FlowGraph) (ids : List String) : Prop :=
  ids.IsChain fun a b => ∃ e ∈ g.edges, e.source = a ∧ e.target = b

theorem mem_ends {a b : String} :
    (a, b) ∈ g.edges.map Edge.ends ↔ ∃ e ∈ g.edges, e.source = a ∧ e.target = b := by
  simp [Edge.ends]

theorem isPath_iff {ids : List String} :
    g.IsPath ids ↔ ids.IsChain fun a b => (a, b) ∈ g.edges.map Edge.ends := by
  simp only [IsPath, mem_ends]

theorem eq_trigger_of_free (h : isValid g.nodes g.edges = true) (ht : g.triggers = [t]) {n : Node}
    (hn : n ∈ g.nodes) (hfree : ∀ e ∈ g.edges, e.target ≠ n.id) : n = t := by
  have htrig : n.isTrigger = true := by
    by_contra hno
    obtain ⟨e, he, htarget⟩ := connected h hn (by simpa using hno)
    exact hfree e he htarget
  have hmem : n ∈ g.triggers := List.mem_filter.2 ⟨hn, htrig⟩
  rw [ht] at hmem
  exact List.mem_singleton.1 hmem

/-- Going back from any node one comes to the trigger, and no further. -/
theorem trigger_behind (h : isValid g.nodes g.edges = true) (ht : g.triggers = [t]) {n : Node}
    (hn : n ∈ g.nodes) :
    Relation.ReflTransGen (fun a b => (a, b) ∈ g.edges.map Edge.ends) t.id n.id ∧
      ∀ e ∈ g.edges, e.target ≠ t.id := by
  obtain ⟨u, hu, hun, hfree⟩ := Digraph.exists_source (not_leads h) (List.mem_map_of_mem hn)
  obtain ⟨m, hm, rfl⟩ := List.mem_map.1 hu
  have hfree : ∀ e ∈ g.edges, e.target ≠ m.id := by
    intro e he htarget
    obtain ⟨k, hk, hsource⟩ := (known_ends h he).1
    exact hfree e.source (hsource ▸ List.mem_map_of_mem hk) (mem_ends.2 ⟨e, he, rfl, htarget⟩)
  rw [← eq_trigger_of_free h ht hm hfree]
  exact ⟨hun, hfree⟩

theorem order_of_valid (h : isValid g.nodes g.edges = true) (ht : g.triggers = [t])
    (hids : (g.nodes.map Node.id).Nodup) : ∃ rest, g.order = .ok (t :: rest) := by
  obtain ⟨-, l, hl, hord⟩ | ⟨hno, -⟩ := isValid_order_iff h
  · cases l with
    | nil => exact absurd hord.perm.nil_eq.symm (nonempty_of_isValid h)
    | cons n rest =>
      have hn : n ∈ g.nodes := hord.perm.mem_iff.1 List.mem_cons_self
      have hfree : ∀ e ∈ g.edges, e.target ≠ n.id := by
        intro e he htarget
        obtain ⟨k, hk, hsource⟩ := (known_ends h he).1
        have hbefore := hord.sorted [] n rest rfl e he htarget (mem_ids.2 ⟨k, hk, hsource⟩)
        exact absurd hbefore List.not_mem_nil
      exact ⟨rest, eq_trigger_of_free h ht hn hfree ▸ hl⟩
  · exact absurd hids hno

/-- A valid flow has one trigger; no edge leads to it, a path leads from it to every node, no path comes
twice to a node, and every edge is between nodes. So the trigger comes first in the order, if no id is
repeated. -/
theorem rooted_of_valid (h : isValid g.nodes g.edges = true) :
    ∃ t, g.triggers = [t] ∧ (∀ e ∈ g.edges, e.target ≠ t.id) ∧
      (∀ n ∈ g.nodes, ∃ path, g.IsPath path ∧ path.head? = some t.id ∧ path.getLast? = some n.id) ∧
      (∀ path, g.IsPath path → path.Nodup) ∧
      (∀ e ∈ g.edges, (∃ n ∈ g.nodes, n.id = e.source) ∧ ∃ n ∈ g.nodes, n.id = e.target) ∧
      ((g.nodes.map Node.id).Nodup → ∃ rest, g.order = .ok (t :: rest)) := by
  obtain ⟨t, ht⟩ := one_trigger h
  obtain ⟨n, hn⟩ := List.exists_mem_of_ne_nil _ (nonempty_of_isValid h)
  refine ⟨t, ht, (trigger_behind h ht hn).2, fun n hn => ?_, fun path hp => ?_,
    fun e he => known_ends h he, order_of_valid h ht⟩
  · obtain ⟨way, hway, hlast⟩ :=
      List.exists_isChain_cons_of_relationReflTransGen (trigger_behind h ht hn).1
    refine ⟨t.id :: way, isPath_iff.2 hway, rfl, ?_⟩
    rw [List.getLast?_eq_some_getLast (List.cons_ne_nil _ _), hlast]
  · exact Digraph.nodup_of_isChain (not_leads h) (isPath_iff.1 hp)

/-- A trigger that is listed last, two nodes behind it, and a node behind both of them. -/
def diamond : FlowGraph where
  flow := { id := "diamond", created := ⟨0⟩, updated := ⟨0⟩ }
  nodes := [{ id := "join", type := "note" }, { id := "left", type := "note" },
    { id := "right", type := "note" }, { id := "start", type := "trigger" }]
  edges := [{ id := "1", source := "left", target := "join" },
    { id := "2", source := "right", target := "join" },
    { id := "3", source := "start", target := "left" },
    { id := "4", source := "start", target := "right" }]

/-- In the diamond a path leads from the trigger to the join, and the trigger runs first. -/
theorem rooted_of_diamond : isValid diamond.nodes diamond.edges = true ∧
    (∃ path, diamond.IsPath path ∧ path.head? = some "start" ∧ path.getLast? = some "join") ∧
    ∃ rest, diamond.order.map (List.map Node.id) = .ok ("start" :: rest) := by
  have h : isValid diamond.nodes diamond.edges = true := by decide
  obtain ⟨t, ht, -, hpath, -, -, horder⟩ := rooted_of_valid h
  have hid : t.id = "start" := by
    have ht : [_] = [t] := ht
    rw [← (List.cons.inj ht).1]
  obtain ⟨rest, hrest⟩ := horder (by decide)
  refine ⟨h, ?_, rest.map Node.id, by rw [hrest, ← hid]; rfl⟩
  exact hid ▸ hpath { id := "join", type := "note" } (by simp [diamond])

end FlowGraph

end Workflow
