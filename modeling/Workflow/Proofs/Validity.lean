import Mathlib.Data.List.Forall2
import Workflow.Proofs.Order

/-!
# What makes a flow valid

A flow is valid if and only if it has one trigger, from which an edge leaves, and a node of another
type, an edge comes in at every such node, the ends of all edges are nodes, no way along the edges
leads back, and no configuration lacks anything (`isValid_iff`). None of this depends on the order in
which nodes and edges are listed (`Admissible.of_perm`), nor on the ids, as long as different ones stay
different (`admissible_iff_of_renamed`).
-/

namespace Workflow.Validation

open Workflow.Digraph (Leads)

variable {nodes nodes' : List Node} {edges edges' : List Edge}

/-- What makes a flow valid. -/
structure Admissible (nodes : List Node) (edges : List Edge) : Prop where
  trigger : ∃ t, nodes.filter (·.isTrigger) = [t] ∧ ∃ e ∈ edges, e.source = t.id
  other : ∃ n ∈ nodes, n.isTrigger = false
  connected : ∀ n ∈ nodes, n.isTrigger = false → ∃ e ∈ edges, e.target = n.id
  ends : ∀ e ∈ edges, (∃ n ∈ nodes, n.id = e.source) ∧ ∃ n ∈ nodes, n.id = e.target
  acyclic : ∀ v, ¬ Leads (edges.map Edge.ends) v v
  configs : ∀ n ∈ nodes, configIssues n = []

theorem triggerFindings_eq_nil {triggers : List Node} :
    triggerFindings triggers edges = [] ↔ ∃ t, triggers = [t] ∧ ∃ e ∈ edges, e.source = t.id := by
  match triggers with
  | [] => simp [triggerFindings]
  | [t] => simp [triggerFindings, findingIf_eq_nil]
  | _ :: _ :: _ => simp [triggerFindings]

theorem edgeFindings_eq_nil {e : Edge} :
    edgeFindings nodes e = [] ↔ (∃ n ∈ nodes, n.id = e.source) ∧ ∃ n ∈ nodes, n.id = e.target := by
  simp [edgeFindings, findingIf_eq_nil]

theorem unconnected_eq_nil {n : Node} :
    findingIf (edges.all (·.target != n.id)) (.unconnected n.displayName) (some n.id) = [] ↔
    ∃ e ∈ edges, e.target = n.id := by
  simp [findingIf_eq_nil]

theorem mem_others {n : Node} :
    n ∈ nodes.filter (!·.isTrigger) ↔ n ∈ nodes ∧ n.isTrigger = false := by
  simp

theorem onlyTriggers_eq_nil :
    findingIf (nodes.filter (!·.isTrigger)).isEmpty .onlyTriggers none = [] ↔
      ∃ n ∈ nodes, n.isTrigger = false := by
  simp [findingIf_eq_nil]

theorem hasCycle_eq_false {ids : List String} :
    hasCycle ids edges = false ↔ ∀ v, ¬ Leads (edges.map Edge.ends) v v := by
  rw [← Bool.not_eq_true, hasCycle, Digraph.hasCycle_iff, not_exists]

theorem isValid_iff : isValid nodes edges = true ↔ Admissible nodes edges := by
  by_cases hn : nodes = []
  · subst hn
    refine iff_of_false (by simp [isValid, findings]) fun h => ?_
    obtain ⟨n, hn, -⟩ := h.other
    cases hn
  · have hn' : ¬ nodes.isEmpty = true := by simpa using hn
    rw [isValid, List.isEmpty_iff, findings, if_neg hn']
    simp only [List.append_eq_nil_iff, triggerFindings_eq_nil, onlyTriggers_eq_nil, unconnected_eq_nil,
      List.flatMap_eq_nil_iff, mem_others, and_imp, edgeFindings_eq_nil, nodeFindings,
      List.map_eq_nil_iff]
    rw [findingIf_eq_nil, hasCycle_eq_false]
    constructor
    · rintro ⟨⟨⟨⟨⟨ht, ho⟩, hc⟩, he⟩, ha⟩, hg⟩
      exact ⟨ht, ho, hc, he, ha, hg⟩
    · rintro ⟨ht, ho, hc, he, ha, hg⟩
      exact ⟨⟨⟨⟨⟨ht, ho⟩, hc⟩, he⟩, ha⟩, hg⟩

namespace Admissible

/-- Every node has an edge. -/
theorem exists_edge (h : Admissible nodes edges) {n : Node} (hn : n ∈ nodes) :
    ∃ e ∈ edges, e.source = n.id ∨ e.target = n.id := by
  cases ht : n.isTrigger with
  | true =>
    obtain ⟨t, hfilter, e, he, hs⟩ := h.trigger
    have hnt : n ∈ nodes.filter (·.isTrigger) := List.mem_filter.2 ⟨hn, ht⟩
    rw [hfilter, List.mem_singleton] at hnt
    exact ⟨e, he, .inl (hnt ▸ hs)⟩
  | false =>
    obtain ⟨e, he, htarget⟩ := h.connected n hn ht
    exact ⟨e, he, .inr htarget⟩

/-- The order in which nodes and edges are listed does not matter. -/
theorem of_perm (h : Admissible nodes edges) (hn : nodes'.Perm nodes) (he : edges'.Perm edges) :
    Admissible nodes' edges' := by
  obtain ⟨t, hfilter, e, hte, hs⟩ := h.trigger
  refine ⟨⟨t, ?_, e, he.mem_iff.2 hte, hs⟩, ?_, fun n hmem hn' => ?_, fun e hmem => ?_, fun v hv => ?_,
    fun n hmem => h.configs n (hn.mem_iff.1 hmem)⟩
  · exact List.perm_singleton.1 (hfilter ▸ hn.filter _)
  · obtain ⟨n, hmem, hn'⟩ := h.other
    exact ⟨n, hn.mem_iff.2 hmem, hn'⟩
  · obtain ⟨e, hmem, ht⟩ := h.connected n (hn.mem_iff.1 hmem) hn'
    exact ⟨e, he.mem_iff.2 hmem, ht⟩
  · obtain ⟨⟨m, hm, hs⟩, m', hm', ht⟩ := h.ends e (he.mem_iff.1 hmem)
    exact ⟨⟨m, hn.mem_iff.2 hm, hs⟩, m', hn.mem_iff.2 hm', ht⟩
  · exact h.acyclic v (Relation.TransGen.mono (fun _ _ hp => (he.map _).mem_iff.1 hp) v v hv)

end Admissible

/-! ### Renaming -/

/-- Nodes that are equal, as far as they are checked, up to their ids. -/
structure NodeRenamed (f : String → String) (n n' : Node) : Prop where
  id : n'.id = f n.id
  isTrigger : n'.isTrigger = n.isTrigger
  issues : configIssues n' = configIssues n

/-- Two flows that are equal up to the ids of their nodes, different ones staying different. -/
structure Renamed (f : String → String) (nodes : List Node) (edges : List Edge) (nodes' : List Node)
    (edges' : List Edge) : Prop where
  injective : ∀ n ∈ nodes, ∀ m ∈ nodes, f n.id = f m.id → n.id = m.id
  ends : ∀ e ∈ edges, (∃ n ∈ nodes, n.id = e.source) ∧ ∃ n ∈ nodes, n.id = e.target
  edges : List.Forall₂ (fun e e' : Edge => e'.source = f e.source ∧ e'.target = f e.target) edges edges'
  nodes : List.Forall₂ (NodeRenamed f) nodes nodes'

theorem exists_of_forall₂ {α β : Type} {R : α → β → Prop} {xs : List α} {ys : List β}
    (h : List.Forall₂ R xs ys) : (∀ x ∈ xs, ∃ y ∈ ys, R x y) ∧ ∀ y ∈ ys, ∃ x ∈ xs, R x y := by
  induction h with
  | nil => simp
  | cons hr _ ih =>
    simp only [List.mem_cons, forall_eq_or_imp, exists_eq_or_imp]
    exact ⟨⟨.inl hr, fun x hx => .inr (ih.1 x hx)⟩, .inl hr, fun y hy => .inr (ih.2 y hy)⟩

namespace Renamed

variable {f : String → String}

theorem lead (h : Renamed f nodes edges nodes' edges') {v w : String}
    (hl : Leads (edges.map Edge.ends) v w) : Leads (edges'.map Edge.ends) (f v) (f w) := by
  refine hl.lift f fun a b hab => ?_
  obtain ⟨e, he, heq⟩ := List.mem_map.1 hab
  obtain ⟨e', he', hs, ht⟩ := (exists_of_forall₂ h.edges).1 e he
  cases heq
  exact List.mem_map.2 ⟨e', he', by rw [Edge.ends, hs, ht]⟩

theorem exists_lead (h : Renamed f nodes edges nodes' edges') {v' w' : String}
    (hl : Leads (edges'.map Edge.ends) v' w') :
    ∃ n ∈ nodes, ∃ m ∈ nodes, f n.id = v' ∧ f m.id = w' ∧ Leads (edges.map Edge.ends) n.id m.id := by
  have hstep : ∀ {a b : String}, (a, b) ∈ edges'.map Edge.ends → ∃ n ∈ nodes, ∃ m ∈ nodes,
      f n.id = a ∧ f m.id = b ∧ (n.id, m.id) ∈ edges.map Edge.ends := by
    intro a b hab
    obtain ⟨e', he', heq⟩ := List.mem_map.1 hab
    obtain ⟨e, he, hs, ht⟩ := (exists_of_forall₂ h.edges).2 e' he'
    obtain ⟨⟨n, hn, hns⟩, m, hm, hmt⟩ := h.ends e he
    cases heq
    exact ⟨n, hn, m, hm, by rw [hns, hs], by rw [hmt, ht], List.mem_map.2 ⟨e, he, by
      rw [Edge.ends, hns, hmt]⟩⟩
  induction hl with
  | single hab =>
    obtain ⟨n, hn, m, hm, hv, hw, hmem⟩ := hstep hab
    exact ⟨n, hn, m, hm, hv, hw, .single hmem⟩
  | tail _ hab ih =>
    obtain ⟨n, hn, m, hm, hv, hw, hlead⟩ := ih
    obtain ⟨m₁, hm₁, m₂, hm₂, hw₁, hw₂, hmem⟩ := hstep hab
    have hid : m₁.id = m.id := h.injective m₁ hm₁ m hm (hw₁.trans hw.symm)
    exact ⟨n, hn, m₂, hm₂, hv, hw₂, hlead.tail (hid ▸ hmem)⟩

theorem triggers (h : Renamed f nodes edges nodes' edges') :
    List.Forall₂ (NodeRenamed f) (nodes.filter (·.isTrigger)) (nodes'.filter (·.isTrigger)) :=
  List.rel_filter (fun _ _ hr => Bool.eq_iff_iff.1 hr.isTrigger.symm) h.nodes

theorem admissible (h : Renamed f nodes edges nodes' edges') (ha : Admissible nodes edges) :
    Admissible nodes' edges' := by
  have hn := exists_of_forall₂ h.nodes
  have he := exists_of_forall₂ h.edges
  refine ⟨?_, ?_, fun n' hn' ht' => ?_, fun e' he' => ?_, fun v' hv' => ?_, fun n' hn' => ?_⟩
  · obtain ⟨t, hfilter, e, hmem, hs⟩ := ha.trigger
    have hts := h.triggers
    rw [hfilter] at hts
    obtain ⟨t', _, ht, hnil, hcons⟩ := List.forall₂_cons_left_iff.1 hts
    obtain ⟨e', he', hs', -⟩ := he.1 e hmem
    rw [List.forall₂_nil_left_iff.1 hnil] at hcons
    exact ⟨t', hcons, e', he', by rw [hs', hs, ht.id]⟩
  · obtain ⟨n, hmem, ho⟩ := ha.other
    obtain ⟨n', hmem', hr⟩ := hn.1 n hmem
    exact ⟨n', hmem', hr.isTrigger.trans ho⟩
  · obtain ⟨n, hmem, hr⟩ := hn.2 n' hn'
    obtain ⟨e, hmem, htarget⟩ := ha.connected n hmem (hr.isTrigger.symm.trans ht')
    obtain ⟨e', he', -, htarget'⟩ := he.1 e hmem
    exact ⟨e', he', by rw [htarget', htarget, hr.id]⟩
  · obtain ⟨e, hmem, hs, ht⟩ := he.2 e' he'
    obtain ⟨⟨n, hnmem, hns⟩, m, hmmem, hmt⟩ := h.ends e hmem
    obtain ⟨n', hn', hr⟩ := hn.1 n hnmem
    obtain ⟨m', hm', hr'⟩ := hn.1 m hmmem
    exact ⟨⟨n', hn', by rw [hr.id, hns, hs]⟩, m', hm', by rw [hr'.id, hmt, ht]⟩
  · obtain ⟨n, hnm, m, hmm, hv, hw, hlead⟩ := h.exists_lead hv'
    have hid : n.id = m.id := h.injective n hnm m hmm (hv.trans hw.symm)
    exact ha.acyclic n.id (by rwa [← hid] at hlead)
  · obtain ⟨n, hmem, hr⟩ := hn.2 n' hn'
    rw [hr.issues, ha.configs n hmem]

theorem admissible_back (h : Renamed f nodes edges nodes' edges') (ha : Admissible nodes' edges') :
    Admissible nodes edges := by
  have hn := exists_of_forall₂ h.nodes
  have he := exists_of_forall₂ h.edges
  refine ⟨?_, ?_, fun n hmem ht => ?_, h.ends, fun v hv => ha.acyclic _ (h.lead hv), fun n hmem => ?_⟩
  · obtain ⟨t', hfilter, e', he', hs'⟩ := ha.trigger
    have hts := h.triggers
    rw [hfilter] at hts
    obtain ⟨t, _, ht, hnil, hcons⟩ := List.forall₂_cons_right_iff.1 hts
    rw [List.forall₂_nil_right_iff.1 hnil] at hcons
    have htmem : t ∈ nodes := List.mem_of_mem_filter (hcons ▸ List.mem_singleton_self t)
    obtain ⟨e, hmem, hs, -⟩ := he.2 e' he'
    obtain ⟨m, hm, hms⟩ := (h.ends e hmem).1
    refine ⟨t, hcons, e, hmem, ?_⟩
    rw [← hms]
    exact h.injective m hm t htmem (by rw [hms, ← hs, hs', ht.id])
  · obtain ⟨n', hmem', ho⟩ := ha.other
    obtain ⟨n, hmem, hr⟩ := hn.2 n' hmem'
    exact ⟨n, hmem, hr.isTrigger.symm.trans ho⟩
  · obtain ⟨n', hn', hr⟩ := hn.1 n hmem
    obtain ⟨e', he', htarget'⟩ := ha.connected n' hn' (hr.isTrigger.trans ht)
    obtain ⟨e, hemem, -, htarget⟩ := he.2 e' he'
    obtain ⟨m, hm, hmt⟩ := (h.ends e hemem).2
    refine ⟨e, hemem, ?_⟩
    rw [← hmt]
    exact h.injective m hm n hmem (by rw [hmt, ← htarget, htarget', hr.id])
  · obtain ⟨n', hn', hr⟩ := hn.1 n hmem
    rw [← hr.issues, ha.configs n' hn']

end Renamed

/-- The ids do not matter, as long as different ones stay different. -/
theorem admissible_iff_of_renamed {f : String → String} (h : Renamed f nodes edges nodes' edges') :
    Admissible nodes edges ↔ Admissible nodes' edges' :=
  ⟨h.admissible, h.admissible_back⟩

end Workflow.Validation
