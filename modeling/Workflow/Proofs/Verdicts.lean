import Workflow.Proofs.Reimport
import Workflow.Proofs.Validity

/-!
# The verdict on an exported flow

An export names the ends of an edge by the positions of nodes, and cannot say all that a document with
ids can. An end that no node has is written as the first node; an id that several nodes have is written
as the last of them. So a flow whose edges have their ends among its nodes is judged as before when its
export is read again, unless it is valid with a repeated id: then it is refused. A flow with an unknown
end is not valid; with pairwise different ids it is judged after the export as if the unknown ends were
its first node, and may become valid (`verdict_of_export`).
-/

namespace Workflow

open Validation Stateful

namespace FlowGraph

variable {g : FlowGraph}

/-- The node that an export takes for an id: without a node that has it the first of all. -/
def mend (g : FlowGraph) (id : String) : String :=
  if g.nodes.any (·.id == id) then id else (g.nodes.head?.map Node.id).getD id

/-- The edges with the ends that an export takes them to have. -/
def mendedEdges (g : FlowGraph) : List Edge :=
  g.edges.map fun e => { e with source := g.mend e.source, target := g.mend e.target }

theorem mend_of_known {id : String} (h : ∃ n ∈ g.nodes, n.id = id) : g.mend id = id :=
  if_pos (by simpa using h)

theorem mend_of_unknown {id : String} (h : ¬ ∃ n ∈ g.nodes, n.id = id) :
    g.mend id = (g.nodes.head?.map Node.id).getD id :=
  if_neg (by simpa using h)

theorem mend_known (hne : g.nodes ≠ []) (id : String) : ∃ n ∈ g.nodes, n.id = g.mend id := by
  by_cases h : ∃ n ∈ g.nodes, n.id = id
  · rwa [mend_of_known h]
  · rw [mend_of_unknown h]
    obtain ⟨n, ns, hn⟩ := List.exists_cons_of_ne_nil hne
    exact ⟨n, by simp [hn], by simp [hn]⟩

theorem mendedEdges_of_endsKnown (h : g.EndsKnown) : g.mendedEdges = g.edges := by
  refine (List.map_congr_left fun e he => ?_).trans (List.map_id _)
  rw [mend_of_known (h e he).1, mend_of_known (h e he).2]
  rfl

theorem position_of_unknown {id : String} (h : ¬ ∃ n ∈ g.nodes, n.id = id) : g.position id = 0 := by
  unfold position
  split
  next k hk =>
    obtain ⟨hlt, hid, -⟩ := List.findIdx?_eq_some_iff_getElem.1 hk
    exact absurd ⟨_, List.mem_reverse.1 (List.getElem_mem hlt), by simpa using hid⟩ h
  next => rfl

theorem position_mend (hids : (g.nodes.map Node.id).Nodup) (id : String) :
    g.position (g.mend id) = g.position id := by
  by_cases h : ∃ n ∈ g.nodes, n.id = id
  · rw [mend_of_known h]
  · rw [mend_of_unknown h, position_of_unknown h]
    cases hn : g.nodes with
    | nil => exact position_of_unknown (by simp [hn])
    | cons n ns => exact position_eq hids (n := n) (by simp [hn])

variable (ws : String) (now : Instant) (k : Nat)

theorem edge_copy {e' : Edge} (h : e' ∈ (g.copy ws now k).edges) :
    ∃ e ∈ g.edges, e'.source = idOf (k + 2 + g.position e.source) ∧
      e'.target = idOf (k + 2 + g.position e.target) := by
  obtain ⟨i, hi⟩ := List.getElem?_of_mem h
  rw [copy, List.getElem?_mapIdx, Option.map_eq_some_iff] at hi
  obtain ⟨e, he, rfl⟩ := hi
  exact ⟨e, List.mem_of_getElem? he, rfl, rfl⟩

/-- With pairwise different ids an export is the flow with its ends mended, up to the ids. -/
theorem renamed_copy (hids : (g.nodes.map Node.id).Nodup) (hne : g.nodes ≠ [] ∨ g.edges = []) :
    Renamed (fun id => idOf (k + 2 + g.position id)) g.nodes g.mendedEdges (g.copy ws now k).nodes
      (g.copy ws now k).edges := by
  refine ⟨fun n hn m hm h => ?_, fun e he => ?_, List.forall₂_iff_get.2 ⟨?_, fun i hi hi' => ?_⟩,
    List.forall₂_iff_get.2 ⟨?_, fun i hi hi' => ?_⟩⟩
  · have hpos : g.position n.id = g.position m.id := by
      have := idOf_injective h
      omega
    obtain ⟨n', hn', hid⟩ := getElem?_position hn
    obtain ⟨m', hm', hid'⟩ := getElem?_position hm
    rw [← hid, ← hid', Option.some.inj (hn'.symm.trans (hpos ▸ hm'))]
  · obtain ⟨e₀, he₀, rfl⟩ := List.mem_map.1 he
    have hne := hne.resolve_right (List.ne_nil_of_mem he₀)
    exact ⟨mend_known hne _, mend_known hne _⟩
  · simp [mendedEdges, copy]
  · simp [mendedEdges, copy, Edge.copy, position_mend hids]
  · simp [copy]
  · have hn : g.nodes[i]? = some (g.nodes.get ⟨i, hi⟩) := by simp
    have hcopy : (g.copy ws now k).nodes.get ⟨i, hi'⟩ =
        (g.nodes.get ⟨i, hi⟩).copy (idOf (k + 1)) (k + 2 + i) := by
      simp [copy]
    rw [hcopy]
    exact ⟨by rw [position_eq hids hn]; rfl, rfl, rfl⟩

/-- In an export only the node at the position of its id can have an edge. -/
theorem position_of_edge (hends : g.EndsKnown) {e : Edge} (he : e ∈ g.edges) {q : Nat} {n : Node}
    (hn : g.nodes[q]? = some n) (hq : q = g.position e.source ∨ q = g.position e.target) :
    g.position n.id = q := by
  have hpos : ∀ id, (∃ m ∈ g.nodes, m.id = id) → q = g.position id → g.position n.id = q := by
    rintro _ ⟨m, hm, rfl⟩ rfl
    obtain ⟨m', hm', hid⟩ := getElem?_position hm
    rw [Option.some.inj (hn.symm.trans hm'), hid]
  exact hq.elim (hpos _ (hends e he).1) (hpos _ (hends e he).2)

/-- Of several nodes with one id all but the last lose their edges in an export. -/
theorem not_admissible_copy (hends : g.EndsKnown) (hids : ¬ (g.nodes.map Node.id).Nodup) :
    ¬ Admissible (g.copy ws now k).nodes (g.copy ws now k).edges := by
  intro ha
  have hplace : ∀ q n, g.nodes[q]? = some n → g.position n.id = q := by
    intro q n hn
    have hn' : (g.copy ws now k).nodes[q]? = some (n.copy (idOf (k + 1)) (k + 2 + q)) := by
      rw [copy, List.getElem?_mapIdx, hn]
      rfl
    obtain ⟨e', he', hid⟩ := ha.exists_edge (List.mem_of_getElem? hn')
    obtain ⟨e, he, hs, ht⟩ := edge_copy ws now k he'
    refine position_of_edge hends he hn (hid.imp (fun h => ?_) fun h => ?_)
    · have := idOf_injective (hs.symm.trans h)
      omega
    · have := idOf_injective (ht.symm.trans h)
      omega
  refine hids (List.pairwise_iff_getElem.2 fun i j hi hj hij h => ?_)
  rw [List.length_map] at hi hj
  rw [List.getElem_map, List.getElem_map] at h
  have hi' := hplace i _ (List.getElem?_eq_getElem hi)
  have hj' := hplace j _ (List.getElem?_eq_getElem hj)
  rw [h] at hi'
  omega

end FlowGraph

namespace Document

theorem parseIndexedEdge_of_nil {g : FlowGraph} (hn : g.nodes = []) (e : Edge) (flow : String)
    (k : Nat) :
    parseIndexedEdge (g.exportEdge e) flow [] k =
      (.error ⟨.parse, "Edge sourceIndex out of range: 0"⟩, k) := by
  have hsource : (g.exportEdge e).field "sourceIndex" = .int 0 := by
    have hpos : g.position e.source = 0 := FlowGraph.position_of_unknown (by simp [hn])
    show Value.int (g.position e.source) = .int 0
    rw [hpos]
    rfl
  have hend : endpoint (g.exportEdge e) "sourceIndex" [] k =
      (.error ⟨.parse, "Edge sourceIndex out of range: 0"⟩, k) := by
    have hplain : plain (.int 0) k = (.ok "0", k) := by
      have h : (Value.int 0).plain = .ok "0" := by decide +kernel
      rw [plain, h]
      rfl
    rw [endpoint, hsource]
    simp only [le_refl, if_true, List.getElem?_nil]
    rw [bind_ok hplain]
    rfl
  rw [parseIndexedEdge, if_neg (by exact Bool.false_ne_true)]
  exact bind_error hend

/-- An export without nodes but with an edge is not read again. -/
theorem parse_toDocument_of_nil {g : FlowGraph} (hg : g.Portable) (hn : g.nodes = [])
    (he : g.edges ≠ []) (ws : String) (now : Instant) (k : Nat) :
    (parse g.toDocument ws now k).1 = .error ⟨.parse, "Edge sourceIndex out of range: 0"⟩ := by
  have hnodes : g.toDocument.field "nodes" = .list (g.nodes.map FlowGraph.exportNode) := rfl
  have hedges : (g.toDocument.field? "edges").getD (.list []) =
    .list (g.edges.map g.exportEdge) := rfl
  have hversion : g.toDocument.field "version" = .int 1 := rfl
  obtain ⟨e, es, hes⟩ := List.exists_cons_of_ne_nil he
  rw [parse, if_neg (by exact Bool.false_ne_true)]
  simp only [hnodes, hedges, hversion]
  rw [bind_ok (parseFlow_toDocument hg ws now k), if_neg (by exact Bool.false_ne_true),
    if_neg (by exact Bool.false_ne_true), bind_ok (mapM_exportNode hg _ (k + 1)), hn, hes, List.map_cons,
    List.mapM_cons, List.mapIdx_nil, bind_error (bind_error (parseIndexedEdge_of_nil hn e _ _))]

end Document

/-- Of a flow that was read from a JSON document, the export is read again unless it has edges and no
nodes, which is never valid. A flow whose edges have their ends among its nodes stays valid just if its
nodes have pairwise different ids, and never becomes valid. A flow with an unknown end is not valid;
with pairwise different ids it becomes valid just if it is with its ends mended. -/
theorem FlowGraph.verdict_of_export {doc : Value} {ws : String} {now : Instant} {n n' : Nat}
    {g : FlowGraph} (hdoc : doc.isJson = true) (hg : Document.parse doc ws now n = (.ok g, n')) :
    ∀ text, g.exportText = .ok text → Json.read text = .ok g.toDocument →
      ∀ (ws' : String) (now' : Instant) (k : Nat),
        let reread := (do Document.parse (← Document.readJson text) ws' now') k
        (g.nodes = [] ∧ g.edges ≠ [] →
          reread.1 = .error ⟨.parse, "Edge sourceIndex out of range: 0"⟩ ∧
          isValid g.nodes g.edges = false) ∧
        (g.nodes ≠ [] ∨ g.edges = [] → ∃ g', reread.1 = .ok g' ∧
          (g.EndsKnown → (isValid g'.nodes g'.edges = true ↔
            isValid g.nodes g.edges = true ∧ (g.nodes.map Node.id).Nodup)) ∧
          (¬ g.EndsKnown → isValid g.nodes g.edges = false) ∧
          ((g.nodes.map Node.id).Nodup → (isValid g'.nodes g'.edges = true ↔
            isValid g.nodes g.mendedEdges = true))) := by
  have hp := Document.portable_of_parse hdoc hg
  refine fun text _ hread ws' now' k => ⟨fun ⟨hn, he⟩ => ⟨?_, ?_⟩, fun hne =>
    ⟨g.copy ws' now' k, ?_, fun hends => ?_, fun hends => ?_, fun hids => ?_⟩⟩
  · rw [Document.readJson, hread]
    exact Document.parse_toDocument_of_nil hp hn he ws' now' k
  · rw [hn]
    rfl
  · rw [Document.parse_of_read hp hne hread]
  · by_cases hids : (g.nodes.map Node.id).Nodup
    · rw [isValid_iff, isValid_iff, ← admissible_iff_of_renamed (renamed_copy ws' now' k hids hne),
        mendedEdges_of_endsKnown hends, and_iff_left hids]
    · rw [isValid_iff]
      exact iff_of_false (not_admissible_copy ws' now' k hends hids) fun h => hids h.2
  · rw [← Bool.not_eq_true, isValid_iff]
    exact fun ha => hends ha.ends
  · rw [isValid_iff, isValid_iff, ← admissible_iff_of_renamed (renamed_copy ws' now' k hids hne)]

/-- A document with an edge from its trigger, the second node, to a node that there is not. -/
def Document.dangling : Value :=
  .record [
    ("nodes", .list [
      .record [("id", .text "note"), ("type", .text "note")],
      .record [("id", .text "start"), ("type", .text "trigger")]]),
    ("edges", .list [.record [("source", .text "start"), ("target", .text "ghost")]])]

/-- The flow of this document. -/
def FlowGraph.dangling : FlowGraph where
  flow :=
    { id := idOf 1, name := .text "Untitled flow", description := .null, triggerConfig := none,
      created := ⟨0⟩, updated := ⟨0⟩ }
  nodes := [
    { id := "note", flow := idOf 1, type := "note", config := .null },
    { id := "start", flow := idOf 1, type := "trigger", config := .null }]
  edges := [{ id := idOf 2, flow := idOf 1, source := "start", target := "ghost", label := .null }]

/-- The lines of its export. -/
def FlowGraph.danglingLines : List String :=
  ["\x7b",
    "  \"version\": 1,",
    "  \"flow\": \x7b",
    "    \"name\": \"Untitled flow\",",
    "    \"description\": null,",
    "    \"status\": \"draft\",",
    "    \"triggerConfig\": null",
    "  \x7d,",
    "  \"nodes\": [",
    "    \x7b",
    "      \"type\": \"note\",",
    "      \"label\": \"\",",
    "      \"x\": 0.0,",
    "      \"y\": 0.0,",
    "      \"config\": null",
    "    \x7d,",
    "    \x7b",
    "      \"type\": \"trigger\",",
    "      \"label\": \"\",",
    "      \"x\": 0.0,",
    "      \"y\": 0.0,",
    "      \"config\": null",
    "    \x7d",
    "  ],",
    "  \"edges\": [",
    "    \x7b",
    "      \"sourceIndex\": 1,",
    "      \"targetIndex\": 0,",
    "      \"sourceHandle\": null,",
    "      \"targetHandle\": null,",
    "      \"label\": null",
    "    \x7d",
    "  ]",
    "\x7d"]

/-- The text of its export. -/
def FlowGraph.danglingText : String := "\n".intercalate danglingLines

/-- This flow is not valid, but what is read from its export is. -/
theorem FlowGraph.verdict_of_dangling :
    Document.dangling.isJson = true ∧
    Document.parse Document.dangling "" ⟨0⟩ 0 = (.ok dangling, 2) ∧
    dangling.exportText = .ok danglingText ∧ Json.read danglingText = .ok dangling.toDocument ∧
    isValid dangling.nodes dangling.edges = false ∧
    ∃ g', ((do Document.parse (← Document.readJson danglingText) "" ⟨0⟩) 2).1 = .ok g' ∧
      isValid g'.nodes g'.edges = true := by
  have hdoc : Document.dangling.isJson = true := by decide
  have hg : Document.parse Document.dangling "" ⟨0⟩ 0 = (.ok dangling, 2) := rfl
  have htext : dangling.exportText = .ok danglingText := by decide +kernel
  have hread : Json.read danglingText = .ok dangling.toDocument := by
    rw [danglingText, Json.read_of_toList String.toList_intercalate]
    decide +kernel
  obtain ⟨-, hreread⟩ := verdict_of_export hdoc hg _ htext hread "" ⟨0⟩ 2
  obtain ⟨g', hg', -, hno, hids⟩ := hreread (.inl (by simp [dangling]))
  have hends : ¬ dangling.EndsKnown := by simp [EndsKnown, dangling]
  exact ⟨hdoc, hg, htext, hread, hno hends, g', hg', (hids (by decide)).2 (by decide)⟩

end Workflow
