import Workflow.Flow.Document
import Workflow.Flow.Export
import Workflow.Proofs.Json
import Workflow.Proofs.Tracing

/-!
# Reading an exported flow again

What is read from a document is such that its export can be read again (`Portable`), as a copy with
new ids: the nodes in their order, the edges between the nodes at the positions that the export gives
(`parse_toDocument`). If the ids of the nodes are pairwise different and every edge has its ends among
them, these are the nodes at the same positions, so that the copy is the flow up to its ids
(`isCopy_of_export`).
-/

namespace Workflow

namespace Stateful

variable {σ α β : Type}

theorem bind_eq_ok {m : ExceptT Failure (StateM σ) α} {k : α → ExceptT Failure (StateM σ) β}
    {s s'' : σ} {b : β} :
    (m >>= k) s = (.ok b, s'') ↔ ∃ a s', m s = (.ok a, s') ∧ k a s' = (.ok b, s'') := by
  constructor
  · intro h
    rcases hm : m s with ⟨_ | a, s'⟩
    · rw [bind_error hm] at h
      cases h
    · exact ⟨a, s', rfl, by rwa [bind_ok hm] at h⟩
  · rintro ⟨a, s', hm, h⟩
    rwa [bind_ok hm]

theorem pure_eq_ok {a b : α} {s s' : σ} :
    (pure a : ExceptT Failure (StateM σ) α) s = (.ok b, s') ↔ a = b ∧ s = s' := by
  constructor
  · intro h
    cases h
    exact ⟨rfl, rfl⟩
  · rintro ⟨rfl, rfl⟩
    rfl

/-- A walk over a list gives a result for each of its items. -/
theorem forall₂_of_mapM {f : α → ExceptT Failure (StateM σ) β} {xs : List α} {ys : List β} {s s' : σ}
    (h : xs.mapM f s = (.ok ys, s')) : List.Forall₂ (fun x y => ∃ t t', f x t = (.ok y, t')) xs ys := by
  induction xs generalizing ys s s' with
  | nil =>
    rw [List.mapM_nil, pure_eq_ok] at h
    exact h.1 ▸ .nil
  | cons x xs ih =>
    rw [List.mapM_cons] at h
    obtain ⟨y, t, hy, h⟩ := bind_eq_ok.1 h
    obtain ⟨ys', t', hys, h⟩ := bind_eq_ok.1 h
    obtain ⟨rfl, -⟩ := pure_eq_ok.1 h
    exact .cons ⟨s, t, hy⟩ (ih hys)

theorem mem_of_mapM {f : α → ExceptT Failure (StateM σ) β} {xs : List α} {ys : List β} {s s' : σ}
    (h : xs.mapM f s = (.ok ys, s')) {y : β} (hy : y ∈ ys) :
    ∃ x ∈ xs, ∃ t t', f x t = (.ok y, t') := by
  induction xs generalizing ys s s' with
  | nil =>
    rw [List.mapM_nil, pure_eq_ok] at h
    rw [← h.1] at hy
    cases hy
  | cons x xs ih =>
    rw [List.mapM_cons] at h
    obtain ⟨a, t, ha, h⟩ := bind_eq_ok.1 h
    obtain ⟨as, t', has, h⟩ := bind_eq_ok.1 h
    obtain ⟨rfl, -⟩ := pure_eq_ok.1 h
    rcases List.mem_cons.1 hy with rfl | hy
    · exact ⟨x, List.mem_cons_self, s, t, ha⟩
    · obtain ⟨z, hz, hzy⟩ := ih has hy
      exact ⟨z, List.mem_cons_of_mem _ hz, hzy⟩

end Stateful

open Stateful

/-! ### What reading leaves -/

/-- What is read as a node: the export of it can be read as a node again. -/
structure Node.Portable (n : Node) : Prop where
  type : n.type ≠ ""
  label : n.label.isGiven = true ∨ n.label = .text ""
  writable : n.label.isJson = true
  x : ∃ d, n.x = .float d
  y : ∃ d, n.y = .float d
  config : ∃ c, n.config = .ofOption .text c

structure Edge.Portable (e : Edge) : Prop where
  sourceHandle : e.sourceHandle.isJson = true
  targetHandle : e.targetHandle.isJson = true
  label : e.label.isJson = true

/-- What is read as a flow. -/
structure FlowGraph.Portable (g : FlowGraph) : Prop where
  name : g.flow.name.isGiven = true
  nameWritable : g.flow.name.isJson = true
  description : g.flow.description.isJson = true
  status : g.flow.status ∈ Document.statuses
  nodes : ∀ n ∈ g.nodes, n.Portable
  edges : ∀ e ∈ g.edges, e.Portable

namespace Value

theorem isGiven_orElse {v w : Value} (h : w.isGiven = true) : (v.orElse w).isGiven = true := by
  unfold orElse
  split
  · assumption
  · exact h

theorem orElse_of_isGiven {v : Value} (h : v.isGiven = true) (w : Value) : v.orElse w = v := if_pos h

theorem isGiven_text {s : String} : (Value.text s).isGiven = true ↔ s ≠ "" := by simp [isGiven]

end Value

theorem DecimalStyle.document_layout_ne (d : Decimal) : DecimalStyle.document.layout d ≠ "" := by
  unfold DecimalStyle.layout DecimalStyle.exponentText
  simp only [DecimalStyle.document]
  split_ifs <;> simp

theorem Double.text_ne (d : Double) : d.text ≠ "" := by
  unfold Double.text Double.textWith
  cases d with
  | nan => decide
  | number negative rank _ =>
    simp only
    split_ifs <;> simp [DecimalStyle.document_layout_ne]

theorem intText?_ne {i : Int} {s : String} (h : intText? i = some s) : s ≠ "" := by
  unfold intText? at h
  split at h
  · cases h
    cases i with
    | ofNat n => exact Nat.repr_ne_empty
    | negSucc n => simp [toString, Int.repr]
  · cases h

/-- The text of a JSON value that counts as given is not empty. -/
theorem Value.plain_ne {v : Value} {s : String} (hj : v.isJson = true) (hv : v.isGiven = true)
    (h : v.plain = .ok s) : s ≠ "" := by
  unfold Value.plain at h
  split at h <;> cases h
  next s hs =>
  cases v with
  | text t =>
    cases hs
    exact isGiven_text.1 hv
  | foreign f => cases hj
  | pair a b => cases hj
  | null => cases hv
  | bool b =>
    cases hv
    cases hs
    decide
  | int i => exact intText?_ne (by simpa only [plain?, quoted?] using hs)
  | float d =>
    simp only [plain?, quoted?, Option.some.injEq] at hs
    exact hs ▸ d.text_ne
  | list items =>
    simp only [plain?, quoted?, Option.map_eq_some_iff] at hs
    obtain ⟨parts, -, rfl⟩ := hs
    simp
  | object fields =>
    simp only [plain?, quoted?, Option.map_eq_some_iff] at hs
    obtain ⟨parts, -, rfl⟩ := hs
    simp

namespace Document

variable {v doc : Value} {k k' : Nat}

theorem parseCoordinate_ok {node u : Value} (h : parseCoordinate v node k = (.ok u, k')) :
    ∃ d, u = .float d := by
  rcases hd : (v.orElse (.int 0)).asDouble? with f | _ | d <;> rw [parseCoordinate, hd] at h
  · cases h
  · obtain ⟨s, t, -, h⟩ := bind_eq_ok.1 h
    cases h
  · exact ⟨d, (pure_eq_ok.1 h).1.symm⟩

/-- A check that an operation passes. -/
theorem unless_refused {α : Type} {c : Prop} [Decidable c] {failure : Failure}
    {f : PUnit → Drawing α} {p : Drawing α} {a : α}
    (h : (if c then (throw failure : Drawing PUnit) >>= f else p) k = (.ok a, k')) :
    ¬ c ∧ p k = (.ok a, k') := by
  by_cases hc : c
  · rw [if_pos hc] at h
    cases h
  · rw [if_neg hc] at h
    exact ⟨hc, h⟩

theorem plain_eq_ok {s : String} (h : plain v k = (.ok s, k')) : v.plain = .ok s := by
  unfold plain Drawing.ofExcept at h
  exact congrArg Prod.fst h

theorem portable_of_parseNode {flow : String} {newId : Option String} {n : Node}
    (hv : v.isJson = true) (h : parseNode v flow newId k = (.ok n, k')) : n.Portable := by
  unfold parseNode at h
  obtain ⟨-, h⟩ := unless_refused h
  obtain ⟨ht, h⟩ := unless_refused h
  obtain ⟨-, h⟩ := unless_refused h
  obtain ⟨x, _, hx, h⟩ := bind_eq_ok.1 h
  obtain ⟨y, _, hy, h⟩ := bind_eq_ok.1 h
  obtain ⟨id, _, -, h⟩ := bind_eq_ok.1 h
  obtain ⟨type, _, htype, h⟩ := bind_eq_ok.1 h
  obtain ⟨config, _, -, h⟩ := bind_eq_ok.1 h
  obtain ⟨rfl, -⟩ := pure_eq_ok.1 h
  have ht : (v.field "type").isGiven = true := by simpa using ht
  refine ⟨Value.plain_ne (Value.isJson_field hv _) ht (plain_eq_ok htype), ?_,
    Value.isJson_orElse (Value.isJson_field hv _) rfl, parseCoordinate_ok hx, parseCoordinate_ok hy,
    config, rfl⟩
  by_cases hl : (v.field "label").isGiven = true
  · exact .inl (by rwa [Value.orElse_of_isGiven hl])
  · exact .inr (if_neg hl)

theorem portable_of_parseEdge {flow : String} {e : Edge} (hv : v.isJson = true)
    (h : parseEdge v flow k = (.ok e, k')) : e.Portable := by
  unfold parseEdge at h
  obtain ⟨-, h⟩ := unless_refused h
  obtain ⟨-, h⟩ := unless_refused h
  obtain ⟨id, _, -, h⟩ := bind_eq_ok.1 h
  obtain ⟨source, _, -, h⟩ := bind_eq_ok.1 h
  obtain ⟨target, _, -, h⟩ := bind_eq_ok.1 h
  obtain ⟨rfl, -⟩ := pure_eq_ok.1 h
  exact ⟨Value.isJson_field hv _, Value.isJson_field hv _, Value.isJson_field hv _⟩

theorem portable_of_parseIndexedEdge {flow : String} {nodes : List Node} {e : Edge}
    (hv : v.isJson = true) (h : parseIndexedEdge v flow nodes k = (.ok e, k')) : e.Portable := by
  unfold parseIndexedEdge at h
  obtain ⟨-, h⟩ := unless_refused h
  obtain ⟨source, _, -, h⟩ := bind_eq_ok.1 h
  obtain ⟨target, _, -, h⟩ := bind_eq_ok.1 h
  obtain ⟨id, _, -, h⟩ := bind_eq_ok.1 h
  obtain ⟨rfl, -⟩ := pure_eq_ok.1 h
  exact ⟨Value.isJson_field hv _, Value.isJson_field hv _, Value.isJson_field hv _⟩

theorem mem_statuses {s : String} (h : parseStatus v k = (.ok s, k')) : s ∈ statuses := by
  have hrefuse : ∀ {u : Value} {t t' : Nat} {a : String},
      (do refuse ("Invalid flow status: " ++ (← plain u)) : Drawing String) t ≠ (.ok a, t') := by
    intro u t t' a h
    obtain ⟨text, _, -, h⟩ := bind_eq_ok.1 h
    cases h
  unfold parseStatus at h
  obtain ⟨-, h⟩ := unless_refused h
  cases v with
  | text t =>
    simp only at h
    split at h
    next ht =>
      obtain ⟨rfl, -⟩ := pure_eq_ok.1 h
      simpa using ht
    next => exact absurd h hrefuse
  | _ => exact absurd h hrefuse

theorem parseFlow_ok {workspace : String} {now : Instant} {f : Flow} (hd : doc.isJson = true)
    (h : parseFlow doc workspace now k = (.ok f, k')) :
    f.name.isGiven = true ∧ f.name.isJson = true ∧ f.description.isJson = true ∧
      f.status ∈ statuses := by
  unfold parseFlow at h
  obtain ⟨-, h⟩ := unless_refused h
  obtain ⟨status, _, hs, h⟩ := bind_eq_ok.1 h
  obtain ⟨id, _, -, h⟩ := bind_eq_ok.1 h
  obtain ⟨ws, _, -, h⟩ := bind_eq_ok.1 h
  obtain ⟨config, _, -, h⟩ := bind_eq_ok.1 h
  obtain ⟨rfl, -⟩ := pure_eq_ok.1 h
  have hf : ((doc.field "flow").orElse (.object [])).isJson = true :=
    Value.isJson_orElse (Value.isJson_field hd _) rfl
  exact ⟨Value.isGiven_orElse rfl, Value.isJson_orElse (Value.isJson_orElse (Value.isJson_field hf _)
    (Value.isJson_field hd _)) rfl, Value.isJson_field hf _, mem_statuses hs⟩

theorem portable_of_parseNewNode {flow : String} {n : Node} (hv : v.isJson = true)
    (h : parseNewNode flow v k = (.ok n, k')) : n.Portable := by
  obtain ⟨id, _, -, h⟩ := bind_eq_ok.1 h
  exact portable_of_parseNode hv h

/-- A document that is read has nodes and edges, which are read one by one after the flow: with their ids,
or with new ones and by position. -/
theorem parse_ok {ws : String} {now : Instant} {g : FlowGraph} (h : parse doc ws now k = (.ok g, k')) :
    ∃ nodes edges k₁ k₂, doc.field "nodes" = .list nodes ∧
      (doc.field? "edges").getD (.list []) = .list edges ∧ parseFlow doc ws now k = (.ok g.flow, k₁) ∧
      (nodes.mapM (fun v => parseNode v g.flow.id none) k₁ = (.ok g.nodes, k₂) ∧
          edges.mapM (fun v => parseEdge v g.flow.id) k₂ = (.ok g.edges, k') ∨
        nodes.mapM (parseNewNode g.flow.id) k₁ = (.ok g.nodes, k₂) ∧
          edges.mapM (fun v => parseIndexedEdge v g.flow.id g.nodes) k₂ = (.ok g.edges, k')) := by
  unfold parse at h
  replace h := (unless_refused h).2
  simp only at h
  obtain ⟨nodes, edges, hnodes, hedges⟩ : ∃ nodes edges, doc.field "nodes" = .list nodes ∧
      (doc.field? "edges").getD (.list []) = .list edges := by
    cases hn : doc.field "nodes" with
    | list nodes =>
      cases he : (doc.field? "edges").getD (.list []) with
      | list edges => exact ⟨nodes, edges, rfl, rfl⟩
      | _ => rw [hn, he] at h; cases h
    | _ => rw [hn] at h; cases h
  rw [hnodes, hedges] at h
  obtain ⟨flow, k₁, hflow, h⟩ := bind_eq_ok.1 h
  split at h
  · obtain ⟨ns, k₂, hn, h⟩ := bind_eq_ok.1 h
    obtain ⟨es, _, he, h⟩ := bind_eq_ok.1 h
    obtain ⟨rfl, rfl⟩ := pure_eq_ok.1 h
    exact ⟨nodes, edges, k₁, k₂, hnodes, hedges, hflow, .inl ⟨hn, he⟩⟩
  · split at h
    · obtain ⟨text, _, -, h⟩ := bind_eq_ok.1 h
      cases h
    · obtain ⟨ns, k₂, hn, h⟩ := bind_eq_ok.1 h
      obtain ⟨es, _, he, h⟩ := bind_eq_ok.1 h
      obtain ⟨rfl, rfl⟩ := pure_eq_ok.1 h
      exact ⟨nodes, edges, k₁, k₂, hnodes, hedges, hflow, .inr ⟨hn, he⟩⟩

theorem portable_of_parse {ws : String} {now : Instant} {g : FlowGraph} (hd : doc.isJson = true)
    (h : parse doc ws now k = (.ok g, k')) : g.Portable := by
  obtain ⟨nodes, edges, _, _, hnodes, hedges, hflow, hparts⟩ := parse_ok h
  have hns : ∀ v ∈ nodes, v.isJson = true := by
    have := Value.isJson_field hd "nodes"
    rwa [hnodes, Value.isJson, Value.itemsJson_iff] at this
  have hes : ∀ v ∈ edges, v.isJson = true := by
    have : ((doc.field? "edges").getD (.list [])).isJson = true := by
      cases he : doc.field? "edges" with
      | none => rfl
      | some w => exact Value.isJson_field? hd he
    rwa [hedges, Value.isJson, Value.itemsJson_iff] at this
  obtain ⟨hname, hnj, hdj, hstatus⟩ := parseFlow_ok hd hflow
  refine ⟨hname, hnj, hdj, hstatus, fun n hmem => ?_, fun e hmem => ?_⟩
  · rcases hparts with ⟨hn, -⟩ | ⟨hn, -⟩ <;> obtain ⟨v, hv, _, _, hpv⟩ := mem_of_mapM hn hmem
    · exact portable_of_parseNode (hns v hv) hpv
    · exact portable_of_parseNewNode (hns v hv) hpv
  · rcases hparts with ⟨-, he⟩ | ⟨-, he⟩ <;> obtain ⟨v, hv, _, _, hpv⟩ := mem_of_mapM he hmem
    · exact portable_of_parseEdge (hes v hv) hpv
    · exact portable_of_parseIndexedEdge (hes v hv) hpv

end Document

/-! ### The copy -/

/-- A coordinate as it is read again: zero without a sign. -/
def Value.unsignedZero : Value → Value
  | .float d => .float (if d.isZero then .zero else d)
  | v => v

/-- A node as it is read again. -/
def Node.copy (n : Node) (flow : String) (number : Nat) : Node :=
  { n with id := idOf number, flow, x := n.x.unsignedZero, y := n.y.unsignedZero }

/-- An edge as it is read again. -/
def Edge.copy (e : Edge) (flow : String) (number : Nat) (source target : String) : Edge :=
  { e with id := idOf number, flow, source, target }

namespace FlowGraph

/-- A flow as it is read again when so many ids have been drawn. -/
def copy (g : FlowGraph) (workspace : String) (now : Instant) (drawn : Nat) : FlowGraph :=
  let nodeId (i : Nat) : String := idOf (drawn + 2 + i)
  { flow := { g.flow with id := idOf (drawn + 1), workspace, created := now, updated := now },
    nodes := g.nodes.mapIdx fun i n => n.copy (idOf (drawn + 1)) (drawn + 2 + i),
    edges := g.edges.mapIdx fun i e =>
      e.copy (idOf (drawn + 1)) (drawn + 2 + g.nodes.length + i) (nodeId (g.position e.source))
        (nodeId (g.position e.target)) }

theorem position_lt_or (g : FlowGraph) (id : String) :
    g.position id < g.nodes.length ∨ g.position id = 0 := by
  unfold position
  split
  · omega
  · exact .inr rfl

theorem position_lt {g : FlowGraph} (h : g.nodes ≠ []) (id : String) :
    g.position id < g.nodes.length := by
  have := List.length_pos_iff.2 h
  have := g.position_lt_or id
  omega

end FlowGraph

namespace Document

theorem drawId_apply (k : Nat) : drawId k = (.ok (idOf (k + 1)), k + 1) := rfl

theorem mapM_drawn {α β : Type} {f : α → Drawing β} {h : Nat → α → β} {xs : List α}
    (hf : ∀ x ∈ xs, ∀ k, f x k = (.ok (h (k + 1) x), k + 1)) (k : Nat) :
    xs.mapM f k = (.ok (xs.mapIdx fun i x => h (k + 1 + i) x), k + xs.length) := by
  induction xs generalizing k with
  | nil => rfl
  | cons x xs ih =>
    rw [List.mapM_cons, bind_ok (hf x List.mem_cons_self k),
      bind_ok (ih (fun y hy => hf y (List.mem_cons_of_mem _ hy)) (k + 1))]
    simp only [pure_apply, List.mapIdx_cons, List.length_cons, Nat.add_zero]
    rw [show k + 1 + xs.length = k + (xs.length + 1) by omega,
      show (fun i x => h (k + 1 + 1 + i) x) = fun i x => h (k + 1 + (i + 1)) x from
        funext fun i => by rw [show k + 1 + 1 + i = k + 1 + (i + 1) by omega]]

theorem parseCoordinate_float (d : Double) (node : Value) (k : Nat) :
    parseCoordinate (.float d) node k = (.ok (Value.unsignedZero (.float d)), k) := by
  unfold parseCoordinate Value.orElse
  by_cases hd : d.isZero = true
  · simp only [Value.isGiven, hd, Value.unsignedZero]
    rfl
  · simp only [Value.isGiven, hd, Value.unsignedZero]
    rfl

theorem plain_text (s : String) (k : Nat) : plain (.text s) k = (.ok s, k) := rfl

theorem parseStatus_text {s : String} (hs : s ∈ statuses) (k : Nat) :
    parseStatus ((Value.text s).orElse (.text "draft")) k = (.ok s, k) := by
  simp only [statuses, List.mem_cons, List.not_mem_nil, or_false] at hs
  rcases hs with rfl | rfl | rfl <;> rfl

theorem configText_ofOption (c : Option String) (k : Nat) :
    configText (.ofOption .text c) k = (.ok c, k) := by
  cases c <;> rfl

theorem parseNewNode_exportNode {n : Node} (hn : n.Portable) (flow : String) (k : Nat) :
    parseNewNode flow (FlowGraph.exportNode n) k = (.ok (n.copy flow (k + 1)), k + 1) := by
  obtain ⟨dx, hx⟩ := hn.x
  obtain ⟨dy, hy⟩ := hn.y
  obtain ⟨c, hc⟩ := hn.config
  have hlabel : n.label.orElse (.text "") = n.label := by
    rcases hn.label with h | h
    · exact Value.orElse_of_isGiven h _
    · rw [h]
      rfl
  have htype : (FlowGraph.exportNode n).field "type" = .text n.type := rfl
  have hlabel' : (FlowGraph.exportNode n).field "label" = n.label := rfl
  have hx' : (FlowGraph.exportNode n).field "x" = .float dx := hx
  have hy' : (FlowGraph.exportNode n).field "y" = .float dy := hy
  have hc' : (FlowGraph.exportNode n).field "config" = .ofOption .text c := hc
  have hgiven : (!(Value.text n.type).isGiven) = false := by
    simpa using Value.isGiven_text.2 hn.type
  rw [parseNewNode, bind_ok (drawId_apply k), parseNode]
  simp only [htype, hx', hy', hc', hlabel', hlabel, hgiven]
  rw [if_neg Bool.false_ne_true, if_neg (by exact Bool.false_ne_true),
    if_neg (by exact Bool.false_ne_true), bind_ok (parseCoordinate_float dx _ _),
    bind_ok (parseCoordinate_float dy _ _), bind_ok (plain_text _ _), bind_ok (plain_text _ _),
    bind_ok (configText_ofOption c _), pure_apply]
  rw [Node.copy, hx, hy, hc]

theorem mapM_exportNode {g : FlowGraph} (hg : g.Portable) (flow : String) (k : Nat) :
    (g.nodes.map FlowGraph.exportNode).mapM (parseNewNode flow) k =
      (.ok (g.nodes.mapIdx fun i n => n.copy flow (k + 1 + i)), k + g.nodes.length) := by
  rw [List.mapM_map]
  exact mapM_drawn (h := fun number n => n.copy flow number)
    (fun n hn => parseNewNode_exportNode (hg.nodes n hn) flow) k

theorem endpoint_position {g : FlowGraph} (hg : g.nodes ≠ []) (flow : String) (j k : Nat)
    (id : String) {v : Value} {key : String} (hv : v.field key = .int (g.position id)) :
    endpoint v key (g.nodes.mapIdx fun i n => n.copy flow (j + i)) k =
      (.ok (idOf (j + g.position id)), k) := by
  have hlt := FlowGraph.position_lt hg id
  rw [endpoint, hv]
  simp only [Int.natCast_nonneg, if_true, Int.toNat_natCast, List.getElem?_mapIdx,
    List.getElem?_eq_getElem hlt]
  rfl

theorem parseIndexedEdge_exportEdge {g : FlowGraph} (hg : g.nodes ≠ []) (e : Edge) (flow : String)
    (j k : Nat) :
    parseIndexedEdge (g.exportEdge e) flow
        (g.nodes.mapIdx fun i n => n.copy flow (j + i)) k =
      (.ok (e.copy flow (k + 1) (idOf (j + g.position e.source)) (idOf (j + g.position e.target))),
        k + 1) := by
  rw [parseIndexedEdge, if_neg (by exact Bool.false_ne_true)]
  simp only
  rw [bind_ok (endpoint_position hg flow j k e.source rfl),
    bind_ok (endpoint_position hg flow j k e.target rfl), bind_ok (drawId_apply k), pure_apply]
  rfl

theorem mapM_exportEdge {g : FlowGraph} (hne : g.nodes ≠ [] ∨ g.edges = []) (flow : String)
    (j k : Nat) :
    (g.edges.map g.exportEdge).mapM
        (fun v => parseIndexedEdge v flow (g.nodes.mapIdx fun i n => n.copy flow (j + i))) k =
      (.ok (g.edges.mapIdx fun i e => e.copy flow (k + 1 + i) (idOf (j + g.position e.source))
        (idOf (j + g.position e.target))), k + g.edges.length) := by
  rcases hne with hne | hne
  · rw [List.mapM_map]
    exact mapM_drawn
      (h := fun number e => e.copy flow number (idOf (j + g.position e.source))
        (idOf (j + g.position e.target)))
      (fun e _ => parseIndexedEdge_exportEdge hne e flow j) k
  · rw [hne]
    rfl

theorem parseFlow_toDocument {g : FlowGraph} (hg : g.Portable) (ws : String) (now : Instant)
    (k : Nat) :
    parseFlow g.toDocument ws now k = (.ok (g.copy ws now k).flow, k + 1) := by
  let flow : Value := .record [("name", g.flow.name), ("description", g.flow.description),
    ("status", .text g.flow.status), ("triggerConfig", .ofOption .text g.flow.triggerConfig)]
  have hflow : (g.toDocument.field "flow").orElse (.object []) = flow := rfl
  have hstatus : parseStatus ((flow.field "status").orElse (.text "draft")) k =
      (.ok g.flow.status, k) := by
    have hs : (flow.field "status") = .text g.flow.status := rfl
    rw [hs]
    exact parseStatus_text hg.status k
  have hname : ((flow.field "name").orElse (g.toDocument.field "name")).orElse
      (.text "Untitled flow") = g.flow.name := by
    have hn : flow.field "name" = g.flow.name := rfl
    rw [hn, Value.orElse_of_isGiven hg.name, Value.orElse_of_isGiven hg.name]
  have hconfig : flow.field "triggerConfig" = .ofOption .text g.flow.triggerConfig := rfl
  rw [parseFlow]
  simp only [hflow, hname, hconfig]
  rw [if_neg (by exact Bool.false_ne_true), bind_ok hstatus,
    bind_ok (show givenOrNewId (flow.field "id") k = _ from drawId_apply k),
    bind_ok (show plain ((flow.field "workspaceId").orElse (.text ws)) _ = _ from plain_text ws _),
    bind_ok (configText_ofOption _ _), pure_apply]
  rfl

/-- The export of a flow with nodes, or of one without edges, is read again as its copy. -/
theorem parse_toDocument {g : FlowGraph} (hg : g.Portable) (hne : g.nodes ≠ [] ∨ g.edges = [])
    (ws : String) (now : Instant) (k : Nat) :
    parse g.toDocument ws now k =
      (.ok (g.copy ws now k), k + 1 + g.nodes.length + g.edges.length) := by
  have hnodes : g.toDocument.field "nodes" = .list (g.nodes.map FlowGraph.exportNode) := rfl
  have hedges : (g.toDocument.field? "edges").getD (.list []) =
    .list (g.edges.map g.exportEdge) := rfl
  have hversion : g.toDocument.field "version" = .int 1 := rfl
  rw [parse, if_neg (by exact Bool.false_ne_true)]
  simp only [hnodes, hedges, hversion]
  rw [bind_ok (parseFlow_toDocument hg ws now k)]
  rw [if_neg (by exact Bool.false_ne_true), if_neg (by exact Bool.false_ne_true), bind_ok (mapM_exportNode hg _ (k + 1)),
    bind_ok (mapM_exportEdge hne _ (k + 1 + 1) _), pure_apply]
  rw [show k + 1 + g.nodes.length + 1 = k + 2 + g.nodes.length by omega]
  rfl

theorem parse_of_read {g : FlowGraph} {text : String} (hg : g.Portable)
    (hne : g.nodes ≠ [] ∨ g.edges = []) (hread : Json.read text = .ok g.toDocument) (ws : String)
    (now : Instant) (k : Nat) :
    (do parse (← readJson text) ws now) k =
      (.ok (g.copy ws now k), k + 1 + g.nodes.length + g.edges.length) := by
  rw [readJson, hread]
  exact parse_toDocument hg hne ws now k

end Document

/-! ### The copy is the flow up to its ids -/

/-- Every edge has its ends among the nodes. -/
def FlowGraph.EndsKnown (g : FlowGraph) : Prop :=
  ∀ e ∈ g.edges, (∃ n ∈ g.nodes, n.id = e.source) ∧ ∃ n ∈ g.nodes, n.id = e.target

/-- There is a node with the first id, and it stands where the node with the second id does. -/
def FlowGraph.Align (g g' : FlowGraph) (id id' : String) : Prop :=
  (∃ n ∈ g.nodes, n.id = id) ∧
  ∀ (i : Nat) (n n' : Node), g.nodes[i]? = some n → g'.nodes[i]? = some n' →
    (n.id = id ↔ n'.id = id')

/-- Coordinates that are equal up to the sign of zero. -/
def Value.SameCoordinate (v w : Value) : Prop :=
  ∃ a b : Double, v = .float a ∧ w = .float b ∧ (a = b ∨ a.isZero = true ∧ b.isZero = true)

/-- Nodes that are equal up to their ids. -/
structure Node.IsCopy (n n' : Node) : Prop where
  type : n'.type = n.type
  label : n'.label = n.label
  config : n'.config = n.config
  x : n.x.SameCoordinate n'.x
  y : n.y.SameCoordinate n'.y

/-- Edges of two flows that are equal up to their ids. -/
structure Edge.IsCopy (g g' : FlowGraph) (e e' : Edge) : Prop where
  label : e'.label = e.label
  sourceHandle : e'.sourceHandle = e.sourceHandle
  targetHandle : e'.targetHandle = e.targetHandle
  source : g.Align g' e.source e'.source
  target : g.Align g' e.target e'.target

/-- Flows that are equal up to their ids, those of the nodes of the second being pairwise different. -/
structure FlowGraph.IsCopy (g g' : FlowGraph) : Prop where
  name : g'.flow.name = g.flow.name
  description : g'.flow.description = g.flow.description
  status : g'.flow.status = g.flow.status
  triggerConfig : g'.flow.triggerConfig = g.flow.triggerConfig
  nodes : List.Forall₂ Node.IsCopy g.nodes g'.nodes
  edges : List.Forall₂ (Edge.IsCopy g g') g.edges g'.edges
  ids : (g'.nodes.map Node.id).Nodup

theorem Value.sameCoordinate_unsignedZero (d : Double) :
    (Value.float d).SameCoordinate (Value.float d).unsignedZero := by
  refine ⟨d, _, rfl, rfl, ?_⟩
  split_ifs with hd
  · exact .inr ⟨hd, rfl⟩
  · exact .inl rfl

namespace FlowGraph

variable {g : FlowGraph}

theorem getElem?_position {n : Node} (hn : n ∈ g.nodes) :
    ∃ m, g.nodes[g.position n.id]? = some m ∧ m.id = n.id := by
  unfold position
  split
  next k hk =>
    obtain ⟨hlt, hid, -⟩ := List.findIdx?_eq_some_iff_getElem.1 hk
    rw [List.length_reverse] at hlt
    rw [List.getElem_reverse] at hid
    exact ⟨_, List.getElem?_eq_getElem (by omega), by simpa using hid⟩
  next hnone =>
    exact absurd (List.findIdx?_eq_none_iff.1 hnone n (List.mem_reverse.2 hn)) (by simp)

theorem position_eq (hids : (g.nodes.map Node.id).Nodup) {i : Nat} {n : Node}
    (hn : g.nodes[i]? = some n) : g.position n.id = i := by
  obtain ⟨m, hm, hid⟩ := getElem?_position (List.mem_of_getElem? hn)
  have hlt : g.position n.id < (g.nodes.map Node.id).length := by
    rw [List.length_map]
    exact (List.getElem?_eq_some_iff.1 hm).1
  exact (List.getElem?_inj hlt hids).1 (by simp [hn, hm, hid])

variable (ws : String) (now : Instant) (k : Nat)

theorem node_copy {i : Nat} {n' : Node} (h : (g.copy ws now k).nodes[i]? = some n') :
    ∃ n, g.nodes[i]? = some n ∧ n' = n.copy (idOf (k + 1)) (k + 2 + i) := by
  rw [copy, List.getElem?_mapIdx, Option.map_eq_some_iff] at h
  obtain ⟨n, hn, rfl⟩ := h
  exact ⟨n, hn, rfl⟩

theorem nodup_copy (g : FlowGraph) : ((g.copy ws now k).nodes.map Node.id).Nodup := by
  refine List.pairwise_iff_getElem.2 fun i j hi hj hij => ?_
  simp only [copy, List.getElem_map, List.getElem_mapIdx, Node.copy]
  intro h
  have := idOf_injective h
  omega

theorem align_copy (hids : (g.nodes.map Node.id).Nodup) {id : String}
    (hid : ∃ n ∈ g.nodes, n.id = id) :
    g.Align (g.copy ws now k) id (idOf (k + 2 + g.position id)) := by
  refine ⟨hid, fun i n n' hn hn' => ?_⟩
  obtain ⟨m, hm, rfl⟩ := node_copy ws now k hn'
  obtain rfl : n = m := Option.some.inj (hn.symm.trans hm)
  refine ⟨fun h => ?_, fun h => ?_⟩
  · rw [← h, position_eq hids hn]
    rfl
  · have hi : i = g.position id := by
      have := idOf_injective h
      omega
    obtain ⟨m, hm, rfl⟩ := hid
    obtain ⟨m', hm', h'⟩ := getElem?_position hm
    rw [← hi, hn] at hm'
    rwa [Option.some.inj hm']

theorem isCopy_copy (hg : g.Portable) (hids : (g.nodes.map Node.id).Nodup)
    (hends : g.EndsKnown) : g.IsCopy (g.copy ws now k) := by
  refine ⟨rfl, rfl, rfl, rfl, List.forall₂_iff_get.2 ⟨?_, fun i hi hi' => ?_⟩,
    List.forall₂_iff_get.2 ⟨?_, fun i hi hi' => ?_⟩, nodup_copy ws now k g⟩
  · simp [copy]
  · obtain ⟨dx, hx⟩ := (hg.nodes _ (List.get_mem g.nodes ⟨i, hi⟩)).x
    obtain ⟨dy, hy⟩ := (hg.nodes _ (List.get_mem g.nodes ⟨i, hi⟩)).y
    have hcopy : (g.copy ws now k).nodes.get ⟨i, hi'⟩ =
        (g.nodes.get ⟨i, hi⟩).copy (idOf (k + 1)) (k + 2 + i) := by
      simp [copy]
    rw [hcopy]
    exact ⟨rfl, rfl, rfl, by rw [Node.copy, hx]; exact Value.sameCoordinate_unsignedZero dx,
      by rw [Node.copy, hy]; exact Value.sameCoordinate_unsignedZero dy⟩
  · simp [copy]
  · obtain ⟨hs, ht⟩ := hends _ (List.get_mem g.edges ⟨i, hi⟩)
    have hcopy : (g.copy ws now k).edges.get ⟨i, hi'⟩ =
        (g.edges.get ⟨i, hi⟩).copy (idOf (k + 1)) (k + 2 + g.nodes.length + i)
          (idOf (k + 2 + g.position (g.edges.get ⟨i, hi⟩).source))
          (idOf (k + 2 + g.position (g.edges.get ⟨i, hi⟩).target)) := by
      simp [copy]
    rw [hcopy]
    exact ⟨rfl, rfl, rfl, align_copy ws now k hids hs, align_copy ws now k hids ht⟩

/-! ### The text of an export -/

theorem isJson_position (hlen : g.nodes.length ≤ tenTo Numeral.digitLimit) (id : String) :
    (Value.int (g.position id)).isJson = true := by
  refine Value.isJson_int ?_
  rw [Int.natAbs_natCast]
  rcases g.position_lt_or id with h | h
  · exact lt_of_lt_of_le h hlen
  · rw [h]
    exact tenTo_pos _

/-- The export of a flow that was read can be written. -/
theorem exists_exportText (hg : g.Portable) (hlen : g.nodes.length ≤ tenTo Numeral.digitLimit) :
    ∃ text, g.exportText = .ok text := by
  have hflow : (Value.record [("name", g.flow.name), ("description", g.flow.description),
      ("status", .text g.flow.status),
      ("triggerConfig", .ofOption .text g.flow.triggerConfig)]).isJson = true :=
    Value.isJson_record (by simp [hg.nameWritable, hg.description, Value.isJson_ofOption_text, Value.isJson])
  have hnodes : (Value.list (g.nodes.map exportNode)).isJson = true := by
    rw [Value.isJson, Value.itemsJson_iff]
    intro v hv
    obtain ⟨n, hn, rfl⟩ := List.mem_map.1 hv
    obtain ⟨-, -, hlabel, ⟨dx, hx⟩, ⟨dy, hy⟩, c, hc⟩ := hg.nodes n hn
    exact Value.isJson_record
      (by simp [hlabel, hx, hy, hc, Value.isJson_ofOption_text, Value.isJson])
  have hedges : (Value.list (g.edges.map g.exportEdge)).isJson = true := by
    rw [Value.isJson, Value.itemsJson_iff]
    intro v hv
    obtain ⟨e, he, rfl⟩ := List.mem_map.1 hv
    obtain ⟨hs, ht, hl⟩ := hg.edges e he
    exact Value.isJson_record (by simp [hs, ht, hl, isJson_position hlen])
  refine Value.exists_json .indented (Value.isJson_record ?_)
  simp only [List.forall_mem_cons, List.not_mem_nil, false_implies, implies_true, and_true]
  exact ⟨Value.isJson_int (lt_of_lt_of_le (by decide : Int.natAbs 1 < tenTo 1) (tenTo_le_tenTo (by decide))), hflow,
    hnodes, hedges⟩

end FlowGraph

/-- Of a flow that was read from a JSON document, whose nodes have pairwise different ids and whose
edges have their ends among them, the export can be written; and if its text reads as what was
written, it is read again as the flow up to its ids, all of which are new. -/
theorem FlowGraph.isCopy_of_export {doc : Value} {ws : String} {now : Instant} {n n' : Nat}
    {g : FlowGraph} (hdoc : doc.isJson = true) (hg : Document.parse doc ws now n = (.ok g, n'))
    (hids : (g.nodes.map Node.id).Nodup) (hends : g.EndsKnown) :
    (g.nodes.length ≤ tenTo Numeral.digitLimit → ∃ text, g.exportText = .ok text) ∧
    ∀ text, g.exportText = .ok text → Json.read text = .ok g.toDocument →
      ∀ (ws' : String) (now' : Instant) (k : Nat), ∃ g' k',
        (do Document.parse (← Document.readJson text) ws' now') k = (.ok g', k') ∧ g.IsCopy g' ∧
        ∀ m ∈ g'.nodes, ∃ i, k < i ∧ i ≤ k' ∧ m.id = idOf i := by
  have hp := Document.portable_of_parse hdoc hg
  refine ⟨exists_exportText hp, fun text _ hread ws' now' k => ?_⟩
  have hne : g.nodes ≠ [] ∨ g.edges = [] := by
    refine or_iff_not_imp_left.2 fun hn => List.eq_nil_iff_forall_not_mem.2 fun e he => ?_
    obtain ⟨m, hm, -⟩ := (hends e he).1
    rw [not_not.1 hn] at hm
    cases hm
  refine ⟨_, _, Document.parse_of_read hp hne hread ws' now' k, isCopy_copy ws' now' k hp hids hends,
    fun m hm => ?_⟩
  obtain ⟨i, hi⟩ := List.getElem?_of_mem hm
  obtain ⟨m₀, hm₀, rfl⟩ := node_copy ws' now' k hi
  have := (List.getElem?_eq_some_iff.1 hm₀).1
  exact ⟨k + 2 + i, by omega, by omega, rfl⟩

/-- A document with two nodes, of which the first has a negative zero as a coordinate. -/
def Document.greeting : Value :=
  .record [("flow", .record [("name", .text "Hello")]),
    ("nodes", .list [
      .record [("id", .text "start"), ("type", .text "trigger"), ("x", .text "-0.0")],
      .record [("id", .text "greet"), ("type", .text "note")]]),
    ("edges", .list [
      .record [("source", .text "start"), ("target", .text "greet"), ("label", .text "next")]])]

/-- The flow of this document. -/
def FlowGraph.greeting : FlowGraph where
  flow :=
    { id := idOf 1, name := .text "Hello", description := .null, triggerConfig := none,
      created := ⟨0⟩, updated := ⟨0⟩ }
  nodes := [
    { id := "start", flow := idOf 1, type := "trigger", x := .float (.ofRank true 0),
      config := .null },
    { id := "greet", flow := idOf 1, type := "note", config := .null }]
  edges := [
    { id := idOf 2, flow := idOf 1, source := "start", target := "greet", label := .text "next" }]

/-- The lines of its export. -/
def FlowGraph.greetingLines : List String :=
  ["\x7b",
    "  \"version\": 1,",
    "  \"flow\": \x7b",
    "    \"name\": \"Hello\",",
    "    \"description\": null,",
    "    \"status\": \"draft\",",
    "    \"triggerConfig\": null",
    "  \x7d,",
    "  \"nodes\": [",
    "    \x7b",
    "      \"type\": \"trigger\",",
    "      \"label\": \"\",",
    "      \"x\": -0.0,",
    "      \"y\": 0.0,",
    "      \"config\": null",
    "    \x7d,",
    "    \x7b",
    "      \"type\": \"note\",",
    "      \"label\": \"\",",
    "      \"x\": 0.0,",
    "      \"y\": 0.0,",
    "      \"config\": null",
    "    \x7d",
    "  ],",
    "  \"edges\": [",
    "    \x7b",
    "      \"sourceIndex\": 0,",
    "      \"targetIndex\": 1,",
    "      \"sourceHandle\": null,",
    "      \"targetHandle\": null,",
    "      \"label\": \"next\"",
    "    \x7d",
    "  ]",
    "\x7d"]

/-- The text of its export. -/
def FlowGraph.greetingText : String := "\n".intercalate greetingLines

/-- This flow is read again as a copy, in which the negative zero has become positive. -/
theorem FlowGraph.isCopy_of_greeting :
    Document.greeting.isJson = true ∧
    Document.parse Document.greeting "" ⟨0⟩ 0 = (.ok .greeting, 2) ∧
    (greeting.nodes.map Node.id).Nodup ∧
    greeting.EndsKnown ∧
    greeting.exportText = .ok greetingText ∧ Json.read greetingText = .ok greeting.toDocument ∧
    ∃ g' k', (do Document.parse (← Document.readJson greetingText) "" ⟨0⟩) 2 = (.ok g', k') ∧
      greeting.IsCopy g' ∧ ∀ m ∈ g'.nodes, ∃ i, 2 < i ∧ i ≤ k' ∧ m.id = idOf i := by
  have hdoc : Document.greeting.isJson = true := by decide
  have hg : Document.parse Document.greeting "" ⟨0⟩ 0 = (.ok .greeting, 2) := rfl
  have hids : (greeting.nodes.map Node.id).Nodup := by decide
  have hends : greeting.EndsKnown := by simp [EndsKnown, greeting]
  have htext : greeting.exportText = .ok greetingText := by decide +kernel
  have hread : Json.read greetingText = .ok greeting.toDocument := by
    rw [greetingText, Json.read_of_toList String.toList_intercalate]
    decide +kernel
  exact ⟨hdoc, hg, hids, hends, htext, hread,
    (isCopy_of_export hdoc hg hids hends).2 _ htext hread "" ⟨0⟩ 2⟩

end Workflow
