import Mathlib.Data.List.Perm.Basic
import Workflow.Proofs.Calls
import Workflow.Proofs.Reimport

/-!
# Flows in memory and in tables

A store answers the calls of its part for flows (`FlowCall`) with the flows that were saved. Tables write a
flow as a row, and its nodes and edges as rows with their places: they hold a flow (`Tables.Holds`) if the
rows under its id are those of its nodes and edges in their order. Saving a flow replaces its rows and no
others, and so does deleting it. So two empty stores, one in memory and one with tables, answer every history
of calls alike (`alike_of_tables`): up to times, the sign of zero, labels that are empty in one and missing
in the other, and the order of a listing.
-/

namespace Workflow

open Store

/-! ### Flows that are alike -/

/-- A label that is empty or missing. -/
def Value.IsBlank (v : Value) : Prop := v = .null ∨ v = .text ""

def Value.SameLabel (v w : Value) : Prop := v = w ∨ v.IsBlank ∧ w.IsBlank

/-- Flows that are equal up to times. -/
structure Flow.Alike (f f' : Flow) : Prop where
  id : f'.id = f.id
  workspace : f'.workspace = f.workspace
  name : f'.name = f.name
  description : f'.description = f.description
  status : f'.status = f.status
  triggerConfig : f'.triggerConfig = f.triggerConfig

/-- Nodes that are equal up to the flow they name and the sign of zero, with a label that may be missing in
one and empty in the other. -/
structure Node.Alike (n n' : Node) : Prop where
  id : n'.id = n.id
  type : n'.type = n.type
  label : n.label.SameLabel n'.label
  x : n.x.SameCoordinate n'.x
  y : n.y.SameCoordinate n'.y
  config : n'.config = n.config

/-- Edges that are equal up to the flow they name, with a label that may be missing in one and empty in
the other. -/
structure Edge.Alike (e e' : Edge) : Prop where
  id : e'.id = e.id
  source : e'.source = e.source
  target : e'.target = e.target
  sourceHandle : e'.sourceHandle = e.sourceHandle
  targetHandle : e'.targetHandle = e.targetHandle
  label : e.label.SameLabel e'.label

structure FlowGraph.Alike (g g' : FlowGraph) : Prop where
  flow : g.flow.Alike g'.flow
  nodes : List.Forall₂ Node.Alike g.nodes g'.nodes
  edges : List.Forall₂ Edge.Alike g.edges g'.edges

/-! ### Flows that fit their columns -/

/-- A text that can be written as bytes, or no text. -/
def Value.IsOptionalText (v : Value) : Prop := v = .null ∨ ∃ s, v = .text s ∧ Text.Whole s

structure Flow.Storable (f : Flow) : Prop where
  texts : Text.Whole f.id ∧ Text.Whole f.workspace
  name : ∃ s, f.name = .text s ∧ Text.Whole s
  description : f.description.IsOptionalText
  status : f.status ∈ FlowRow.statuses
  triggerConfig : ∀ s ∈ f.triggerConfig, Text.Whole s

structure Node.Storable (n : Node) : Prop where
  texts : Text.Whole n.id ∧ Text.Whole n.type
  label : n.label.IsOptionalText
  x : ∃ d : Double, n.x = .float d ∧ d.isNaN = false
  y : ∃ d : Double, n.y = .float d ∧ d.isNaN = false
  config : n.config.IsOptionalText

structure Edge.Storable (e : Edge) : Prop where
  texts : Text.Whole e.id ∧ Text.Whole e.source ∧ Text.Whole e.target
  sourceHandle : e.sourceHandle.IsOptionalText
  targetHandle : e.targetHandle.IsOptionalText
  label : e.label.IsOptionalText

/-- Every field has its declared type and fits its column, the status is a legal one, and neither two nodes
nor two edges share an id. -/
structure FlowGraph.Storable (g : FlowGraph) : Prop where
  flow : g.flow.Storable
  nodes : ∀ n ∈ g.nodes, n.Storable
  edges : ∀ e ∈ g.edges, e.Storable
  nodeIds : (g.nodes.map Node.id).Nodup
  edgeIds : (g.edges.map Edge.id).Nodup

namespace Value

variable {v : Value}

theorem toTextColumn_text {s : String} (h : Text.Whole s) : (Value.text s).toTextColumn = .ok (some s) := by
  rw [toTextColumn, textColumn_of_whole h]
  rfl

/-- What a text column holds of an optional text is that text. -/
theorem IsOptionalText.toTextColumn (h : v.IsOptionalText) :
    ∃ o, v.toTextColumn = .ok o ∧ Value.ofOption .text o = v := by
  rcases h with rfl | ⟨s, rfl, hs⟩
  · exact ⟨none, rfl, rfl⟩
  · exact ⟨some s, toTextColumn_text hs, rfl⟩

/-- A real column holds a number up to the sign of zero. -/
theorem toRealColumn_float {d : Double} (hv : v = .float d) (h : d.isNaN = false) :
    ∃ x, v.toRealColumn = .ok x ∧ v.SameCoordinate (.float x) := by
  subst hv
  refine ⟨if d.isZero then .zero else d, ?_, d, _, rfl, rfl, ?_⟩
  · simp only [toRealColumn, asDouble?, h, Bool.false_or]
  · split
    next hz => exact .inr ⟨hz, rfl⟩
    next => exact .inl rfl

end Value

/-! ### Rows -/

theorem FlowRow.ofFlow_total {f : Flow} (h : f.Storable) (created now : Instant) :
    ∃ r, FlowRow.ofFlow f created now = .ok r ∧ f.Alike r.toFlow := by
  obtain ⟨hid, hworkspace⟩ := h.texts
  obtain ⟨name, hname, hwhole⟩ := h.name
  obtain ⟨description, hdescription, hd⟩ := h.description.toTextColumn
  have hlegal : ∀ s ∈ FlowRow.statuses, Text.Whole s := by decide
  have hkey : fitColumns [f.id, f.workspace] = .ok () :=
    fitColumns_of_whole (by simp [hid, hworkspace])
  have hrest : fitColumns (f.status :: f.triggerConfig.toList) = .ok () :=
    fitColumns_of_whole (by simpa [hlegal _ h.status] using h.triggerConfig)
  have hstatus : FlowRow.statuses.contains f.status = true := List.contains_iff_mem.2 h.status
  refine ⟨⟨f.id, f.workspace, name, description, f.status, f.triggerConfig, created, now⟩, ?_, ?_⟩
  · simp only [FlowRow.ofFlow, hkey, hname, Value.toTextColumn_text hwhole, hdescription, hrest, hstatus,
      if_true]
    rfl
  · exact ⟨rfl, rfl, hname.symm, hd, rfl, rfl⟩

theorem NodeRow.ofNode_total {n : Node} (h : n.Storable) (flow : String) (i : Nat) :
    ∃ r, NodeRow.ofNode flow i n = .ok r ∧ r.key = (flow, n.id) ∧ r.position = i ∧ n.Alike r.toNode := by
  obtain ⟨hid, htype⟩ := h.texts
  obtain ⟨label, hlabel, hl⟩ := h.label.toTextColumn
  obtain ⟨dx, hx, hxn⟩ := h.x
  obtain ⟨dy, hy, hyn⟩ := h.y
  obtain ⟨x, hx, hxs⟩ := Value.toRealColumn_float hx hxn
  obtain ⟨y, hy, hys⟩ := Value.toRealColumn_float hy hyn
  obtain ⟨config, hconfig, hc⟩ := h.config.toTextColumn
  have hkey : fitColumns [n.id, n.type] = .ok () := fitColumns_of_whole (by simp [hid, htype])
  refine ⟨⟨flow, n.id, i, n.type, label.getD "", x, y, config⟩, ?_, rfl, rfl, rfl, rfl, ?_, hxs, hys, hc⟩
  · simp only [NodeRow.ofNode, hkey, hlabel, hx, hy, hconfig]
    rfl
  · cases label with
    | none => exact .inr ⟨.inl hl.symm, .inr rfl⟩
    | some s => exact .inl hl.symm

theorem EdgeRow.ofEdge_total {e : Edge} (h : e.Storable) (flow : String) (i : Nat) :
    ∃ r, EdgeRow.ofEdge flow i e = .ok r ∧ r.key = (flow, e.id) ∧ r.position = i ∧ e.Alike r.toEdge := by
  obtain ⟨hid, hsource, htarget⟩ := h.texts
  obtain ⟨source, hsourceHandle, hs⟩ := h.sourceHandle.toTextColumn
  obtain ⟨target, htargetHandle, ht⟩ := h.targetHandle.toTextColumn
  have hkey : fitColumns [e.id, e.source, e.target] = .ok () :=
    fitColumns_of_whole (by simp [hid, hsource, htarget])
  rcases h.label with hnull | ⟨s, htext, hwhole⟩
  · refine ⟨⟨flow, e.id, i, e.source, e.target, source, target, some ""⟩, ?_, rfl, rfl, rfl, rfl, rfl, hs,
      ht, .inr ⟨.inl hnull, .inr rfl⟩⟩
    simp only [EdgeRow.ofEdge, hkey, hsourceHandle, htargetHandle, hnull]
    rfl
  · refine ⟨⟨flow, e.id, i, e.source, e.target, source, target, some s⟩, ?_, rfl, rfl, rfl, rfl, rfl, hs,
      ht, .inl htext⟩
    simp only [EdgeRow.ofEdge, hkey, hsourceHandle, htargetHandle, htext, Value.toTextColumn_text hwhole]
    rfl

/-! ### The rows of a list -/

section RowsOf

variable {α β : Type} {position : β → Nat} {R : α → β → Prop} {items : List α} {rows : List β}

/-- The rows of a list: each stands for an item, and they are numbered in the order of the items. -/
structure RowsOf (position : β → Nat) (R : α → β → Prop) (items : List α) (rows : List β) : Prop where
  all : List.Forall₂ R items rows
  numbered : rows.map position = List.range rows.length

/-- Rows that are numbered are in order. -/
theorem RowsOf.sorted (h : RowsOf position R items rows) :
    rows.mergeSort (fun a b => position a ≤ position b) = rows := by
  have hsorted := List.pairwise_map.1 (h.numbered ▸ List.pairwise_le_range)
  exact List.mergeSort_of_pairwise (hsorted.imp fun hle => decide_eq_true hle)

/-- Rows with a new key each are inserted, in the order of the items. -/
theorem insertFrom_total {key : β → String × String} {row : Nat → α → Outcome β} {id : α → String}
    {flow : String} (hids : (items.map id).Nodup)
    (hrow : ∀ a ∈ items, ∀ i, ∃ r, row i a = .ok r ∧ key r = (flow, id a) ∧ position r = i ∧ R a r)
    (hnew : ∀ r ∈ rows, ∀ a ∈ items, key r ≠ (flow, id a)) (n : Nat) :
    ∃ more, Tables.insertFrom key row n items rows = .ok (rows ++ more) ∧ List.Forall₂ R items more ∧
      more.map position = List.range' n more.length ∧ ∀ r ∈ more, (key r).1 = flow := by
  induction items generalizing rows n with
  | nil => exact ⟨[], by rw [Tables.insertFrom, List.append_nil], .nil, rfl, by simp⟩
  | cons a items ih =>
    obtain ⟨hid, hids⟩ := List.nodup_cons.1 hids
    obtain ⟨r, hr, hkey, hplace, hR⟩ := hrow a (by simp) n
    have hinsert : insertRow key r rows = .ok (rows ++ [r]) :=
      insertRow_of_new fun x hx => hkey ▸ hnew x hx a (by simp)
    -- no other item has the id of the row that was added
    have hnew' : ∀ x ∈ rows ++ [r], ∀ b ∈ items, key x ≠ (flow, id b) := by
      intro x hx b hb
      rcases List.mem_append.1 hx with hx | hx
      · exact hnew x hx b (by simp [hb])
      · rw [List.mem_singleton.1 hx, hkey]
        exact fun heq => hid ((Prod.mk.inj heq).2 ▸ List.mem_map_of_mem hb)
    obtain ⟨more, hmore, hall, hnumbers, hflow⟩ := ih hids (fun b hb => hrow b (by simp [hb])) hnew' (n + 1)
    refine ⟨r :: more, ?_, .cons hR hall, ?_, ?_⟩
    · rw [← List.append_cons] at hmore
      rw [Tables.insertFrom, hr]
      change insertRow key r rows >>= Tables.insertFrom key row (n + 1) items = _
      rw [hinsert]
      exact hmore
    · rw [List.map_cons, hplace, hnumbers, List.length_cons, List.range'_succ]
    · simpa [hkey] using hflow

end RowsOf

section Replaced

variable {β : Type} {flow : β → String} {rows more : List β} {id x : String}

/-- The rows of a flow after they were replaced are the new ones. -/
theorem filter_replaced (h : ∀ r ∈ more, flow r = id) :
    (rows.filter (flow · != id) ++ more).filter (flow · == id) = more := by
  rw [List.filter_append, List.filter_filter, List.filter_eq_self.2 fun r hr => beq_iff_eq.2 (h r hr)]
  simp

theorem filter_ne_other (hx : x ≠ id) :
    (rows.filter (flow · != id)).filter (flow · == x) = rows.filter (flow · == x) := by
  rw [List.filter_filter]
  refine List.filter_congr fun r _ => ?_
  by_cases hr : flow r = x
  · simp [hr, hx]
  · simp [hr]

/-- The rows of another flow are as before. -/
theorem filter_replaced_other (h : ∀ r ∈ more, flow r = id) (hx : x ≠ id) :
    (rows.filter (flow · != id) ++ more).filter (flow · == x) = rows.filter (flow · == x) := by
  have hnone : more.filter (flow · == x) = [] :=
    List.filter_eq_nil_iff.2 fun r hr hrx => hx ((beq_iff_eq.1 hrx).symm.trans (h r hr))
  rw [List.filter_append, filter_ne_other hx, hnone, List.append_nil]

end Replaced

/-! ### Lists that are alike item by item -/

section Pairs

variable {α β : Type} {R : α → β → Prop} {l : List α} {l' : List β} {a : α} {b : β}

theorem forall₂_find? {p : α → Bool} {q : β → Bool} (hpq : ∀ a b, R a b → p a = q b)
    (h : List.Forall₂ R l l') : Option.Rel R (l.find? p) (l'.find? q) := by
  induction h with
  | nil => exact .none
  | @cons a b l l' hab _ ih =>
    rw [List.find?_cons, List.find?_cons, hpq a b hab]
    cases q b
    · exact ih
    · exact .some hab

theorem forall₂_any {p : α → Bool} {q : β → Bool} (hpq : ∀ a b, R a b → p a = q b)
    (h : List.Forall₂ R l l') : l.any p = l'.any q := by
  induction h with
  | nil => rfl
  | @cons a b l l' hab _ ih => rw [List.any_cons, List.any_cons, hpq a b hab, ih]

theorem forall₂_filter {p : α → Bool} {q : β → Bool} (hpq : ∀ a b, R a b → p a = q b)
    (h : List.Forall₂ R l l') : List.Forall₂ R (l.filter p) (l'.filter q) :=
  List.rel_filter (fun a b hab => iff_of_eq (congrArg (· = true) (hpq a b hab))) h

theorem forall₂_replaceRow {key : α → String} {key' : β → String} (hkey : ∀ a b, R a b → key' b = key a)
    (h : List.Forall₂ R l l') (hab : R a b) :
    List.Forall₂ R (replaceRow key a l) (replaceRow key' b l') := by
  rw [replaceRow, replaceRow, List.forall₂_map_left_iff, List.forall₂_map_right_iff]
  refine h.imp fun c d hcd => ?_
  rw [hkey c d hcd, hkey a b hab]
  split
  next => exact hab
  next => exact hcd

end Pairs

/-! ### Tables that hold a flow -/

namespace Tables

/-- The rows under the id of a flow are those of its nodes and edges. -/
structure Holds (t : Tables) (g : FlowGraph) : Prop where
  nodes : RowsOf NodeRow.position (fun n r => n.Alike r.toNode) g.nodes (t.nodes.filter (·.flow == g.flow.id))
  edges : RowsOf EdgeRow.position (fun e r => e.Alike r.toEdge) g.edges (t.edges.filter (·.flow == g.flow.id))

variable {t t' : Tables} {g : FlowGraph}

theorem Holds.congr (h : t.Holds g)
    (hn : t'.nodes.filter (·.flow == g.flow.id) = t.nodes.filter (·.flow == g.flow.id))
    (he : t'.edges.filter (·.flow == g.flow.id) = t.edges.filter (·.flow == g.flow.id)) : t'.Holds g :=
  ⟨hn ▸ h.nodes, he ▸ h.edges⟩

theorem Holds.nodesOf (h : t.Holds g) : List.Forall₂ Node.Alike g.nodes (t.nodesOf g.flow.id) := by
  rw [Tables.nodesOf, h.nodes.sorted]
  exact List.forall₂_map_right_iff.2 h.nodes.all

theorem Holds.edgesOf (h : t.Holds g) : List.Forall₂ Edge.Alike g.edges (t.edgesOf g.flow.id) := by
  rw [Tables.edgesOf, h.edges.sorted]
  exact List.forall₂_map_right_iff.2 h.edges.all

/-- Saving a flow replaces its rows and no others. -/
theorem saveGraph_total (t : Tables) (hg : g.Storable) (now : Instant) :
    ∃ t' row, t.saveGraph g now = .ok t' ∧ g.flow.Alike row.toFlow ∧
      t'.flows = (if t.flows.any (·.id == g.flow.id) then replaceRow FlowRow.id row t.flows
        else t.flows ++ [row]) ∧
      t'.Holds g ∧ ∀ x ≠ g.flow.id, t'.nodes.filter (·.flow == x) = t.nodes.filter (·.flow == x) ∧
        t'.edges.filter (·.flow == x) = t.edges.filter (·.flow == x) := by
  obtain ⟨row, hrow, halike⟩ := FlowRow.ofFlow_total hg.flow
    (((t.flows.find? (·.id == g.flow.id)).map FlowRow.created).getD g.flow.created) now
  have hnode : ∀ n ∈ g.nodes, ∀ i, ∃ r, NodeRow.ofNode g.flow.id i n = .ok r ∧ r.key = (g.flow.id, n.id) ∧
      r.position = i ∧ n.Alike r.toNode := fun n hn i => NodeRow.ofNode_total (hg.nodes n hn) g.flow.id i
  have hedge : ∀ e ∈ g.edges, ∀ i, ∃ r, EdgeRow.ofEdge g.flow.id i e = .ok r ∧ r.key = (g.flow.id, e.id) ∧
      r.position = i ∧ e.Alike r.toEdge := fun e he i => EdgeRow.ofEdge_total (hg.edges e he) g.flow.id i
  obtain ⟨nodes, hnodes, hnall, hnnumbers, hnflow⟩ := insertFrom_total hg.nodeIds hnode
    (fun r (hr : r ∈ t.nodes.filter (·.flow != g.flow.id)) n _ heq => by
      simp [show r.flow = g.flow.id from congrArg Prod.fst heq] at hr) 0
  obtain ⟨edges, hedges, heall, henumbers, heflow⟩ := insertFrom_total hg.edgeIds hedge
    (fun r (hr : r ∈ t.edges.filter (·.flow != g.flow.id)) e _ heq => by
      simp [show r.flow = g.flow.id from congrArg Prod.fst heq] at hr) 0
  rw [← List.range_eq_range'] at hnnumbers henumbers
  have hold : (t.flows.find? (·.id == g.flow.id)).isSome = t.flows.any (·.id == g.flow.id) := by
    rw [Bool.eq_iff_iff, List.find?_isSome, List.any_eq_true]
  refine ⟨{ t with
    flows := if t.flows.any (·.id == g.flow.id) then replaceRow FlowRow.id row t.flows else t.flows ++ [row]
    nodes := t.nodes.filter (·.flow != g.flow.id) ++ nodes
    edges := t.edges.filter (·.flow != g.flow.id) ++ edges }, row, ?_, halike, rfl, ⟨?_, ?_⟩,
    fun x hx => ⟨?_, ?_⟩⟩
  · simp only [Tables.saveGraph, hrow, hnodes, hedges, hold]
    rfl
  · exact (filter_replaced hnflow).symm ▸ ⟨hnall, hnnumbers⟩
  · exact (filter_replaced heflow).symm ▸ ⟨heall, henumbers⟩
  · exact filter_replaced_other hnflow hx
  · exact filter_replaced_other heflow hx

/-- Removing a flow leaves the rows of the others. -/
theorem Holds.deleteFlow (h : t.Holds g) {flow : String} (hne : g.flow.id ≠ flow) :
    (t.deleteFlow flow).1.Holds g :=
  h.congr (filter_ne_other hne) (filter_ne_other hne)

end Tables

/-! ### Tables that mirror a memory -/

/-- Tables that hold the flows of a memory, in the same order. -/
structure Tables.Mirrors (t : Tables) (m : Memory) : Prop where
  keyed : m.graphs.Keyed fun g => g.flow.id
  flows : List.Forall₂ (fun g r => g.flow.Alike r.toFlow) m.graphs.values t.flows
  rows : ∀ g ∈ m.graphs.values, t.Holds g

/-- A flow as it is kept in memory. -/
def FlowGraph.savedAt (g : FlowGraph) (now : Instant) : FlowGraph :=
  { g with flow := { g.flow with updated := now } }

namespace Tables.Mirrors

variable {t t' : Tables} {m : Memory} {g : FlowGraph}

theorem find?_alike (h : t.Mirrors m) (x : String) :
    Option.Rel (fun g r => g.flow.Alike r.toFlow) (m.graph? x) (t.flows.find? (·.id == x)) := by
  rw [Memory.graph?, h.keyed.get?_eq]
  exact forall₂_find? (fun g r hgr => by rw [← hgr.id]; rfl) h.flows

theorem flow?_alike (h : t.Mirrors m) (x : String) :
    Option.Rel Flow.Alike ((m.graph? x).map FlowGraph.flow) (t.flow? x) := by
  have hfind := h.find?_alike x
  rw [Tables.flow?]
  generalize m.graph? x = o at hfind
  generalize t.flows.find? (·.id == x) = o' at hfind
  cases hfind with
  | none => exact .none
  | some hgr => exact .some hgr

theorem graph?_alike (h : t.Mirrors m) (x : String) :
    Option.Rel FlowGraph.Alike (m.graph? x) (t.graph? x) := by
  have hfind := h.find?_alike x
  have hheld : ∀ g, m.graph? x = some g → g.flow.id = x ∧ t.Holds g := by
    intro g hg
    rw [Memory.graph?, h.keyed.get?_eq] at hg
    have hid : (g.flow.id == x) = true := List.find?_some (p := fun g : FlowGraph => g.flow.id == x) hg
    exact ⟨beq_iff_eq.1 hid, h.rows g (List.mem_of_find?_eq_some hg)⟩
  rw [Tables.graph?, Tables.flow?]
  generalize m.graph? x = o at hfind hheld
  generalize t.flows.find? (·.id == x) = o' at hfind
  cases hfind with
  | none => exact .none
  | @some g r hgr =>
    obtain ⟨rfl, hholds⟩ := hheld g rfl
    exact .some ⟨hgr, hholds.nodesOf, hholds.edgesOf⟩

theorem has_eq (h : t.Mirrors m) (x : String) : m.graphs.has x = t.flows.any (·.id == x) := by
  rw [h.keyed.has_eq]
  exact forall₂_any (fun g r hgr => by rw [← hgr.id]; rfl) h.flows

theorem saveGraph (h : t.Mirrors m) (hg : g.Storable) (now : Instant) :
    ∃ t', t.saveGraph g now = .ok t' ∧ t'.Mirrors (m.saveGraph g now) := by
  obtain ⟨t', row, hok, halike, hflows, hholds, hother⟩ := t.saveGraph_total hg now
  have hvalues : (m.saveGraph g now).graphs.values =
      if m.graphs.has g.flow.id then replaceRow (·.flow.id) (g.savedAt now) m.graphs.values
      else m.graphs.values ++ [g.savedAt now] := h.keyed.values_put (a := g.savedAt now)
  have hsaved : (g.savedAt now).flow.Alike row.toFlow :=
    ⟨halike.id, halike.workspace, halike.name, halike.description, halike.status, halike.triggerConfig⟩
  have hholds : t'.Holds (g.savedAt now) := ⟨hholds.nodes, hholds.edges⟩
  refine ⟨t', hok, h.keyed.put (a := g.savedAt now), ?_, fun f hf => ?_⟩
  · rw [hvalues, hflows, h.has_eq]
    split
    next => exact forall₂_replaceRow (fun _ _ hgr => hgr.id) h.flows hsaved
    next => exact List.rel_append h.flows (.cons hsaved .nil)
  · obtain rfl | ⟨hf, hne⟩ : f = g.savedAt now ∨ f ∈ m.graphs.values ∧ f.flow.id ≠ g.flow.id := by
      rw [hvalues] at hf
      split at hf
      next => exact mem_replaceRow hf
      next hnew =>
        rcases List.mem_append.1 hf with hf | hf
        · exact .inr ⟨hf, fun hid => hnew (h.keyed.has_iff.2 ⟨f, hf, hid⟩)⟩
        · exact .inl (List.mem_singleton.1 hf)
    · exact hholds
    · exact (h.rows f hf).congr (hother _ hne).1 (hother _ hne).2

theorem deleteFlow (h : t.Mirrors m) (x : String) :
    (t.deleteFlow x).1.Mirrors (m.deleteFlow x).1 ∧ (t.deleteFlow x).2 = (m.deleteFlow x).2 := by
  have hvalues : (m.deleteFlow x).1.graphs.values = m.graphs.values.filter (·.flow.id != x) :=
    h.keyed.values_remove x
  refine ⟨⟨h.keyed.remove x, ?_, fun g hg => ?_⟩, (h.has_eq x).symm⟩
  · rw [hvalues]
    exact forall₂_filter (fun g r hgr => by rw [← hgr.id]; rfl) h.flows
  · rw [hvalues] at hg
    obtain ⟨hg, hne⟩ := List.mem_filter.1 hg
    exact (h.rows g hg).deleteFlow (by simpa using hne)

theorem flows_alike (h : t.Mirrors m) {page : Page} (ho : page.offset = 0)
    (hl : m.graphs.length ≤ page.limit) (filter : FlowFilter) :
    ∃ l, l.Perm (m.flows page filter) ∧ List.Forall₂ Flow.Alike l (t.listFlows page filter) := by
  have hall : List.Forall₂ Flow.Alike ((m.graphs.values.map FlowGraph.flow).filter filter.admits)
      ((t.flows.map FlowRow.toFlow).filter filter.admits) := by
    refine forall₂_filter (fun f f' hf => ?_) ?_
    · rw [FlowFilter.admits, FlowFilter.admits, hf.workspace, hf.status]
    · exact List.forall₂_map_left_iff.2 (List.forall₂_map_right_iff.2 h.flows)
  have hsorted := List.mergeSort_perm ((t.flows.map FlowRow.toFlow).filter filter.admits)
    fun a b => (Flow.created b).microseconds ≤ (Flow.created a).microseconds
  have hlength : ((m.graphs.values.map FlowGraph.flow).filter filter.admits).length ≤ page.limit := by
    have hle := List.length_filter_le filter.admits (m.graphs.values.map FlowGraph.flow)
    have hvalues : (m.graphs.values.map FlowGraph.flow).length = m.graphs.length := by
      rw [List.length_map, Shelf.values, List.length_map]
    omega
  have hmemory : m.flows page filter = (m.graphs.values.map FlowGraph.flow).filter filter.admits := by
    rw [Memory.flows, Page.slice_eq_window (by omega) (by omega), Page.window_eq_self ho hlength]
  have htables : t.listFlows page filter =
      newestFirst Flow.created ((t.flows.map FlowRow.toFlow).filter filter.admits) := by
    refine Page.window_eq_self ho ?_
    rw [newestFirst, hsorted.length_eq, ← hall.length_eq]
    exact hlength
  have hcomp : Relation.Comp (List.Forall₂ Flow.Alike) List.Perm (m.flows page filter)
      (t.listFlows page filter) := ⟨_, hmemory ▸ hall, htables ▸ hsorted.symm⟩
  rw [List.forall₂_comp_perm_eq_perm_comp_forall₂] at hcomp
  obtain ⟨l, hperm, hl⟩ := hcomp
  exact ⟨l, hperm.symm, hl⟩

end Tables.Mirrors

/-! ### Calls -/

/-- A call of the part of a store that keeps flows. -/
inductive FlowCall where
  | save (g : FlowGraph) (now : Instant)
  | get (id : String)
  | graph (id : String)
  | delete (id : String)
  | list (page : Page) (filter : FlowFilter)

/-- What such a call is answered. -/
inductive FlowAnswer where
  | id (id : String)
  | flow (f : Option Flow)
  | graph (g : Option FlowGraph)
  | done (b : Bool)
  | flows (l : List Flow)

/-- Answers with flows that are alike, those of a listing in any order. -/
inductive FlowAnswer.Alike : FlowAnswer → FlowAnswer → Prop where
  | id (name : String) : Alike (.id name) (.id name)
  | flow {f f' : Option Flow} (h : Option.Rel Flow.Alike f f') : Alike (.flow f) (.flow f')
  | graph {g g' : Option FlowGraph} (h : Option.Rel FlowGraph.Alike g g') : Alike (.graph g) (.graph g')
  | done (b : Bool) : Alike (.done b) (.done b)
  | flows {l m l' : List Flow} (hp : m.Perm l) (h : List.Forall₂ Flow.Alike m l') :
      Alike (.flows l) (.flows l')

namespace FlowCall

def perform : FlowCall → Access FlowAnswer
  | save g now => .id <$> Store.saveGraph g now
  | get id => return .flow ((← MonadState.get).flow? id)
  | graph id => return .graph ((← MonadState.get).graph? id)
  | delete id => .done <$> Store.deleteFlow id
  | list page filter => do
    return .flows (← MonadExcept.ofExcept ((← MonadState.get).flows page filter))

/-- A flow that is saved fits its columns, as do the texts that others are asked for with. -/
def Fits : FlowCall → Prop
  | save g _ => g.Storable
  | get id | graph id | delete id => Text.Whole id
  | list _ filter => Text.Whole filter.workspace ∧ Text.Whole filter.status

/-- The page of a listing has room for a number of flows. -/
def HasRoom (count : Nat) : FlowCall → Prop
  | list page _ => page.offset = 0 ∧ count ≤ page.limit ∧ page.limit < 2 ^ 63
  | _ => True

/-- The page of every listing has room for all flows that there are then. -/
def Unpaged : List FlowCall → Store → Prop
  | [], _ => True
  | c :: cs, s => c.HasRoom s.flowCount ∧ Unpaged cs (c.perform s).2

/-- The flow with an id that a call leaves, where there was one before it or not. -/
def leave (x : String) (g : Option FlowGraph) : FlowCall → Option FlowGraph
  | save g' _ => if g'.flow.id = x then some g' else g
  | delete id => if id = x then none else g
  | _ => g

/-- The flow that was saved last with an id, unless it was deleted since. -/
def lastSaved (x : String) (calls : List FlowCall) : Option FlowGraph := calls.foldl (leave x) none

end FlowCall

/-- A store in memory, and one with tables that hold the same flows. -/
inductive Store.Mirrored : Store → Store → Prop where
  | intro {m : Memory} {t : Tables} (outages outages' : List Outage) (h : t.Mirrors m) :
      Mirrored ⟨.memory m, outages, none⟩ ⟨.tables t, outages', none⟩

theorem Store.Mirrored.graph?_alike {s s' : Store} (h : s.Mirrored s') (x : String) :
    Option.Rel FlowGraph.Alike (s.graph? x) (s'.graph? x) := by
  obtain ⟨_, _, h⟩ := h
  exact h.graph?_alike x

namespace FlowCall

variable {s s' : Store} {c : FlowCall} {calls : List FlowCall}

/-- A call on two stores with the same flows is answered alike, and leaves the same flows. -/
theorem perform_alike (h : s.Mirrored s') (hfit : c.Fits) (hroom : c.HasRoom s.flowCount) :
    ∃ a a' u u', c.perform s = (.ok a, u) ∧ c.perform s' = (.ok a', u') ∧ a.Alike a' ∧ u.Mirrored u' := by
  obtain @⟨m, t, outages, outages', h⟩ := h
  cases c with
  | save g now =>
    obtain ⟨t', hok, ht'⟩ := h.saveGraph hfit now
    refine ⟨_, _, _, _, rfl, ?_, .id g.flow.id, .intro outages outages' ht'⟩
    simp only [perform, Stateful.map_apply, Store.saveGraph, Stateful.bind_apply, Stateful.get_apply, hok,
      Stateful.ofExcept_apply, Stateful.set_apply, Stateful.pure_apply]
    rfl
  | get id => exact ⟨_, _, _, _, rfl, rfl, .flow (h.flow?_alike id), .intro outages outages' h⟩
  | graph id => exact ⟨_, _, _, _, rfl, rfl, .graph (h.graph?_alike id), .intro outages outages' h⟩
  | delete id =>
    obtain ⟨ht', hfound⟩ := h.deleteFlow id
    refine ⟨.done (m.deleteFlow id).2, .done (t.deleteFlow id).2, _, _, rfl, rfl, ?_,
      .intro outages outages' ht'⟩
    rw [hfound]
    exact .done _
  | list page filter =>
    obtain ⟨ho, hl, hlimit⟩ := hroom
    have htables : page.forTables = .ok page := by
      rw [Page.forTables_of_nonneg (by omega) (by omega), if_pos (by omega)]
    obtain ⟨l, hperm, hl⟩ := h.flows_alike ho hl filter
    refine ⟨_, _, _, _, rfl, ?_, .flows hperm hl, .intro outages outages' h⟩
    simp only [perform, Stateful.bind_apply, Stateful.get_apply, Store.flows, htables, Except.map,
      Stateful.ofExcept_apply]
    rfl

/-- Two stores with the same flows answer alike, and have the same flows then. -/
theorem answers_of_mirrored (h : s.Mirrored s') (hfit : ∀ c ∈ calls, c.Fits) (hroom : Unpaged calls s) :
    List.Forall₂ (fun r r' => ∃ a a', r = .ok a ∧ r' = .ok a' ∧ a.Alike a')
        (answers perform calls s) (answers perform calls s') ∧
      (after perform calls s).Mirrored (after perform calls s') := by
  induction calls generalizing s s' with
  | nil => exact ⟨.nil, h⟩
  | cons c calls ih =>
    obtain ⟨a, a', u, u', hs, hs', halike, hu⟩ := perform_alike h (hfit c (by simp)) hroom.1
    have hrest : Unpaged calls u := by
      have := hroom.2
      rwa [hs] at this
    obtain ⟨ih, ihlast⟩ := ih hu (fun d hd => hfit d (by simp [hd])) hrest
    rw [answers_cons hs, answers_cons hs', after_cons hs, after_cons hs']
    exact ⟨.cons ⟨a, a', rfl, rfl, halike⟩ ih, ihlast⟩

/-- A memory keeps under an id what a call leaves there. -/
theorem graph?_perform {m : Memory} {outages : List Outage} {listing : Option Failure} {x : String}
    {last : Option FlowGraph} (h : ∃ now, m.graph? x = last.map (·.savedAt now)) (c : FlowCall) :
    ∃ m', (c.perform ⟨.memory m, outages, listing⟩).2 = ⟨.memory m', outages, listing⟩ ∧
      ∃ now, m'.graph? x = (c.leave x last).map (·.savedAt now) := by
  obtain ⟨before, h⟩ := h
  cases c with
  | save g now =>
    refine ⟨m.saveGraph g now, rfl, ?_⟩
    rw [Memory.graph?, Memory.saveGraph, Shelf.get?_put, leave]
    split
    next => exact ⟨now, rfl⟩
    next => exact ⟨before, h⟩
  | delete id =>
    refine ⟨(m.deleteFlow id).1, rfl, ?_⟩
    rw [Memory.graph?, Memory.deleteFlow, Shelf.get?_remove, leave]
    split
    next => exact ⟨before, rfl⟩
    next => exact ⟨before, h⟩
  | list page filter =>
    refine ⟨m, ?_, before, h⟩
    simp only [perform, Stateful.bind_apply, Stateful.get_apply, Stateful.ofExcept_apply]
    cases Store.flows ⟨.memory m, outages, listing⟩ page filter <;> rfl
  | _ => exact ⟨m, rfl, before, h⟩

theorem graph?_after {m : Memory} {outages : List Outage} {listing : Option Failure} {x : String}
    {last : Option FlowGraph} (h : ∃ now, m.graph? x = last.map (·.savedAt now)) :
    ∃ now, (after perform calls ⟨.memory m, outages, listing⟩).graph? x =
      (calls.foldl (leave x) last).map (·.savedAt now) := by
  induction calls generalizing m last with
  | nil => exact h
  | cons c calls ih =>
    obtain ⟨m', hm', hlast⟩ := graph?_perform h c
    rw [after, List.foldl_cons, hm', List.foldl_cons]
    exact ih hlast

theorem alike_of_savedAt {last o : Option FlowGraph} {now : Instant}
    (h : Option.Rel FlowGraph.Alike (last.map (·.savedAt now)) o) : Option.Rel FlowGraph.Alike last o := by
  cases last with
  | none => exact h
  | some g =>
    rcases h with ⟨hflow, hnodes, hedges⟩ | _
    refine .some ⟨?_, hnodes, hedges⟩
    exact ⟨hflow.id, hflow.workspace, hflow.name, hflow.description, hflow.status, hflow.triggerConfig⟩

/-- A store with tables answers every history of calls as one in memory does, and it has of every flow what
was saved last and no more. -/
theorem alike_of_tables (hfit : ∀ c ∈ calls, c.Fits) (hroom : Unpaged calls {}) :
    List.Forall₂ (fun r r' => ∃ a a', r = .ok a ∧ r' = .ok a' ∧ a.Alike a')
        (answers perform calls {}) (answers perform calls { records := .tables {} }) ∧
      ∀ x, Option.Rel FlowGraph.Alike (lastSaved x calls)
        ((after perform calls { records := .tables {} }).graph? x) := by
  have hempty : Store.Mirrored {} { records := .tables {} } :=
    .intro [] [] ⟨by simp [Shelf.Keyed], .nil, by simp [Shelf.values]⟩
  obtain ⟨hanswers, hlast⟩ := answers_of_mirrored hempty hfit hroom
  refine ⟨hanswers, fun x => ?_⟩
  obtain ⟨now, hsaved⟩ : ∃ now, (after perform calls {}).graph? x =
      (lastSaved x calls).map (·.savedAt now) := graph?_after ⟨⟨0⟩, rfl⟩
  exact alike_of_savedAt (hsaved ▸ hlast.graph?_alike x)

/-! ### A history -/

/-- A flow with nodes at the negative zero and an edge for each pair, all without a label. -/
def sketch (id : String) (nodes : List String) (ends : List (String × String)) : FlowGraph where
  flow := { id, name := .text "Flow", created := ⟨0⟩, updated := ⟨0⟩ }
  nodes := nodes.map fun id => { id, label := .null, x := .float (.number true 0 (Nat.zero_le _)) }
  edges := ends.map fun (source, target) => { id := source ++ target, source, target, label := .null }

theorem storable_sketch {id : String} {nodes : List String} {ends : List (String × String)}
    (hid : Text.Whole id) (hnodes : ∀ n ∈ nodes, Text.Whole n) (hn : nodes.Nodup)
    (hends : ∀ p ∈ ends, Text.Whole (p.1 ++ p.2) ∧ Text.Whole p.1 ∧ Text.Whole p.2)
    (he : (ends.map fun p => p.1 ++ p.2).Nodup) : (sketch id nodes ends).Storable := by
  have hempty : Text.Whole "" := by decide
  have hobject : Text.Whole "\x7b\x7d" := by decide
  have haction : Text.Whole "action" := by decide
  have hdraft : "draft" ∈ FlowRow.statuses := by decide
  refine ⟨⟨⟨hid, hempty⟩, ⟨_, rfl, by decide⟩, .inr ⟨_, rfl, hempty⟩, hdraft, ?_⟩, ?_, ?_, ?_, ?_⟩
  · rintro s ⟨⟩
    exact hobject
  · exact List.forall_mem_map.2 fun n h =>
      ⟨⟨hnodes n h, haction⟩, .inl rfl, ⟨_, rfl, rfl⟩, ⟨_, rfl, rfl⟩, .inr ⟨_, rfl, hobject⟩⟩
  · exact List.forall_mem_map.2 fun p h => ⟨hends p h, .inl rfl, .inl rfl, .inl rfl⟩
  · simpa only [sketch, List.map_map, Function.comp_def, List.map_id'] using hn
  · simpa only [sketch, List.map_map, Function.comp_def] using he

/-- Two flows with the same node ids: one is saved again with fewer nodes in another order, the other is
deleted and saved again. -/
def sketches : List FlowCall :=
  [.save (sketch "f" ["a", "b", "c"] [("a", "b"), ("b", "c")]) ⟨1⟩,
    .save (sketch "g" ["b", "a"] [("b", "a")]) ⟨2⟩, .save (sketch "f" ["c", "a"] [("a", "c")]) ⟨3⟩,
    .list ⟨0, 2⟩ { status := "draft" }, .delete "g", .graph "g", .save (sketch "g" ["b"] []) ⟨4⟩, .get "f"]

theorem nodes_of_alike {g : FlowGraph} {o : Option FlowGraph} (h : Option.Rel FlowGraph.Alike (some g) o) :
    o.map (·.nodes.map Node.id) = some (g.nodes.map Node.id) := by
  cases h with
  | @some _ g' h =>
    have hids : List.Forall₂ (· = ·) (g'.nodes.map Node.id) (g.nodes.map Node.id) :=
      List.forall₂_map_left_iff.2 (List.forall₂_map_right_iff.2 (h.nodes.flip.imp fun _ _ hn => hn.id))
    rw [List.forall₂_eq_eq_eq] at hids
    rw [Option.map_some, hids]

/-- The nodes that the tables have of two flows that were saved more than once. -/
theorem alike_of_sketches :
    (∀ c ∈ sketches, c.Fits) ∧ Unpaged sketches {} ∧
      let t := after perform sketches { records := .tables {} }
      (t.graph? "f").map (·.nodes.map Node.id) = some ["c", "a"] ∧
        (t.graph? "g").map (·.nodes.map Node.id) = some ["b"] := by
  have hfit : ∀ c ∈ sketches, c.Fits := by
    simp only [sketches, List.mem_cons, List.not_mem_nil, or_false, forall_eq_or_imp, forall_eq, Fits]
    refine ⟨?_, ?_, ?_, by decide, by decide, by decide, ?_, by decide⟩
    all_goals exact storable_sketch (by decide) (by decide) (by decide) (by decide) (by decide)
  have hroom : Unpaged sketches {} :=
    ⟨trivial, trivial, trivial, ⟨rfl, by decide, by decide⟩, trivial, trivial, trivial, trivial, trivial⟩
  obtain ⟨-, hlast⟩ := alike_of_tables hfit hroom
  exact ⟨hfit, hroom, nodes_of_alike (hlast "f"), nodes_of_alike (hlast "g")⟩

end FlowCall

end Workflow
