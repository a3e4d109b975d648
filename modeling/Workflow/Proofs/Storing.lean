import Workflow.Proofs.FlowCalls

/-!
# Flows that tables take

Tables take a flow just if it fits them (`FlowGraph.Fits`, `Tables.demands_saveGraph`): its texts can be
written as bytes, its other values can be held by their columns, it has a name and one of the statuses, and
neither two nodes nor two edges share an id. What does not fit is refused with a failure of tables. A flow
that was taken is shown by the rows that were made of its parts, and every other flow is as before
(`Tables.graph?_of_saveGraph`).
-/

namespace Workflow

/-! ### Failures of tables -/

/-- Whether tables refuse what they cannot hold with a failure of this kind. -/
def FailureKind.isOfTables : FailureKind → Bool
  | encode => true
  | overflow => true
  | unfit => true
  | unconverted => true
  | integrity => true
  | _ => false

namespace Outcome

variable {α β : Type} {r : Outcome α} {P Q : Prop}

/-- There is a result just if a condition holds; else there is a failure of tables. -/
structure Demands (r : Outcome α) (P : Prop) : Prop where
  total : P → ∃ a, r = .ok a
  met : ∀ {a}, r = .ok a → P
  kind : ∀ {f}, r = .error f → f.kind.isOfTables = true

theorem Demands.congr (h : Demands r P) (hiff : P ↔ Q) : Demands r Q where
  total hQ := h.total (hiff.2 hQ)
  met ho := hiff.1 (h.met ho)
  kind := h.kind

theorem Demands.pure (a : α) : Demands (.ok a) True where
  total _ := ⟨a, rfl⟩
  met _ := trivial
  kind he := by cases he

theorem Demands.of_ok (a : α) (h : P) : Demands (.ok a) P :=
  (Demands.pure a).congr (iff_of_true trivial h)

theorem Demands.of_error {f : Failure} (hf : f.kind.isOfTables = true) (h : ¬ P) :
    Demands (.error f : Outcome α) P where
  total hP := absurd hP h
  met ho := by cases ho
  kind he := by
    cases he
    exact hf

theorem Demands.not_of_error {f : Failure} (h : Demands r P) (he : r = .error f) : ¬ P := fun hP => by
  obtain ⟨a, ha⟩ := h.total hP
  cases he.symm.trans ha

theorem Demands.bind {k : α → Outcome β} (h : Demands r P) (hk : ∀ a, r = .ok a → Demands (k a) Q) :
    Demands (r >>= k) (P ∧ Q) := by
  cases hr : r with
  | error f => exact .of_error (h.kind hr) fun hPQ => h.not_of_error hr hPQ.1
  | ok a => exact (hk a hr).congr (and_iff_right (h.met hr)).symm

theorem Demands.map (g : α → β) (h : Demands r P) : Demands (r.map g) P := by
  cases hr : r with
  | error f => exact .of_error (h.kind hr) (h.not_of_error hr)
  | ok a => exact .of_ok _ (h.met hr)

end Outcome

open Outcome

/-! ### Columns -/

theorem Text.not_half_of_refusedHalves? {codes : List Nat} {place : Nat}
    (h : Text.refusedHalves? Text.isHalf place codes = none) : ∀ code ∈ codes, Text.isHalf code = false := by
  induction codes generalizing place with
  | nil => simp
  | cons code rest ih =>
    rw [refusedHalves?] at h
    split at h
    next => cases h
    next hcode => exact List.forall_mem_cons.2 ⟨by simpa using hcode, ih h⟩

theorem Failure.ofHalves?_eq_none_iff {s : String} : Failure.ofHalves? s = none ↔ Text.Whole s := by
  refine ⟨fun h => ?_, Text.Whole.ofHalves?⟩
  rw [Failure.ofHalves?, Option.map_eq_none_iff] at h
  exact Text.not_half_of_refusedHalves? h

theorem Failure.kind_of_ofHalves? {s : String} {f : Failure} (h : Failure.ofHalves? s = some f) :
    f.kind = .encode := by
  rw [Failure.ofHalves?, Option.map_eq_some_iff] at h
  obtain ⟨halves, -, rfl⟩ := h
  rfl

theorem demands_fitColumns (texts : List String) :
    Demands (fitColumns texts) (∀ s ∈ texts, Text.Whole s) := by
  unfold fitColumns
  split
  next f hf =>
    obtain ⟨s, hs, hhalf⟩ := List.exists_of_findSome?_eq_some hf
    refine .of_error (by rw [Failure.kind_of_ofHalves? hhalf]; rfl) fun h => ?_
    cases (h s hs).ofHalves?.symm.trans hhalf
  next hnone =>
    exact .of_ok _ fun s hs => Failure.ofHalves?_eq_none_iff.1 (List.findSome?_eq_none_iff.1 hnone s hs)

theorem demands_textColumn (s : String) : Demands (textColumn s) (Text.Whole s) := by
  unfold textColumn
  split
  next f hf =>
    refine .of_error (by rw [Failure.kind_of_ofHalves? hf]; rfl) fun h => ?_
    cases h.ofHalves?.symm.trans hf
  next hnone => exact .of_ok _ (Failure.ofHalves?_eq_none_iff.1 hnone)

namespace Value

/-- A text column can hold the value: an integer within its range, a text that can be written as bytes, or
another scalar that has a text there. -/
def FitsText : Value → Prop
  | .int i => -2 ^ 63 ≤ i ∧ i < 2 ^ 63
  | .text s => Text.Whole s
  | .list _ => False
  | .pair _ _ => False
  | .object _ => False
  | .foreign (.date _) => True
  | .foreign (.timestamp _) => True
  | .foreign _ => False
  | _ => True

/-- A real column can hold the value: one that stands for a number, or nothing. -/
def FitsReal (v : Value) : Prop := v.isNull = true ∨ ∃ d, v.asDouble? = .ok (some d)

variable {v : Value}

theorem demands_toTextColumn (v : Value) : Demands v.toTextColumn v.FitsText := by
  have hunfit : Failure.unfitValue.kind.isOfTables = true := rfl
  cases v with
  | int i =>
    have hpow : (twoTo 63 : Int) = 2 ^ 63 := by decide
    simp only [toTextColumn, columnInteger?, hpow, FitsText]
    split
    next j hj =>
      split at hj
      next hrange => exact .of_ok _ (by simpa using hrange)
      next => cases hj
    next hj =>
      split at hj
      next => cases hj
      next hrange => exact .of_error rfl (by simpa using hrange)
  | text s => exact (demands_textColumn s).map some
  | list _ => exact .of_error hunfit id
  | pair _ _ => exact .of_error hunfit id
  | object _ => exact .of_error hunfit id
  | foreign f =>
    cases f with
    | date d => exact .of_ok _ trivial
    | timestamp t => exact .of_ok _ trivial
    | _ => exact .of_error hunfit id
  | _ => exact .of_ok _ trivial

/-- What a text column holds as nothing. -/
theorem toTextColumn_eq_none_iff : v.toTextColumn = .ok none ↔ v = .null ∨ v = .float .nan := by
  cases v with
  | int i =>
    rw [toTextColumn]
    cases columnInteger? i <;> simp
  | float d =>
    cases d with
    | nan => simp [toTextColumn, realText]
    | number negative rank h =>
      rw [toTextColumn, realText]
      split <;> simp
  | text s =>
    rw [toTextColumn]
    cases textColumn s <;> simp [Except.map]
  | foreign f => cases f <;> simp [toTextColumn]
  | _ => simp [toTextColumn]

theorem eq_null_of_isNull (h : v.isNull = true) : v = .null := by
  cases v with
  | null => rfl
  | _ => cases h

theorem demands_toRealColumn (v : Value) : Demands v.toRealColumn v.FitsReal := by
  unfold toRealColumn
  split
  next => exact .of_ok _ (.inl rfl)
  next d _ hd => exact .of_ok _ (.inr ⟨d, hd⟩)
  next hnull hno =>
    refine .of_error rfl fun h => h.elim (fun hn => hnull (eq_null_of_isNull hn)) fun hd => hd.elim hno

end Value

/-! ### Parts of a flow -/

structure Flow.Fits (f : Flow) : Prop where
  texts : Text.Whole f.id ∧ Text.Whole f.workspace
  /-- A number that is none does not count as a name. -/
  name : f.name.FitsText ∧ f.name ≠ .null ∧ f.name ≠ .float .nan
  description : f.description.FitsText
  status : f.status ∈ FlowRow.statuses
  triggerConfig : ∀ s ∈ f.triggerConfig, Text.Whole s

structure Node.Fits (n : Node) : Prop where
  texts : Text.Whole n.id ∧ Text.Whole n.type
  label : n.label.FitsText
  x : n.x.FitsReal
  y : n.y.FitsReal
  config : n.config.FitsText

structure Edge.Fits (e : Edge) : Prop where
  texts : Text.Whole e.id ∧ Text.Whole e.source ∧ Text.Whole e.target
  sourceHandle : e.sourceHandle.FitsText
  targetHandle : e.targetHandle.FitsText
  label : e.label.FitsText

/-- Tables can hold the flow with its nodes and edges. -/
structure FlowGraph.Fits (g : FlowGraph) : Prop where
  flow : g.flow.Fits
  nodes : ∀ n ∈ g.nodes, n.Fits
  edges : ∀ e ∈ g.edges, e.Fits
  nodeIds : (g.nodes.map Node.id).Nodup
  edgeIds : (g.edges.map Edge.id).Nodup

namespace FlowRow

variable {f : Flow} {created now : Instant} {r : FlowRow}

theorem demands_ofFlow (f : Flow) (created now : Instant) : Demands (ofFlow f created now) f.Fits := by
  have hlegal : ∀ s ∈ statuses, Text.Whole s := by decide
  unfold ofFlow
  refine Demands.congr ((demands_fitColumns _).bind fun _ _ => (Value.demands_toTextColumn _).bind fun name hname =>
    (Value.demands_toTextColumn _).bind fun _ _ => (demands_fitColumns _).bind
      (Q := (f.name ≠ .null ∧ f.name ≠ .float .nan) ∧ f.status ∈ statuses) fun _ _ => ?_) ?_
  · cases name with
    | none =>
      refine .of_error rfl fun h => ?_
      exact (Value.toTextColumn_eq_none_iff.1 hname).elim h.1.1 h.1.2
    | some name =>
      have hfilled : f.name ≠ .null ∧ f.name ≠ .float .nan := by
        refine not_or.1 fun h => ?_
        cases hname.symm.trans (Value.toTextColumn_eq_none_iff.2 h)
      dsimp only
      split
      next hstatus => exact .of_ok _ ⟨hfilled, List.contains_iff_mem.1 hstatus⟩
      next hstatus => exact .of_error rfl fun h => hstatus (List.contains_iff_mem.2 h.2)
  · constructor
    · rintro ⟨htexts, hname, hdescription, hrest, hfilled, hstatus⟩
      exact ⟨by simpa using htexts, ⟨hname, hfilled⟩, hdescription, hstatus,
        fun s hs => hrest s (List.mem_cons_of_mem _ (by simpa using hs))⟩
    · rintro ⟨htexts, ⟨hname, hfilled⟩, hdescription, hstatus, hconfig⟩
      exact ⟨by simpa using htexts, hname, hdescription,
        List.forall_mem_cons.2 ⟨hlegal _ hstatus, by simpa using hconfig⟩, hfilled, hstatus⟩

theorem id_of_ofFlow (h : ofFlow f created now = .ok r) : r.id = f.id := by
  obtain ⟨_, -, h⟩ := Outcome.bind_eq_ok.1 h
  obtain ⟨name, -, h⟩ := Outcome.bind_eq_ok.1 h
  obtain ⟨_, -, h⟩ := Outcome.bind_eq_ok.1 h
  obtain ⟨_, -, h⟩ := Outcome.bind_eq_ok.1 h
  cases name with
  | none => cases h
  | some name =>
    dsimp only at h
    split at h <;> cases h
    rfl

end FlowRow

theorem NodeRow.demands_ofNode (flow : String) (i : Nat) (n : Node) : Demands (ofNode flow i n) n.Fits := by
  unfold ofNode
  refine Demands.congr ((demands_fitColumns _).bind fun _ _ => (Value.demands_toTextColumn _).bind fun _ _ =>
    (Value.demands_toRealColumn _).bind fun _ _ => (Value.demands_toRealColumn _).bind fun _ _ =>
    (Value.demands_toTextColumn _).bind fun _ _ => Demands.pure _) ?_
  constructor
  · rintro ⟨htexts, hlabel, hx, hy, hconfig, -⟩
    exact ⟨by simpa using htexts, hlabel, hx, hy, hconfig⟩
  · rintro ⟨htexts, hlabel, hx, hy, hconfig⟩
    exact ⟨by simpa using htexts, hlabel, hx, hy, hconfig, trivial⟩

theorem EdgeRow.demands_ofEdge (flow : String) (i : Nat) (e : Edge) : Demands (ofEdge flow i e) e.Fits := by
  unfold ofEdge
  refine Demands.congr ((demands_fitColumns _).bind fun _ _ => (Value.demands_toTextColumn _).bind fun _ _ =>
    (Value.demands_toTextColumn _).bind (Q := e.label.FitsText) fun _ _ => ?_) ?_
  · dsimp only
    split
    next hnull =>
      exact .of_ok _ (by rw [Value.eq_null_of_isNull hnull]; trivial)
    next => exact ((Value.demands_toTextColumn _).bind fun _ _ => Demands.pure _).congr (iff_of_eq (and_true _))
  · constructor
    · rintro ⟨htexts, hsource, htarget, hlabel⟩
      exact ⟨by simpa using htexts, hsource, htarget, hlabel⟩
    · rintro ⟨htexts, hsource, htarget, hlabel⟩
      exact ⟨by simpa using htexts, hsource, htarget, hlabel⟩

theorem NodeRow.of_ofNode {flow : String} {i : Nat} {n : Node} {r : NodeRow} (h : ofNode flow i n = .ok r) :
    (r.flow = flow ∧ r.position = i) ∧ r.id = n.id := by
  obtain ⟨_, -, h⟩ := Outcome.bind_eq_ok.1 h
  obtain ⟨_, -, h⟩ := Outcome.bind_eq_ok.1 h
  obtain ⟨_, -, h⟩ := Outcome.bind_eq_ok.1 h
  obtain ⟨_, -, h⟩ := Outcome.bind_eq_ok.1 h
  obtain ⟨_, -, h⟩ := Outcome.bind_eq_ok.1 h
  cases h
  exact ⟨⟨rfl, rfl⟩, rfl⟩

theorem EdgeRow.of_ofEdge {flow : String} {i : Nat} {e : Edge} {r : EdgeRow} (h : ofEdge flow i e = .ok r) :
    (r.flow = flow ∧ r.position = i) ∧ r.id = e.id := by
  obtain ⟨_, -, h⟩ := Outcome.bind_eq_ok.1 h
  obtain ⟨_, -, h⟩ := Outcome.bind_eq_ok.1 h
  obtain ⟨_, -, h⟩ := Outcome.bind_eq_ok.1 h
  dsimp only at h
  split at h
  next =>
    cases h
    exact ⟨⟨rfl, rfl⟩, rfl⟩
  next =>
    obtain ⟨_, -, h⟩ := Outcome.bind_eq_ok.1 h
    cases h
    exact ⟨⟨rfl, rfl⟩, rfl⟩

/-! ### The rows of a list -/

theorem demands_insertRow {α κ : Type} [BEq κ] [LawfulBEq κ] (key : α → κ) (row : α) (rows : List α) :
    Demands (insertRow key row rows) (∀ r ∈ rows, key r ≠ key row) := by
  unfold insertRow
  split
  next hany =>
    obtain ⟨r, hr, hkey⟩ := List.any_eq_true.1 hany
    exact .of_error rfl fun h => h r hr (beq_iff_eq.1 hkey)
  next hnew => exact .of_ok _ (by simpa using hnew)

namespace Tables

section InsertFrom

variable {α β : Type} {key : β → String × String} {row : Nat → α → Outcome β} {position : β → Nat}
  {items : List α} {rows rows' : List β}

/-- Rows are inserted if each item fits, no two items share an id, and no row that is there has the key of an
item. -/
theorem demands_insertFrom {id : α → String} {flow : String} {fits : α → Prop}
    (hrow : ∀ i a, Demands (row i a) (fits a)) (hkey : ∀ {i a r}, row i a = .ok r → key r = (flow, id a))
    (items : List α) (rows : List β) (n : Nat) : Demands (insertFrom key row n items rows)
      ((∀ a ∈ items, fits a) ∧ (items.map id).Nodup ∧ ∀ r ∈ rows, ∀ a ∈ items, key r ≠ (flow, id a)) := by
  induction items generalizing rows n with
  | nil => exact .of_ok rows (by simp)
  | cons a items ih =>
    unfold insertFrom
    refine Demands.congr ((hrow n a).bind (Q := (∀ r ∈ rows, key r ≠ (flow, id a)) ∧ (∀ b ∈ items, fits b) ∧
      (items.map id).Nodup ∧ (∀ r ∈ rows, ∀ b ∈ items, key r ≠ (flow, id b)) ∧ ∀ b ∈ items, id a ≠ id b)
      fun r hr => ?_) ?_
    · rw [← hkey hr]
      refine (demands_insertRow key r rows).bind fun rows' hrows' => (ih rows' (n + 1)).congr ?_
      -- the next rows are inserted beside the one that was made of the item
      rw [insertRow_ok hrows', List.forall_mem_append, List.forall_mem_singleton, hkey hr]
      simp
    · rw [List.forall_mem_cons, List.map_cons, List.nodup_cons, List.mem_map]
      simp only [List.forall_mem_cons, forall_and]
      constructor
      · rintro ⟨ha, hnew, hfit, hids, hothers, hne⟩
        exact ⟨⟨ha, hfit⟩, ⟨not_exists.2 fun b => not_and.2 fun hb heq => hne b hb heq.symm, hids⟩, hnew, hothers⟩
      · rintro ⟨⟨ha, hfit⟩, ⟨hne, hids⟩, hnew, hothers⟩
        exact ⟨ha, hnew, hfit, hids, hothers, fun b hb heq => hne ⟨b, hb, heq.symm⟩⟩

/-- The rows that are inserted are those of the items, in their order. -/
theorem rows_of_insertFrom (hposition : ∀ {i a r}, row i a = .ok r → position r = i) {n : Nat}
    (h : insertFrom key row n items rows = .ok rows') :
    ∃ more, rows' = rows ++ more ∧ List.Forall₂ (fun a r => ∃ i, row i a = .ok r) items more ∧
      more.map position = List.range' n more.length := by
  induction items generalizing rows n with
  | nil =>
    cases h
    exact ⟨[], (List.append_nil _).symm, .nil, rfl⟩
  | cons a items ih =>
    obtain ⟨r, hr, h⟩ := Outcome.bind_eq_ok.1 h
    obtain ⟨_, hinsert, h⟩ := Outcome.bind_eq_ok.1 h
    obtain rfl := insertRow_ok hinsert
    obtain ⟨more, rfl, hall, hnumbers⟩ := ih h
    refine ⟨r :: more, (List.append_cons ..).symm, .cons ⟨n, hr⟩ hall, ?_⟩
    rw [List.map_cons, hposition hr, hnumbers, List.length_cons, List.range'_succ]

/-- The rows that are made of a list under an id are all that are there under it, in the order of the list. -/
theorem rowsOf_insertFrom {flow : β → String} {id : String}
    (hrow : ∀ {i a r}, row i a = .ok r → flow r = id ∧ position r = i)
    (h : insertFrom key row 0 items (rows.filter (flow · != id)) = .ok rows') :
    RowsOf position (fun a r => ∃ i, row i a = .ok r) items (rows'.filter (flow · == id)) ∧
      ∀ x ≠ id, rows'.filter (flow · == x) = rows.filter (flow · == x) := by
  obtain ⟨more, rfl, hall, hnumbers⟩ := rows_of_insertFrom (fun h => (hrow h).2) h
  have hflow : ∀ r ∈ more, flow r = id :=
    ((List.forall₂_and_left (R := fun _ _ => True) _ _).1 (hall.flip.imp fun _ _ hi =>
      hi.elim fun _ hi => ⟨(hrow hi).1, trivial⟩)).1
  rw [filter_replaced hflow]
  exact ⟨⟨hall, by rw [hnumbers, List.range_eq_range']⟩, fun x hx => filter_replaced_other hflow hx⟩

theorem flow_ne_of_mem_filter {flow : β → String} {id : String} {r : β} (h : r ∈ rows.filter (flow · != id)) :
    flow r ≠ id := by
  simpa using (List.mem_filter.1 h).2

end InsertFrom

/-! ### Flows -/

variable {t t' : Tables} {g : FlowGraph} {now : Instant}

/-- Tables take the flows that fit, and refuse the others. -/
theorem demands_saveGraph (t : Tables) (g : FlowGraph) (now : Instant) : Demands (t.saveGraph g now) g.Fits := by
  have hnodes := demands_insertFrom (NodeRow.demands_ofNode g.flow.id)
    (fun h => congrArg₂ Prod.mk (NodeRow.of_ofNode h).1.1 (NodeRow.of_ofNode h).2) g.nodes
    (t.nodes.filter (·.flow != g.flow.id)) 0
  have hedges := demands_insertFrom (EdgeRow.demands_ofEdge g.flow.id)
    (fun h => congrArg₂ Prod.mk (EdgeRow.of_ofEdge h).1.1 (EdgeRow.of_ofEdge h).2) g.edges
    (t.edges.filter (·.flow != g.flow.id)) 0
  unfold saveGraph
  refine Demands.congr ((FlowRow.demands_ofFlow _ _ _).bind fun _ _ => hnodes.bind fun _ _ =>
    hedges.bind fun _ _ => Demands.pure _) ?_
  constructor
  · rintro ⟨hflow, ⟨hfitn, hidn, -⟩, ⟨hfite, hide, -⟩, -⟩
    exact ⟨hflow, hfitn, hfite, hidn, hide⟩
  · rintro ⟨hflow, hfitn, hfite, hidn, hide⟩
    -- the old rows of the flow are gone
    exact ⟨hflow, ⟨hfitn, hidn, fun r hr _ _ hkey => flow_ne_of_mem_filter hr (congrArg Prod.fst hkey)⟩,
      ⟨hfite, hide, fun r hr _ _ hkey => flow_ne_of_mem_filter hr (congrArg Prod.fst hkey)⟩, trivial⟩

/-- What is shown of a flow that was stored: the rows that were made of its parts, in their order. -/
structure Shows (g : FlowGraph) (created now : Instant) (g' : FlowGraph) : Prop where
  flow : ∃ r, FlowRow.ofFlow g.flow created now = .ok r ∧ g'.flow = r.toFlow
  nodes : List.Forall₂ (fun n n' => ∃ i r, NodeRow.ofNode g.flow.id i n = .ok r ∧ n' = r.toNode) g.nodes g'.nodes
  edges : List.Forall₂ (fun e e' => ∃ i r, EdgeRow.ofEdge g.flow.id i e = .ok r ∧ e' = r.toEdge) g.edges g'.edges

theorem find?_flows_of_saveGraph (rows : List FlowRow) {row : FlowRow} {id : String} (hrow : row.id = id) (x : String) :
    (if (rows.find? (·.id == id)).isSome then replaceRow FlowRow.id row rows else rows ++ [row]).find? (·.id == x) =
      if x = id then some row else rows.find? (·.id == x) := by
  subst hrow
  by_cases hx : x = row.id
  · subst hx
    rw [if_pos rfl]
    split
    next hsome =>
      obtain ⟨old, hold⟩ := Option.isSome_iff_exists.1 hsome
      have hid : (old.id == row.id) = true := List.find?_some (p := fun r : FlowRow => r.id == row.id) hold
      rw [find?_replaceRow, hold, Option.map_some, if_pos hid]
    next hnone =>
      rw [List.find?_append, Option.not_isSome_iff_eq_none.1 hnone]
      simp
  · rw [if_neg hx]
    split
    next =>
      rw [find?_replaceRow]
      cases hfound : rows.find? (·.id == x) with
      | none => rfl
      | some old =>
        have hid : old.id = x := beq_iff_eq.1 (List.find?_some (p := fun r : FlowRow => r.id == x) hfound)
        rw [Option.map_some, if_neg (by simpa [hid] using hx)]
    next => simp [List.find?_append, Ne.symm hx]

theorem saveGraph_eq_ok (h : t.saveGraph g now = .ok t') : ∃ row nodes edges,
    FlowRow.ofFlow g.flow (((t.flows.find? (·.id == g.flow.id)).map FlowRow.created).getD g.flow.created) now =
      .ok row ∧
    insertFrom NodeRow.key (NodeRow.ofNode g.flow.id) 0 g.nodes (t.nodes.filter (·.flow != g.flow.id)) = .ok nodes ∧
    insertFrom EdgeRow.key (EdgeRow.ofEdge g.flow.id) 0 g.edges (t.edges.filter (·.flow != g.flow.id)) = .ok edges ∧
    t' = { t with
      flows :=
        if (t.flows.find? (·.id == g.flow.id)).isSome then replaceRow FlowRow.id row t.flows else t.flows ++ [row]
      nodes, edges } := by
  obtain ⟨row, hrow, h⟩ := Outcome.bind_eq_ok.1 h
  obtain ⟨nodes, hnodes, h⟩ := Outcome.bind_eq_ok.1 h
  obtain ⟨edges, hedges, h⟩ := Outcome.bind_eq_ok.1 h
  exact ⟨row, nodes, edges, hrow, hnodes, hedges, (Except.ok.inj h).symm⟩

/-- A flow that was saved is shown by its rows, and every other flow is as before. -/
theorem graph?_of_saveGraph (h : t.saveGraph g now = .ok t') :
    (∃ g', t'.graph? g.flow.id = some g' ∧
      Shows g (((t.flow? g.flow.id).map Flow.created).getD g.flow.created) now g') ∧
      ∀ x ≠ g.flow.id, t'.graph? x = t.graph? x := by
  obtain ⟨row, nodes, edges, hrow, hnodes, hedges, rfl⟩ := saveGraph_eq_ok h
  have hcreated : (t.flow? g.flow.id).map Flow.created = (t.flows.find? (·.id == g.flow.id)).map FlowRow.created := by
    rw [flow?, Option.map_map]
    rfl
  obtain ⟨hn, hnother⟩ := rowsOf_insertFrom (fun h => (NodeRow.of_ofNode h).1) hnodes
  obtain ⟨he, heother⟩ := rowsOf_insertFrom (fun h => (EdgeRow.of_ofEdge h).1) hedges
  have hflows := find?_flows_of_saveGraph t.flows (FlowRow.id_of_ofFlow hrow)
  refine ⟨⟨⟨row.toFlow, (nodes.filter (·.flow == g.flow.id)).map NodeRow.toNode,
    (edges.filter (·.flow == g.flow.id)).map EdgeRow.toEdge⟩, ?_, ⟨row, ?_, rfl⟩, ?_, ?_⟩, fun x hx => ?_⟩
  · rw [graph?, flow?, hflows, if_pos rfl, nodesOf, hn.sorted, edgesOf, he.sorted]
    rfl
  · rw [hcreated]
    exact hrow
  · refine List.forall₂_map_right_iff.2 (hn.all.imp fun n r hr => ?_)
    obtain ⟨i, hi⟩ := hr
    exact ⟨i, r, hi, rfl⟩
  · refine List.forall₂_map_right_iff.2 (he.all.imp fun e r hr => ?_)
    obtain ⟨i, hi⟩ := hr
    exact ⟨i, r, hi, rfl⟩
  · rw [graph?, flow?, hflows, if_neg hx, nodesOf, hnother x hx, edgesOf, heother x hx]
    rfl

end Tables

end Workflow
