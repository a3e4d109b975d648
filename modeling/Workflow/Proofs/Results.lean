import Workflow.Proofs.Locality
import Workflow.Proofs.Validity

/-!
# What comes of nodes in any order

The nodes that a successful run has executed have outcomes, the others have none. What these outcomes are
for each node can be said without the order in which the nodes have come (`Results.Solves`): it depends on
the edges that lead to the node and on the outcomes of its ancestors. The outcomes along one order are such
a solution (`Passes.solves`), and a solution holds along every other order (`Results.Solves.passes`). So a
flow whose nodes and edges are listed otherwise has the same account, up to the order of its steps
(`account_of_perm`).
-/

namespace Workflow

/-- The outcomes of the nodes that were executed, by their ids. -/
abbrev Results := String → Option NodeOutcome

namespace Results

/-- The line of a node. -/
def line (out : Results) (n : Node) : Line :=
  match out n.id with
  | none => .skipped n
  | some o =>
    match Line.closed n o with
    | .ok line => line
    | .error _ => .running n

/-- An edge is followed from its source. -/
def Follows (out : Results) (e : Edge) : Prop :=
  ∃ o, out e.source = some o ∧ e.isFollowed o.branch = true

/-- A node is the trigger, or a followed edge leads to it. -/
def Reaches (out : Results) (g : FlowGraph) (id : String) : Prop :=
  (∃ t ∈ g.triggers.take 1, t.id = id) ∨ ∃ e ∈ g.edges, e.target = id ∧ out.Follows e

/-- A context has the outcomes of some nodes. -/
structure Shown (out : Results) (trigger : Value) (known : String → Prop) (c : RunContext) : Prop where
  trigger : c.trigger = trigger
  assigned : c.assigned = []
  nodes : ∀ id, known id → Fields.get? id c.nodes = (out id).map fun o => .record [("output", o.output)]

/-- A node has an outcome just if it is reached: the one of an attempt in any context that has the outcomes
of its ancestors. -/
def Solves {σ : Type} (out : Results) (actions : Registry σ) (w : World σ) (trigger : Value)
    (g : FlowGraph) (n : Node) : Prop :=
  match out n.id with
  | none => ¬ out.Reaches g n.id
  | some o => out.Reaches g n.id ∧ o.error = none ∧ (∃ line, Line.closed n o = .ok line) ∧
    ∀ c, out.Shown trigger (g.Ancestor n) c →
      (Run.attempted actions w.surroundings c n).1.outcome? w = some (.ok o)

end Results

namespace Run

variable {σ : Type} {actions : Registry σ} {w w' : World σ} {g g' : FlowGraph} {out : Results}
  {trigger : Value} {n : Node} {before rest l : List Node} {c c' : RunContext} {followed : List Nat}

/-! ### Along an order -/

/-- The nodes of a list come to some outcomes one after the other, and none of them fails. -/
inductive Passes (actions : Registry σ) (w : World σ) (g : FlowGraph) (out : Results) :
    List Node → RunContext → List Nat → Prop where
  | nil {c : RunContext} {followed : List Nat} : Passes actions w g out [] c followed
  | skip {n : Node} {rest : List Node} {c : RunContext} {followed : List Nat}
      (hr : reached g followed n = .ok false) (hout : out n.id = none)
      (h : Passes actions w g out rest c followed) : Passes actions w g out (n :: rest) c followed
  | run {n : Node} {rest : List Node} {c : RunContext} {followed more : List Nat} {o : NodeOutcome}
      {line : Line} (hr : reached g followed n = .ok true) (hout : out n.id = some o)
      (ho : (attempted actions w.surroundings c n).1.outcome? w = some (.ok o)) (he : o.error = none)
      (hl : Line.closed n o = .ok line) (hf : followedFrom g n.id o.branch = .ok more)
      (h : Passes actions w g out rest (c.record n.id o.output) (followed ++ more)) :
      Passes actions w g out (n :: rest) c followed

theorem Passes.congr {out' : Results} (h : Passes actions w g out l c followed)
    (heq : ∀ n ∈ l, out n.id = out' n.id) : Passes actions w g out' l c followed := by
  induction h with
  | nil => exact .nil
  | skip hr hout _ ih =>
    exact .skip hr (heq _ List.mem_cons_self ▸ hout) (ih fun m hm => heq m (List.mem_cons_of_mem _ hm))
  | run hr hout ho he hl hf _ ih =>
    exact .run hr (heq _ List.mem_cons_self ▸ hout) ho he hl hf
      (ih fun m hm => heq m (List.mem_cons_of_mem _ hm))

theorem Passes.recount_eq (h : Passes actions w g out l c followed) :
    (recount actions w g l c followed).lines = l.map out.line ∧
      (recount actions w g l c followed).result = some (.ok .completed) := by
  induction h with
  | nil => exact ⟨rfl, rfl⟩
  | skip hr hout _ ih =>
    simp only [recount, hr, Account.after, ih, List.map_cons, Results.line, hout]
    exact ⟨rfl, trivial⟩
  | run hr hout ho he hl hf _ ih =>
    simp only [recount, hr, awaited, ho, concluded, hl, he, hf, Account.asking, Account.after, ih,
      List.map_cons, Results.line, hout]
    exact ⟨rfl, trivial⟩

/-- The outcomes of a run that succeeds. -/
theorem passes_of_recount (hids : (l.map Node.id).Nodup)
    (h : (recount actions w g l c followed).result = some (.ok .completed)) :
    ∃ out, Passes actions w g out l c followed := by
  induction l generalizing c followed with
  | nil => exact ⟨fun _ => none, .nil⟩
  | cons n rest ih =>
    rw [List.map_cons, List.nodup_cons] at hids
    -- the outcomes of the nodes that are left, with that of this node
    have hpasses : ∀ {c : RunContext} {followed : List Nat} (o : Option NodeOutcome),
        (recount actions w g rest c followed).result = some (.ok .completed) →
        ∃ out : Results, out n.id = o ∧ Passes actions w g out rest c followed := by
      intro c followed o h
      obtain ⟨out, hout⟩ := ih hids.2 h
      refine ⟨Function.update out n.id o, Function.update_self .., hout.congr fun m hm => ?_⟩
      have hne : m.id ≠ n.id := fun hid => hids.1 (hid ▸ List.mem_map_of_mem hm)
      rw [Function.update_of_ne hne]
    rw [recount] at h
    split at h
    next => cases h
    next hr =>
      obtain ⟨out, hout, hrest⟩ := hpasses none h
      exact ⟨out, .skip hr hout hrest⟩
    next hr =>
      simp only [Account.asking, awaited] at h
      split at h
      next o ho =>
        cases o with
        | error f => cases h
        | ok o =>
          simp only [concluded] at h
          split at h
          next => cases h
          next line hl =>
            split at h
            next => cases h
            next he =>
              simp only [Account.after] at h
              split at h
              next => cases h
              next more hf =>
                obtain ⟨out, hout, hrest⟩ := hpasses (some o) h
                exact ⟨out, .run hr hout ho he hl hf hrest⟩
      next => cases h

end Run

/-! ### What is kept along an order -/

namespace Results

variable {σ : Type} {actions : Registry σ} {w w' : World σ} {g g' : FlowGraph} {out : Results}
  {trigger : Value} {n : Node} {before rest l : List Node} {c c' : RunContext} {followed : List Nat}
  {id : String} {done : List String} {known : String → Prop}

theorem Shown.agree (h : out.Shown trigger known c) (h' : out.Shown trigger known c') :
    c.Agree known c' :=
  ⟨h.trigger.trans h'.trigger.symm, h.assigned.trans h'.assigned.symm,
    fun id hid => (h.nodes id hid).trans (h'.nodes id hid).symm⟩

theorem Shown.mono {known' : String → Prop} (h : out.Shown trigger known c)
    (hk : ∀ id, known' id → known id) : out.Shown trigger known' c :=
  ⟨h.trigger, h.assigned, fun id hid => h.nodes id (hk id hid)⟩

/-- What a run keeps behind some nodes: their outcomes and the places of the edges followed from them. -/
structure Kept (out : Results) (trigger : Value) (g : FlowGraph) (done : List String) (c : RunContext)
    (followed : List Nat) : Prop where
  shown : out.Shown trigger (· ∈ done) c
  fresh : ∀ id, id ∉ done → Fields.get? id c.nodes = none
  followed : ∀ place e, g.edges[place]? = some e → (place ∈ followed ↔ e.source ∈ done ∧ out.Follows e)

theorem Kept.start (out : Results) (trigger : Value) (g : FlowGraph) :
    Kept out trigger g [] (.start trigger) [] where
  shown := ⟨rfl, rfl, fun _ hid => absurd hid List.not_mem_nil⟩
  fresh _ _ := rfl
  followed := by simp

theorem Kept.skip (h : Kept out trigger g done c followed) (hout : out id = none) :
    Kept out trigger g (done ++ [id]) c followed where
  shown := by
    refine ⟨h.shown.trigger, h.shown.assigned, fun id' hid => ?_⟩
    by_cases hdone : id' ∈ done
    · exact h.shown.nodes id' hdone
    · obtain rfl : id' = id := by simpa [hdone] using hid
      rw [h.fresh id' hdone, hout, Option.map_none]
  fresh id' hid := h.fresh id' fun hdone => hid (List.mem_append_left _ hdone)
  followed place e he := by
    rw [h.followed place e he]
    refine and_congr_left fun ⟨o, ho, _⟩ => ?_
    have hne : e.source ≠ id := fun hid => by rw [hid, hout] at ho; cases ho
    simp [hne]

theorem Kept.run (h : Kept out trigger g done c followed) {o : NodeOutcome} (hout : out id = some o)
    {more : List Nat} (hf : Run.followedFrom g id o.branch = .ok more) :
    Kept out trigger g (done ++ [id]) (c.record id o.output) (followed ++ more) where
  shown := by
    refine ⟨h.shown.trigger, h.shown.assigned, fun id' hid => ?_⟩
    simp only [RunContext.record, Fields.get?_set]
    split
    next heq => rw [← heq, hout, Option.map_some]
    next hne => exact h.shown.nodes id' (by simpa [Ne.symm hne] using hid)
  fresh id' hid := by
    rw [List.mem_append, List.mem_singleton, not_or] at hid
    simp only [RunContext.record, Fields.get?_set, if_neg (Ne.symm hid.2), h.fresh id' hid.1]
  followed place e he := by
    rw [List.mem_append, h.followed place e he, Run.mem_of_followedFrom hf he, List.mem_append,
      List.mem_singleton, or_and_right]
    refine or_congr_right (and_congr_right fun hs => ?_)
    simp [Follows, hs, hout]

/-- A node to which edges lead from nodes behind is reached just if one of them is followed. -/
theorem Kept.reached {b : Bool} (h : Kept out trigger g done c followed)
    (hsources : ∀ e ∈ g.edges, e.target = n.id → e.source ∈ done)
    (hr : Run.reached g followed n = .ok b) : b = true ↔ out.Reaches g n.id := by
  rw [Run.reached_ok hr]
  refine or_congr_right ⟨?_, ?_⟩
  · rintro ⟨place, e, he, htarget, hp⟩
    exact ⟨e, List.mem_of_getElem? he, htarget, ((h.followed place e he).1 hp).2⟩
  · rintro ⟨e, he, htarget, hf⟩
    obtain ⟨place, hp⟩ := List.mem_iff_getElem?.1 he
    exact ⟨place, e, hp, htarget, (h.followed place e hp).2 ⟨hsources e he htarget, hf⟩⟩

end Results

/-! ### Without the order -/

section Orders

variable {σ : Type} {actions : Registry σ} {w w' : World σ} {g g' : FlowGraph} {out : Results}
  {trigger : Value} {n : Node} {before rest l : List Node} {c : RunContext} {followed : List Nat}
  {id : String}

theorem FlowGraph.IsOrder.source_before (ho : g.IsOrder (before ++ n :: rest))
    (hk : ∀ e ∈ g.edges, e.source ∈ g.ids) {e : Edge} (he : e ∈ g.edges) (ht : e.target = n.id) :
    e.source ∈ before.map Node.id :=
  ho.sorted before n rest rfl e he ht (hk e he)

theorem FlowGraph.IsOrder.ancestor_before (ho : g.IsOrder (before ++ n :: rest))
    (hk : ∀ e ∈ g.edges, e.source ∈ g.ids) (h : g.Ancestor n id) : id ∈ before.map Node.id := by
  -- on the path from its far end: each node on it has an edge to the next one, which is before `n`
  induction h using Relation.TransGen.head_induction_on with
  | single hab =>
    obtain ⟨e, he, heq⟩ := List.mem_map.1 hab
    obtain ⟨rfl, ht⟩ : e.source = _ ∧ e.target = n.id := Prod.mk.inj heq
    exact ho.source_before hk he ht
  | head hab _ ih =>
    obtain ⟨e, he, heq⟩ := List.mem_map.1 hab
    cases heq
    obtain ⟨m, hm, hid⟩ := List.mem_map.1 ih
    obtain ⟨l₁, l₂, rfl⟩ := List.append_of_mem hm
    have ho : g.IsOrder (l₁ ++ m :: (l₂ ++ n :: rest)) := by simpa using ho
    rw [List.map_append]
    exact List.mem_append_left _ (ho.source_before hk he hid.symm)

/-- The outcomes along an order are those that the flow asks for. -/
theorem Run.Passes.solves (h : Passes actions w g out l c followed) (before : List Node)
    (hlocal : g.Local) (hk : ∀ e ∈ g.edges, e.source ∈ g.ids) (ho : g.IsOrder (before ++ l))
    (hc : out.Kept trigger g (before.map Node.id) c followed) :
    ∀ m ∈ l, out.Solves actions w trigger g m := by
  -- the context has the outcomes of all nodes before, so of all ancestors of the next one
  induction h generalizing before with
  | nil => exact fun m hm => absurd hm List.not_mem_nil
  | @skip n rest c followed hr hout _ ih =>
    have hreach := hc.reached (fun e he ht => ho.source_before hk he ht) hr
    intro m hm
    rcases List.mem_cons.1 hm with rfl | hm
    · simp only [Results.Solves, hout]
      exact mt hreach.2 Bool.false_ne_true
    · exact ih (before ++ [n]) (by simpa using ho) (by simpa using hc.skip hout) m hm
  | @run n rest c followed more o line hr hout hatt he hl hf _ ih =>
    have hreach := hc.reached (fun e he ht => ho.source_before hk he ht) hr
    intro m hm
    rcases List.mem_cons.1 hm with rfl | hm
    · simp only [Results.Solves, hout]
      refine ⟨hreach.1 rfl, he, ⟨line, hl⟩, fun c' hc' => ?_⟩
      have hshown : out.Shown trigger (g.Ancestor m) c :=
        hc.shown.mono fun id hid => ho.ancestor_before hk hid
      rw [attempted_congr actions _ (hlocal m (ho.perm.mem_iff.1 (by simp))) (hc'.agree hshown)]
      exact hatt
    · exact ih (before ++ [n]) (by simpa using ho) (by simpa using hc.run hout hf) m hm

/-- Along any order the nodes come to the outcomes that the flow asks for. -/
theorem Results.passes (before : List Node) (hs : ∀ m ∈ l, out.Solves actions w trigger g m)
    (hd : ∀ d ∈ g.edges, d.check = .ok ()) (hk : ∀ e ∈ g.edges, e.source ∈ g.ids)
    (ho : g.IsOrder (before ++ l)) (hc : out.Kept trigger g (before.map Node.id) c followed) :
    Run.Passes actions w g out l c followed := by
  induction l generalizing before c followed with
  | nil => exact .nil
  | cons n rest ih =>
    have hn := hs n List.mem_cons_self
    have ih : ∀ {c : RunContext} {followed : List Nat},
        out.Kept trigger g (before.map Node.id ++ [n.id]) c followed →
        Run.Passes actions w g out rest c followed := fun hc =>
      ih (before ++ [n]) (fun m hm => hs m (List.mem_cons_of_mem _ hm)) (by simpa using ho)
        (by simpa using hc)
    cases hr : Run.reached g followed n with
    | error f =>
      obtain ⟨d, hdmem, hcheck⟩ := Run.reached_error hr
      rw [hd d hdmem] at hcheck
      cases hcheck
    | ok b =>
      have hreach := hc.reached (fun e he ht => ho.source_before hk he ht) hr
      -- the edges into `n` come from nodes before, so the run and the solution reach it alike
      cases hout : out n.id with
      | none =>
        simp only [Solves, hout] at hn
        obtain rfl : b = false := by simpa using mt hreach.1 hn
        exact .skip hr hout (ih (hc.skip hout))
      | some o =>
        simp only [Solves, hout] at hn
        obtain ⟨hlive, he, ⟨line, hl⟩, hatt⟩ := hn
        obtain rfl : b = true := hreach.2 hlive
        have hatt := hatt c (hc.shown.mono fun id hid => ho.ancestor_before hk hid)
        cases hf : Run.followedFrom g n.id o.branch with
        | error f =>
          obtain ⟨d, hdmem, hcheck⟩ := Run.followedFrom_error hf
          rw [hd d hdmem] at hcheck
          cases hcheck
        | ok more => exact .run hr hout hatt he hl hf (ih (hc.run hout hf))

/-- What is asked of an outcome does not depend on how nodes and edges are listed, and stays when more
gates are open. -/
theorem Results.Solves.of_perm (h : out.Solves actions w trigger g n) (hs : actions.Steady)
    (hopen : w.opened ⊆ w'.opened) (ht : g'.triggers = g.triggers) (he : g'.edges.Perm g.edges) :
    out.Solves actions w' trigger g' n := by
  have hreach : out.Reaches g' n.id ↔ out.Reaches g n.id := by
    simp only [Reaches, ht, he.mem_iff]
  have hancestor : g'.Ancestor n = g.Ancestor n := by
    funext id
    simp only [FlowGraph.Ancestor, Digraph.Leads, (he.map Edge.ends).mem_iff]
  unfold Solves at h ⊢
  split
  next hout =>
    simp only [hout] at h
    rwa [hreach]
  next o hout =>
    simp only [hout] at h
    obtain ⟨hlive, herror, hline, hatt⟩ := h
    refine ⟨hreach.2 hlive, herror, hline, fun c hc => ?_⟩
    rw [Run.attempted_steady hs w'.surroundings w.surroundings]
    exact Run.outcome?_mono hopen (hatt c (hancestor ▸ hc))

/-- A flow whose nodes and edges are listed otherwise has the same account if its nodes succeed, up to the
order of the steps. -/
theorem account_of_perm (hs : actions.Steady) (hv : Validation.Admissible g.nodes g.edges)
    (hlocal : g.Local) (hd : ∀ d ∈ g.edges, d.check = .ok ()) (hn : g'.nodes.Perm g.nodes)
    (he : g'.edges.Perm g.edges) (hopen : w.opened ⊆ w'.opened)
    (h : (Run.account actions w g (.start trigger)).result = some (.ok .completed)) :
    (Run.account actions w' g' (.start trigger)).result = some (.ok .completed) ∧
      (Run.account actions w' g' (.start trigger)).lines.Perm
        (Run.account actions w g (.start trigger)).lines := by
  have hends : ∀ {g : FlowGraph}, Validation.Admissible g.nodes g.edges →
      ∀ e ∈ g.edges, e.source ∈ g.ids := fun hv e he => FlowGraph.mem_ids.2 (hv.ends e he).1
  have hv' : Validation.Admissible g'.nodes g'.edges := hv.of_perm hn he
  -- a valid flow has a single trigger, so its list of triggers has but one order
  have htriggers : g'.triggers = g.triggers := by
    obtain ⟨t, ht, -⟩ := hv.trigger
    have hperm : g'.triggers.Perm [t] := ht ▸ hn.filter _
    exact (List.perm_singleton.1 hperm).trans ht.symm
  cases hl : g.order with
  | error f => rw [Run.account, hl] at h; cases h
  | ok l =>
    have ho := FlowGraph.isOrder_of_order hl
    have hids' := (hn.map Node.id).nodup_iff.2 (FlowGraph.nodup_of_order hl)
    obtain ⟨-, l', hl', ho'⟩ | ⟨hno, -⟩ :=
      FlowGraph.isValid_order_iff (Validation.isValid_iff.2 hv')
    · have hperm : l'.Perm l := (ho'.perm.trans hn).trans ho.perm.symm
      simp only [Run.account, hl, hl'] at h ⊢
      obtain ⟨out, hout⟩ := Run.passes_of_recount ho.nodup h
      have hsolves := hout.solves [] hlocal (hends hv) ho (.start out trigger g)
      have hsolves' : ∀ m ∈ l', out.Solves actions w' trigger g' m := fun m hm =>
        (hsolves m (hperm.mem_iff.1 hm)).of_perm hs hopen htriggers he
      have hout' := Results.passes [] hsolves' (fun d hmem => hd d (he.mem_iff.1 hmem))
        (hends hv') ho' (.start out trigger g')
      obtain ⟨hlines, -⟩ := hout.recount_eq
      obtain ⟨hlines', hresult⟩ := hout'.recount_eq
      exact ⟨hresult, by rw [hlines, hlines']; exact hperm.map _⟩
    · exact absurd hids' hno

end Orders

end Workflow
