import Workflow.Proofs.Following
import Workflow.Proofs.Reimport
import Workflow.Proofs.Walk

/-! # The labels of a document's edges

What a document has for the label and the handles of an edge, the edge gets, whatever it is
(`Document.written_of_parse`). Behind a condition only the texts of the two results name a branch: an edge
with another value for its label is followed whatever the result is, and one with a label that counts as
none by its source handle (`followed_iff_of_document`). An edge with a container is never followed. -/

namespace Workflow

/-- A document's edge and what was read of it. -/
structure Edge.Written (v : Value) (e : Edge) : Prop where
  label : e.label = v.field "label"
  sourceHandle : e.sourceHandle = v.field "sourceHandle"
  targetHandle : e.targetHandle = v.field "targetHandle"

namespace Document

open Stateful

variable {doc v : Value} {ws flow : String} {now : Instant} {k k' : Nat} {g : FlowGraph} {e : Edge}

/-- The edges of a document. -/
def edgeValues (doc : Value) : List Value :=
  match (doc.field? "edges").getD (.list []) with
  | .list edges => edges
  | _ => []

theorem written_of_parseEdge (h : parseEdge v flow k = (.ok e, k')) : e.Written v := by
  unfold parseEdge at h
  obtain ⟨-, h⟩ := unless_refused h
  obtain ⟨-, h⟩ := unless_refused h
  obtain ⟨id, _, -, h⟩ := bind_eq_ok.1 h
  obtain ⟨source, _, -, h⟩ := bind_eq_ok.1 h
  obtain ⟨target, _, -, h⟩ := bind_eq_ok.1 h
  obtain ⟨rfl, -⟩ := pure_eq_ok.1 h
  exact ⟨rfl, rfl, rfl⟩

theorem written_of_parseIndexedEdge {nodes : List Node}
    (h : parseIndexedEdge v flow nodes k = (.ok e, k')) : e.Written v := by
  unfold parseIndexedEdge at h
  obtain ⟨-, h⟩ := unless_refused h
  obtain ⟨source, _, -, h⟩ := bind_eq_ok.1 h
  obtain ⟨target, _, -, h⟩ := bind_eq_ok.1 h
  obtain ⟨id, _, -, h⟩ := bind_eq_ok.1 h
  obtain ⟨rfl, -⟩ := pure_eq_ok.1 h
  exact ⟨rfl, rfl, rfl⟩

/-- The edges of a document that is read, one for one, with the label and the handles they have there. -/
theorem written_of_parse (h : parse doc ws now k = (.ok g, k')) :
    List.Forall₂ (fun v e => Edge.Written v e) (edgeValues doc) g.edges := by
  obtain ⟨nodes, edges, _, _, -, hedges, -, hparts⟩ := parse_ok h
  have he : edgeValues doc = edges := by rw [edgeValues, hedges]
  rw [he]
  rcases hparts with ⟨-, h⟩ | ⟨-, h⟩
  · exact (forall₂_of_mapM h).imp fun v e ⟨_, _, hve⟩ => written_of_parseEdge hve
  · exact (forall₂_of_mapM h).imp fun v e ⟨_, _, hve⟩ => written_of_parseIndexedEdge hve

end Document

/-! ### Followed edges -/

theorem written_at {vs : List Value} {es : List Edge} (h : List.Forall₂ (fun v e => Edge.Written v e) vs es)
    {place : Nat} {v : Value} {e : Edge} (hv : vs[place]? = some v) (he : es[place]? = some e) :
    e.Written v := by
  induction h generalizing place with
  | nil => cases hv
  | cons hw _ ih =>
    cases place with
    | zero =>
      cases hv
      cases he
      exact hw
    | succ place => exact ih hv he

open Run

variable {σ : Type} {g : FlowGraph} {x : String} {v : Value} {ed : Edge} {b : Bool}

/-- What it takes for an edge of a document to be followed behind a condition with the result `b`. -/
structure Value.FollowsAs (v : Value) (b : Bool) (followed : Prop) : Prop where
  text : ∀ c, v.field "label" = .text (branchText c) → (followed ↔ b = c)
  /-- A label that is no text but counts as one names no branch. -/
  other : (v.field "label").isGiven = true → (∀ s, v.field "label" ≠ .text s) → followed
  absent : (v.field "label").isGiven = false →
    (followed ↔ v.field "sourceHandle" ≠ .text (branchText !b))

theorem branchText_inj {b c : Bool} (h : branchText b = branchText c) : b = c := by
  revert b c
  decide

theorem isGiven_branchText (b : Bool) : (Value.text (branchText b)).isGiven = true := by
  cases b <;> rfl

theorem Edge.Written.followsAs (h : ed.Written v) {followed : Prop}
    (hf : followed ↔ ed.branch ≠ .text (branchText !b)) : v.FollowsAs b followed := by
  unfold Edge.branch at hf
  rw [h.label, h.sourceHandle] at hf
  refine ⟨fun c hc => ?_, fun hg hne => ?_, fun hg => ?_⟩
  · rw [hf, hc, Value.orElse_of_isGiven (isGiven_branchText c), Value.orElse_of_isGiven (isGiven_branchText c)]
    constructor
    · intro hne
      by_contra hbc
      exact hne (by rw [Bool.eq_not_iff.2 (Ne.symm hbc)])
    · rintro rfl heq
      have := branchText_inj (Value.text.inj heq)
      simp at this
  · rw [hf, Value.orElse_of_isGiven hg, Value.orElse_of_isGiven hg]
    exact hne _
  · have hlabel : (v.field "label").orElse (v.field "sourceHandle") = v.field "sourceHandle" :=
      if_neg (by simp [hg])
    rw [hf, hlabel]
    by_cases hs : (v.field "sourceHandle").isGiven = true
    · rw [Value.orElse_of_isGiven hs]
    · have hnull : (v.field "sourceHandle").orElse .null = .null := if_neg hs
      rw [hnull]
      refine iff_of_true nofun fun heq => hs ?_
      rw [heq]
      exact isGiven_branchText _

theorem check_of_mapM {l : List (Edge × Nat)} {places : List Nat}
    (h : (l.mapM fun (e, place) => do e.check; return place) = .ok places) : ∀ p ∈ l, p.1.check = .ok () := by
  induction l generalizing places with
  | nil => exact fun p hp => absurd hp List.not_mem_nil
  | cons p l ih =>
    rw [List.mapM_cons] at h
    obtain ⟨q, hq, h⟩ := Outcome.bind_eq_ok.1 h
    obtain ⟨qs, hqs, -⟩ := Outcome.bind_eq_ok.1 h
    obtain ⟨u, hu, -⟩ := Outcome.bind_eq_ok.1 hq
    exact List.forall_mem_cons.2 ⟨hu, ih hqs⟩

theorem check_of_followedFrom {id : String} {branch : Option Bool} {places : List Nat} {place : Nat}
    (h : followedFrom g id branch = .ok places) (he : g.edges[place]? = some ed) (hp : place ∈ places) :
    ed.check = .ok () := by
  obtain ⟨hsource, hfollowed⟩ := (mem_of_followedFrom h he).1 hp
  exact check_of_mapM h (ed, place) (List.mem_filter.2 ⟨mem_outgoingPlaces.2 ⟨he, hsource⟩, hfollowed⟩)

/-- The label and the handles of every edge that a run follows have been looked at. -/
def Run.Checked (r : Run) : Prop :=
  ∀ place ∈ r.followed, ∀ ed, r.graph.edges[place]? = some ed → ed.check = .ok ()

theorem Run.Move.checked {actions : Registry σ} {r r' : Run} {eff : Effect} {evs : List Event}
    (hm : Move actions r eff evs r') (h : r.Checked) : r'.Checked := by
  cases hm with
  | @announce v q hs =>
    rcases orEnding_cases r (r.proceed v q) with ⟨f, -, hr'⟩ | ⟨r', hr, hr'⟩ <;> rw [hr']
    · exact h
    · cases q with
      | execute => cases hr; exact h
      | pass => cases hr; exact h
      | stop f => cases hr
      | follow o =>
        obtain ⟨more, hm, hr⟩ := Outcome.bind_eq_ok.1 hr
        cases hr
        intro place hp ed he
        rcases List.mem_append.1 hp with hp | hp
        · exact h place hp ed he
        · exact check_of_followedFrom hm he hp
  | @conclude v a o w hs ho =>
    rcases orEnding_cases r (r.conclude v w.now o) with ⟨f, -, hr'⟩ | ⟨r', hr, hr'⟩ <;> rw [hr']
    · exact h
    · obtain ⟨no, s, -, -, rfl⟩ := conclude_ok hr
      exact h
  | _ => exact h

theorem Comes.checked {actions : Registry σ} {r : Run} {hist : History} (hc : Comes actions g x r hist) :
    r.Checked :=
  hc.induction (fun _ _ _ _ hp => absurd hp List.not_mem_nil) fun _ hm _ h => hm.checked h

theorem Edge.Written.isScalar (h : ed.Written v) (hc : ed.check = .ok ()) :
    (v.field "label").isScalar = true ∧ (v.field "sourceHandle").isScalar = true ∧
      (v.field "targetHandle").isScalar = true := by
  rw [← h.label, ← h.sourceHandle, ← h.targetHandle]
  unfold Edge.check at hc
  cases hs : ed.sourceHandle.isScalar <;> cases ht : ed.targetHandle.isScalar <;>
    cases hl : ed.label.isScalar <;> simp_all [bind, Except.bind, pure, Except.pure, throw, throwThe, MonadExceptOf.throw]

/-! ### Behind a condition -/

/-- The run of an execution stands between two nodes, and a condition has succeeded with a result. -/
structure Engine.Tested (e : Engine σ) (x : String) (g : FlowGraph) (r : Run) (n : Node) (b : Bool) :
    Prop where
  mem : r ∈ e.runs
  id : r.execution.id = x
  between : ∃ rest, r.stage = .before rest
  node : n ∈ g.nodes
  condition : n.isCondition = true
  step : ∃ s ∈ e.world.store.stepsOf x,
    s.node = n.id ∧ s.status = .success ∧ s.output = some (resultText b)

variable {e₀ e : Engine σ} {log : Log} {r : Run} {n : Node}

theorem followed_iff_of_tested (h₀ : e₀.Idle) (h : e₀.Interleaved log e) (hx : (x, .started g) ∈ log)
    (ht : e.Tested x g r n b) {place : Nat} (he : g.edges[place]? = some ed) (hsource : ed.source = n.id) :
    (place ∈ r.followed ↔ ed.branch ≠ .text (branchText !b)) ∧ (place ∈ r.followed → ed.check = .ok ()) := by
  obtain ⟨r', hc, hr'⟩ := h.run_of_started h₀ hx
  obtain rfl : r = r' := Engine.At.eq (h.sound h₀).traced ⟨hc.keeps.2, hr'⟩ ht.mem ht.id
  obtain ⟨rest, hrest⟩ := ht.between
  have htrail : Trail r.graph (e.world.store.stepsOf x) r.followed rest := by
    have := hc.along.stage
    rwa [hrest] at this
  rw [hc.keeps.1] at htrail
  obtain ⟨before, ho, -⟩ := htrail.laid.order
  obtain ⟨s, hs, hnode, hstatus, houtput⟩ := ht.step
  refine ⟨?_, fun hp => hc.checked place hp ed (hc.keeps.1 ▸ he)⟩
  rw [htrail.followed place ed he]
  constructor
  · rintro ⟨u, hu, hun, -, hbranch⟩
    -- the condition has one step
    obtain rfl : u = s := List.inj_on_of_nodup_map htrail.laid.nodup hu hs (by rw [hun, hsource, hnode])
    exact hbranch n ht.node hsource.symm ht.condition b houtput
  · intro hbranch
    refine ⟨s, hs, by rw [hnode, hsource], hstatus, fun m hm hid hcond b' hb' => ?_⟩
    rw [houtput] at hb'
    exact resultText_inj (Option.some.inj hb') ▸ hbranch

/-- The edges of a document keep their labels and handles as they are, and behind a condition each is
followed as these tell. -/
theorem followsAs_of_document {doc : Value} {ws : String} {now : Instant} {k k' : Nat}
    (hdoc : Document.parse doc ws now k = (.ok g, k')) :
    List.Forall₂ (fun v e => Edge.Written v e) (Document.edgeValues doc) g.edges ∧
      ∀ {σ : Type} {e₀ e : Engine σ} {log : Log} {x : String} {r : Run} {n : Node} {b : Bool},
        e₀.Idle → e₀.Interleaved log e → (x, .started g) ∈ log → e.Tested x g r n b →
        ∀ (place : Nat) (v : Value) (ed : Edge), (Document.edgeValues doc)[place]? = some v →
        g.edges[place]? = some ed → ed.source = n.id → v.FollowsAs b (place ∈ r.followed) ∧
          (place ∈ r.followed → (v.field "label").isScalar = true ∧
            (v.field "sourceHandle").isScalar = true ∧ (v.field "targetHandle").isScalar = true) := by
  have hwritten := Document.written_of_parse hdoc
  refine ⟨hwritten, fun h₀ h hx ht place v ed hv he hsource => ?_⟩
  have hw := written_at hwritten hv he
  obtain ⟨hiff, hcheck⟩ := followed_iff_of_tested h₀ h hx ht he hsource
  exact ⟨hw.followsAs hiff, fun hp => hw.isScalar (hcheck hp)⟩

theorem started_of_call {g : FlowGraph} {startMode : String} {payload : Value}
    (h : (e.call (.start g startMode payload)).1.map Prod.fst = [x]) :
    (x, .started g) ∈ (e.call (.start g startMode payload)).1 := by
  simp only [Engine.call] at h ⊢
  split at h
  next id e' hr =>
    obtain rfl : id = x := (List.cons.inj h).1
    exact List.mem_singleton_self _
  next => cases h

/-- A condition that does not hold, as the configuration of a node. -/
def falseConfig : String :=
  "\x7b\"condition\": \x7b\"type\": \"compare\", \"operator\": \"eq\", \"left\": \x7b\"type\": \"literal\", " ++
    "\"value\": 1\x7d, \"right\": \x7b\"type\": \"literal\", \"value\": 2\x7d\x7d\x7d"

/-- The condition leads on where it holds, by an edge that says so as a value and by one that says so as a
text. -/
def Document.flagged : Value :=
  .record [
    ("nodes", .list [
      .record [("id", .text "start"), ("type", .text "trigger")],
      .record [("id", .text "test"), ("type", .text "condition"), ("config", .text falseConfig)],
      .record [("id", .text "flag"), ("type", .text "note")],
      .record [("id", .text "word"), ("type", .text "note")]]),
    ("edges", .list [
      .record [("source", .text "start"), ("target", .text "test")],
      .record [("source", .text "test"), ("target", .text "flag"), ("label", .bool true)],
      .record [("source", .text "test"), ("target", .text "word"), ("label", .text "true")]])]

/-- The flow of this document. -/
def FlowGraph.flagged : FlowGraph where
  flow :=
    { id := idOf 1, name := .text "Untitled flow", description := .null, triggerConfig := none,
      created := ⟨0⟩, updated := ⟨0⟩ }
  nodes := [
    { id := "start", flow := idOf 1, type := "trigger", config := .null },
    { id := "test", flow := idOf 1, type := "condition", config := .text falseConfig },
    { id := "flag", flow := idOf 1, type := "note", config := .null },
    { id := "word", flow := idOf 1, type := "note", config := .null }]
  edges := [
    { id := idOf 2, flow := idOf 1, source := "start", target := "test", label := .null },
    { id := idOf 3, flow := idOf 1, source := "test", target := "flag", label := .bool true },
    { id := idOf 4, flow := idOf 1, source := "test", target := "word", label := .text "true" }]

set_option maxRecDepth 2000 in
theorem Document.parse_flagged : parse flagged "" ⟨0⟩ 0 = (.ok .flagged, 4) := rfl

/-- The nodes that a run between two of them has before it. -/
def Run.Stage.before? : Stage → Option (List String)
  | .before rest => some (rest.map Node.id)
  | _ => none

/-- The label that is a truth value is kept, and its edge followed though the condition does not hold. -/
theorem followsAs_of_flagged :
    ∃ (e : Engine Unit) (log : Log) (r : Run) (n : Node), (Engine.new {} ()).Interleaved log e ∧
      (idOf 1, .started .flagged) ∈ log ∧ e.Tested (idOf 1) .flagged r n false ∧
      1 ∈ r.followed ∧ 2 ∉ r.followed := by
  let started := (Engine.new {} ()).call (.start .flagged "manual" .null)
  let e := started.2.steps 15
  have h : (Engine.new {} ()).Interleaved (started.1 ++ started.2.stepsLog 15) e :=
    Engine.call_steps_interleaved _ _ 15
  have hstate : (started.1.map Prod.fst, e.runs.map fun r => (r.execution.id, r.stage.before?),
      (e.world.store.stepsOf (idOf 1)).map fun s => (s.node, s.status, s.output)) =
      ([idOf 1], [(idOf 1, some ["flag", "word"])],
        [("start", .success, some "\x7b\"triggered\": true, \"type\": \"manual\", \"payload\": null\x7d"),
          ("test", .success, some (resultText false))]) := by decide +kernel
  obtain ⟨hstarted, hstate⟩ := Prod.mk.inj hstate
  obtain ⟨hruns, hsteps⟩ := Prod.mk.inj hstate
  have hx : (idOf 1, .started .flagged) ∈ started.1 ++ started.2.stepsLog 15 :=
    List.mem_append_left _ (started_of_call hstarted)
  obtain ⟨r, hr, hid⟩ := List.map_eq_singleton_iff.1 hruns
  obtain ⟨s, hs, hstep⟩ := List.mem_map.1 (hsteps ▸ List.mem_cons_of_mem _ (List.mem_singleton_self _))
  simp only [Prod.mk.injEq] at hid hstep
  obtain ⟨hid, hbefore⟩ := hid
  obtain ⟨hnode, hstatus, houtput⟩ := hstep
  have hmem : r ∈ e.runs := by
    rw [hr]
    exact List.mem_singleton_self r
  let test : Node := { id := "test", flow := idOf 1, type := "condition", config := .text falseConfig }
  have ht : e.Tested (idOf 1) .flagged r test false := by
    refine ⟨hmem, hid, ?_, by simp [FlowGraph.flagged, test], rfl, s, hs, hnode, hstatus, houtput⟩
    cases hstage : r.stage <;> rw [hstage] at hbefore <;> first | cases hbefore | exact ⟨_, rfl⟩
  have hfollows := (followsAs_of_document Document.parse_flagged).2 (Engine.new_idle {} ()) h hx ht
  refine ⟨e, _, r, test, h, hx, ht, ?_, ?_⟩
  · exact (hfollows 1 _ _ rfl rfl rfl).1.other rfl nofun
  · exact fun hp => absurd (((hfollows 2 _ _ rfl rfl rfl).1.text true rfl).1 hp) (by decide)

end Workflow
