import Workflow.Proofs.Alone
import Workflow.Proofs.Results

/-!
# The order in which a flow is listed

If the results of actions depend on their parameters alone, and nodes read no outputs but those of their
ancestors, then it does not matter in which order the nodes and edges of a flow are listed: where one run
succeeds, so does every run on a flow that is listed otherwise, with the same steps up to their order
(`repeats_of_perm`). It may still be cancelled, and the store may refuse a write of it. Edges with
containers for handles are left out, for whether such an edge is looked at depends on the listing
(`differs_of_reversed`).
-/

namespace Workflow

open Run Engine

variable {σ : Type} {actions : Registry σ} {e e' : Engine σ} {log log' : Log} {x y : String}
  {g g' : FlowGraph} {startMode : String} {payload : Value} {wf : World σ}

namespace Engine

/-- An execution of a flow was started in an engine, among all else that has happened to it. -/
inductive Carries (actions : Registry σ) (g : FlowGraph) (startMode : String) (payload : Value)
    (x : String) : Log → Engine σ → Prop where
  | intro {e₀ e₁ e₂ e : Engine σ} {log more : Log} (idle : e₀.Idle) (registry : e₀.actions = actions)
      (before : e₀.Interleaved log e₁) (start : e₁.runGraph g startMode payload = (.ok x, e₂))
      (after : e₂.Interleaved more e) :
      Carries actions g startMode payload x (log ++ [(x, .started g)] ++ more) e

/-- An execution has succeeded, with the steps of another one up to their order. -/
def Repeats (e' : Engine σ) (y : String) (e : Engine σ) (x : String) : Prop :=
  (e'.world.store.execution? y).map Execution.status = some .success ∧
    ((e'.world.store.stepsOf y).map Step.line).Perm ((e.world.store.stepsOf x).map Step.line)

theorem Carries.stands (h : Carries actions g startMode payload x log e) (hs : actions.Steady)
    (wf : World σ) :
    g.reports = .ok [] ∧ ∃ ex : Execution, ex.id = x ∧
      Stands actions g x (Accounted actions wf (accountOf actions wf g startMode payload) ex) log e := by
  obtain ⟨idle, rfl, before, start, after⟩ := h
  have hs₁ := before.sound idle
  obtain ⟨ex, hid, -, -, hh, hst⟩ := stands_of_start hs₁ start wf
  have he₂ := hh.exact (before.unfolds.exact idle.exact)
  refine ⟨(begun_of_runGraph start).1, ex, hid, ?_⟩
  rw [← hid] at hh hst ⊢
  exact after.stands (hh.sound hs₁) he₂ (List.mem_append_right _ (List.mem_singleton_self _))
    (accounted_lasting hs g wf _ ex) hst

/-- The account of an execution that has succeeded. -/
theorem Carries.account_of_success (h : Carries actions g startMode payload x log e)
    (hs : actions.Steady) (hend : (e.world.store.execution? x).map Execution.status = some .success) :
    let A := accountOf actions e.world g startMode payload
    A.lines = (e.world.store.stepsOf x).map Step.line ∧ A.result = some (.ok .completed) := by
  intro A
  obtain ⟨-, ex, rfl, r, -, hc, rfl, hrec⟩ := h.stands hs e.world
  have hrec := hrec (· ≠ .ok .completed) (fun _ => by simp) (fun _ _ => by simp) (fun _ _ => by simp)
    (List.Subset.refl _)
  obtain ⟨ending, hst, hstatus⟩ := Option.map_eq_some_iff.1 hend
  obtain ⟨now, result, rfl, hA⟩ := hrec.ends.of_stored hc.reported.stage hc.consistent.running hst
    (by rw [hstatus]; rfl)
  have hresult : result = .ok .completed := by
    match result with
    | .ok .completed => rfl
    | .ok .stopped => cases hstatus
    | .error f => by_cases hk : f.kind = .cancelled <;> simp [ended, verdict, hk] at hstatus
  subst hresult
  exact (hA.resolve_left fun hne => hne rfl).ended

/-- An execution with the account of a success has succeeded once it is over, unless it was cancelled. -/
theorem Carries.success_of_account (h : Carries actions g startMode payload x log e)
    (hs : actions.Steady) (hopen : e.world.opened ⊆ wf.opened)
    (hA : (accountOf actions wf g startMode payload).result = some (.ok .completed))
    (href : (x, .refused) ∉ log)
    (hrest : ∀ r ∈ e.runs, r.execution.id = x → r.isBlocked wf = true) :
    (e.world.store.execution? x).map Execution.status = some .success ∧
      (e.world.store.stepsOf x).map Step.line = (accountOf actions wf g startMode payload).lines ∨
    (e.world.store.execution? x).map Execution.status = some .cancelled ∧
      (x ∈ e.world.stopping ∨ (x, .interrupted) ∈ log) := by
  obtain ⟨-, ex, rfl, r, hat, hc, rfl, hrec⟩ := h.stands hs wf
  have href : .refused ∉ log.of r.execution.id := mt Log.mem_of.1 href
  have hrec := hrec (fun result => (verdict result).1 = .cancelled ∧
      (r.execution.id ∈ e.world.stopping ∨ (r.execution.id, .interrupted) ∈ log))
    (fun hmem => ⟨rfl, .inl hmem⟩) (fun hmem _ => ⟨by simp [verdict], .inr (Log.mem_of.1 hmem)⟩)
    (fun hmem => absurd hmem href) hopen
  have hover : r.isOver = true := by
    rcases hat.stands with hmem | ⟨ho, -⟩
    · -- a run that waits would have an account without a result
      have hb := hrest r hmem rfl
      unfold isBlocked at hb
      split at hb
      next v a hst =>
        have hstage := hrec.stage
        rw [hst] at hstage
        have hres := hstage.2.told.2
        rw [awaited, Option.isNone_iff_eq_none.1 hb, hA] at hres
        cases hres
      next => cases hb
    · exact ho
  obtain ⟨now, result, -, hst, hresult⟩ := hrec.ends.of_over hover
  have hst : e.world.store.execution? r.execution.id = some (ended r.execution now result) := hst href
  rcases hresult with ⟨hcancelled, hasked⟩ | htells
  · exact .inr ⟨by rw [hst, Option.map_some]; exact congrArg some hcancelled, hasked⟩
  · obtain ⟨hlines, hres⟩ := htells.ended
    rw [hA] at hres
    cases hres
    exact .inl ⟨by rw [hst]; rfl, hlines.symm⟩

/-- An execution of a valid flow by itself, with some gates open, until nothing is left to do. -/
theorem carries_alone (hg : g.reports = .ok []) (actions : Registry σ) (opened : List String) (s : σ)
    (startMode : String) (payload : Value) :
    ∃ y a log, (alone actions opened s).runGraph g startMode payload = (.ok y, a) ∧
      Carries actions g startMode payload y log a.settle ∧ opened ⊆ a.settle.world.opened ∧
      (∀ r ∈ a.settle.runs, r.isBlocked a.settle.world = true) ∧
      (y, .refused) ∉ log ∧ (y, .interrupted) ∉ log := by
  have h₀ := alone_idle actions opened s
  obtain ⟨y, a, hstart⟩ := runGraph_alone hg actions opened s startMode payload
  obtain ⟨-, -, -, -, hh, -⟩ := stands_of_start h₀.sound hstart (alone actions opened s).world
  have hi := (Interleaved.start.step hh).trans (steps_interleaved a.fuel a)
  refine ⟨y, a, _, hstart, .intro h₀ rfl .start hstart (steps_interleaved a.fuel a), hi.opened,
    (hh.sound h₀.sound).blocked_of_settle (hh.parked h₀.parked), ?_, ?_⟩
  · exact (hi.develops.steadfast (h₀.steadfast ⟨⟨_, rfl⟩, rfl⟩)).unrefused _
  · simp only [List.nil_append, List.mem_append, List.mem_singleton, Prod.mk.injEq, reduceCtorEq,
      and_false, false_or]
    exact fun hmem => (ne_of_mem_stepsLog _ hmem).1 rfl

/-- What comes of a flow that is listed otherwise, where a run of it has succeeded. -/
theorem Carries.repeats (h : Carries actions g startMode payload x log e)
    (h' : Carries actions g' startMode payload y log' e') (hs : actions.Steady) (hlocal : g.Local)
    (hd : ∀ d ∈ g.edges, d.check = .ok ()) (hn : g'.nodes.Perm g.nodes) (he : g'.edges.Perm g.edges)
    (hend : (e.world.store.execution? x).map Execution.status = some .success)
    (hrest : ∀ r ∈ e'.runs, r.execution.id = y →
      e.world.opened ⊆ e'.world.opened ∧ r.isBlocked e'.world = true)
    (href : (y, .refused) ∉ log') :
    e'.Repeats y e x ∨
      (e'.world.store.execution? y).map Execution.status = some .cancelled ∧
        (y ∈ e'.world.stopping ∨ (y, .interrupted) ∈ log') := by
  obtain ⟨hlines, hresult⟩ := h.account_of_success hs hend
  have hv := Validation.isValid_iff.1 (FlowGraph.isValid_of_reports (h.stands hs e.world).1)
  -- the account with the gates open that are for either run
  let wf : World σ := { e'.world with opened := e.world.opened ++ e'.world.opened }
  have hopen : e.world.opened ⊆ wf.opened := List.subset_append_left ..
  obtain ⟨hresult', hperm⟩ := account_of_perm hs hv hlocal hd hn he hopen hresult
  refine (h'.success_of_account hs (List.subset_append_right ..) hresult' href ?_).imp_left
    fun ⟨hstatus, hlines'⟩ => ⟨hstatus, ?_⟩
  · intro r hr hid
    obtain ⟨hopen, hb⟩ := hrest r hr hid
    exact isBlocked_of_subset (List.append_subset.2 ⟨hopen, List.Subset.refl _⟩) hb
  · rw [hlines', ← hlines]
    exact hperm

end Engine

/-- Where a run succeeds, one on the same flow listed otherwise does so too with the same steps, once it is
over or waits for no gate that was open for the first, unless it is cancelled or refused a write. -/
theorem repeats_of_perm (hs : actions.Steady) (hlocal : g.Local) (hd : ∀ d ∈ g.edges, d.check = .ok ())
    (h : Carries actions g startMode payload x log e)
    (hend : (e.world.store.execution? x).map Execution.status = some .success)
    (hn : g'.nodes.Perm g.nodes) (he : g'.edges.Perm g.edges) :
    (∀ {y log' e'}, Carries actions g' startMode payload y log' e' →
      (∀ r ∈ e'.runs, r.execution.id = y →
        e.world.opened ⊆ e'.world.opened ∧ r.isBlocked e'.world = true) →
      (y, .refused) ∉ log' →
      e'.Repeats y e x ∨
        (e'.world.store.execution? y).map Execution.status = some .cancelled ∧
          (y ∈ e'.world.stopping ∨ (y, .interrupted) ∈ log')) ∧
    -- the flow is accepted, and by itself its run comes to its end unless one of its actions stops it
    ∀ s, ∃ y a, (alone actions e.world.opened s).runGraph g' startMode payload = (.ok y, a) ∧
      (y ∉ a.settle.world.stopping → a.settle.Repeats y e x) := by
  refine ⟨fun h' hrest href => h.repeats h' hs hlocal hd hn he hend hrest href, fun s => ?_⟩
  have hv := Validation.isValid_iff.1 (FlowGraph.isValid_of_reports (h.stands hs e.world).1)
  have hg' : g'.reports = .ok [] :=
    FlowGraph.reports_of_isValid (Validation.isValid_iff.2 (hv.of_perm hn he))
  obtain ⟨y, a, log', ha, hcarries, hopen, hblocked, href, hint⟩ :=
    carries_alone hg' actions e.world.opened s startMode payload
  refine ⟨y, a, ha, fun hstop => ?_⟩
  exact (h.repeats hcarries hs hlocal hd hn he hend (fun r hr _ => ⟨hopen, hblocked r hr⟩) href).resolve_right
    fun ⟨_, hcancelled⟩ => hcancelled.elim hstop hint

/-! ### A flow that is listed backwards -/

/-- An action that answers with its parameters. -/
def echoAction : Executor Unit where
  type := "echo"
  perform params s := ({ reply := .result ⟨true, .object params⟩ }, s)

/-- A trigger, a condition on its data, a node on each branch, and an action behind both that reads the
output of one of them. -/
def FlowGraph.joined : FlowGraph where
  flow := { id := "joined", created := ⟨0⟩, updated := ⟨0⟩ }
  nodes := [
    { id := "start", type := "trigger", config := .object [] },
    { id := "test", type := "condition", config := .record [("condition",
      Condition.toValue (.compare (.context "trigger.payload") .eq (.literal (.text "hello"))))] },
    { id := "yes", config := .record [("actionType", .text "echo"),
      ("config", .record [("text", .text "\x7b\x7btrigger.payload\x7d\x7d")])] },
    { id := "no", type := "note", config := .object [] },
    { id := "end", config := .record [("actionType", .text "echo"),
      ("config", .record [("text", .text "\x7b\x7bnodes.yes.output.text\x7d\x7d!")])] }]
  edges := [
    { id := "first", source := "start", target := "test" },
    { id := "second", source := "test", target := "yes", label := .text "true" },
    { id := "third", source := "test", target := "no", label := .text "false" },
    { id := "fourth", source := "yes", target := "end" },
    { id := "fifth", source := "no", target := "end" }]

/-- A flow listed from the last node and edge to the first. -/
def FlowGraph.reversed (g : FlowGraph) : FlowGraph :=
  { g with nodes := g.nodes.reverse, edges := g.edges.reverse }

theorem FlowGraph.reversed_perm (g : FlowGraph) :
    g.reversed.nodes.Perm g.nodes ∧ g.reversed.edges.Perm g.edges :=
  ⟨List.reverse_perm _, List.reverse_perm _⟩

theorem joined_local : FlowGraph.joined.Local := by
  have hrefs : FlowGraph.joined.nodes.map (fun n => (n.id, n.references)) =
      [("start", []), ("test", [.context "trigger.payload", .literal (.text "hello")]),
        ("yes", [.context "trigger.payload"]), ("no", []), ("end", [.context "nodes.yes.output.text"])] := by
    decide +kernel
  have hpayload : Path.segments "trigger.payload" = ["trigger", "payload"] := by decide
  have houtput : Path.segments "nodes.yes.output.text" = ["nodes", "yes", "output", "text"] := by decide
  refine FlowGraph.local_of_references hrefs ?_
  simp only [List.mem_cons, List.not_mem_nil, or_false, forall_eq_or_imp, forall_eq, false_imp_iff,
    implies_true, true_and]
  exact ⟨⟨.context (.other hpayload (by decide)), .literal _⟩, .context (.other hpayload (by decide)),
    .context (.node houtput (.single (by decide)))⟩

/-- A flow listed backwards comes to the same steps. -/
theorem repeats_of_joined :
    let first := (Engine.new ⟨[("echo", echoAction)]⟩ ()).runGraph .joined "manual" (.text "hello")
    let e := first.2.steps 60
    ∃ y a, (alone ⟨[("echo", echoAction)]⟩ [] ()).runGraph FlowGraph.joined.reversed "manual" (.text "hello") =
        (.ok y, a) ∧
      a.settle.Repeats y e (idOf 1) ∧
      (e.world.store.stepsOf (idOf 1)).map (fun s => (s.node, s.status, s.output)) =
        [("start", .success, some "\x7b\"triggered\": true, \"type\": \"manual\", \"payload\": \"hello\"\x7d"),
          ("test", .success, some "\x7b\"result\": true\x7d"),
          ("yes", .success, some "\x7b\"text\": \"hello\"\x7d"), ("no", .skipped, none),
          ("end", .success, some "\x7b\"text\": \"hello!\"\x7d")] := by
  intro first e
  have hs : (⟨[("echo", echoAction)]⟩ : Registry Unit).Steady := by
    intro p hp params s s'
    rw [List.mem_singleton.1 hp]
    exact ⟨rfl, rfl⟩
  have hid : first.1.toOption = some (idOf 1) := by decide +kernel
  have hcarries : Carries ⟨[("echo", echoAction)]⟩ .joined "manual" (.text "hello") (idOf 1) _ e :=
    .intro (Engine.new_idle _ ()) rfl .start (eq_ok_of_toOption hid) (steps_interleaved 60 first.2)
  have hsteps : (e.world.store.stepsOf (idOf 1)).map (fun s => (s.node, s.status, s.output)) =
      [("start", .success, some "\x7b\"triggered\": true, \"type\": \"manual\", \"payload\": \"hello\"\x7d"),
        ("test", .success, some "\x7b\"result\": true\x7d"),
        ("yes", .success, some "\x7b\"text\": \"hello\"\x7d"), ("no", .skipped, none),
        ("end", .success, some "\x7b\"text\": \"hello!\"\x7d")] := by
    decide +kernel
  have hend : (e.world.store.execution? (idOf 1)).map Execution.status = some .success := by decide +kernel
  have hopened : e.world.opened = [] := by decide +kernel
  have hstopping : ((alone ⟨[("echo", echoAction)]⟩ [] ()).runGraph FlowGraph.joined.reversed "manual"
      (.text "hello")).2.settle.world.stopping = [] := by decide +kernel
  clear_value e first
  obtain ⟨hnodes, hedges⟩ := FlowGraph.joined.reversed_perm
  obtain ⟨-, hself⟩ := repeats_of_perm hs joined_local (by decide) hcarries hend hnodes hedges
  obtain ⟨y, a, ha, hrepeats⟩ := hself ()
  rw [hopened] at ha
  rw [ha] at hstopping
  exact ⟨y, a, ha, hrepeats (by simp [hstopping]), hsteps⟩

/-! ### Flows for which the listing matters -/

/-- A trigger, a condition that holds, and a node to which edges lead from both; the edge that is not
followed has a container for a handle. -/
def FlowGraph.entangled : FlowGraph where
  flow := { id := "entangled", created := ⟨0⟩, updated := ⟨0⟩ }
  nodes := [
    { id := "start", type := "trigger", config := .object [] },
    { id := "test", type := "condition", config := .record [("condition",
      Condition.toValue (.compare (.literal (.bool true)) .eq (.literal (.bool true))))] },
    { id := "note", type := "note", config := .object [] }]
  edges := [
    { id := "first", source := "start", target := "test" },
    { id := "second", source := "start", target := "note" },
    { id := "third", source := "test", target := "note", label := .text "false", targetHandle := .list [] }]

/-- An action that asks all executions to stop. -/
def haltAction : Executor Unit where
  type := "halt"
  perform _ s := ({ reply := .result ⟨true, .null⟩, cancels := true }, s)

/-- A trigger, and behind it a node and an action that asks all executions to stop. -/
def FlowGraph.halting : FlowGraph where
  flow := { id := "halting", created := ⟨0⟩, updated := ⟨0⟩ }
  nodes := [
    { id := "start", type := "trigger", config := .object [] },
    { id := "note", type := "note", config := .object [] },
    { id := "halt", config := .record [("actionType", .text "halt"), ("config", .object [])] }]
  edges := [
    { id := "first", source := "start", target := "note" },
    { id := "second", source := "start", target := "halt" }]

theorem entangled_local : FlowGraph.entangled.Local := by
  have hrefs : FlowGraph.entangled.nodes.map (fun n => (n.id, n.references)) =
      [("start", []), ("test", [.literal (.bool true), .literal (.bool true)]), ("note", [])] := by
    decide +kernel
  refine FlowGraph.local_of_references hrefs ?_
  simp only [List.mem_cons, List.not_mem_nil, or_false, forall_eq_or_imp, forall_eq, false_imp_iff,
    implies_true, true_and, and_true]
  exact ⟨.literal _, .literal _⟩

theorem halting_local : FlowGraph.halting.Local := by
  have hrefs : FlowGraph.halting.nodes.map (fun n => (n.id, n.references)) =
      [("start", []), ("note", []), ("halt", [])] := by decide +kernel
  refine FlowGraph.local_of_references hrefs ?_
  simp

/-- A run in a new engine comes to its end with a status. -/
def Engine.EndsWith (actions : Registry Unit) (g : FlowGraph) (status : ExecutionStatus) : Prop :=
  ∃ log e, Carries actions g "manual" .null (idOf 1) log e ∧ e.runs = [] ∧
    (e.world.store.execution? (idOf 1)).map Execution.status = some status

theorem Engine.endsWith_of_steps {actions : Registry Unit} {g : FlowGraph} {status : ExecutionStatus}
    (h : let started := (Engine.new actions ()).runGraph g "manual" .null
      started.1.toOption = some (idOf 1) ∧ (started.2.steps 60).runs.isEmpty = true ∧
        ((started.2.steps 60).world.store.execution? (idOf 1)).map Execution.status = some status) :
    EndsWith actions g status :=
  ⟨_, _, .intro (new_idle _ ()) rfl .start (eq_ok_of_toOption h.1) (steps_interleaved 60 _),
    List.isEmpty_iff.1 h.2.1, h.2.2⟩

/-- Listed backwards, a flow fails that has a container for a handle, because an edge is only looked at
if none that is listed before it is followed; and a flow is cancelled one of whose actions asks for it, if
that action was the last. -/
theorem differs_of_reversed :
    (FlowGraph.entangled.Local ∧ EndsWith {} .entangled .success ∧
      EndsWith {} FlowGraph.entangled.reversed .failed) ∧
    FlowGraph.halting.Local ∧ (⟨[("halt", haltAction)]⟩ : Registry Unit).Steady ∧
      EndsWith ⟨[("halt", haltAction)]⟩ .halting .success ∧
      EndsWith ⟨[("halt", haltAction)]⟩ FlowGraph.halting.reversed .cancelled := by
  refine ⟨⟨entangled_local, endsWith_of_steps ?_, endsWith_of_steps ?_⟩, halting_local, fun p hp _ _ _ => ?_,
    endsWith_of_steps ?_, endsWith_of_steps ?_⟩
  · decide +kernel
  · decide +kernel
  · rw [List.mem_singleton.1 hp]
    exact ⟨rfl, rfl⟩
  · decide +kernel
  · decide +kernel

end Workflow
