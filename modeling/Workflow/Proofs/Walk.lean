import Workflow.Proofs.Branches

/-!
# The walk of a run

While a run goes from node to node its steps are laid along the order, and the places it keeps are those
of the followed edges (`Trail`). `Run.Along` says it for every stage, and which nodes were executed, and
every move keeps it; so the steps that are stored are skipped, and their nodes executed, as
`skipped_iff_of_interleaved` says.
-/

namespace Workflow

namespace Run

variable {σ : Type} {actions : Registry σ} {g : FlowGraph} {r r' : Run} {h : History} {eff : Effect}
  {evs events : List Event} {steps pre : List Step} {followed : List Nat} {rest : List Node} {v : Visit}
  {q : Sequel} {s : Step} {e : Edge}

/-! ### Between two nodes -/

/-- A run before a node: its steps follow the order, and it keeps the places of the followed edges. -/
structure Trail (g : FlowGraph) (steps : List Step) (followed : List Nat) (rest : List Node) : Prop where
  laid : Laid g steps rest
  followed : ∀ place e, g.edges[place]? = some e → (place ∈ followed ↔ Followed g steps e)

theorem Trail.start (ho : g.order = .ok rest) : Trail g [] [] rest where
  laid := ⟨⟨[], ho, rfl⟩, fun pre s post h => by simp at h⟩
  followed place e he := by simp [Followed]

/-- A node is reached just if it is live. -/
theorem Trail.isReached {n : Node} {b : Bool} (ht : Trail r.graph steps r.followed (n :: rest))
    (hr : r.isReached n = .ok b) : b = true ↔ Live r.graph steps n.id := by
  rw [reached_ok hr]
  refine or_congr_right ⟨?_, ?_⟩
  · rintro ⟨place, e, he, htarget, hp⟩
    exact ⟨e, List.mem_of_getElem? he, htarget, (ht.followed place e he).1 hp⟩
  · rintro ⟨e, he, htarget, hf⟩
    obtain ⟨place, he⟩ := List.mem_iff_getElem?.1 he
    exact ⟨place, e, he, htarget, (ht.followed place e he).2 hf⟩

/-! ### At a node -/

/-- A run at a node, with the steps before. -/
structure Visiting (g : FlowGraph) (pre : List Step) (followed : List Nat) (v : Visit) : Prop where
  trail : Trail g pre followed (v.node :: v.rest)
  node : v.step.node = v.node.id
  decided : v.step.status = .skipped ↔ ¬ Live g pre v.node.id

/-- What the step in hand tells of what comes next. -/
def Sequel.Suits (v : Visit) : Sequel → Prop
  | .execute => v.step.status = .running
  | .pass => v.step.status = .skipped
  | .follow o => v.step.status = .success ∧ Branched v.node o ∧
    Step.dataText o.output = .ok v.step.output
  | .stop _ => v.step.status = .error

/-- Only a new step is skipped. -/
theorem Sequel.Suits.not_skipped (h : q.Suits v) (hq : ¬ q.isNew = true) : v.step.status ≠ .skipped := by
  cases q with
  | execute => exact absurd rfl hq
  | pass => exact absurd rfl hq
  | follow o => rw [h.1]; simp
  | stop f => rw [show v.step.status = .error from h]; simp

theorem Visiting.laid (hv : Visiting g pre followed v) : Laid g (pre ++ [v.step]) v.rest :=
  hv.trail.laid.concat hv.node hv.decided

/-- Another version of the step in hand, which is not skipped either. -/
theorem Visiting.withStep (hv : Visiting g pre followed v) (hs : v.step.status ≠ .skipped)
    (hn : s.node = v.step.node) (hs' : s.status ≠ .skipped) :
    Visiting g pre followed { v with step := s } where
  trail := hv.trail
  node := hn.trans hv.node
  decided := iff_of_false hs' fun h => hs (hv.decided.2 h)

/-- Behind a node that has not succeeded no more edges are followed. -/
theorem Visiting.pass (hv : Visiting g pre followed v) (hs : v.step.status ≠ .success) :
    Trail g (pre ++ [v.step]) followed v.rest where
  laid := hv.laid
  followed place e he := by
    rw [hv.trail.followed place e he, followed_concat]
    refine (or_iff_left ?_).symm
    rintro ⟨s, hmem, -, hstatus, -⟩
    rw [List.mem_singleton.1 hmem] at hstatus
    exact hs hstatus

theorem isFollowed_some {b : Bool} : e.isFollowed (some b) = true ↔ e.branch ≠ .text (branchText !b) := by
  unfold Edge.isFollowed
  cases b <;> simp only [branchText] <;> split <;> simp_all

/-- The edges that are followed from a node that has succeeded. -/
theorem Visiting.followed_iff (hv : Visiting g pre followed v) {o : NodeOutcome}
    (hq : (Sequel.follow o).Suits v) :
    Followed g [v.step] e ↔ e.source = v.node.id ∧ e.isFollowed o.branch = true := by
  obtain ⟨hstatus, hbranch, houtput⟩ := hq
  obtain ⟨before, ho, -⟩ := hv.trail.laid.order
  have hmem : v.node ∈ g.nodes := (FlowGraph.isOrder_of_order ho).perm.mem_iff.1 (by simp)
  -- no other node has the id of this one
  have hself : ∀ n ∈ g.nodes, n.id = v.node.id → n = v.node := fun n hn hid =>
    List.inj_on_of_nodup_map (FlowGraph.nodup_of_order ho) hn hmem hid
  simp only [Followed, List.mem_singleton, exists_eq_left, hv.node, hstatus, true_and]
  rw [eq_comm]
  refine and_congr_right fun hsource => ?_
  unfold Branched at hbranch
  split at hbranch
  next hc =>
    obtain ⟨b, hb, hout⟩ := hbranch
    rw [hout, dataText_result, Except.ok.injEq] at houtput
    rw [hb, isFollowed_some]
    constructor
    · intro hf
      exact hf v.node hmem hsource.symm hc b houtput.symm
    · intro hf n hn hid hcond b' hb'
      rw [← houtput] at hb'
      rw [← resultText_inj (Option.some.inj hb')]
      exact hf
  next hc =>
    rw [hbranch]
    refine iff_of_true (fun n hn hid hcond => ?_) rfl
    rw [hself n hn (hid.trans hsource)] at hcond
    exact absurd hcond hc

/-- Behind a node that has succeeded. -/
theorem Visiting.follow (hv : Visiting g pre followed v) {o : NodeOutcome}
    (hq : (Sequel.follow o).Suits v) {more : List Nat}
    (hm : followedFrom g v.node.id o.branch = .ok more) :
    Trail g (pre ++ [v.step]) (followed ++ more) v.rest where
  laid := hv.laid
  followed place e he := by
    rw [List.mem_append, hv.trail.followed place e he, mem_of_followedFrom hm he, followed_concat,
      hv.followed_iff hq]

/-! ### At every stage -/

/-- The steps of a run along the order, at a stage. -/
def Stage.Along (g : FlowGraph) (followed : List Nat) (steps : List Step) (events : List Event) :
    Stage → Prop
  | .fresh => steps = [] ∧ followed = []
  | .before rest => Trail g steps followed rest
  | .recording v q => q.Suits v ∧
    if q.isNew then Visiting g steps followed v
    else Executed events v.node.id ∧ ∃ pre s, steps = pre ++ [s] ∧ s.id = v.step.id ∧
      s.node = v.step.node ∧ s.status ≠ .skipped ∧ Visiting g pre followed v
  | .announcing v q => q.Suits v ∧ ∃ pre, steps = pre ++ [v.step] ∧ Visiting g pre followed v
  | .executing v => v.step.status = .running ∧
    ∃ pre, steps = pre ++ [v.step] ∧ Visiting g pre followed v
  | .performed v a => v.step.status = .running ∧ a.Fits v.node ∧
    ∃ pre, steps = pre ++ [v.step] ∧ Visiting g pre followed v
  | _ => steps = [] ∨ ∃ rest, Laid g steps rest

/-- A node whose step is not skipped is in progress or was executed, and the step of one that was
executed is not skipped. -/
structure Ran (steps : List Step) (events : List Event) : Prop where
  of_step : ∀ s ∈ steps, s.status ≠ .skipped → s.status = .running ∨ Executed events s.node
  of_event : ∀ n o, .executed n o ∈ events → ∃ s ∈ steps, s.node = n.id ∧ s.status ≠ .skipped

structure Along (r : Run) (h : History) : Prop where
  stage : r.stage.Along r.graph r.followed h.steps h.events
  ran : Ran h.steps h.events

/-- The steps of a run at any stage are laid along the order. -/
theorem Along.laid (hal : Along r h) : h.steps = [] ∨ ∃ rest, Laid r.graph h.steps rest := by
  have hst := hal.stage
  cases hs : r.stage with
  | fresh => rw [hs] at hst; exact .inl hst.1
  | before rest => rw [hs] at hst; exact .inr ⟨_, hst.laid⟩
  | recording v q =>
    rw [hs] at hst
    obtain ⟨hq, hst⟩ := hst
    split at hst
    next => exact .inr ⟨_, hst.trail.laid⟩
    next hnew =>
      obtain ⟨-, pre, s, hsteps, -, hn, hne, hv⟩ := hst
      exact .inr ⟨_, hsteps ▸ (hv.withStep (hq.not_skipped hnew) hn hne).laid⟩
  | announcing v q =>
    rw [hs] at hst
    obtain ⟨-, pre, hsteps, hv⟩ := hst
    exact .inr ⟨_, hsteps ▸ hv.laid⟩
  | executing v =>
    rw [hs] at hst
    obtain ⟨-, pre, hsteps, hv⟩ := hst
    exact .inr ⟨_, hsteps ▸ hv.laid⟩
  | performed v a =>
    rw [hs] at hst
    obtain ⟨-, -, pre, hsteps, hv⟩ := hst
    exact .inr ⟨_, hsteps ▸ hv.laid⟩
  | ending res => rw [hs] at hst; exact hst
  | storing e res => rw [hs] at hst; exact hst
  | telling e res => rw [hs] at hst; exact hst
  | atEnd res => rw [hs] at hst; exact hst

theorem Ran.append (hr : Ran steps events) (hq : ∀ n o, .executed n o ∉ evs) :
    Ran steps (events ++ evs) where
  of_step s hs hne := (hr.of_step s hs hne).imp_right Executed.append
  of_event n o ho := hr.of_event n o ((List.mem_append.1 ho).resolve_right (hq n o))

theorem Ran.concat (hr : Ran steps events) (hs : s.status ≠ .skipped → s.status = .running) :
    Ran (steps ++ [s]) events where
  of_step t ht hne := by
    rcases List.mem_append.1 ht with ht | ht
    · exact hr.of_step t ht hne
    · cases List.mem_singleton.1 ht
      exact .inl (hs hne)
  of_event n o ho :=
    let ⟨t, ht, hn⟩ := hr.of_event n o ho
    ⟨t, List.mem_append_left _ ht, hn⟩

/-- A new version of the last step, whose node was executed. -/
theorem Ran.replace {t : Step} (hr : Ran (pre ++ [s]) events) (hn : s.node = t.node)
    (ht : t.status ≠ .skipped) (he : Executed events t.node) : Ran (pre ++ [t]) events where
  of_step u hu hne := by
    rcases List.mem_append.1 hu with hu | hu
    · exact hr.of_step u (List.mem_append_left _ hu) hne
    · exact .inr (List.mem_singleton.1 hu ▸ he)
  of_event n o ho := by
    obtain ⟨u, hu, hid, hstatus⟩ := hr.of_event n o ho
    rcases List.mem_append.1 hu with hu | hu
    · exact ⟨u, List.mem_append_left _ hu, hid, hstatus⟩
    · rw [List.mem_singleton.1 hu] at hid
      exact ⟨t, by simp, hn.symm.trans hid, ht⟩

theorem proceed_along (hq : q.Suits v) (hv : Visiting r.graph pre r.followed v) :
    (r.orEnding (r.proceed v q)).stage.Along (r.orEnding (r.proceed v q)).graph
      (r.orEnding (r.proceed v q)).followed (pre ++ [v.step]) events := by
  cases q with
  | execute => exact ⟨hq, pre, rfl, hv⟩
  | pass => exact hv.pass (by rw [show v.step.status = .skipped from hq]; simp)
  | follow o =>
    cases hf : followedFrom r.graph v.node.id o.branch with
    | error f =>
      simp only [proceed, hf, bind, Except.bind, orEnding]
      exact .inr ⟨_, hv.laid⟩
    | ok more =>
      simp only [proceed, hf, bind, Except.bind, orEnding]
      exact hv.follow hq hf
  | stop f => exact .inr ⟨_, hv.laid⟩

theorem conclude_along {now : Instant} {o : Outcome NodeOutcome} (hrun : v.step.status = .running)
    (hf : Fits v.node o) (hv : Visiting r.graph pre r.followed v) :
    (r.orEnding (r.conclude v now o)).stage.Along (r.orEnding (r.conclude v now o)).graph
      (r.orEnding (r.conclude v now o)).followed (pre ++ [v.step])
      (events ++ [.executed v.node o]) := by
  rcases orEnding_cases r (r.conclude v now o) with ⟨f, -, hr'⟩ | ⟨r', hr, hr'⟩ <;> rw [hr']
  · exact .inr ⟨_, hv.laid⟩
  · obtain ⟨no, s, rfl, hc, rfl⟩ := conclude_ok hr
    have hne : v.step.status ≠ .skipped := by rw [hrun]; simp
    have hne' : s.status ≠ .skipped := by rw [hc.status]; split <;> simp
    have hin : Executed (events ++ [.executed v.node (.ok no)]) v.node.id ∧ ∃ pre' t,
        pre ++ [v.step] = pre' ++ [t] ∧ t.id = s.id ∧ t.node = s.node ∧ t.status ≠ .skipped ∧
          Visiting r.graph pre' r.followed { v with step := s } :=
      ⟨⟨v.node, .ok no, by simp, rfl⟩, pre, v.step, rfl, hc.id.symm, hc.node.symm, hne,
        hv.withStep hne hc.node hne'⟩
    have hstatus := hc.status
    unfold sequelOf
    cases he : no.error with
    | none =>
      have hstatus : s.status = .success := by simpa [he] using hstatus
      exact ⟨⟨hstatus, hf he, hc.output⟩, hin⟩
    | some message =>
      have hstatus : s.status = .error := by simpa [he] using hstatus
      exact ⟨hstatus, hin⟩

theorem Move.along (hm : Move actions r eff evs r') (hc : Consistent r h) (hal : Along r h) :
    Along r' (h.after evs eff) := by
  have hlaid := hal.laid
  obtain ⟨hst, hran⟩ := hal
  have hquiet : Ran h.steps (h.events ++ []) := hran.append (by simp)
  have hmore : ∀ {ev : Event}, (∀ n o, .executed n o ≠ ev) → Ran h.steps (h.events ++ [ev]) :=
    fun hne => hran.append fun n o hmem => hne n o (List.mem_singleton.1 hmem)
  cases hm with
  | order hs ho =>
    rw [hs] at hst
    refine ⟨?_, hquiet⟩
    show Trail r.graph h.steps r.followed _
    rw [hst.1, hst.2]
    exact .start ho
  | disorder hs => exact ⟨hlaid, hquiet⟩
  | complete hs => exact ⟨hlaid, hquiet⟩
  | stop hs => exact ⟨hlaid, hquiet⟩
  | unclear hs => exact ⟨hlaid, hquiet⟩
  | enter id now hs hr =>
    rw [hs] at hst
    have hlive := (hst.isReached hr).1 rfl
    exact ⟨⟨rfl, hst, rfl, iff_of_false (by simp [startedStep]) (not_not_intro hlive)⟩, hquiet⟩
  | skip id now hs hr =>
    rw [hs] at hst
    have hlive := mt (hst.isReached hr).2 Bool.false_ne_true
    exact ⟨⟨rfl, hst, rfl, iff_of_true rfl hlive⟩, hquiet⟩
  | @record v q hs =>
    rw [hs] at hst
    obtain ⟨hq, hst⟩ := hst
    have hran' : Ran h.steps (h.events ++ [.wrote v.step]) := hmore (by simp)
    unfold Sequel.effect
    split at hst
    next hnew =>
      rw [if_pos hnew]
      refine ⟨⟨hq, h.steps, rfl, hst⟩, hran'.concat fun hne => ?_⟩
      cases q with
      | execute => exact hq
      | pass => exact absurd hq hne
      | _ => cases hnew
    next hnew =>
      rw [if_neg hnew]
      obtain ⟨hex, pre, s, hsteps, hid, hn, hne, hv⟩ := hst
      have hrep : replaceRow Step.id v.step h.steps = pre ++ [v.step] :=
        hsteps ▸ replaceRow_last (hsteps ▸ hc.nodup) hid
      refine ⟨⟨hq, pre, hrep, hv⟩, ?_⟩
      show Ran (replaceRow Step.id v.step h.steps) _
      rw [hrep]
      exact (hsteps ▸ hran').replace hn (hq.not_skipped hnew) (hv.node ▸ hex.append)
  | refuse f hs => exact ⟨hlaid, hmore (by simp)⟩
  | @announce v q hs =>
    rw [hs] at hst
    obtain ⟨hq, pre, hsteps, hv⟩ := hst
    refine ⟨?_, hquiet⟩
    show Stage.Along _ _ h.steps _ _
    rw [hsteps]
    exact proceed_along hq hv
  | execute hs ha =>
    rw [hs] at hst
    obtain ⟨hrun, hv⟩ := hst
    exact ⟨⟨hrun, attempt_fits ha, hv⟩, hquiet⟩
  | @conclude v a o w hs ho =>
    rw [hs] at hst
    obtain ⟨hrun, hf, pre, hsteps, hv⟩ := hst
    refine ⟨?_, ⟨fun s hs hne => (hran.of_step s hs hne).imp_right .append,
      fun n o' ho' => ?_⟩⟩
    · show Stage.Along _ _ h.steps _ _
      rw [hsteps]
      exact conclude_along hrun (hf.outcome ho) hv
    · rcases List.mem_append.1 ho' with ho' | ho'
      · exact hran.of_event n o' ho'
      · cases List.mem_singleton.1 ho'
        refine ⟨v.step, ?_, hv.node, by rw [hrun]; simp⟩
        show v.step ∈ h.steps
        simp [hsteps]
  | interrupt message hs => exact ⟨hlaid, hmore (by simp)⟩
  | @finish result now hs =>
    obtain ⟨res, he⟩ := afterWalk_running hc.running now result
    exact ⟨by rw [he]; exact hlaid, hmore (by simp)⟩
  | store hs => exact ⟨hlaid, hquiet⟩
  | unstored hs => exact ⟨hlaid, hmore (by simp)⟩
  | tell hs => exact ⟨hlaid, hquiet⟩

end Run

open Run

variable {σ : Type} {e₀ e : Engine σ} {log : Log} {x : String} {g : FlowGraph}

theorem Comes.along {actions : Registry σ} {r : Run} {hist : History} (hc : Comes actions g x r hist) :
    Along r hist := by
  refine hc.induction (fun e payload _ => ⟨⟨rfl, rfl⟩, ⟨?_, fun n o ho => ?_⟩⟩) fun hc hm _ hal =>
    hm.along hc.consistent hal
  · exact fun s hs => absurd hs List.not_mem_nil
  · cases List.mem_singleton.1 ho

/-- A step is skipped just if no followed edges lead from the trigger to its node; then the node is not
executed, and every other one is. -/
theorem skipped_iff_of_interleaved (h₀ : e₀.Idle) (h : e₀.Interleaved log e)
    (hx : (x, .started g) ∈ log) :
    ∃ t, g.triggers = [t] ∧ ∀ s ∈ e.world.store.stepsOf x,
      (s.status = .skipped ↔ ¬ Reaches g (e.world.store.stepsOf x) t.id s.node) ∧
      (s.status = .skipped → ¬ Executed (log.of x) s.node) ∧
      (s.status ≠ .skipped → s.status = .running ∨ Executed (log.of x) s.node) := by
  obtain ⟨t, ht⟩ := Validation.one_trigger (FlowGraph.isValid_of_reports (h.reports_of_started hx))
  obtain ⟨r, hc, -⟩ := h.run_of_started h₀ hx
  refine ⟨t, ht, fun s hs => ?_⟩
  have hal := hc.along
  rcases hal.laid with hnil | ⟨rest, hlaid⟩
  · have hnil : e.world.store.stepsOf x = [] := hnil
    rw [hnil] at hs
    exact absurd hs List.not_mem_nil
  · rw [hc.keeps.1] at hlaid
    have hlaid : Laid g (e.world.store.stepsOf x) rest := hlaid
    refine ⟨hlaid.skipped_iff (by rw [FlowGraph.triggers, ht]; rfl) hs, fun hskip => ?_,
      hal.ran.of_step s hs⟩
    rintro ⟨n, o, ho, hid⟩
    obtain ⟨u, hu, hun, hne⟩ := hal.ran.of_event n o ho
    rw [List.inj_on_of_nodup_map hlaid.nodup hu hs (hun.trans hid)] at hne
    exact hne hskip

/-- A trigger, a condition that holds, and a node on each of its branches. -/
def FlowGraph.forked : FlowGraph where
  flow := { id := "forked", created := ⟨0⟩, updated := ⟨0⟩ }
  nodes := [
    { id := "start", type := "trigger", config := .object [] },
    { id := "test", type := "condition", config := .record [("condition",
      Condition.toValue (.compare (.literal (.bool true)) .eq (.literal (.bool true))))] },
    { id := "yes", type := "note", config := .object [] },
    { id := "no", type := "note", config := .object [] }]
  edges := [
    { id := "first", source := "start", target := "test" },
    { id := "second", source := "test", target := "yes", label := .text "true" },
    { id := "third", source := "test", target := "no", label := .text "false" }]

/-- Of the branches of a condition that holds the one is executed and the other is skipped. -/
theorem skipped_of_forked :
    let started := (Engine.new {} ()).call (.start .forked "manual" .null)
    let steps := (started.2.steps 60).world.store.stepsOf (idOf 1)
    Reaches .forked steps "start" "yes" ∧ ¬ Reaches .forked steps "start" "no" := by
  intro started steps
  have h : (Engine.new {} ()).Interleaved (started.1 ++ started.2.stepsLog 60) (started.2.steps 60) :=
    Engine.call_steps_interleaved _ _ 60
  have hx : (idOf 1, .started .forked) ∈ started.1 ++ started.2.stepsLog 60 :=
    List.mem_append_left _ (List.mem_singleton_self _)
  obtain ⟨t, ht, hsteps⟩ := skipped_iff_of_interleaved (Engine.new_idle {} ()) h hx
  have hid : t.id = "start" := by
    have ht : [_] = [t] := ht
    rw [← (List.cons.inj ht).1]
  have hall : steps.map (fun s => (s.node, s.status)) =
      [("start", .success), ("test", .success), ("yes", .success), ("no", .skipped)] := by
    decide +kernel
  have hstep : ∀ p ∈ steps.map (fun s => (s.node, s.status)),
      (p.2 = .skipped ↔ ¬ Reaches .forked steps "start" p.1) := by
    intro p hp
    obtain ⟨s, hs, rfl⟩ := List.mem_map.1 hp
    exact hid ▸ (hsteps s hs).1
  rw [hall] at hstep
  exact ⟨not_not.1 fun hno => by simpa using (hstep ("yes", .success) (by simp)).2 hno,
    (hstep ("no", .skipped) (by simp)).1 rfl⟩

end Workflow
