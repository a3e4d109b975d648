import Workflow.Proofs.Developments
import Workflow.Proofs.Recount

/-!
# Runs are independent of each other

If the results of actions depend on their parameters alone, then what an execution records beside others
is what it records alone (`independent_of_develops`): its steps and how it ends are those of its account,
whatever else happens to the engine, as long as the execution itself is not asked to stop and its run is
not cancelled from without. No other run touches its context, the edges that it follows or its steps; of
the world its own steps see no more than the requests to stop and the gates that are open.
-/

namespace Workflow

theorem Log.mem_of {x : String} {log : Log} {ev : Event} : ev ∈ log.of x ↔ (x, ev) ∈ log := by
  simp [Log.of]

namespace Run

variable {σ : Type} {actions : Registry σ} {w w' wf : World σ} {r r' : Run} {h : History} {A : Account}
  {x : Execution} {g : FlowGraph} {eff : Effect} {evs : List Event}

/-! ### Steps that are taken in a world -/

/-- A run stops before a node only if it is asked to. -/
theorem stopping_of_stopped {l : List Node} (hs : r.stage = .before l)
    (h : (r.advance actions w).1.stage = .ending (.ok .stopped)) : r.execution.id ∈ w.stopping := by
  by_contra hno
  cases l with
  | nil => simp [advance, next, hs] at h
  | cons n rest =>
    have hcontains : w.stopping.contains r.execution.id = false := by simpa using hno
    simp only [advance, next, hs, visit_apply, hcontains, Bool.false_eq_true, if_false] at h
    cases hr : r.isReached n with
    | error f => simp [hr] at h
    | ok b => cases b <;> simp [hr] at h

/-- The requests to stop after the execution of a node. -/
theorem advance_executing {v : Visit} (hs : r.stage = .executing v) :
    (r.advance actions w).2.stopping =
      if (attempted actions w.surroundings r.context v.node).2 then w.stopping ++ w.running
      else w.stopping := by
  obtain ⟨w', ha, hw⟩ := attempt_eq actions r v.node w
  rw [advance_snd]
  simp only [next, hs, Stateful.bind_apply, ha]
  exact hw

/-- The next step of a run starts no execution and cancels none from without. -/
theorem ne_of_events {ev : Event} (h : ev ∈ r.events w) :
    ev ≠ .interrupted ∧ ∀ g, ev ≠ .started g := by
  unfold events at h
  split at h
  next => split at h <;> cases List.mem_singleton.1 h <;> simp
  next a _ =>
    obtain ⟨o, -, rfl⟩ := List.mem_map.1 h
    simp
  next => cases List.mem_singleton.1 h; simp
  next =>
    split at h
    next => cases h
    next => cases List.mem_singleton.1 h; simp
  next => cases h

/-- With fewer gates open a run that waits does so too. -/
theorem isBlocked_of_subset (ho : w.opened ⊆ w'.opened) (h : r.isBlocked w' = true) :
    r.isBlocked w = true := by
  unfold isBlocked at h ⊢
  split at h
  next v a _ =>
    cases hout : a.outcome? w with
    | none => rfl
    | some o => rw [outcome?_mono ho hout] at h; cases h
  next => cases h

/-! ### A run and its account -/

/-- A run goes by an account, unless its execution is asked to stop, it is cancelled from without or the
store refuses a write. -/
def Accounted (actions : Registry σ) (wf : World σ) (A : Account) (x : Execution) (w : World σ)
    (r : Run) (h : History) : Prop :=
  r.execution = x ∧ ∀ otherwise : Outcome Progress → Prop,
    (x.id ∈ w.stopping → otherwise (.ok .stopped)) →
    (.interrupted ∈ h.events → ∀ message, otherwise (.error ⟨.cancelled, message⟩)) →
    (.refused ∈ h.events → ∀ f, otherwise (.error f)) →
    w.opened ⊆ wf.opened → Recounted actions wf otherwise A r h

theorem accounted_lasting (hs : actions.Steady) (g : FlowGraph) (wf : World σ) (A : Account)
    (x : Execution) : Engine.Lasting actions g x.id (Accounted actions wf A x) where
  own {w w' r r' h eff evs} hc hm _ hrun htaken hstops hopens hP := by
    obtain ⟨rfl, hrec⟩ := hP
    refine ⟨hm.keeps.2, fun otherwise hstop hint href hopen => ?_⟩
    simp only [History.events_after, List.mem_append, or_imp] at hint href
    have hrec := hrec otherwise (fun hmem => hstop (hstops hmem)) hint.1 href.1
      (List.Subset.trans hopens hopen)
    -- what is left to show is of steps taken in the world: who stops was asked, who asks is asked too
    refine hm.recounted hs hc.consistent hc.reported hc.along hrec hint.2 href.2
      (fun hno l hl hst => ?_) (fun hno v hv hasks => ?_) fun hno v a hv => ?_ <;>
      obtain ⟨hb, hadv⟩ := htaken.resolve_left hno
    · exact hstop (hstops (stopping_of_stopped hl (by rw [hadv]; exact hst)))
    · rw [attempted_steady hs wf.surroundings w.surroundings] at hasks
      have hstopping : (r.advance actions w).2.stopping = _ := advance_executing hv
      rw [hadv, hasks, if_pos rfl] at hstopping
      exact hstop (hstopping ▸ List.mem_append_right _ hrun)
    · rw [isBlocked, hv] at hb
      obtain ⟨o, ho⟩ := Option.isSome_iff_exists.1 (Option.isNone_eq_false_iff.1 hb)
      rw [outcome?_mono (List.Subset.trans hopens hopen) ho]
      rfl
  other hstops hopens hP := ⟨hP.1, fun otherwise hstop hint href hopen =>
    hP.2 otherwise (fun hmem => hstop (hstops hmem)) hint href (List.Subset.trans hopens hopen)⟩

/-- A run that goes by its account has recorded it once it is over or waits. -/
theorem Recounted.of_rest (hA : Recounted actions w (fun _ => False) A r h) (hal : Along r h) (hr : Reported r h)
    (hx : (r.execution.status, r.execution.error) = (.running, none)) (href : .refused ∉ h.events)
    (hrest : r.isOver = true ∨ r.isBlocked w = true) :
    A.lines = h.steps.map Step.line ∧ A.asks = false ∧
      h.stored.map (fun y => (y.status, y.error)) = some A.verdict := by
  rcases hrest with ho | hb
  · obtain ⟨now, result, -, hst, hA⟩ := hA.ends.of_over ho
    rw [hst href, (hA.resolve_left id).eq id]
    simp [Account.ofEnd, Account.after, Account.verdict, ended]
  · -- a run that waits does so at a gate that is closed for its account too
    unfold isBlocked at hb
    split at hb
    next v a hs =>
      have hst := hA.stage
      have hal := hal.stage
      have hrep := hr.stage
      rw [hs] at hst hal hrep
      obtain ⟨hl, hst⟩ := hst
      obtain ⟨-, -, pre, hsteps, -⟩ := hal
      rw [awaited, Option.isNone_iff_eq_none.1 hb] at hst
      rw [hrep.stored, hst.eq id, hsteps]
      simp [Account.after, Account.verdict, hl, hx]
    next => cases hb

end Run

open Run

namespace Engine

variable {σ : Type} {actions : Registry σ} {e₀ e₁ e₂ e : Engine σ} {log more : Log} {x : String}
  {g : FlowGraph} {startMode : String} {payload : Value} {wf : World σ} {A : Account}

/-- The account of an execution of a flow. -/
def accountOf (actions : Registry σ) (w : World σ) (g : FlowGraph) (startMode : String)
    (payload : Value) : Account :=
  account actions w g (.start (.record [("type", .text startMode), ("payload", payload)]))

/-- An execution that has just been started, with its run. -/
theorem stands_of_start (hs : e₁.Sound actions log)
    (hstart : e₁.runGraph g startMode payload = (.ok x, e₂)) (wf : World σ) :
    ∃ ex : Execution, ex.id = x ∧ (ex.status, ex.error) = (.running, none) ∧ (∀ ev, (x, ev) ∉ log) ∧
      e₁.Happens [(x, .started g)] e₂ ∧
      Stands actions g x (Accounted actions wf (accountOf actions wf g startMode payload) ex)
        (log ++ [(x, .started g)]) e₂ := by
  have hh : e₁.Happens [(x, .started g)] e₂ := by
    have := Happens.call (e := e₁) (.start g startMode payload)
    simpa only [Engine.call, hstart] using this
  obtain ⟨-, rfl, i, store, -, rfl⟩ := begun_of_runGraph hstart
  refine ⟨begun g startMode e₁.world, rfl, rfl, fun ev hev => ?_, hh, ?_⟩
  · exact (hs.traced.unused _ (Nat.lt_succ_self _)).1.executions
      (hs.traced.stored (hs.traced.logged _ hev))
  have hs₂ := hh.sound hs
  obtain ⟨r, hc, hr⟩ := hs₂.traced.comes _ g (List.mem_append_right _ (List.mem_singleton_self _))
  have hat : At _ _ r := ⟨hc.keeps.2, hr⟩
  have hmem := (runs_append e₁.ready (.ofExecution g (begun g startMode e₁.world) payload)
    e₁.waiting).mem_iff.1 (List.mem_cons_self ..)
  obtain rfl := At.eq hs₂.traced hat hmem rfl
  refine ⟨_, hat, hc, rfl, fun _ _ _ _ _ => ⟨?_, trivial⟩⟩
  exact ⟨hc.along.stage.1, rfl, .refl ..⟩

/-- What an execution records that is neither asked to stop nor cancelled from without, once its run waits
or is over. -/
theorem recorded_of_develops (h₀ : e₀.Idle) (hm : e₀.world.store.Reliable) (hs : e₀.actions.Steady)
    (h₁ : e₀.Develops log e₁) (hstart : e₁.runGraph g startMode payload = (.ok x, e₂))
    (h₂ : e₂.Develops more e) (hopen : e.world.opened = wf.opened) (hstop : x ∉ e.world.stopping)
    (hint : (x, .interrupted) ∉ more)
    (hrest : ∀ r ∈ e.runs, r.execution.id = x → r.isBlocked e.world = true) :
    let A := accountOf e₀.actions wf g startMode payload
    A.lines = (e.world.store.stepsOf x).map Step.line ∧ A.asks = false ∧
      (e.world.store.execution? x).map (fun y => (y.status, y.error)) = some A.verdict := by
  intro A
  have hs₁ := h₁.steadfast (h₀.steadfast hm)
  rw [List.nil_append] at hs₁
  obtain ⟨ex, rfl, hex, hnew, hh, hst⟩ := stands_of_start hs₁.sound hstart wf
  have hs₂ := hh.steadfast hs₁
  have hs' := h₂.steadfast hs₂
  obtain ⟨r, hr, hc, rfl, hrec⟩ :=
    h₂.stands hs₂ (List.mem_append_right _ (List.mem_singleton_self _)) (accounted_lasting hs g wf A ex) hst
  have href : .refused ∉ Log.of r.execution.id (log ++ [(r.execution.id, .started g)] ++ more) :=
    fun hmem => hs'.unrefused _ (Log.mem_of.1 hmem)
  have hint' : .interrupted ∉ Log.of r.execution.id (log ++ [(r.execution.id, .started g)] ++ more) := by
    intro hmem
    rcases List.mem_append.1 (Log.mem_of.1 hmem) with hmem | hmem
    · simp [hnew] at hmem
    · exact hint hmem
  have hrec := hrec (fun _ => False) hstop (fun h => absurd h hint') (fun h => absurd h href)
    (hopen ▸ List.Subset.refl _)
  refine hrec.of_rest hc.along hc.reported hex href (hr.stands.symm.imp And.left fun hmem => ?_)
  rw [isBlocked_congr hopen.symm]
  exact hrest r hmem rfl

/-! ### An execution by itself -/

/-- An engine that was just made, with a store in memory and some gates open. -/
def alone (actions : Registry σ) (opened : List String) (s : σ) : Engine σ :=
  { actions, world := { now := ⟨0⟩, opened, surroundings := s } }

theorem alone_idle (actions : Registry σ) (opened : List String) (s : σ) :
    (alone actions opened s).Idle :=
  ⟨(new_idle actions s).keyed, (new_idle actions s).unused, rfl, rfl, rfl, rfl, rfl⟩

theorem runGraph_alone (hg : g.reports = .ok []) (actions : Registry σ) (opened : List String) (s : σ)
    (startMode : String) (payload : Value) :
    ∃ y a, (alone actions opened s).runGraph g startMode payload = (.ok y, a) := by
  have hm : (alone actions opened s).world.store.Reliable := ⟨⟨_, rfl⟩, rfl⟩
  rcases runGraph_reliable hm g startMode payload with ⟨hno, -⟩ | ⟨store, -, -, -, hstart⟩
  · exact absurd hg hno
  · exact ⟨_, _, hstart⟩

variable {ex : Execution} {j : Job} {rest : List Job} {ev : Event}

theorem ne_of_mem_events (h : (x, ev) ∈ e.events j) : ev ≠ .interrupted ∧ ∀ g, ev ≠ .started g := by
  cases j with
  | proceed q =>
    obtain ⟨ev, hev, heq⟩ := List.mem_map.1 h
    cases heq
    exact ne_of_events hev
  | deliver => cases h
  | forget y => cases h

theorem ne_of_mem_stepsLog (n : Nat) (h : (x, ev) ∈ e.stepsLog n) :
    ev ≠ .interrupted ∧ ∀ g, ev ≠ .started g := by
  induction n generalizing e with
  | zero => cases h
  | succ n ih =>
    unfold stepsLog at h
    split at h
    next => cases h
    next => exact (List.mem_append.1 h).elim ne_of_mem_events ih

/-- Nothing but one execution was started, which is not asked to stop and goes by an account. -/
structure Sole (actions : Registry σ) (wf : World σ) (A : Account) (g : FlowGraph) (ex : Execution)
    (log : Log) (e : Engine σ) : Prop where
  steadfast : e.Steadfast actions log
  started : (ex.id, .started g) ∈ log
  stands : Stands actions g ex.id (Accounted actions wf A ex) log e
  sole : ∀ x, log.Started x → x = ex.id
  unbroken : (ex.id, .interrupted) ∉ log
  opened : e.world.opened = wf.opened
  unasked : ex.id ∉ e.world.stopping

/-- The run of the only execution. -/
theorem Sole.run (h : Sole actions wf A g ex log e) {q : Run} (hq : q ∈ e.runs) :
    q.execution = ex ∧
      Recounted actions wf (fun _ => False) A q (e.world.history e.delivered (log.of ex.id) ex.id) := by
  obtain ⟨r, hr, hc, hex, hrec⟩ := h.stands
  obtain rfl := hr.eq h.steadfast.sound.traced hq (h.sole _ (h.steadfast.sound.traced.known q hq))
  exact ⟨hex, hrec (fun _ => False) h.unasked (fun hmem => absurd (Log.mem_of.1 hmem) h.unbroken)
    (fun hmem => absurd (Log.mem_of.1 hmem) (h.steadfast.unrefused _)) (h.opened ▸ List.Subset.refl _)⟩

/-- The execution asks itself to stop only if its account says so. -/
theorem Sole.unasked_step (h : Sole actions wf A g ex log e) (hs : actions.Steady)
    (hA : A.asks = false) (hj : e.ready = j :: rest) : ex.id ∉ e.step.world.stopping := by
  have hi : e.ready[0]? = some j := by rw [hj]; rfl
  cases j with
  | proceed q =>
    have hmem : q ∈ e.runs := (runs_perm_of_ready hi).mem_iff.2 (by simp [Job.run?])
    rw [step, world_stepAt hi, h.steadfast.sound.registry]
    cases hq : q.stage with
    | executing v =>
      have hst := (h.run hmem).2.stage
      rw [hq] at hst
      have hasks := hst.2.eq id ▸ hA
      simp only [Account.after, atNode, Account.asking, Bool.or_eq_false_iff] at hasks
      rw [advance_executing hq, attempted_steady hs _ wf.surroundings, hasks.1]
      exact h.unasked
    | _ => rw [advance_stopping (by simp [hq])]; exact h.unasked
  | deliver =>
    simp only [step, stepAt, hi, perform, deliver]
    cases e.world.sent <;> exact h.unasked
  | forget y => simp only [step, stepAt, hi, perform]; exact h.unasked

theorem Sole.step (h : Sole actions wf A g ex log e) (hs : actions.Steady) (hA : A.asks = false)
    (hj : e.ready = j :: rest) : Sole actions wf A g ex (log ++ e.events j) e.step := by
  have hh := step_happens hj
  exact {
    steadfast := hh.steadfast h.steadfast
    started := List.mem_append_left _ h.started
    stands := hh.stands h.steadfast.sound h.steadfast.exact h.started (accounted_lasting hs g wf A ex) h.stands
    sole := fun x ⟨g', hx⟩ => (List.mem_append.1 hx).elim (fun hx => h.sole x ⟨g', hx⟩) fun hx =>
      absurd rfl ((ne_of_mem_events hx).2 g')
    unbroken := fun hx => (List.mem_append.1 hx).elim h.unbroken fun hx => absurd rfl (ne_of_mem_events hx).1
    opened := (opened_stepAt e 0).trans h.opened
    unasked := h.unasked_step hs hA hj }

theorem Sole.steps (h : Sole actions wf A g ex log e) (hs : actions.Steady) (hA : A.asks = false)
    (n : Nat) : Sole actions wf A g ex (log ++ e.stepsLog n) (e.steps n) := by
  induction n generalizing e log with
  | zero => simpa [Engine.steps, stepsLog] using h
  | succ n ih =>
    cases hj : e.ready with
    | nil => simpa [Engine.steps, stepsLog, hj] using h
    | cons j rest =>
      have := ih (h.step hs hA hj)
      rw [List.append_assoc] at this
      simpa [Engine.steps, stepsLog, hj] using this

theorem recorded_of_alone (hs : actions.Steady) (hg : g.reports = .ok [])
    (hA : (accountOf actions wf g startMode payload).asks = false) (s : σ) :
    ∃ y a, (alone actions wf.opened s).runGraph g startMode payload = (.ok y, a) ∧
      (accountOf actions wf g startMode payload).lines =
        (a.settle.world.store.stepsOf y).map Step.line ∧
      (a.settle.world.store.execution? y).map (fun z => (z.status, z.error)) =
        some (accountOf actions wf g startMode payload).verdict := by
  have h₀ := alone_idle actions wf.opened s
  have hm : (alone actions wf.opened s).world.store.Reliable := ⟨⟨_, rfl⟩, rfl⟩
  obtain ⟨y, a, hstart⟩ := runGraph_alone hg actions wf.opened s startMode payload
  refine ⟨y, a, hstart, ?_⟩
  obtain ⟨hstopping, hopened, -⟩ := runGraph_keeps g startMode payload (alone actions wf.opened s)
  rw [hstart] at hstopping hopened
  obtain ⟨ex, rfl, -, -, hh, hst⟩ := stands_of_start h₀.sound hstart wf
  have hs₁ := hh.steadfast (h₀.steadfast hm)
  have hsole : Sole actions wf (accountOf actions wf g startMode payload) g ex [(ex.id, .started g)] a := {
    steadfast := hs₁
    started := List.mem_singleton_self _
    stands := hst
    sole := fun x ⟨g', hx⟩ => by cases List.mem_singleton.1 hx; rfl
    unbroken := by simp
    opened := hopened
    unasked := hstopping ▸ List.not_mem_nil }
  have hend := hsole.steps hs hA a.fuel
  have hblocked := hs₁.sound.blocked_of_settle (hh.parked h₀.parked)
  obtain ⟨hlines, -, hverdict⟩ := recorded_of_develops h₀ hm hs .start hstart
    (steps_interleaved a.fuel a).develops hend.opened hend.unasked
    (fun hmem => hend.unbroken (List.mem_append_right _ hmem)) fun r hr _ => hblocked r hr
  exact ⟨hlines, hverdict⟩

end Engine

open Engine

variable {σ : Type} {e₀ e₁ e₂ e : Engine σ} {log more : Log} {x : String} {g : FlowGraph}
  {startMode : String} {payload : Value}

/-- What an execution records beside others, once its run waits or is over, is what it records by itself,
with the same gates open. -/
theorem independent_of_develops (h₀ : e₀.Idle) (hm : e₀.world.store.Reliable) (hs : e₀.actions.Steady)
    (h₁ : e₀.Develops log e₁) (hstart : e₁.runGraph g startMode payload = (.ok x, e₂))
    (h₂ : e₂.Develops more e)
    -- the execution itself is not asked to stop, and not cancelled from without
    (hstop : x ∉ e.world.stopping) (hint : (x, .interrupted) ∉ more)
    (hrest : ∀ r ∈ e.runs, r.execution.id = x → r.isBlocked e.world = true) (s : σ) :
    ∃ y a, (alone e₀.actions e.world.opened s).runGraph g startMode payload = (.ok y, a) ∧
      (e.world.store.stepsOf x).map Step.line = (a.settle.world.store.stepsOf y).map Step.line ∧
      ∃ ending other, e.world.store.execution? x = some ending ∧
        a.settle.world.store.execution? y = some other ∧
        ending.status = other.status ∧ ending.error = other.error := by
  obtain ⟨hlines, hasks, hverdict⟩ :=
    recorded_of_develops h₀ hm hs h₁ hstart h₂ rfl hstop hint hrest
  have hg : g.reports = .ok [] := (begun_of_runGraph hstart).1
  obtain ⟨y, a, ha, hlines', hverdict'⟩ := recorded_of_alone hs hg hasks s
  refine ⟨y, a, ha, hlines.symm.trans hlines', ?_⟩
  obtain ⟨ending, hend, hv⟩ := Option.map_eq_some_iff.1 hverdict
  obtain ⟨other, hother, hv'⟩ := Option.map_eq_some_iff.1 hverdict'
  obtain ⟨hstatus, herror⟩ := Prod.mk.inj (hv.trans hv'.symm)
  exact ⟨ending, other, hend, hother, hstatus, herror⟩

theorem eq_ok_of_toOption {ε α β : Type} {p : Except ε α × β} {a : α} (h : p.1.toOption = some a) :
    p = (.ok a, p.2) := by
  rcases p with ⟨f | b, e⟩ <;> cases h
  rfl

theorem gatedFetch_steady : (⟨[("fetch", gatedFetch)]⟩ : Registry Unit).Steady := by
  intro p hp params s s'
  rw [List.mem_singleton.1 hp]
  exact ⟨rfl, rfl⟩

/-- Two executions of a flow on one engine: the first is cancelled while both wait and the flow is deleted,
and the second records what it records by itself. -/
theorem independent_of_gatedFetch :
    let first := (Engine.new ⟨[("fetch", gatedFetch)]⟩ ()).call (.start .labelled "manual" .null)
    let second := (first.2.steps 60).runGraph .labelled "manual" (.text "hello")
    let asked := ((second.2.steps 60).cancel (idOf 1)).1.deleteFlow "labelled"
    let later := (asked.call (.release "gate")).2.steps 60
    ∃ x y a, second.1 = .ok x ∧
      (alone ⟨[("fetch", gatedFetch)]⟩ ["gate"] ()).runGraph .labelled "manual" (.text "hello") = (.ok y, a) ∧
      (later.world.store.execution? (idOf 1)).map Execution.status = some .cancelled ∧
      (later.world.store.execution? x).map Execution.status = some .success ∧
      (a.settle.world.store.execution? y).map Execution.status = some .success ∧
      (later.world.store.stepsOf x).map Step.line = (a.settle.world.store.stepsOf y).map Step.line := by
  intro first second asked later
  have h₁ : (Engine.new ⟨[("fetch", gatedFetch)]⟩ ()).Develops _ (first.2.steps 60) :=
    (call_steps_interleaved _ _ 60).develops
  have hid : second.1.toOption = some (idOf 4) := by decide +kernel
  have hrun : (first.2.steps 60).runGraph .labelled "manual" (.text "hello") = second := rfl
  have hstart : second = (.ok (idOf 4), second.2) := eq_ok_of_toOption hid
  have hasked : second.2.Develops (second.2.stepsLog 60) asked :=
    ((steps_interleaved 60 second.2).cancel (idOf 1)).develops.delete "labelled"
  have h₂ : second.2.Develops _ later :=
    hasked.trans (call_steps_interleaved asked (.release "gate") 60).develops
  have hint : (idOf 4, .interrupted) ∉
      second.2.stepsLog 60 ++ ([] ++ (asked.call (.release "gate")).2.stepsLog 60) := by
    rw [List.nil_append]
    exact fun hmem => (List.mem_append.1 hmem).elim (fun h => (ne_of_mem_stepsLog 60 h).1 rfl)
      fun h => (ne_of_mem_stepsLog 60 h).1 rfl
  have hstop : (later.world.stopping.contains (idOf 4)) = false := by decide +kernel
  have hover : later.runs.length = 0 := by decide +kernel
  have hfirst : (later.world.store.execution? (idOf 1)).map Execution.status = some .cancelled := by
    decide +kernel
  have hsecond : (later.world.store.execution? (idOf 4)).map Execution.status = some .success := by
    decide +kernel
  have hopened : later.world.opened = ["gate"] := by decide +kernel
  clear_value later asked second first
  obtain ⟨y, a, ha, hlines, ending, other, hend, hother, hstatus, -⟩ :=
    independent_of_develops (Engine.new_idle _ ()) ⟨⟨_, rfl⟩, rfl⟩ gatedFetch_steady h₁ (hrun.trans hstart) h₂
      (by simpa using hstop) hint (by rw [List.length_eq_zero_iff.1 hover]; simp) ()
  rw [hopened] at ha
  refine ⟨idOf 4, y, a, congrArg Prod.fst hstart, ha, hfirst, hsecond, ?_, hlines⟩
  rw [hother, Option.map_some, ← hstatus]
  rwa [hend] at hsecond

end Workflow
