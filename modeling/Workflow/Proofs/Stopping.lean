import Workflow.Proofs.OpenSteps
import Workflow.Proofs.Outcomes

/-!
# What a request to stop leads to

Once an execution is asked to stop its run comes to no more nodes: those that are left (`Stage.left?`)
get no step and no executor is called for them. The node in progress runs to its end and its step is
recorded. Then the execution has failed if that node has, it has succeeded if no node was left, and
otherwise it is cancelled (`halted_of_cancel`). That is so unless the store refuses a write
(`failed_of_refusedFetch`) or the node in progress is broken off. `Run.Stopping` is the invariant of the
run from the request on.
-/

namespace Workflow

namespace Run

variable {σ : Type} {actions : Registry σ} {g : FlowGraph} {r r' : Run} {h : History} {eff : Effect}
  {evs : List Event} {steps : List Step} {rest : List Node} {v : Visit} {q : Sequel} {n : Node}

/-- The nodes that are left at a stage, behind the node in progress if there is one. -/
def Stage.left? (g : FlowGraph) : Stage → Option (List Node)
  | fresh => g.order.toOption
  | before rest => some rest
  | recording v _ => some v.rest
  | announcing v _ => some v.rest
  | executing v => some v.rest
  | performed v _ => some v.rest
  | _ => none

/-- No step is of a node that is left. -/
def Spares (g : FlowGraph) (steps : List Step) (rest : List Node) : Prop :=
  ∃ more, Covers g steps (more ++ rest)

theorem Covers.spares (h : Covers g steps rest) : Spares g steps rest := ⟨[], h⟩

theorem Spares.node_ne (h : Spares g steps rest) (hn : n ∈ rest) {s : Step} (hs : s ∈ steps) :
    s.node ≠ n.id := by
  obtain ⟨more, before, ho, hb⟩ := h
  have hnd := (FlowGraph.isOrder_of_order ho).nodup
  rw [List.map_append, List.nodup_append] at hnd
  have hmem : s.node ∈ before.map Node.id := hb ▸ List.mem_map_of_mem hs
  exact hnd.2.2 _ hmem _ (List.mem_map_of_mem (List.mem_append_right _ hn))

/-- Before the first node nothing has a step. -/
theorem Spares.eq_nil (h : Spares g steps rest) (ho : g.order = .ok rest) : steps = [] := by
  obtain ⟨more, before, ho', hb⟩ := h
  have hlen := congrArg List.length (Except.ok.inj (ho.symm.trans ho'))
  simp only [List.length_append] at hlen
  have hnil : before = [] := List.length_eq_zero_iff.1 (by omega)
  rw [hnil] at hb
  exact List.map_eq_nil_iff.1 hb

theorem Visiting.covers {pre : List Step} {followed : List Nat} (hv : Visiting g pre followed v) :
    Covers g (pre ++ [v.step]) v.rest := hv.laid.order

theorem Visiting.not_left {pre : List Step} {followed : List Nat} (hv : Visiting g pre followed v) :
    v.node ∉ v.rest := by
  intro hmem
  exact hv.covers.spares.node_ne hmem (s := v.step) (by simp) hv.node

theorem Along.spares (hal : Along r h) (hl : r.stage.left? r.graph = some rest) :
    Spares r.graph h.steps rest := by
  have hst := hal.stage
  cases hs : r.stage <;> rw [hs] at hst hl
  case fresh =>
    cases ho : r.graph.order with
    | error f => rw [Stage.left?, ho] at hl; cases hl
    | ok l =>
      rw [Stage.left?, ho] at hl
      cases hl
      rw [hst.1]
      exact ⟨[], [], ho, rfl⟩
  case before l => cases hl; exact (show Covers _ _ _ from hst.laid.order).spares
  case recording v q =>
    cases hl
    obtain ⟨hq, hst⟩ := hst
    split at hst
    next => exact ⟨[v.node], hst.trail.laid.order⟩
    next hnew =>
      obtain ⟨-, pre, s, hsteps, -, hn, hne, hv⟩ := hst
      rw [hsteps]
      exact (hv.withStep (hq.not_skipped hnew) hn hne).covers.spares
  case announcing v q =>
    cases hl
    obtain ⟨-, pre, hsteps, hv⟩ := hst
    rw [hsteps]
    exact hv.covers.spares
  case executing v =>
    cases hl
    obtain ⟨-, pre, hsteps, hv⟩ := hst
    rw [hsteps]
    exact hv.covers.spares
  case performed v a =>
    cases hl
    obtain ⟨-, -, pre, hsteps, hv⟩ := hst
    rw [hsteps]
    exact hv.covers.spares
  all_goals cases hl

/-! ### From the request on -/

/-- How a walk ends that was asked to stop while some nodes were left: behind the node in progress. -/
structure Halts (g : FlowGraph) (steps : List Step) (rest : List Node) (result : Outcome Progress) :
    Prop where
  covers : Covers g steps rest
  bears : Bears g steps result
  completed : result = .ok .completed → rest = []
  stopped : result = .ok .stopped → rest ≠ []
  failed : ∀ f, result = .error f → ¬ Unfailed steps

/-- A run that was asked to stop while some nodes were left, unless the store refuses a write or the
run is broken off. -/
structure Stopping (rest : List Node) (r : Run) (h : History) : Prop where
  spares : Spares r.graph h.steps rest
  left : r.stage.left? r.graph = some rest ∨ r.stage.isClosing = true
  ends : .refused ∉ h.events → ¬ BrokenOff h.events →
    r.stage.Ends (Halts r.graph h.steps rest) r.execution h

theorem Stopping.of_left (hal : Along r h) (hl : r.stage.left? r.graph = some rest) :
    Stopping rest r h := by
  refine ⟨hal.spares hl, .inl hl, fun _ _ => ?_⟩
  cases hs : r.stage <;> rw [hs] at hl <;> trivial

theorem Stopping.of_broken {f : Failure} (hs : Spares r.graph h.steps rest)
    (hb : .refused ∈ h.events ∨ BrokenOff h.events) :
    Stopping rest (r.moveTo (.ending (.error f))) h :=
  ⟨hs, .inr rfl, fun hok hno => (hb.elim hok hno).elim⟩

theorem proceed_stopping (hedges : ∀ d ∈ r.graph.edges, d.check = .ok ()) {pre : List Step}
    (hv : Visiting r.graph pre r.followed v) (hq : q.Suits v) (hsteps : h.steps = pre ++ [v.step])
    (hb : Scored (r.orEnding (r.proceed v q)) h) : Stopping v.rest (r.orEnding (r.proceed v q)) h := by
  have hcovers : Covers r.graph h.steps v.rest := hsteps ▸ hv.covers
  cases q with
  | execute => exact ⟨hcovers.spares, .inl rfl, fun _ _ => trivial⟩
  | pass => exact ⟨hcovers.spares, .inl rfl, fun _ _ => trivial⟩
  | follow o =>
    cases hf : followedFrom r.graph v.node.id o.branch with
    | error f =>
      obtain ⟨d, hd, hcheck⟩ := followedFrom_error hf
      rw [hedges d hd] at hcheck
      cases hcheck
    | ok more =>
      simp only [proceed, hf, bind, Except.bind, orEnding]
      exact ⟨hcovers.spares, .inl rfl, fun _ _ => trivial⟩
  | stop f =>
    refine ⟨hcovers.spares, .inr rfl, fun _ _ => ⟨hcovers, hb.ends, by simp, by simp, fun _ _ hun => ?_⟩⟩
    exact hun v.step (hsteps ▸ by simp) hq

theorem conclude_stopping {now : Instant} {o : Outcome NodeOutcome} (hrun : v.step.status = .running)
    (hs : Spares r.graph h.steps v.rest) :
    Stopping v.rest (r.orEnding (r.conclude v now o))
      { h with events := h.events ++ [.executed v.node o] } := by
  rcases orEnding_cases r (r.conclude v now o) with ⟨f, hr, hr'⟩ | ⟨r', hr, hr'⟩ <;> rw [hr']
  · refine .of_broken hs (.inr (brokenOff_append.2 (.inr (brokenOff_singleton.2 ?_))))
    exact breaksOff_of_conclude hrun hr
  · obtain ⟨no, s, -, -, rfl⟩ := conclude_ok hr
    exact ⟨hs, .inl rfl, fun _ _ => trivial⟩

/-- A move of a run that draws no id: it goes on with the node in progress, or the walk ends. -/
theorem Move.stopping (hm : Move actions r eff evs r') (hc : Comes actions g x r h) (ha : h.Admits eff)
    (hd : eff.drawn? = none) (hedges : ∀ d ∈ g.edges, d.check = .ok ()) (hst : Stopping rest r h) :
    Stopping rest r' (h.after evs eff) := by
  have hal := hc.along.stage
  have hsc' := (hc.move hm ha).scored
  have hedges : ∀ d ∈ r.graph.edges, d.check = .ok () := hc.keeps.1 ▸ hedges
  obtain ⟨hspares, hleft, hends⟩ := hst
  rcases hleft with hleft | hcl
  · cases hm with
    | order hs ho =>
      rw [hs, Stage.left?, ho] at hleft
      cases hleft
      exact ⟨hspares, .inl rfl, fun _ _ => trivial⟩
    | disorder hs ho => rw [hs, Stage.left?, ho] at hleft; cases hleft
    | complete hs =>
      rw [hs] at hleft hal
      cases hleft
      exact ⟨hspares, .inr rfl, fun _ _ => ⟨hal.laid.order, hsc'.ends, fun _ => rfl, by simp, by simp⟩⟩
    | stop hs =>
      rw [hs] at hleft hal
      cases hleft
      exact ⟨hspares, .inr rfl, fun _ _ => ⟨hal.laid.order, hsc'.ends, by simp, fun _ => by simp, by simp⟩⟩
    | unclear hs hr =>
      obtain ⟨d, hd, hcheck⟩ := reached_error hr
      rw [hedges d hd] at hcheck
      cases hcheck
    | enter id now hs => cases hd
    | skip id now hs => cases hd
    | @record v q hs =>
      have hl : (r.moveTo (.announcing v q)).stage.left? r.graph = some rest := by
        rw [hs] at hleft; exact hleft
      exact .of_left (hc.move (.record hs) ha).along hl
    | refuse f hs => exact .of_broken hspares (.inl (by simp [History.after]))
    | announce hs =>
      rw [hs] at hleft hal
      cases hleft
      obtain ⟨hq, pre, hsteps, hv⟩ := hal
      exact proceed_stopping hedges hv hq hsteps hsc'
    | execute hs ha =>
      rw [hs] at hleft
      exact ⟨hspares, .inl hleft, fun _ _ => trivial⟩
    | conclude hs ho =>
      rw [hs] at hleft hal
      cases hleft
      exact conclude_stopping hal.1 hspares
    | interrupt message hs =>
      exact .of_broken hspares (.inr (brokenOff_append.2 (.inr (brokenOff_singleton.2 trivial))))
    | finish now hs => rw [hs] at hleft; cases hleft
    | store hs => rw [hs] at hleft; cases hleft
    | unstored hs => rw [hs] at hleft; cases hleft
    | tell hs => rw [hs] at hleft; cases hleft
  · obtain ⟨hcl', hsteps, -⟩ := hm.ends hc.consistent hc.reported hcl hc.scored.ends
    refine ⟨by rw [hsteps, hm.keeps.1]; exact hspares, .inr hcl', fun hok hno => ?_⟩
    rw [History.events_after] at hok hno
    have he := hends (fun hmem => hok (List.mem_append_left _ hmem))
      (fun hb => hno (brokenOff_append.2 (.inl hb)))
    rw [hsteps, hm.keeps.1]
    exact (hm.ends hc.consistent hc.reported hcl he).2.2

theorem Stopping.not_calls (hst : Stopping rest r h) (hal : Along r h) (hn : n ∈ rest) : ¬ r.Calls n := by
  rintro ⟨v, hs, rfl⟩
  have hal := hal.stage
  rw [hs] at hal
  obtain ⟨-, pre, -, hv⟩ := hal
  rcases hst.left with hl | hcl
  · rw [hs] at hl
    cases hl
    exact hv.not_left hn
  · rw [hs] at hcl
    cases hcl

end Run

open Run

variable {σ : Type} {e₀ e e' : Engine σ} {log more : Log} {x : String} {g : FlowGraph} {r : Run}

/-- How an execution has ended that was asked to stop while some nodes were left. -/
structure Halted (g : FlowGraph) (steps : List Step) (rest : List Node) (ending : Execution) : Prop where
  /-- All nodes but those that are left have their step. -/
  covers : Covers g steps rest
  outcome :
    -- the node in progress has failed
    (∃ pre s, steps = pre ++ [s] ∧ Clean pre ∧ s.status = .error ∧ FailedAt g s ending) ∨
    Clean steps ∧
      (rest = [] ∧ ending.status = .success ∧ ending.error = none ∨
        rest ≠ [] ∧ ending.status = .cancelled ∧ ending.error = some Execution.cancelledText)

theorem Run.Halts.halted {steps : List Step} {rest : List Node} {result : Outcome Progress}
    (hh : Halts g steps rest result) (hids : (g.nodes.map Node.id).Nodup) (ex : Execution)
    (now : Instant) : Halted g steps rest (ended ex now result) := by
  refine ⟨hh.covers, ?_⟩
  match result with
  | .ok .completed => exact .inr ⟨hh.bears.2, .inl ⟨hh.completed rfl, rfl, rfl⟩⟩
  | .ok .stopped => exact .inr ⟨hh.bears, .inr ⟨hh.stopped rfl, rfl, rfl⟩⟩
  | .error f =>
    rcases hh.bears with hun | ⟨pre, s, hsteps, hc, hf⟩
    · exact absurd hun (hh.failed f rfl)
    · exact .inl ⟨pre, s, hsteps, hc, hf.1, hf.failedAt hids ex now⟩

theorem exists_left (h : e₀.Interleaved log e) (hx : (x, .started g) ∈ log)
    (hids : (g.nodes.map Node.id).Nodup) (hcl : r.stage.isClosing = false) :
    ∃ rest, r.stage.left? g = some rest := by
  cases hs : r.stage <;> rw [hs] at hcl
  case fresh =>
    have hv := FlowGraph.isValid_of_reports (h.reports_of_started hx)
    obtain ⟨-, l, hl, -⟩ | ⟨hno, -⟩ := FlowGraph.isValid_order_iff hv
    · exact ⟨l, by rw [Stage.left?, hl]; rfl⟩
    · exact absurd hids hno
  all_goals first | exact ⟨_, rfl⟩ | cases hcl

theorem Engine.Interleaved.cancel (h : e₀.Interleaved log e) (x : String) :
    e₀.Interleaved log (e.cancel x).1 := by
  have hcall := h.step (.call (.cancel x))
  rwa [show (e.call (.cancel x)).1 = [] from rfl, List.append_nil] at hcall

theorem stopping_of_cancel (hc : (e.cancel x).2 = true) : x ∈ (e.cancel x).1.world.stopping := by
  unfold Engine.cancel at hc ⊢
  split at hc
  next hrun => rw [if_pos hrun]; simp
  next => cases hc

theorem stopping_of_interleaved (h₀ : e₀.Idle) (h : e₀.Interleaved log e)
    (hx : (x, .started g) ∈ log) (hedges : ∀ d ∈ g.edges, d.check = .ok ()) {rest : List Node}
    (hr : r ∈ e.runs) (hrx : r.execution.id = x) (hrest : r.stage.left? g = some rest)
    (hcancel : (e.cancel x).2 = true) (h' : (e.cancel x).1.Interleaved more e') :
    ∃ r', e'.At x r' ∧
      Comes e₀.actions g x r' (e'.world.history e'.delivered ((log ++ more).of x) x) ∧
      Stopping rest r' (e'.world.history e'.delivered ((log ++ more).of x) x) := by
  have hasked := h.cancel x
  have hruns : (e.cancel x).1.runs = e.runs := by unfold Engine.cancel; split <;> rfl
  obtain ⟨q, hc, hq⟩ := hasked.run_of_started h₀ hx
  have hat : (e.cancel x).1.At x q := ⟨hc.keeps.2, hq⟩
  obtain rfl := Engine.At.eq (hasked.sound h₀).traced hat (hruns ▸ hr) hrx
  refine h'.follow (hasked.sound h₀) hat hc hx (fun hc hm ha hd hst => ?_)
    (.of_left hc.along (hc.keeps.1.symm ▸ hrest))
  exact hm.stopping hc ha (hd (stopping_of_cancel hcancel)) hedges hst

/-- What a request to stop leads to that comes before the end of the walk. -/
theorem halted_of_cancel (h₀ : e₀.Idle) (h : e₀.Interleaved log e) (hx : (x, .started g) ∈ log)
    (hids : (g.nodes.map Node.id).Nodup) (hedges : ∀ d ∈ g.edges, d.check = .ok ()) (hr : r ∈ e.runs)
    (hrx : r.execution.id = x) (hcl : r.stage.isClosing = false) (hcancel : (e.cancel x).2 = true)
    (h' : (e.cancel x).1.Interleaved more e') :
    ∃ rest, r.stage.left? g = some rest ∧
      (∀ n ∈ rest, (∀ s ∈ e'.world.store.stepsOf x, s.node ≠ n.id) ∧
        ∀ q ∈ e'.runs, q.execution.id = x → ¬ q.Calls n) ∧
      (r.stage = .fresh → rest ≠ [] ∧ e'.world.store.stepsOf x = []) ∧
      (∀ q ∈ e'.settle.runs, q.execution.id = x → q.isBlocked e'.settle.world = true) ∧
      ((∀ q ∈ e'.runs, q.execution.id ≠ x) → .refused ∉ (log ++ more).of x →
        ¬ BrokenOff ((log ++ more).of x) →
        ∃ ending, e'.world.store.execution? x = some ending ∧
          Halted g (e'.world.store.stepsOf x) rest ending) := by
  have hasked := h.cancel x
  have hall := hasked.trans h'
  obtain ⟨rest, hrest⟩ := exists_left h hx hids hcl
  obtain ⟨r', hr', hc, hst⟩ := stopping_of_interleaved h₀ h hx hedges hr hrx hrest hcancel h'
  have hspares : Spares g (e'.world.store.stepsOf x) rest := hc.keeps.1 ▸ hst.spares
  refine ⟨rest, hrest, fun n hn => ⟨fun s hs => hspares.node_ne hn hs, fun q hq hid => ?_⟩,
    fun hfresh => ?_, fun q hq _ => ?_, fun hover hok hno => ?_⟩
  · obtain rfl := hr'.eq (hall.sound h₀).traced hq hid
    exact hst.not_calls hc.along hn
  · rw [hfresh] at hrest
    cases ho : g.order with
    | error f => rw [Stage.left?, ho] at hrest; cases hrest
    | ok l =>
      rw [Stage.left?, ho] at hrest
      cases hrest
      refine ⟨?_, hspares.eq_nil ho⟩
      rintro rfl
      have hv := FlowGraph.isValid_of_reports (h.reports_of_started hx)
      exact Validation.nonempty_of_isValid hv (FlowGraph.isOrder_of_order ho).perm.nil_eq.symm
  · exact (hall.sound h₀).blocked_of_settle (hall.parked h₀.parked) q hq
  · have hover : r'.isOver = true := hr'.stands.elim (fun hmem => absurd hr'.id (hover r' hmem)) And.left
    obtain ⟨now, result, -, hstored, hh⟩ := (hst.ends hok hno).of_over hover
    rw [hc.keeps.1] at hh
    exact ⟨_, hstored hok, hh.halted hids _ now⟩

/-- An action that waits for a gate. -/
def gatedFetch : Executor Unit where
  type := "fetch"
  perform _ s := ({ reply := .waiting (.text "gate") ⟨true, .null⟩ }, s)

/-- A run that is asked to stop while an action waits, with a node behind it. -/
theorem halted_of_gatedFetch :
    let started := (Engine.new ⟨[("fetch", gatedFetch)]⟩ ()).call (.start .labelled "manual" .null)
    let asked := ((started.2.steps 60).cancel (idOf 1)).1
    let released := asked.call (.release "gate")
    ∃ ending, (released.2.steps 60).world.store.execution? (idOf 1) = some ending ∧
      ending.status = .cancelled ∧ ending.error = some Execution.cancelledText ∧
      ∀ s ∈ (released.2.steps 60).world.store.stepsOf (idOf 1), s.node ≠ "note" := by
  intro started asked released
  have h : (Engine.new ⟨[("fetch", gatedFetch)]⟩ ()).Interleaved
      (started.1 ++ started.2.stepsLog 60) (started.2.steps 60) :=
    Engine.call_steps_interleaved _ _ 60
  have hx : (idOf 1, .started .labelled) ∈ started.1 ++ started.2.stepsLog 60 :=
    List.mem_append_left _ (List.mem_singleton_self _)
  have h' : asked.Interleaved (released.1 ++ released.2.stepsLog 60) (released.2.steps 60) :=
    Engine.call_steps_interleaved _ _ 60
  have hcancel : ((started.2.steps 60).cancel (idOf 1)).2 = true := by decide +kernel
  have hwaits : ((started.2.steps 60).runs.map fun r =>
      (r.execution.id, r.stage.isClosing, (r.stage.left? .labelled).map (List.map Node.id))) =
      [(idOf 1, false, some ["note"])] := by decide +kernel
  have hover : (released.2.steps 60).runs.length = 0 := by decide +kernel
  have hstatus : ((released.2.steps 60).world.store.execution? (idOf 1)).map Execution.status =
      some .cancelled := by decide +kernel
  have hsteps : ((released.2.steps 60).world.store.stepsOf (idOf 1)).map Step.status =
      [.success, .success] := by decide +kernel
  have hok : .refused ∉ Log.of (idOf 1)
      (started.1 ++ started.2.stepsLog 60 ++ (released.1 ++ released.2.stepsLog 60)) :=
    refused_notMem (by decide +kernel)
  have hedges : ∀ d ∈ FlowGraph.labelled.edges, d.check = .ok () := by
    intro d hd
    rcases List.mem_cons.1 hd with rfl | hd
    · rfl
    · rw [List.mem_singleton.1 hd]; rfl
  obtain ⟨r, hruns, hr⟩ := List.map_eq_singleton_iff.1 hwaits
  obtain ⟨hrx, hr⟩ := Prod.mk.inj hr
  obtain ⟨hcl, hleft⟩ := Prod.mk.inj hr
  obtain ⟨rest, hrest, hspared, -, -, hend⟩ := halted_of_cancel (Engine.new_idle _ ()) h hx (by decide)
    hedges (hruns ▸ List.mem_singleton_self r) hrx hcl hcancel h'
  obtain ⟨n, hn, hid⟩ : ∃ n ∈ rest, n.id = "note" := by
    rw [hrest] at hleft
    have hids : rest.map Node.id = ["note"] := Option.some.inj hleft
    exact List.mem_map.1 (hids ▸ List.mem_singleton_self "note")
  -- all steps have ended, so that the run was not broken off
  obtain ⟨stored, hst, hstatus⟩ := Option.map_eq_some_iff.1 hstatus
  have hsettled : Settled ((released.2.steps 60).world.store.stepsOf (idOf 1)) := by
    intro s hs
    have hmem := List.mem_map_of_mem (f := Step.status) hs
    rw [hsteps] at hmem
    have hsucc : s.status = .success := by simpa using hmem
    rw [hsucc]
    rfl
  have hno : ¬ BrokenOff (Log.of (idOf 1)
      (started.1 ++ started.2.stepsLog 60 ++ (released.1 ++ released.2.stepsLog 60))) :=
    not_brokenOff_of_settled (Engine.new_idle _ ()) ((h.cancel (idOf 1)).trans h')
      (List.mem_append_left _ hx) hok hst (by rw [hstatus]; rfl) hsettled
  have hnil : ∀ q ∈ (released.2.steps 60).runs, q.execution.id ≠ idOf 1 := by
    rw [List.length_eq_zero_iff.1 hover]
    exact fun q hq => absurd hq List.not_mem_nil
  obtain ⟨ending, hst', hhalted⟩ := hend hnil hok hno
  obtain rfl : ending = stored := Option.some.inj (hst'.symm.trans hst)
  have hspare : ∀ s ∈ (released.2.steps 60).world.store.stepsOf (idOf 1), s.node ≠ "note" := by
    intro s hs
    rw [← hid]
    exact (hspared n hn).1 s hs
  rcases hhalted.outcome with ⟨pre, s, -, -, -, hf⟩ | ⟨-, ⟨hnone, -⟩ | ⟨-, -, herror⟩⟩
  · exact absurd (hstatus.symm.trans hf.status) (by simp)
  · rw [hnone] at hn
    cases hn
  · exact ⟨ending, hst, hstatus, herror, hspare⟩

/-- A store that refuses to close the step in progress: the execution has failed, though no step has and
a node is left. -/
theorem failed_of_refusedFetch :
    let store : Store := { outages := [⟨.updateStep, 1, ⟨.runtime, "db down"⟩⟩] }
    let e₀ : Engine Unit :=
      { actions := ⟨[("fetch", gatedFetch)]⟩, world := { now := ⟨0⟩, store, surroundings := () } }
    let asked := ((e₀.call (.start .labelled "manual" .null)).2.steps 60).cancel (idOf 1)
    let later := (asked.1.release "gate").steps 60
    asked.2 = true ∧ later.runs.length = 0 ∧
    (later.world.store.stepsOf (idOf 1)).map (fun s => (s.node, s.status)) =
      [("start", .success), ("fetch", .running)] ∧
    (later.world.store.execution? (idOf 1)).map (fun ending => (ending.status, ending.error)) =
      some (.failed, some "db down") := by
  decide +kernel

end Workflow
