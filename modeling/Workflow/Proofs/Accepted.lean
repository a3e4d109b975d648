import Workflow.Proofs.Events
import Workflow.Proofs.Nodes

/-!
# Runs of accepted flows

A flow that the checks before a run accept has an order if and only if the ids of its nodes are
pairwise different; then it lists every node once, and no run of the flow ends for want of an order.
If an id is repeated there is none, and every run ends at once, with a cycle as the reason
(`cyclicFlow_iff_of_valid`).
-/

namespace Workflow

namespace Run

variable {σ : Type} {actions : Registry σ} {g : FlowGraph} {r r' : Run} {h : History} {eff : Effect}
  {evs : List Event}

/-- A flow has an order. -/
def Ordered (g : FlowGraph) : Prop := ∃ l, g.order = .ok l

/-- A walk ends with a failure of running flows only for want of an order. -/
def Lawful (g : FlowGraph) : Outcome Progress → Prop
  | .ok _ => Ordered g
  | .error f => g.order = .error f ∨ Ordered g ∧ f.kind ≠ .execution

/-- How the walk of a run may end from a stage. -/
def Stage.Lawful (g : FlowGraph) : Stage → Prop
  | .fresh => True
  | .recording _ (.stop f) => Ordered g ∧ f.kind ≠ .execution
  | .announcing _ (.stop f) => Ordered g ∧ f.kind ≠ .execution
  | .performed v a => Ordered g ∧ a.Fits v.node
  | .ending res => Run.Lawful g res
  | .storing _ _ => True
  | .telling _ _ => True
  | .atEnd _ => True
  | _ => Ordered g

/-- Only a flow with an order has steps. -/
def EventLawful (g : FlowGraph) : Event → Prop
  | .ended res => Lawful g res
  | .wrote _ => Ordered g
  | _ => True

theorem nodeFailure_kind (n : Node) (message : String) : (nodeFailure n message).kind ≠ .execution := by
  rcases nodeFailure_cases n message with ⟨name, -, h⟩ | ⟨-, h⟩ <;> rw [h]
  · simp [Failure.ofNode]
  · simp [Failure.longInteger]

theorem closed_kind {s : Step} {o : NodeOutcome} {now : Instant} {f : Failure}
    (h : closed s o now = .error f) : f.kind ≠ .execution := by
  cases hi : Step.dataText o.input with
  | error f' =>
    rw [closed, hi] at h
    cases h
    exact Step.dataText_error hi
  | ok input =>
    by_cases hs : s.status.isTerminal = true
    · rw [closed, hi] at h
      cases he : o.error <;>
        simp only [bind, Except.bind, he, Step.succeed, Step.fail, Step.finish, hs, if_true] at h <;>
        cases h <;> simp [Step.alreadyEnded]
    · rw [closed_eq (by simpa using hs) hi] at h
      unfold Step.withOutput at h
      cases ho : Step.dataText o.output with
      | error f' =>
        rw [ho] at h
        cases h
        exact Step.dataText_error ho
      | ok text => rw [ho] at h; cases h

theorem proceed_lawful {v : Visit} {q : Sequel} (hl : (Stage.announcing v q).Lawful g) :
    (r.orEnding (r.proceed v q)).stage.Lawful g := by
  cases q with
  | execute => exact hl
  | pass => exact hl
  | follow o =>
    have hl : Ordered g := hl
    cases hf : followedFrom r.graph v.node.id o.branch with
    | error f =>
      obtain ⟨d, -, hd⟩ := followedFrom_error hf
      simp only [proceed, hf, bind, Except.bind, orEnding]
      exact .inr ⟨hl, by simp [Edge.check_error hd]⟩
    | ok more =>
      simp only [proceed, hf, bind, Except.bind, orEnding]
      exact hl
  | stop f => exact .inr hl

theorem conclude_lawful {v : Visit} {now : Instant} {o : Outcome NodeOutcome} (hl : Ordered g)
    (hf : Fits v.node o) : (r.orEnding (r.conclude v now o)).stage.Lawful g := by
  cases o with
  | error f =>
    refine .inr ⟨hl, ?_⟩
    rw [show f.kind = .cancelled from hf]
    simp
  | ok no =>
    cases hc : closed v.step no now with
    | error f =>
      simp only [conclude, hc, bind, Except.bind, orEnding]
      exact .inr ⟨hl, closed_kind hc⟩
    | ok s =>
      simp only [conclude, hc, bind, Except.bind, orEnding, pure, Except.pure, stage_moveTo, sequelOf]
      cases no.error with
      | none => exact hl
      | some message => exact ⟨hl, nodeFailure_kind _ _⟩

theorem Move.lawful (hm : Move actions r eff evs r') (hc : Consistent r h) (hok : .refused ∉ evs)
    (hl : r.stage.Lawful r.graph) :
    r'.stage.Lawful r.graph ∧ ∀ ev ∈ evs, EventLawful r.graph ev := by
  have hnone : ∀ ev ∈ ([] : List Event), EventLawful r.graph ev := fun _ h => absurd h List.not_mem_nil
  have hone : ∀ {ev₀ : Event}, EventLawful r.graph ev₀ → ∀ ev ∈ [ev₀], EventLawful r.graph ev :=
    fun h _ hev => List.mem_singleton.1 hev ▸ h
  cases hm with
  | order hs ho => exact ⟨⟨_, ho⟩, hnone⟩
  | disorder hs ho => exact ⟨.inl ho, hnone⟩
  | complete hs => rw [hs] at hl; exact ⟨hl, hnone⟩
  | stop hs => rw [hs] at hl; exact ⟨hl, hnone⟩
  | unclear hs hr =>
    rw [hs] at hl
    obtain ⟨d, -, hd⟩ := reached_error hr
    exact ⟨.inr ⟨hl, by simp [Edge.check_error hd]⟩, hnone⟩
  | enter id now hs => rw [hs] at hl; exact ⟨hl, hnone⟩
  | skip id now hs => rw [hs] at hl; exact ⟨hl, hnone⟩
  | @record v q hs =>
    rw [hs] at hl
    cases q with
    | stop f => exact ⟨hl, hone hl.1⟩
    | _ => exact ⟨hl, hone hl⟩
  | refuse f hs => exact absurd (List.mem_singleton_self _) hok
  | announce hs => rw [hs] at hl; exact ⟨proceed_lawful hl, hnone⟩
  | execute hs ha => rw [hs] at hl; exact ⟨⟨hl, attempt_fits ha⟩, hnone⟩
  | conclude hs ho => rw [hs] at hl; exact ⟨conclude_lawful hl.1 (hl.2.outcome ho), hone trivial⟩
  | interrupt message hs =>
    have hl : Ordered r.graph := by rcases hs with hs | ⟨a, hs⟩ <;> rw [hs] at hl; exacts [hl, hl.1]
    exact ⟨.inr ⟨hl, by simp⟩, hone trivial⟩
  | @finish result now hs =>
    rw [hs] at hl
    obtain ⟨res, he⟩ := afterWalk_running hc.running now result
    exact ⟨by rw [he]; trivial, hone hl⟩
  | store hs => exact ⟨trivial, hnone⟩
  | unstored hs => exact ⟨trivial, hone trivial⟩
  | tell hs => exact ⟨trivial, hnone⟩

end Run

open Run

variable {σ : Type} {g : FlowGraph}

theorem Comes.lawful {actions : Registry σ} {x : String} {r : Run} {hist : History}
    (hc : Comes actions g x r hist) (hok : .refused ∉ hist.events) :
    ∀ ev ∈ hist.events, EventLawful g ev := by
  refine (Comes.induction (P := fun r h => .refused ∉ h.events →
    r.stage.Lawful g ∧ ∀ ev ∈ h.events, EventLawful g ev) hc (fun e payload _ _ => ?_)
    (fun hc hm _ hl hok => ?_) hok).2
  · exact ⟨trivial, fun ev hev => List.mem_singleton.1 hev ▸ trivial⟩
  · rw [History.events_after, List.mem_append, not_or] at hok
    obtain ⟨hl, hevs⟩ := hl hok.1
    obtain ⟨hl', hevs'⟩ := hm.lawful hc.consistent hok.2 (hc.keeps.1.symm ▸ hl)
    rw [hc.keeps.1] at hl' hevs'
    refine ⟨hl', fun ev hev => ?_⟩
    rw [History.events_after, List.mem_append] at hev
    exact hev.elim (hevs ev) (hevs' ev)

/-- An accepted flow has an order, which lists every node once, just if no id is repeated; and just if
one is, its runs end for want of an order, before any step. -/
theorem cyclicFlow_iff_of_valid (hv : Validation.isValid g.nodes g.edges = true) :
    ((∃ l, g.order = .ok l ∧ g.IsOrder l) ↔ (g.nodes.map Node.id).Nodup) ∧
    (g.order = .error .cyclicFlow ↔ ¬ (g.nodes.map Node.id).Nodup) ∧
    ∀ (e₀ e : Engine σ) (log : Log) (x : String), e₀.Idle → e₀.Interleaved log e →
      (x, .started g) ∈ log → .refused ∉ log.of x →
      (∀ result, .ended result ∈ log.of x →
        (result = .error .cyclicFlow ↔ ¬ (g.nodes.map Node.id).Nodup)) ∧
      (¬ (g.nodes.map Node.id).Nodup → log.written x = []) := by
  have hlaw : ∀ (e₀ e : Engine σ) (log : Log) (x : String), e₀.Idle → e₀.Interleaved log e →
      (x, .started g) ∈ log → .refused ∉ log.of x → ∀ ev ∈ log.of x, EventLawful g ev :=
    fun e₀ e log x h₀ h hx hok => by
      obtain ⟨r, hc, -⟩ := h.run_of_started h₀ hx
      exact hc.lawful hok
  rcases FlowGraph.isValid_order_iff hv with ⟨hids, l, hl, hord⟩ | ⟨hids, hno⟩
  · refine ⟨iff_of_true ⟨l, hl, hord⟩ hids, iff_of_false (by rw [hl]; simp) (not_not_intro hids), ?_⟩
    intro e₀ e log x h₀ h hx hok
    refine ⟨fun result hres => iff_of_false ?_ (not_not_intro hids), fun h => absurd hids h⟩
    rintro rfl
    rcases hlaw e₀ e log x h₀ h hx hok _ hres with ho | ⟨-, hk⟩
    · rw [hl] at ho
      cases ho
    · exact hk rfl
  · have hnot : ¬ Ordered g := by
      rintro ⟨l, hl⟩
      rw [hno] at hl
      cases hl
    refine ⟨iff_of_false (fun ⟨l, hl, _⟩ => hnot ⟨l, hl⟩) hids, iff_of_true hno hids, ?_⟩
    intro e₀ e log x h₀ h hx hok
    have hlaw := hlaw e₀ e log x h₀ h hx hok
    refine ⟨fun result hres => iff_of_true ?_ hids, fun _ => ?_⟩
    · cases result with
      | ok p => exact absurd (hlaw _ hres) hnot
      | error f =>
        rcases hlaw _ hres with ho | ⟨ho, -⟩
        · rw [hno] at ho
          exact congrArg Except.error (Except.error.inj ho).symm
        · exact absurd ho hnot
    · refine List.filterMap_eq_nil_iff.2 fun ev hev => ?_
      cases ev with
      | wrote step => exact absurd (hlaw _ hev) hnot
      | _ => rfl

/-- A trigger with two nodes of one id behind it. -/
def FlowGraph.twice : FlowGraph where
  flow := { id := "twice", created := ⟨0⟩, updated := ⟨0⟩ }
  nodes := [{ id := "start", type := "trigger", config := .object [] },
    { id := "note", type := "note", config := .object [] },
    { id := "note", type := "note", config := .object [] }]
  edges := [{ id := "first", source := "start", target := "note" }]

/-- A flow with a repeated id is accepted, and its run ends with a cycle as the reason. -/
theorem twice_ends_cyclic :
    let started := (Engine.new {} ()).call (.start .twice "manual" .null)
    Validation.isValid FlowGraph.twice.nodes FlowGraph.twice.edges = true ∧
    FlowGraph.twice.order = .error .cyclicFlow ∧
    .ended (.error .cyclicFlow) ∈ Log.of (idOf 1) (started.1 ++ started.2.stepsLog 40) := by
  intro started
  have hv : Validation.isValid FlowGraph.twice.nodes FlowGraph.twice.edges = true := by decide
  have hids : ¬ (FlowGraph.twice.nodes.map Node.id).Nodup := by decide
  have hok : .refused ∉ Log.of (idOf 1) (started.1 ++ started.2.stepsLog 40) :=
    refused_notMem (by decide +kernel)
  have hend : (Log.of (idOf 1) (started.1 ++ started.2.stepsLog 40)).any
      (fun | .ended _ => true | _ => false) = true := by decide +kernel
  obtain ⟨-, hno, hruns⟩ := @cyclicFlow_iff_of_valid Unit _ hv
  have hruns := hruns _ _ _ _ (Engine.new_idle {} ()) (Engine.call_steps_interleaved _ _ 40)
    (List.mem_append_left _ (List.mem_singleton_self _)) hok
  refine ⟨hv, hno.2 hids, ?_⟩
  obtain ⟨ev, hev, hended⟩ := List.any_eq_true.1 hend
  cases ev with
  | ended result => exact (hruns.1 result hev).2 hids ▸ hev
  | _ => cases hended

end Workflow
