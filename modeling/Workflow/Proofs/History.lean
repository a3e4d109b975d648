import Workflow.Proofs.Moves

/-!
# The history of an execution

A `History` is what is on record of one execution: its steps and itself in the store, the messages that
were sent about it, and its events in the log. `Run.Path` is a run with its history, one move after the
other. Along a path the flow and the execution of the run stay the same, and the step that the run has
in hand is its own (`Path.consistent`).
-/

namespace Workflow

/-- What is on record of an execution. -/
structure History where
  steps : List Step := []
  stored : Option Execution
  told : List Message := []
  events : List Event

namespace History

/-- The history after a step of the run. -/
def after (h : History) (evs : List Event) : Effect → History
  | .none => { h with events := h.events ++ evs }
  | .draw _ => { h with events := h.events ++ evs }
  | .create s => { h with steps := h.steps ++ [s], events := h.events ++ evs }
  | .update s => { h with steps := replaceRow Step.id s h.steps, events := h.events ++ evs }
  | .finish e => { h with stored := some e, events := h.events ++ evs }
  | .tell m => { h with told := h.told ++ [m], events := h.events ++ evs }

/-- A step that is created is new. -/
def Admits (h : History) : Effect → Prop
  | .create s => s.id ∉ h.steps.map Step.id
  | _ => True

variable {h : History} {evs : List Event} {eff : Effect}

@[simp] theorem events_after : (h.after evs eff).events = h.events ++ evs := by
  cases eff <;> rfl

end History

namespace Run

variable {σ : Type} {actions : Registry σ} {r r' : Run} {h : History} {eff : Effect} {evs : List Event}

@[simp] theorem graph_moveTo {s : Stage} : (r.moveTo s).graph = r.graph := rfl
@[simp] theorem execution_moveTo {s : Stage} : (r.moveTo s).execution = r.execution := rfl
@[simp] theorem context_moveTo {s : Stage} : (r.moveTo s).context = r.context := rfl
@[simp] theorem followed_moveTo {s : Stage} : (r.moveTo s).followed = r.followed := rfl
@[simp] theorem stage_moveTo {s : Stage} : (r.moveTo s).stage = s := rfl

/-! ### What comes of a node -/

/-- What goes into a node and comes out of it can be kept as text. -/
def Recordable (o : NodeOutcome) : Prop :=
  (∃ text, Step.dataText o.input = .ok text) ∧ ∃ text, Step.dataText o.output = .ok text

/-- A step after its node was executed. -/
structure Closes (o : NodeOutcome) (s s' : Step) : Prop where
  id : s'.id = s.id
  execution : s'.execution = s.execution
  node : s'.node = s.node
  started : s'.started = s.started
  status : s'.status = if o.error.isSome then .error else .success
  input : ∃ text, Step.dataText o.input = .ok text
  output : Step.dataText o.output = .ok s'.output

theorem Closes.recordable {o : NodeOutcome} {s s' : Step} (h : Closes o s s') : Recordable o :=
  ⟨h.input, _, h.output⟩

theorem changed_withOutput {s s' : Step} {output : Value}
    (h : changed (s.withOutput output) = .ok s') :
    ∃ text, Step.dataText output = .ok text ∧ s' = { s with output := text } := by
  unfold Step.withOutput at h
  cases ht : Step.dataText output <;> rw [ht] at h <;> cases h
  exact ⟨_, rfl, rfl⟩

theorem closed_eq {s : Step} {o : NodeOutcome} {now : Instant} {input : Option String}
    (hs : s.status.isTerminal = false) (hi : Step.dataText o.input = .ok input) :
    closed s o now = changed (Step.withOutput
      { s with
        input := input.or s.input
        status := if o.error.isSome then .error else .success
        completed := some now
        duration := s.started.map fun started => millisecondsBetween started now
        error := o.error.or s.error } o.output) := by
  unfold closed
  rw [hi]
  cases he : o.error <;>
    simp only [bind, Except.bind, Step.succeed, Step.fail, Step.finish, hs, Bool.false_eq_true, if_false] <;> rfl

/-- A step that has ended is not ended again. -/
theorem not_terminal_of_closed {s s' : Step} {o : NodeOutcome} {now : Instant}
    (h : closed s o now = .ok s') : s.status.isTerminal = false := by
  by_contra hs
  obtain ⟨input, -, h⟩ := Outcome.bind_eq_ok.1 h
  rw [Bool.not_eq_false] at hs
  cases he : o.error <;> simp only [he, Step.succeed, Step.fail, Step.finish, hs, if_true] at h <;> cases h

theorem closed_ok {s s' : Step} {o : NodeOutcome} {now : Instant} (h : closed s o now = .ok s') :
    Closes o s s' := by
  have hs := not_terminal_of_closed h
  cases hi : Step.dataText o.input with
  | error f => rw [closed, hi] at h; cases h
  | ok input =>
    rw [closed_eq hs hi] at h
    obtain ⟨text, ht, rfl⟩ := changed_withOutput h
    exact ⟨rfl, rfl, rfl, rfl, rfl, ⟨input, hi⟩, ht⟩

theorem closed_error {s : Step} {o : NodeOutcome} {now : Instant} {f : Failure}
    (hs : s.status.isTerminal = false) (h : closed s o now = .error f) : ¬ Recordable o := by
  rintro ⟨⟨input, hi⟩, ⟨text, ht⟩⟩
  rw [closed_eq hs hi, Step.withOutput, ht] at h
  cases h

/-- A step that has failed keeps the error of its node. -/
theorem error_of_closed {s s' : Step} {o : NodeOutcome} {now : Instant} {message : String}
    (h : closed s o now = .ok s') (he : o.error = some message) : s'.error = some message := by
  have hs := not_terminal_of_closed h
  cases hi : Step.dataText o.input with
  | error f => rw [closed, hi] at h; cases h
  | ok input =>
    rw [closed_eq hs hi] at h
    obtain ⟨text, -, rfl⟩ := changed_withOutput h
    rw [he]
    rfl

theorem closed_of_conclude {v : Visit} {now : Instant} {o : Outcome NodeOutcome}
    (h : r.conclude v now o = .ok r') :
    ∃ no s, o = .ok no ∧ closed v.step no now = .ok s ∧
      r' = r.moveTo (.recording { v with step := s } (sequelOf v.node no)) := by
  obtain ⟨no, ho, h⟩ := Outcome.bind_eq_ok.1 h
  obtain ⟨s, hc, h⟩ := Outcome.bind_eq_ok.1 h
  cases h
  exact ⟨no, s, ho, hc, rfl⟩

theorem conclude_ok {v : Visit} {now : Instant} {o : Outcome NodeOutcome}
    (h : r.conclude v now o = .ok r') :
    ∃ no s, o = .ok no ∧ Closes no v.step s ∧
      r' = r.moveTo (.recording { v with step := s } (sequelOf v.node no)) := by
  obtain ⟨no, s, ho, hc, hr⟩ := closed_of_conclude h
  exact ⟨no, s, ho, closed_ok hc, hr⟩

theorem conclude_error {v : Visit} {now : Instant} {o : Outcome NodeOutcome} {f : Failure}
    (hs : v.step.status.isTerminal = false) (h : r.conclude v now o = .error f) :
    o = .error f ∨ ∃ no, o = .ok no ∧ ¬ Recordable no := by
  unfold conclude at h
  cases o with
  | error g => cases h; exact .inl rfl
  | ok no =>
    cases hc : closed v.step no now with
    | error g => exact .inr ⟨no, rfl, closed_error hs hc⟩
    | ok s => simp only [bind, Except.bind, hc] at h; cases h

/-! ### The end of a walk -/

/-- The status and the error of an execution whose walk has ended with a result. -/
def verdict : Outcome Progress → ExecutionStatus × Option String
  | .ok .completed => (.success, none)
  | .ok .stopped => (.cancelled, some Execution.cancelledText)
  | .error f =>
    if f.kind = .cancelled then (.cancelled, some Execution.cancelledText)
    else (.failed, some (f.describe ""))

/-- The execution of a run whose walk has ended with a result. -/
def ended (e : Execution) (now : Instant) (result : Outcome Progress) : Execution :=
  { e with
    status := (verdict result).1, error := (verdict result).2, completed := some now }

theorem finish_running {e : Execution} (h : e.status = .running) (status : ExecutionStatus)
    (error : Option String) (now : Instant) :
    e.finish status error now = .ok { e with status, error, completed := some now } := by
  simp only [Execution.finish, h, ExecutionStatus.isTerminal, Bool.false_eq_true, if_false]

theorem endingOf_running {e : Execution} (h : e.status = .running) (now : Instant)
    (result : Outcome Progress) : endingOf e now result = .ok (ended e now result) := by
  unfold endingOf
  match result with
  | .ok .completed => simp only [Execution.complete, finish_running h]; rfl
  | .ok .stopped => simp only [Execution.cancel, finish_running h]; rfl
  | .error f =>
    by_cases hf : f.kind = .cancelled <;>
      simp only [Execution.cancel, Execution.fail, finish_running h, hf, ended, verdict, if_true, if_false]

theorem afterWalk_running {e : Execution} (h : e.status = .running) (now : Instant)
    (result : Outcome Progress) :
    ∃ res, afterWalk e now result = .storing (ended e now result) res := by
  unfold afterWalk
  rw [endingOf_running h]
  cases result with
  | ok _ => exact ⟨_, rfl⟩
  | error f => exact ⟨_, rfl⟩

theorem proceed_ok {v : Visit} {q : Sequel} (h : r.proceed v q = .ok r') :
    r'.graph = r.graph ∧ r'.execution = r.execution := by
  cases q with
  | execute => cases h; exact ⟨rfl, rfl⟩
  | pass => cases h; exact ⟨rfl, rfl⟩
  | follow o =>
    obtain ⟨more, -, h⟩ := Outcome.bind_eq_ok.1 h
    cases h
    exact ⟨rfl, rfl⟩
  | stop f => cases h

theorem orEnding_cases (r : Run) (o : Outcome Run) :
    (∃ f, o = .error f ∧ r.orEnding o = r.moveTo (.ending (.error f))) ∨
    ∃ r', o = .ok r' ∧ r.orEnding o = r' := by
  cases o with
  | error f => exact .inl ⟨f, rfl, rfl⟩
  | ok r' => exact .inr ⟨r', rfl, rfl⟩

theorem Move.keeps (h : Move actions r eff evs r') :
    r'.graph = r.graph ∧ r'.execution = r.execution := by
  cases h with
  | announce hs =>
    rcases orEnding_cases r (r.proceed _ _) with ⟨f, -, h⟩ | ⟨r', ho, h⟩ <;> rw [h]
    · exact ⟨rfl, rfl⟩
    · exact proceed_ok ho
  | conclude hs ho =>
    rcases orEnding_cases r (r.conclude _ _ _) with ⟨f, -, h⟩ | ⟨r', ho, h⟩ <;> rw [h]
    · exact ⟨rfl, rfl⟩
    · obtain ⟨_, _, -, -, rfl⟩ := conclude_ok ho
      exact ⟨rfl, rfl⟩
  | _ => exact ⟨rfl, rfl⟩

/-- A run with its history, one move after the other. -/
inductive Path (actions : Registry σ) (r₀ : Run) (h₀ : History) : Run → History → Prop where
  | start : Path actions r₀ h₀ r₀ h₀
  | move {r r' : Run} {h : History} {eff : Effect} {evs : List Event} (hp : Path actions r₀ h₀ r h)
      (hm : Move actions r eff evs r') (ha : h.Admits eff) : Path actions r₀ h₀ r' (h.after evs eff)

/-! ### A run and its history -/

/-- A step in hand is one of the execution; one that is not new is in the store. -/
def Stage.Owned (x : String) (h : History) : Stage → Prop
  | .recording v q => v.step.execution = x ∧ (q.isNew = false → v.step.id ∈ h.steps.map Step.id)
  | .announcing v _ => v.step ∈ h.steps
  | .executing v => v.step ∈ h.steps
  | .performed v _ => v.step ∈ h.steps
  | .storing e _ => e.id = x
  | .telling e _ => e.id = x
  | _ => True

/-- A run and its history are of the same execution. -/
structure Consistent (r : Run) (h : History) : Prop where
  running : r.execution.status = .running
  own : ∀ s ∈ h.steps, s.execution = r.execution.id
  nodup : (h.steps.map Step.id).Nodup
  stored : h.stored.isSome
  stage : r.stage.Owned r.execution.id h

namespace Consistent

theorem of_steps {h' : History} (hc : Consistent r h) (hs : h'.steps = h.steps)
    (hst : h'.stored.isSome) (he : r'.execution = r.execution)
    (hr : r'.stage.Owned r.execution.id h') : Consistent r' h' :=
  ⟨by rw [he]; exact hc.running, by rw [hs, he]; exact hc.own, by rw [hs]; exact hc.nodup, hst,
    by rw [he]; exact hr⟩

end Consistent

theorem Move.consistent (hm : Move actions r eff evs r') (hc : Consistent r h) (ha : h.Admits eff) :
    Consistent r' (h.after evs eff) := by
  have hst := hc.stage
  cases hm with
  | order hs => exact hc.of_steps rfl hc.stored rfl trivial
  | disorder hs => exact hc.of_steps rfl hc.stored rfl trivial
  | complete hs => exact hc.of_steps rfl hc.stored rfl trivial
  | stop hs => exact hc.of_steps rfl hc.stored rfl trivial
  | unclear hs => exact hc.of_steps rfl hc.stored rfl trivial
  | enter id now hs => exact hc.of_steps rfl hc.stored rfl ⟨rfl, fun h => by cases h⟩
  | skip id now hs => exact hc.of_steps rfl hc.stored rfl ⟨rfl, fun h => by cases h⟩
  | @record v q hs =>
    rw [hs] at hst
    obtain ⟨hx, hid⟩ := hst
    unfold Sequel.effect at ha ⊢
    split at ha
    next hq =>
      rw [if_pos hq]
      refine ⟨hc.running, ?_, ?_, hc.stored, ?_⟩
      · intro s hs
        rcases List.mem_append.1 hs with hs | hs
        · exact hc.own s hs
        · rw [List.mem_singleton.1 hs]; exact hx
      · show ((h.steps ++ [v.step]).map Step.id).Nodup
        rw [List.map_append]
        exact Store.nodup_concat hc.nodup ha
      · exact List.mem_append_right _ (List.mem_singleton_self _)
    next hq =>
      rw [if_neg hq]
      refine ⟨hc.running, ?_, ?_, hc.stored, ?_⟩
      · intro s hs
        rcases mem_replaceRow hs with rfl | ⟨hs, -⟩
        · exact hx
        · exact hc.own s hs
      · show ((replaceRow Step.id v.step h.steps).map Step.id).Nodup
        rw [map_key_replaceRow]
        exact hc.nodup
      · exact mem_replaceRow_self (hid (by simpa using hq))
  | refuse f hs => exact hc.of_steps rfl hc.stored rfl trivial
  | @announce v q hs =>
    rw [hs] at hst
    rcases orEnding_cases r (r.proceed v q) with ⟨f, -, ho⟩ | ⟨r', ho, ho'⟩
    · rw [ho]; exact hc.of_steps rfl hc.stored rfl trivial
    · rw [ho']
      refine hc.of_steps rfl hc.stored (proceed_ok ho).2 ?_
      cases q with
      | execute => cases ho; exact hst
      | pass => cases ho; trivial
      | follow o =>
        obtain ⟨more, -, ho⟩ := Outcome.bind_eq_ok.1 ho
        cases ho
        trivial
      | stop f => cases ho
  | execute hs => rw [hs] at hst; exact hc.of_steps rfl hc.stored rfl hst
  | @conclude v a o w hs ho =>
    rw [hs] at hst
    rcases orEnding_cases r (r.conclude v w.now o) with ⟨f, -, hr⟩ | ⟨r', hr, hr'⟩
    · rw [hr]; exact hc.of_steps rfl hc.stored rfl trivial
    · rw [hr']
      obtain ⟨no, s, rfl, hcl, rfl⟩ := conclude_ok hr
      refine hc.of_steps rfl hc.stored rfl ⟨hcl.execution.trans (hc.own _ hst), fun _ => ?_⟩
      exact hcl.id ▸ List.mem_map_of_mem hst
  | interrupt message hs => exact hc.of_steps rfl hc.stored rfl trivial
  | @finish result now hs =>
    obtain ⟨res, he⟩ := afterWalk_running hc.running now result
    rw [he]
    exact hc.of_steps rfl hc.stored rfl rfl
  | store hs => rw [hs] at hst; exact hc.of_steps rfl rfl rfl hst
  | unstored hs => rw [hs] at hst; exact hc.of_steps rfl hc.stored rfl hst
  | tell hs => exact hc.of_steps rfl hc.stored rfl trivial

theorem Path.consistent {r₀ : Run} {h₀ : History} (hp : Path actions r₀ h₀ r h)
    (h₀ : Consistent r₀ h₀) : Consistent r h := by
  induction hp with
  | start => exact h₀
  | move _ hm ha ih => exact hm.consistent ih ha

theorem Path.keeps {r₀ : Run} {h₀ : History} (hp : Path actions r₀ h₀ r h) :
    r.graph = r₀.graph ∧ r.execution = r₀.execution := by
  induction hp with
  | start => exact ⟨rfl, rfl⟩
  | move _ hm _ ih => exact ⟨hm.keeps.1.trans ih.1, hm.keeps.2.trans ih.2⟩

end Run

end Workflow
