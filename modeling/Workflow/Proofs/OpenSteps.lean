import Workflow.Proofs.Events

/-!
# Steps that are left open

A run whose end is stored has ended all its steps, unless it was broken off while a node was in
progress: it was cancelled from without, or within the execution of the node, or what went into the
node or came out of it could not be kept as text. Then just the last step is left open
(`settled_iff_of_interleaved`). `Run.Stage.Tidy` says for every stage which steps have ended.
-/

namespace Workflow

/-- That nothing closes the step of the node in progress after an event. -/
def Event.BreaksOff : Event → Prop
  | .interrupted => True
  | .executed _ outcome => ∀ o, outcome = .ok o → ¬ Run.Recordable o
  | _ => False

/-- A run was broken off while a node was in progress. -/
def BrokenOff (evs : List Event) : Prop := ∃ ev ∈ evs, ev.BreaksOff

theorem brokenOff_append {l m : List Event} : BrokenOff (l ++ m) ↔ BrokenOff l ∨ BrokenOff m := by
  simp only [BrokenOff, List.mem_append, or_and_right, exists_or]

theorem brokenOff_singleton {ev : Event} : BrokenOff [ev] ↔ ev.BreaksOff := by
  simp [BrokenOff]

/-- All steps have ended. -/
def Settled (steps : List Step) : Prop := ∀ s ∈ steps, s.status.isTerminal = true

/-- A step is the last one and still running, and all others have ended. -/
def OpenAt (steps : List Step) (s : Step) : Prop :=
  ∃ ended, steps = ended ++ [s] ∧ Settled ended ∧ s.status = .running

/-- The last step was left open. -/
def LeftOpen (steps : List Step) : Prop := ∃ s, OpenAt steps s

theorem LeftOpen.not_settled {steps : List Step} (h : LeftOpen steps) : ¬ Settled steps := by
  obtain ⟨s, ended, rfl, -, hs⟩ := h
  intro hall
  have := hall s (by simp)
  rw [hs] at this
  cases this

theorem Settled.concat {steps : List Step} {s : Step} (h : Settled steps)
    (hs : s.status.isTerminal = true) : Settled (steps ++ [s]) := by
  intro t ht
  rcases List.mem_append.1 ht with ht | ht
  · exact h t ht
  · exact List.mem_singleton.1 ht ▸ hs

/-- Closing the step that is open. -/
theorem OpenAt.settle {steps : List Step} {s s' : Step} (h : OpenAt steps s)
    (hn : (steps.map Step.id).Nodup) (hid : s.id = s'.id) (hs : s'.status.isTerminal = true) :
    Settled (replaceRow Step.id s' steps) := by
  obtain ⟨ended, rfl, hended, -⟩ := h
  rw [replaceRow_last hn hid]
  exact hended.concat hs

namespace Run

variable {σ : Type} {actions : Registry σ} {r r' : Run} {h : History} {eff : Effect} {evs : List Event}

/-- Which steps have ended at a stage of a run, and whether it was broken off before. -/
def Stage.Tidy (broken : Prop) (steps : List Step) : Stage → Prop
  | .fresh => ¬ broken ∧ Settled steps
  | .before _ => ¬ broken ∧ Settled steps
  | .recording v .execute => ¬ broken ∧ Settled steps ∧ v.step.status = .running
  | .recording v .pass => ¬ broken ∧ Settled steps ∧ v.step.status.isTerminal = true
  | .recording v _ => ¬ broken ∧ (∃ s, OpenAt steps s ∧ s.id = v.step.id) ∧
    v.step.status.isTerminal = true
  | .announcing v .execute => ¬ broken ∧ OpenAt steps v.step
  | .announcing _ _ => ¬ broken ∧ Settled steps
  | .executing v => ¬ broken ∧ OpenAt steps v.step
  | .performed v _ => ¬ broken ∧ OpenAt steps v.step
  | _ => (¬ broken ∧ Settled steps) ∨ (broken ∧ LeftOpen steps)

theorem proceed_tidy {v : Visit} {q : Sequel} {broken : Prop} {steps : List Step}
    (ht : (Stage.announcing v q).Tidy broken steps) :
    (r.orEnding (r.proceed v q)).stage.Tidy broken steps := by
  cases q with
  | execute => exact ht
  | pass => exact ht
  | follow o =>
    rcases orEnding_cases r (r.proceed v (.follow o)) with ⟨f, -, ho⟩ | ⟨r', ho, ho'⟩
    · rw [ho]; exact .inl ht
    · rw [ho']
      obtain ⟨more, -, ho⟩ := Outcome.bind_eq_ok.1 ho
      cases ho
      exact ht
  | stop f => exact .inl ht

/-- An outcome that does not close the step of its node breaks the run off. -/
theorem breaksOff_of_conclude {v : Visit} {now : Instant} {o : Outcome NodeOutcome} {f : Failure}
    (hrun : v.step.status = .running) (hr : r.conclude v now o = .error f) :
    Event.BreaksOff (.executed v.node o) := by
  intro no hno
  subst hno
  rcases conclude_error (by rw [hrun]; rfl) hr with ho | ⟨no, ho, hrec⟩
  · cases ho
  · cases ho
    exact hrec

theorem conclude_tidy {v : Visit} {now : Instant} {o : Outcome NodeOutcome} {steps : List Step}
    (hevs : ¬ BrokenOff h.events) (hopen : OpenAt steps v.step) :
    (r.orEnding (r.conclude v now o)).stage.Tidy
      (BrokenOff (h.events ++ [.executed v.node o])) steps := by
  rw [brokenOff_append, brokenOff_singleton]
  rcases orEnding_cases r (r.conclude v now o) with ⟨f, hr, hr'⟩ | ⟨r', hr, hr'⟩ <;> rw [hr']
  · have hrun : v.step.status = .running := by
      obtain ⟨-, -, -, hrun⟩ := hopen
      exact hrun
    exact .inr ⟨.inr (breaksOff_of_conclude hrun hr), v.step, hopen⟩
  · obtain ⟨no, s, rfl, hs, rfl⟩ := conclude_ok hr
    have hb : ¬ (BrokenOff h.events ∨ Event.BreaksOff (.executed v.node (.ok no))) :=
      not_or.2 ⟨hevs, fun hno => hno no rfl hs.recordable⟩
    have hend : s.status.isTerminal = true := by rw [hs.status]; split <;> rfl
    have hid : ∃ t, OpenAt steps t ∧ t.id = s.id := ⟨v.step, hopen, hs.id.symm⟩
    unfold sequelOf
    split <;> exact ⟨hb, hid, hend⟩

theorem Move.tidy (hm : Move actions r eff evs r') (hc : Consistent r h) (hok : .refused ∉ evs)
    (ht : r.stage.Tidy (BrokenOff h.events) h.steps) :
    r'.stage.Tidy (BrokenOff (h.after evs eff).events) (h.after evs eff).steps := by
  have hquiet : BrokenOff (h.events ++ []) = BrokenOff h.events := by rw [List.append_nil]
  rw [History.events_after]
  cases hm with
  | order hs => rw [hs] at ht; rw [hquiet]; exact ht
  | disorder hs => rw [hs] at ht; rw [hquiet]; exact .inl ht
  | complete hs => rw [hs] at ht; rw [hquiet]; exact .inl ht
  | stop hs => rw [hs] at ht; rw [hquiet]; exact .inl ht
  | unclear hs => rw [hs] at ht; rw [hquiet]; exact .inl ht
  | enter id now hs => rw [hs] at ht; rw [hquiet]; exact ⟨ht.1, ht.2, rfl⟩
  | skip id now hs => rw [hs] at ht; rw [hquiet]; exact ⟨ht.1, ht.2, rfl⟩
  | @record v q hs =>
    rw [hs] at ht
    have hb : BrokenOff (h.events ++ [.wrote v.step]) = BrokenOff h.events := by
      rw [brokenOff_append, brokenOff_singleton]
      exact propext (or_iff_left id)
    rw [hb]
    cases q with
    | execute => exact ⟨ht.1, h.steps, rfl, ht.2⟩
    | pass => exact ⟨ht.1, ht.2.1.concat ht.2.2⟩
    | follow o =>
      obtain ⟨hb, ⟨s, hs, hid⟩, hend⟩ := ht
      exact ⟨hb, hs.settle hc.nodup hid hend⟩
    | stop f =>
      obtain ⟨hb, ⟨s, hs, hid⟩, hend⟩ := ht
      exact ⟨hb, hs.settle hc.nodup hid hend⟩
  | refuse f hs => exact absurd (List.mem_singleton_self _) hok
  | announce hs => rw [hs] at ht; rw [hquiet]; exact proceed_tidy ht
  | execute hs => rw [hs] at ht; rw [hquiet]; exact ht
  | conclude hs ho => rw [hs] at ht; exact conclude_tidy ht.1 ht.2
  | interrupt message hs =>
    refine .inr ⟨brokenOff_append.2 (.inr (brokenOff_singleton.2 trivial)), ?_⟩
    rcases hs with hs | ⟨a, hs⟩ <;> rw [hs] at ht <;> exact ⟨_, ht.2⟩
  | @finish result now hs =>
    rw [hs] at ht
    have hb : BrokenOff (h.events ++ [.ended result]) = BrokenOff h.events := by
      rw [brokenOff_append, brokenOff_singleton]
      exact propext (or_iff_left id)
    obtain ⟨res, he⟩ := afterWalk_running hc.running now result
    rw [hb, he]
    exact ht
  | store hs => rw [hs] at ht; rw [hquiet]; exact ht
  | unstored hs => exact absurd (List.mem_singleton_self _) hok
  | tell hs => rw [hs] at ht; rw [hquiet]; exact ht

/-- While an execution is stored as it was begun its run is not behind its end. -/
theorem Stage.Tidy.of_ended {x : Execution} {ending : Execution} {s : Stage}
    (ht : s.Tidy (BrokenOff h.events) h.steps) (hr : s.Reported x h) (hx : x.status = .running)
    (hst : h.stored = some ending) (hend : ending.status.isTerminal = true) :
    (¬ BrokenOff h.events ∧ Settled h.steps) ∨ (BrokenOff h.events ∧ LeftOpen h.steps) := by
  have hno : h.stored ≠ some x := by
    rw [hst]
    rintro ⟨⟩
    rw [hx] at hend
    cases hend
  cases s with
  | telling e res => exact ht
  | atEnd res => exact ht
  | announcing v q => exact absurd hr.1 hno
  | storing e res => exact ht
  | ending res => exact ht
  | _ => exact absurd hr.stored hno

end Run

open Run

variable {σ : Type} {e₀ e : Engine σ} {log : Log} {x : String} {g : FlowGraph}

theorem Comes.tidy {actions : Registry σ} {r : Run} {hist : History} (hc : Comes actions g x r hist)
    (hok : .refused ∉ hist.events) : r.stage.Tidy (BrokenOff hist.events) hist.steps := by
  refine Comes.induction
    (P := fun r h => .refused ∉ h.events → r.stage.Tidy (BrokenOff h.events) h.steps) hc
    (fun e payload _ _ => ⟨?_, fun s hs => absurd hs List.not_mem_nil⟩) (fun hc hm _ ht hok => ?_) hok
  · rintro ⟨ev, hev, hb⟩
    rw [List.mem_singleton.1 hev] at hb
    exact hb
  · rw [History.events_after, List.mem_append, not_or] at hok
    exact hm.tidy hc.consistent hok.2 (ht hok.1)

/-- Once the end of an execution is stored all its steps have ended, or its run was broken off. -/
theorem settled_or_brokenOff (h₀ : e₀.Idle) (h : e₀.Interleaved log e) (hx : (x, .started g) ∈ log)
    (hok : .refused ∉ log.of x) {ending : Execution} (hst : e.world.store.execution? x = some ending)
    (hend : ending.status.isTerminal = true) :
    (¬ BrokenOff (log.of x) ∧ Settled (e.world.store.stepsOf x)) ∨
      (BrokenOff (log.of x) ∧ LeftOpen (e.world.store.stepsOf x)) := by
  obtain ⟨r, hc, -⟩ := h.run_of_started h₀ hx
  exact (hc.tidy hok).of_ended hc.reported.stage hc.consistent.running hst hend

theorem not_brokenOff_of_settled (h₀ : e₀.Idle) (h : e₀.Interleaved log e)
    (hx : (x, .started g) ∈ log) (hok : .refused ∉ log.of x) {ending : Execution}
    (hst : e.world.store.execution? x = some ending) (hend : ending.status.isTerminal = true)
    (hs : Settled (e.world.store.stepsOf x)) : ¬ BrokenOff (log.of x) := by
  rcases settled_or_brokenOff h₀ h hx hok hst hend with ⟨hno, -⟩ | ⟨-, hopen⟩
  · exact hno
  · exact absurd hs hopen.not_settled

/-- Once the end of an execution is stored all its steps have ended, unless its run was broken off
while a node was in progress; then just the last one is open. -/
theorem settled_iff_of_interleaved (h₀ : e₀.Idle) (h : e₀.Interleaved log e)
    (hx : (x, .started g) ∈ log) (hok : .refused ∉ log.of x) {ending : Execution}
    (hst : e.world.store.execution? x = some ending) (hend : ending.status.isTerminal = true) :
    (Settled (e.world.store.stepsOf x) ↔ ¬ BrokenOff (log.of x)) ∧
    (BrokenOff (log.of x) → LeftOpen (e.world.store.stepsOf x)) := by
  rcases settled_or_brokenOff h₀ h hx hok hst hend with ⟨hb, hs⟩ | ⟨hb, hs⟩
  · exact ⟨iff_of_true hs hb, fun h => absurd h hb⟩
  · exact ⟨iff_of_false hs.not_settled (not_not_intro hb), fun _ => hs⟩

/-- An action that is cancelled while it is carried out. -/
def cancelledFetch : Executor Unit where
  type := "fetch"
  perform _ s := ({ reply := .failure ⟨.cancelled, ""⟩ }, s)

/-- A trigger with an action behind it. -/
def FlowGraph.fetch : FlowGraph where
  flow := { id := "fetch", created := ⟨0⟩, updated := ⟨0⟩ }
  nodes := [{ id := "start", type := "trigger", config := .object [] },
    { id := "fetch", type := "action",
      config := .record [("actionType", .text "fetch"), ("config", .object [])] }]
  edges := [{ id := "first", source := "start", target := "fetch" }]

/-- The step of an action that is cancelled stays open. -/
theorem leftOpen_of_cancelledFetch :
    let started := (Engine.new ⟨[("fetch", cancelledFetch)]⟩ ()).call (.start .fetch "manual" .null)
    ((started.2.steps 40).world.store.execution? (idOf 1)).map Execution.status = some .cancelled ∧
    LeftOpen ((started.2.steps 40).world.store.stepsOf (idOf 1)) := by
  intro started
  have h : (Engine.new ⟨[("fetch", cancelledFetch)]⟩ ()).Interleaved
      (started.1 ++ started.2.stepsLog 40) (started.2.steps 40) :=
    Engine.call_steps_interleaved _ _ 40
  have hx : (idOf 1, .started .fetch) ∈ started.1 ++ started.2.stepsLog 40 :=
    List.mem_append_left _ (List.mem_singleton_self _)
  have hok : .refused ∉ Log.of (idOf 1) (started.1 ++ started.2.stepsLog 40) :=
    refused_notMem (by decide +kernel)
  have hend : ((started.2.steps 40).world.store.execution? (idOf 1)).map Execution.status =
      some .cancelled := by decide +kernel
  have hopen : ((started.2.steps 40).world.store.stepsOf (idOf 1)).map Step.status =
      [.success, .running] := by decide +kernel
  refine ⟨hend, ?_⟩
  obtain ⟨ending, hst, hstatus⟩ := Option.map_eq_some_iff.1 hend
  have hspec := settled_iff_of_interleaved (Engine.new_idle _ ()) h hx hok hst (by rw [hstatus]; rfl)
  refine hspec.2 (not_not.1 fun hb => ?_)
  have hrun : .running ∈ ((started.2.steps 40).world.store.stepsOf (idOf 1)).map Step.status :=
    hopen ▸ by simp
  obtain ⟨s, hs, hrun⟩ := List.mem_map.1 hrun
  have := hspec.1.2 hb s hs
  rw [hrun] at this
  cases this

end Workflow
