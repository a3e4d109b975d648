import Workflow.Proofs.Following
import Workflow.Proofs.Walk

/-!
# How executions end

The steps of an execution are those of the nodes at the beginning of the order, one for each
(`Covers`), and all but the last have succeeded or were skipped. `Run.Scored` says so for every stage of
a run, and `Run.Stage.Ends` that the execution ends as the walk of its run has ended. So an execution
succeeds only when all of its nodes have come, and one of whose steps has failed ends with the failure
of that node (`outcome_of_interleaved`).
-/

namespace Workflow

namespace Run

variable {σ : Type} {actions : Registry σ} {g : FlowGraph} {r r' : Run} {h : History} {eff : Effect}
  {evs : List Event} {steps pre : List Step} {s : Step} {v : Visit} {q : Sequel} {rest : List Node}

/-! ### Steps that have not failed -/

/-- All steps have succeeded or were skipped. -/
def Clean (steps : List Step) : Prop := ∀ s ∈ steps, s.status = .success ∨ s.status = .skipped

/-- No step has failed. -/
def Unfailed (steps : List Step) : Prop := ∀ s ∈ steps, s.status ≠ .error

theorem Clean.unfailed (hc : Clean steps) : Unfailed steps := by
  intro s hs
  rcases hc s hs with h | h <;> simp [h]

theorem Clean.concat (hc : Clean steps) (hs : s.status = .success ∨ s.status = .skipped) :
    Clean (steps ++ [s]) := by
  intro t ht
  rcases List.mem_append.1 ht with ht | ht
  · exact hc t ht
  · exact List.mem_singleton.1 ht ▸ hs

theorem Clean.unfailed_concat (hc : Clean steps) (hs : s.status ≠ .error) : Unfailed (steps ++ [s]) := by
  intro t ht
  rcases List.mem_append.1 ht with ht | ht
  · exact hc.unfailed t ht
  · exact List.mem_singleton.1 ht ▸ hs

theorem Clean.eq_last (hc : Clean pre) {t : Step} (hs : s ∈ pre ++ [t]) (he : s.status = .error) : s = t := by
  rcases List.mem_append.1 hs with hs | hs
  · exact absurd he (hc.unfailed s hs)
  · exact List.mem_singleton.1 hs

/-! ### The end of an execution -/

/-- The steps are those of the nodes of the order, one for each, but for the nodes that are left. -/
def Covers (g : FlowGraph) (steps : List Step) (rest : List Node) : Prop :=
  ∃ before, g.order = .ok (before ++ rest) ∧ steps.map Step.node = before.map Node.id

/-- A step tells of the failure of its node. -/
def FailsWith (g : FlowGraph) (s : Step) (f : Failure) : Prop :=
  s.status = .error ∧ ∃ message, s.error = some message ∧
    ∃ n ∈ g.nodes, n.id = s.node ∧ f = nodeFailure n message

/-- The steps of a run whose walk has ended with a result. -/
def Bears (g : FlowGraph) (steps : List Step) : Outcome Progress → Prop
  | .ok .completed => Covers g steps [] ∧ Clean steps
  | .ok .stopped => Clean steps
  | .error f => Unfailed steps ∨ ∃ pre s, steps = pre ++ [s] ∧ Clean pre ∧ FailsWith g s f

/-- The walk has ended. -/
def Stage.isClosing : Stage → Bool
  | ending _ => true
  | storing _ _ => true
  | telling _ _ => true
  | atEnd _ => true
  | _ => false

/-- An execution has ended as its walk has, and is stored so unless the store has refused that. -/
def Concluded (B : Outcome Progress → Prop) (x ending : Execution) (h : History) : Prop :=
  ∃ now result, ending = ended x now result ∧
    (h.stored = some ending ∨ h.stored = some x ∧ .refused ∈ h.events) ∧ B result

/-- Once the walk has ended, it has ended with a result of which something holds, and so does the
execution. -/
def Stage.Ends (B : Outcome Progress → Prop) (x : Execution) (h : History) : Stage → Prop
  | .ending result => B result
  | .storing e _ => ∃ now result, e = ended x now result ∧ B result
  | .telling e _ => Concluded B x e h
  | .atEnd _ => ∃ e, Concluded B x e h ∧ endMessage e ∈ h.told
  | _ => True

theorem Move.ends {B : Outcome Progress → Prop} (hm : Move actions r eff evs r') (hc : Consistent r h)
    (hr : Reported r h) (hcl : r.stage.isClosing = true) (he : r.stage.Ends B r.execution h) :
    r'.stage.isClosing = true ∧ (h.after evs eff).steps = h.steps ∧
      r'.stage.Ends B r'.execution (h.after evs eff) := by
  cases hm with
  | @finish result now hs =>
    rw [hs] at he
    obtain ⟨res, hw⟩ := afterWalk_running hc.running now result
    refine ⟨?_, rfl, ?_⟩ <;> rw [stage_moveTo, hw]
    · rfl
    · exact ⟨now, result, rfl, he⟩
  | store hs =>
    rw [hs] at he
    obtain ⟨now, result, rfl, hB⟩ := he
    exact ⟨rfl, rfl, now, result, rfl, .inl rfl, hB⟩
  | unstored hs =>
    rw [hs] at he
    obtain ⟨now, result, rfl, hB⟩ := he
    have hst := hr.stage
    rw [hs] at hst
    refine ⟨rfl, rfl, now, result, rfl, .inr ⟨hst.1.stored, ?_⟩, hB⟩
    simp [History.after]
  | @tell e res hs =>
    rw [hs] at he
    obtain ⟨now, result, hend, hst, hB⟩ := he
    refine ⟨rfl, rfl, e, ⟨now, result, hend, ?_, hB⟩, by simp [History.after]⟩
    simpa [History.after] using hst
  | interrupt message hs => rcases hs with hs | ⟨a, hs⟩ <;> rw [hs] at hcl <;> cases hcl
  | order hs => rw [hs] at hcl; cases hcl
  | disorder hs => rw [hs] at hcl; cases hcl
  | complete hs => rw [hs] at hcl; cases hcl
  | stop hs => rw [hs] at hcl; cases hcl
  | unclear hs => rw [hs] at hcl; cases hcl
  | enter id now hs => rw [hs] at hcl; cases hcl
  | skip id now hs => rw [hs] at hcl; cases hcl
  | record hs => rw [hs] at hcl; cases hcl
  | refuse f hs => rw [hs] at hcl; cases hcl
  | announce hs => rw [hs] at hcl; cases hcl
  | execute hs => rw [hs] at hcl; cases hcl
  | conclude hs => rw [hs] at hcl; cases hcl

theorem Stage.Ends.of_stored {B : Outcome Progress → Prop} {x ending : Execution} {stage : Stage}
    (he : stage.Ends B x h) (hr : stage.Reported x h) (hx : x.status = .running)
    (hst : h.stored = some ending) (hend : ending.status.isTerminal = true) :
    ∃ now result, ending = ended x now result ∧ B result := by
  have hno : h.stored ≠ some x := by
    rw [hst]
    rintro ⟨⟩
    rw [hx] at hend
    cases hend
  have hconcluded : ∀ {e : Execution}, Concluded B x e h →
      ∃ now result, ending = ended x now result ∧ B result := by
    rintro e ⟨now, result, rfl, h | ⟨h, -⟩, hB⟩
    · exact ⟨now, result, Option.some.inj (hst.symm.trans h), hB⟩
    · exact absurd h hno
  cases stage with
  | telling e res => exact hconcluded he
  | atEnd res => exact hconcluded he.choose_spec.1
  | announcing v q => exact absurd hr.1 hno
  | storing e res => exact absurd hr.1.stored hno
  | _ => exact absurd hr.stored hno

theorem Stage.Ends.of_over {B : Outcome Progress → Prop} {x : Execution} (ho : r.isOver = true)
    (he : r.stage.Ends B x h) :
    ∃ now result, endMessage (ended x now result) ∈ h.told ∧
      (.refused ∉ h.events → h.stored = some (ended x now result)) ∧ B result := by
  cases hs : r.stage <;> rw [isOver, hs] at ho <;> try cases ho
  rw [hs] at he
  obtain ⟨e, ⟨now, result, rfl, hst, hB⟩, htold⟩ := he
  exact ⟨now, result, htold, fun hok => hst.resolve_right fun hno => hok hno.2, hB⟩

/-! ### At every stage -/

/-- A node that is about to fail the run does so with the error of its step. -/
def Sequel.Tells (v : Visit) : Sequel → Prop
  | .stop f => ∃ message, v.step.error = some message ∧ f = nodeFailure v.node message
  | _ => True

/-- How the steps have ended at a stage before the walk has. -/
def Stage.Scored (steps : List Step) : Stage → Prop
  | .fresh => Clean steps
  | .before _ => Clean steps
  | .recording v q => q.Tells v ∧
    if q.isNew then Clean steps else Clean steps.dropLast ∧ Unfailed steps
  | .announcing v q => q.Tells v ∧ Clean steps.dropLast
  | .executing _ => Clean steps.dropLast
  | .performed _ _ => Clean steps.dropLast
  | _ => True

theorem Stage.scored_of_isClosing {stage : Stage} (h : stage.isClosing = true) : stage.Scored steps := by
  cases stage <;> trivial

structure Scored (r : Run) (h : History) : Prop where
  stage : r.stage.Scored h.steps
  ends : r.stage.Ends (Bears r.graph h.steps) r.execution h

theorem proceed_scored (hq : q.Suits v) (ht : q.Tells v) (hv : Visiting r.graph pre r.followed v)
    (hsteps : h.steps = pre ++ [v.step]) (hc : Clean pre) : Scored (r.orEnding (r.proceed v q)) h := by
  have hlast : Clean h.steps.dropLast := by simpa [hsteps] using hc
  have hall : v.step.status = .success ∨ v.step.status = .skipped → Clean h.steps :=
    fun hs => hsteps ▸ hc.concat hs
  cases q with
  | execute => exact ⟨hlast, trivial⟩
  | pass => exact ⟨hall (.inr hq), trivial⟩
  | follow o =>
    cases hf : followedFrom r.graph v.node.id o.branch with
    | error f =>
      simp only [proceed, hf, bind, Except.bind, orEnding]
      exact ⟨trivial, .inl (hall (.inl hq.1)).unfailed⟩
    | ok more =>
      simp only [proceed, hf, bind, Except.bind, orEnding]
      exact ⟨hall (.inl hq.1), trivial⟩
  | stop f =>
    obtain ⟨message, he, hf⟩ := ht
    obtain ⟨before, ho, -⟩ := hv.trail.laid.order
    have hmem : v.node ∈ r.graph.nodes := (FlowGraph.isOrder_of_order ho).perm.mem_iff.1 (by simp)
    exact ⟨trivial, .inr ⟨pre, v.step, hsteps, hc, hq, message, he, v.node, hmem, hv.node.symm, hf⟩⟩

theorem conclude_scored {now : Instant} {o : Outcome NodeOutcome} (hrun : v.step.status = .running)
    (hsteps : h.steps = pre ++ [v.step]) (hc : Clean pre) : Scored (r.orEnding (r.conclude v now o)) h := by
  have hlast : Clean h.steps.dropLast ∧ Unfailed h.steps := by
    rw [hsteps]
    exact ⟨by simpa using hc, hc.unfailed_concat (by simp [hrun])⟩
  rcases orEnding_cases r (r.conclude v now o) with ⟨f, -, hr'⟩ | ⟨r', hr, hr'⟩ <;> rw [hr']
  · exact ⟨trivial, .inl hlast.2⟩
  · obtain ⟨no, s, -, hcl, rfl⟩ := closed_of_conclude hr
    refine ⟨?_, trivial⟩
    cases he : no.error with
    | none => simp only [stage_moveTo, sequelOf, he]; exact ⟨trivial, hlast⟩
    | some message =>
      simp only [stage_moveTo, sequelOf, he]
      exact ⟨⟨message, error_of_closed hcl he, rfl⟩, hlast⟩

theorem Scored.interrupt {f : Failure} (hrun : v.step.status = .running)
    (hsteps : h.steps = pre ++ [v.step]) (hc : Clean h.steps.dropLast) :
    Scored (r.moveTo (.ending (.error f))) { h with events := h.events ++ evs } := by
  have hpre : Clean pre := by simpa [hsteps] using hc
  refine ⟨trivial, .inl ?_⟩
  show Unfailed h.steps
  rw [hsteps]
  exact hpre.unfailed_concat (by simp [hrun])

theorem Move.scored (hm : Move actions r eff evs r') (hc : Consistent r h) (hr : Reported r h)
    (hal : Along r h) (hsc : Scored r h) : Scored r' (h.after evs eff) := by
  have hal := hal.stage
  have hst := hsc.stage
  by_cases hcl : r.stage.isClosing = true
  · obtain ⟨hcl', hsteps, he⟩ := hm.ends hc hr hcl hsc.ends
    exact ⟨Stage.scored_of_isClosing hcl', by rw [hsteps, hm.keeps.1]; exact he⟩
  cases hm with
  | order hs => rw [hs] at hst; exact ⟨hst, trivial⟩
  | disorder hs => rw [hs] at hst; exact ⟨trivial, .inl hst.unfailed⟩
  | complete hs => rw [hs] at hst hal; exact ⟨trivial, hal.laid.order, hst⟩
  | stop hs => rw [hs] at hst; exact ⟨trivial, hst⟩
  | unclear hs => rw [hs] at hst; exact ⟨trivial, .inl hst.unfailed⟩
  | enter id now hs => rw [hs] at hst; exact ⟨⟨trivial, hst⟩, trivial⟩
  | skip id now hs => rw [hs] at hst; exact ⟨⟨trivial, hst⟩, trivial⟩
  | @record v q hs =>
    rw [hs] at hst hal
    obtain ⟨ht, hst⟩ := hst
    obtain ⟨-, hal⟩ := hal
    refine ⟨⟨ht, ?_⟩, trivial⟩
    unfold Sequel.effect
    split at hst
    next hnew =>
      rw [if_pos hnew]
      show Clean (h.steps ++ [v.step]).dropLast
      simpa using hst
    next hnew =>
      rw [if_neg hnew] at hal ⊢
      obtain ⟨-, pre, s, hsteps, hid, -⟩ := hal
      show Clean (replaceRow Step.id v.step h.steps).dropLast
      rw [hsteps, replaceRow_last (hsteps ▸ hc.nodup) hid]
      simpa [hsteps] using hst.1
  | @refuse v q f hs =>
    rw [hs] at hst
    obtain ⟨-, hst⟩ := hst
    refine ⟨trivial, .inl ?_⟩
    show Unfailed h.steps
    split at hst
    next => exact hst.unfailed
    next => exact hst.2
  | announce hs =>
    rw [hs] at hst hal
    obtain ⟨ht, hlast⟩ := hst
    obtain ⟨hq, pre, hsteps, hv⟩ := hal
    have hpre : Clean pre := by simpa [hsteps] using hlast
    exact proceed_scored hq ht hv hsteps hpre
  | execute hs => rw [hs] at hst; exact ⟨hst, trivial⟩
  | conclude hs ho =>
    rw [hs] at hst hal
    obtain ⟨hrun, -, pre, hsteps, -⟩ := hal
    have hlast : Clean h.steps.dropLast := hst
    have hpre : Clean pre := by simpa [hsteps] using hlast
    exact conclude_scored hrun hsteps hpre
  | interrupt message hs =>
    rcases hs with hs | ⟨a, hs⟩ <;> rw [hs] at hst hal
    · obtain ⟨hrun, pre, hsteps, -⟩ := hal
      exact .interrupt hrun hsteps hst
    · obtain ⟨hrun, -, pre, hsteps, -⟩ := hal
      exact .interrupt hrun hsteps hst
  | finish now hs => rw [hs] at hcl; exact absurd rfl hcl
  | store hs => rw [hs] at hcl; exact absurd rfl hcl
  | unstored hs => rw [hs] at hcl; exact absurd rfl hcl
  | tell hs => rw [hs] at hcl; exact absurd rfl hcl

/-! ### A step that has failed -/

theorem Move.steps_eq (hm : Move actions r eff evs r') (hs : ∀ v q, r.stage ≠ .recording v q) :
    (h.after evs eff).steps = h.steps := by
  cases hm with
  | record hst => exact absurd hst (hs _ _)
  | _ => rfl

theorem Stage.Ends.exists {B : Outcome Progress → Prop} {x : Execution} {stage : Stage}
    (he : stage.Ends B x h) (hcl : stage.isClosing = true) : ∃ result, B result := by
  cases stage with
  | ending result => exact ⟨result, he⟩
  | storing e res => obtain ⟨_, result, -, hB⟩ := he; exact ⟨result, hB⟩
  | telling e res => obtain ⟨_, result, -, -, hB⟩ := he; exact ⟨result, hB⟩
  | atEnd res => obtain ⟨_, ⟨_, result, -, -, hB⟩, -⟩ := he; exact ⟨result, hB⟩
  | _ => cases hcl

theorem Bears.of_failed {result : Outcome Progress} (hb : Bears g steps result) (hs : s ∈ steps)
    (he : s.status = .error) :
    ∃ pre f, steps = pre ++ [s] ∧ Clean pre ∧ result = .error f ∧ FailsWith g s f := by
  match result with
  | .ok .completed => exact absurd he (hb.2.unfailed s hs)
  | .ok .stopped => exact absurd he (Clean.unfailed hb s hs)
  | .error f =>
    rcases hb with hun | ⟨pre, t, rfl, hc, hf⟩
    · exact absurd he (hun s hs)
    · obtain rfl := hc.eq_last hs he
      exact ⟨pre, f, rfl, hc, rfl, hf⟩

/-- A step that has failed is the last one, and no other is written after it. -/
theorem Scored.last_of_failed (hsc : Scored r h) (hal : Along r h) (hs : s ∈ h.steps)
    (he : s.status = .error) :
    (∃ pre, h.steps = pre ++ [s] ∧ Clean pre) ∧
      (r.stage.isClosing = true ∨ ∃ v q, r.stage = .announcing v q) := by
  have hst := hsc.stage
  have hal := hal.stage
  by_cases hcl : r.stage.isClosing = true
  · obtain ⟨result, hb⟩ := hsc.ends.exists hcl
    obtain ⟨pre, f, hpre, hc, -⟩ := hb.of_failed hs he
    exact ⟨⟨pre, hpre, hc⟩, .inl hcl⟩
  -- the step of a node in progress is running
  have hrunning : ∀ {v : Visit}, v.step.status = .running → Clean h.steps.dropLast →
      (∃ pre, h.steps = pre ++ [v.step] ∧ Visiting r.graph pre r.followed v) → False := by
    rintro v hrun hlast ⟨pre, hsteps, -⟩
    have hpre : Clean pre := by simpa [hsteps] using hlast
    rw [hsteps] at hs
    rw [hpre.eq_last hs he, hrun] at he
    cases he
  cases hstage : r.stage with
  | fresh => rw [hstage] at hst; exact absurd he (hst.unfailed s hs)
  | before rest => rw [hstage] at hst; exact absurd he (hst.unfailed s hs)
  | recording v q =>
    rw [hstage] at hst
    obtain ⟨-, hst⟩ := hst
    split at hst
    next => exact absurd he (hst.unfailed s hs)
    next => exact absurd he (hst.2 s hs)
  | announcing v q =>
    rw [hstage] at hst hal
    obtain ⟨-, pre, hsteps, -⟩ := hal
    have hpre : Clean pre := by simpa [hsteps] using hst.2
    rw [hsteps] at hs ⊢
    rw [hpre.eq_last hs he]
    exact ⟨⟨pre, rfl, hpre⟩, .inr ⟨v, q, rfl⟩⟩
  | executing v => rw [hstage] at hst hal; exact (hrunning hal.1 hst hal.2).elim
  | performed v a => rw [hstage] at hst hal; exact (hrunning hal.1 hst hal.2.2).elim
  | _ => rw [hstage] at hcl; exact absurd rfl hcl

theorem Move.keeps_failed (hm : Move actions r eff evs r') (hsc : Scored r h) (hal : Along r h)
    (hs : s ∈ h.steps) (he : s.status = .error) : s ∈ (h.after evs eff).steps := by
  have hno : ∀ v q, r.stage ≠ .recording v q := by
    intro v q hst
    rcases (hsc.last_of_failed hal hs he).2 with hcl | ⟨v', q', hann⟩
    · rw [hst] at hcl; cases hcl
    · rw [hst] at hann; cases hann
  rw [hm.steps_eq hno]
  exact hs

theorem Scored.unfailed_of_blocked {w : World σ} (hsc : Scored r h) (hal : Along r h)
    (hb : r.isBlocked w = true) : Unfailed h.steps := by
  intro s hs he
  unfold isBlocked at hb
  split at hb
  next v a hst =>
    rcases (hsc.last_of_failed hal hs he).2 with hcl | ⟨v', q', hann⟩
    · rw [hst] at hcl; cases hcl
    · rw [hst] at hann; cases hann
  next => cases hb

/-! ### Calls of executors -/

/-- A run calls an executor for a node when it goes on. -/
def Calls (r : Run) (n : Node) : Prop := ∃ v, r.stage = .executing v ∧ v.node = n

/-- A run that calls no executor goes on in the same way whatever the executors are. -/
theorem advance_of_not_calls (hno : ¬ ∃ n, r.Calls n) (actions actions' : Registry σ) (w : World σ) :
    r.advance actions w = r.advance actions' w := by
  have hnext : r.next actions w = r.next actions' w := by
    cases hs : r.stage with
    | executing v => exact absurd ⟨v.node, v, hs, rfl⟩ hno
    | before rest => cases rest <;> simp only [next, hs]
    | _ => simp only [next, hs]
  simp only [advance, hnext]

/-- A node has a step that is not skipped. -/
def Entered (id : String) (steps : List Step) : Prop := ∃ s ∈ steps, s.node = id ∧ s.status ≠ .skipped

theorem Along.entered_of_calls {n : Node} (hal : Along r h) (hn : r.Calls n) : Entered n.id h.steps := by
  obtain ⟨v, hs, rfl⟩ := hn
  have hst := hal.stage
  rw [hs] at hst
  obtain ⟨hrun, pre, hsteps, hv⟩ := hst
  exact ⟨v.step, by simp [hsteps], hv.node, by simp [hrun]⟩

theorem Move.entered {id : String} (hm : Move actions r eff evs r') (hc : Consistent r h)
    (hal : Along r h) (he : Entered id h.steps) : Entered id (h.after evs eff).steps := by
  cases hm with
  | @record v q hs =>
    have hst := hal.stage
    rw [hs] at hst
    obtain ⟨hq, hst⟩ := hst
    obtain ⟨s, hmem, hn, hne⟩ := he
    unfold Sequel.effect
    split at hst
    next hnew =>
      rw [if_pos hnew]
      exact ⟨s, List.mem_append_left _ hmem, hn, hne⟩
    next hnew =>
      rw [if_neg hnew]
      obtain ⟨-, pre, t, hsteps, hid, ht, -⟩ := hst
      show Entered id (replaceRow Step.id v.step h.steps)
      rw [hsteps, replaceRow_last (hsteps ▸ hc.nodup) hid]
      rcases List.mem_append.1 (hsteps ▸ hmem) with hmem | hmem
      · exact ⟨s, List.mem_append_left _ hmem, hn, hne⟩
      · rw [List.mem_singleton.1 hmem] at hn
        exact ⟨v.step, by simp, ht.symm.trans hn, hq.not_skipped hnew⟩
  | _ => exact he

end Run

open Run

variable {σ : Type} {e₀ e : Engine σ} {log : Log} {x : String} {g : FlowGraph} {s : Step}

theorem Comes.scored {actions : Registry σ} {r : Run} {hist : History} (hc : Comes actions g x r hist) :
    Scored r hist :=
  hc.induction (fun _ _ _ => ⟨fun _ hs => absurd hs List.not_mem_nil, trivial⟩)
    fun hc hm _ hs => hm.scored hc.consistent hc.reported hc.along hs

/-- An execution has failed at the node of a step, and says so with the name of the node, which is its
label or without one its id, and the error of the step. -/
structure FailedAt (g : FlowGraph) (s : Step) (ending : Execution) : Prop where
  status : ending.status = .failed
  error : ∃ message, s.error = some message ∧ ∀ n ∈ g.nodes, n.id = s.node →
    ∀ name, (n.label.orElse (.text n.id)).plain = .ok name →
      ending.error = some ("Node \"" ++ name ++ "\" failed: " ++ message)

theorem describe_ofNode (name message : String) :
    (Failure.ofNode name message).describe "" = "Node \"" ++ name ++ "\" failed: " ++ message := by
  have hne : (Failure.ofNode name message).message ≠ "" := by simp [Failure.ofNode]
  simp only [Failure.describe, bne_iff_ne, hne, ne_eq, not_false_iff, if_true]
  rfl

theorem Run.FailsWith.failedAt {f : Failure} (hf : FailsWith g s f) (hids : (g.nodes.map Node.id).Nodup)
    (ex : Execution) (now : Instant) : FailedAt g s (ended ex now (.error f)) := by
  obtain ⟨-, message, he, n, hn, hid, rfl⟩ := hf
  have hkind : (nodeFailure n message).kind ≠ .cancelled := by
    rcases nodeFailure_cases n message with ⟨name, -, h⟩ | ⟨-, h⟩ <;> rw [h]
    · simp [Failure.ofNode]
    · simp [Failure.longInteger]
  have hverdict : verdict (.error (nodeFailure n message)) =
      (.failed, some ((nodeFailure n message).describe "")) := by
    simp only [verdict, hkind, if_false]
  refine ⟨by simp only [ended, hverdict], message, he, fun m hm hmid name hname => ?_⟩
  obtain rfl : m = n := List.inj_on_of_nodup_map hids hm hn (hmid.trans hid.symm)
  rcases nodeFailure_cases m message with ⟨name', hname', h⟩ | ⟨hno, -⟩
  · obtain rfl : name' = name := Except.ok.inj (hname'.symm.trans hname)
    rw [h, describe_ofNode] at hverdict
    simp only [ended, h, hverdict]
  · rw [hno] at hname
    cases hname

theorem covers_of_interleaved (h₀ : e₀.Idle) (h : e₀.Interleaved log e) (hx : (x, .started g) ∈ log)
    (hids : (g.nodes.map Node.id).Nodup) : ∃ rest, Covers g (e.world.store.stepsOf x) rest := by
  obtain ⟨r, hc, -⟩ := h.run_of_started h₀ hx
  rcases hc.along.laid with hnil | ⟨rest, hlaid⟩
  · have hv := FlowGraph.isValid_of_reports (h.reports_of_started hx)
    obtain ⟨-, l, hl, -⟩ | ⟨hno, -⟩ := FlowGraph.isValid_order_iff hv
    · exact ⟨l, [], hl, congrArg (List.map Step.node) hnil⟩
    · exact absurd hids hno
  · exact ⟨rest, hc.keeps.1 ▸ hlaid.order⟩

/-- Once nothing is left to do an execution with a step that has failed has failed. -/
theorem failedAt_of_settle (h₀ : e₀.Idle) (h : e₀.Interleaved log e) (hx : (x, .started g) ∈ log)
    (hids : (g.nodes.map Node.id).Nodup) (hs : s ∈ e.world.store.stepsOf x) (he : s.status = .error) :
    ∃ ending, ending.id = x ∧ FailedAt g s ending ∧ endMessage ending ∈ e.settle.delivered ∧
      (.refused ∉ (log ++ e.stepsLog e.fuel).of x →
        e.settle.world.store.execution? x = some ending) := by
  have hsound := h.sound h₀
  obtain ⟨r, hc, hr⟩ := h.run_of_started h₀ hx
  obtain ⟨r', hr', hc', hs'⟩ := (Engine.steps_interleaved e.fuel e).follow hsound
    ⟨hc.keeps.2, hr⟩ hc hx (P := fun _ hist => s ∈ hist.steps)
    (fun hc hm _ _ hs => hm.keeps_failed hc.scored hc.along hs he) hs
  have hover : r'.isOver = true := by
    rcases hr'.stands with hmem | ⟨ho, -⟩
    · have hb := hsound.blocked_of_settle (h.parked h₀.parked) r' hmem
      exact absurd he (hc'.scored.unfailed_of_blocked hc'.along hb s hs')
    · exact ho
  obtain ⟨now, result, htold, hst, hb⟩ := hc'.scored.ends.of_over hover
  obtain ⟨pre, f, -, -, rfl, hf⟩ := hb.of_failed hs' he
  -- all that was told of the execution has been delivered
  have hsent : e.settle.world.sent = [] :=
    ((Engine.steps_interleaved e.fuel e).keeps hsound).sent_nil (Engine.settle_ready hsound)
  have htold : endMessage (ended r'.execution now (.error f)) ∈
      messagesOf x (e.settle.delivered ++ e.settle.world.sent) := htold
  rw [hsent, List.append_nil] at htold
  exact ⟨ended r'.execution now (.error f), hc'.keeps.2,
    hc'.keeps.1 ▸ hf.failedAt (hc'.keeps.1.symm ▸ hids) _ now, (List.mem_filter.1 htold).1, hst⟩

/-- The steps of an execution, how it ends, and for which nodes executors are called. -/
theorem outcome_of_interleaved (h₀ : e₀.Idle) (h : e₀.Interleaved log e) (hx : (x, .started g) ∈ log)
    (hids : (g.nodes.map Node.id).Nodup) :
    (∃ rest, Covers g (e.world.store.stepsOf x) rest) ∧
    (∀ ending, e.world.store.execution? x = some ending → ending.status = .success →
      Covers g (e.world.store.stepsOf x) [] ∧ Clean (e.world.store.stepsOf x)) ∧
    (∀ s ∈ e.world.store.stepsOf x, s.status = .error →
      (∃ pre, e.world.store.stepsOf x = pre ++ [s] ∧ Clean pre) ∧
      (∀ ending, e.world.store.execution? x = some ending → ending.status.isTerminal = true →
        FailedAt g s ending) ∧
      -- so it is told, and stored unless the store refuses a write
      (∃ ending, ending.id = x ∧ FailedAt g s ending ∧ endMessage ending ∈ e.settle.delivered ∧
        (.refused ∉ (log ++ e.stepsLog e.fuel).of x →
          e.settle.world.store.execution? x = some ending))) ∧
    (∀ r ∈ e.runs, r.execution.id = x →
      (∀ (actions actions' : Registry σ) w, r.advance actions w = r.advance actions' w) ∨
      ∃ n, r.Calls n ∧ ∀ more e', e.Interleaved more e' → Entered n.id (e'.world.store.stepsOf x)) := by
  have hsound := h.sound h₀
  obtain ⟨r, hc, hr⟩ := h.run_of_started h₀ hx
  have hgraph := hc.keeps.1
  have hended : ∀ ending, e.world.store.execution? x = some ending → ending.status.isTerminal = true →
      ∃ now result, ending = ended r.execution now result ∧ Bears g (e.world.store.stepsOf x) result :=
    fun ending hst hend =>
      hgraph ▸ hc.scored.ends.of_stored hc.reported.stage hc.consistent.running hst hend
  refine ⟨covers_of_interleaved h₀ h hx hids, fun ending hst hsucc => ?_, fun s hs he => ⟨?_, ?_, ?_⟩, ?_⟩
  · obtain ⟨now, result, rfl, hb⟩ := hended ending hst (by rw [hsucc]; rfl)
    match result with
    | .ok .completed => exact hb
    | .ok .stopped => cases hsucc
    | .error f =>
      by_cases hk : f.kind = .cancelled <;> simp [ended, verdict, hk] at hsucc
  · exact (hc.scored.last_of_failed hc.along hs he).1
  · intro ending hst hend
    obtain ⟨now, result, rfl, hb⟩ := hended ending hst hend
    obtain ⟨pre, f, -, -, rfl, hf⟩ := hb.of_failed hs he
    exact hf.failedAt hids _ now
  · exact failedAt_of_settle h₀ h hx hids hs he
  · intro q hq hid
    obtain rfl := Engine.At.eq hsound.traced ⟨hc.keeps.2, hr⟩ hq hid
    by_cases hcalls : ∃ n, q.Calls n
    · right
      obtain ⟨n, hn⟩ := hcalls
      refine ⟨n, hn, fun more e' h' => ?_⟩
      obtain ⟨r', -, -, hent⟩ := h'.follow hsound ⟨hid, .inl hq⟩ hc hx
        (P := fun _ hist => Entered n.id hist.steps)
        (fun hc hm _ _ he => hm.entered hc.consistent hc.along he) (hc.along.entered_of_calls hn)
      exact hent
    · exact .inl (advance_of_not_calls hcalls)

/-- An action that fails. -/
def failingFetch : Executor Unit where
  type := "fetch"
  perform _ s := ({ reply := .failure ⟨.runtime, "no answer"⟩ }, s)

/-- A trigger, an action with a label behind it, and a node behind that. -/
def FlowGraph.labelled : FlowGraph where
  flow := { id := "labelled", created := ⟨0⟩, updated := ⟨0⟩ }
  nodes := [{ id := "start", type := "trigger", config := .object [] },
    { id := "fetch", type := "action", label := .text "Fetch",
      config := .record [("actionType", .text "fetch"), ("config", .object [])] },
    { id := "note", type := "note", config := .object [] }]
  edges := [{ id := "first", source := "start", target := "fetch" },
    { id := "second", source := "fetch", target := "note" }]

/-- A failing action ends the execution, with its label and its error. -/
theorem outcome_of_failingFetch :
    let started := (Engine.new ⟨[("fetch", failingFetch)]⟩ ()).call (.start .labelled "manual" .null)
    ∃ ending, (started.2.steps 60).world.store.execution? (idOf 1) = some ending ∧
      ending.status = .failed ∧ ending.error = some "Node \"Fetch\" failed: no answer" := by
  intro started
  have h : (Engine.new ⟨[("fetch", failingFetch)]⟩ ()).Interleaved
      (started.1 ++ started.2.stepsLog 60) (started.2.steps 60) :=
    Engine.call_steps_interleaved _ _ 60
  have hx : (idOf 1, .started .labelled) ∈ started.1 ++ started.2.stepsLog 60 :=
    List.mem_append_left _ (List.mem_singleton_self _)
  have hstatus : ((started.2.steps 60).world.store.execution? (idOf 1)).map Execution.status =
      some .failed := by decide +kernel
  have hsteps : ((started.2.steps 60).world.store.stepsOf (idOf 1)).map
      (fun s => (s.node, s.status, s.error)) =
      [("start", .success, none), ("fetch", .error, some "no answer")] := by decide +kernel
  obtain ⟨ending, hst, hend⟩ := Option.map_eq_some_iff.1 hstatus
  have hmem : ("fetch", .error, some "no answer") ∈
      ((started.2.steps 60).world.store.stepsOf (idOf 1)).map fun s => (s.node, s.status, s.error) :=
    hsteps ▸ by simp
  obtain ⟨s, hs, heq⟩ := List.mem_map.1 hmem
  obtain ⟨hnode, hrest⟩ := Prod.mk.inj heq
  obtain ⟨herror, hmessage⟩ := Prod.mk.inj hrest
  have hspec := outcome_of_interleaved (Engine.new_idle _ ()) h hx (by decide)
  obtain ⟨-, message, hm, htext⟩ := (hspec.2.2.1 s hs herror).2.1 ending hst (by rw [hend]; rfl)
  obtain rfl : message = "no answer" := Option.some.inj (hm.symm.trans hmessage)
  have hfetch : ∃ n ∈ FlowGraph.labelled.nodes, n.id = "fetch" ∧ n.label = .text "Fetch" := by
    simp [FlowGraph.labelled]
  obtain ⟨n, hn, hid, hlabel⟩ := hfetch
  exact ⟨ending, hst, hend, htext n hn (hid.trans hnode.symm) "Fetch" (by rw [hlabel]; rfl)⟩

end Workflow
