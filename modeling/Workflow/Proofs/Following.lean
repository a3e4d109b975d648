import Workflow.Proofs.Settling

/-!
# Following one run

Whatever happens to an engine is a move of one of its runs, or leaves what is on record of executions
as it is, or starts another execution (`Engine.Turn`). So one run can be followed through an
interleaving: what its own moves keep is kept by all that happens (`Interleaved.follow`). Once an
execution is asked to stop its run draws no more ids. The runs that wait are blocked (`Parked`), so that
after `Engine.settle` none but blocked runs are left (`Sound.blocked_of_settle`).
-/

namespace Workflow

/-! ### What steps of a run leave as it is -/

namespace Run

variable {σ : Type} {actions : Registry σ} {r r' : Run} {w w' : World σ} {eff : Effect}
  {evs : List Event}

/-- The worlds that a step of a run can lead to. -/
inductive Touches (actions : Registry σ) (r : Run) (w : World σ) : World σ → Prop where
  | same : Touches actions r w w
  | draw : Touches actions r w { w with drawn := w.drawn + 1 }
  | send (m : Message) : Touches actions r w { w with sent := w.sent ++ [m] }
  | perform {v : Visit} (type : Option String) (params : Fields) (hs : r.stage = .executing v) :
      Touches actions r w (Run.perform actions type params w).2
  | record {v : Visit} {q : Sequel} (hs : r.stage = .recording v q) :
      Touches actions r w { w with store := (q.record v.step w.store).2 }
  | update {e : Execution} {result : Outcome Execution} (hs : r.stage = .storing e result) :
      Touches actions r w { w with store := (Store.update e w.store).2 }

theorem advance_snd (actions : Registry σ) (r : Run) (w : World σ) :
    (r.advance actions w).2 = (r.next actions w).2 := by
  unfold advance
  rcases r.next actions w with ⟨f | r', w'⟩ <;> rfl

theorem touches_of_attempt {v : Visit} (hs : r.stage = .executing v) :
    Touches actions r w (r.attempt actions v.node w).2 := by
  cases hc : v.node.parsedConfig with
  | action type params =>
    cases hp : Template.renderFields r.context.root (params.getD []) with
    | ok params => simp only [attempt, hc, hp]; exact .perform type params hs
    | error f => simp only [attempt, hc, hp]; exact .same
  | _ => simp only [attempt, hc]; exact .same

theorem touches_of_advance (actions : Registry σ) (r : Run) (w : World σ) :
    Touches actions r w (r.advance actions w).2 := by
  rw [advance_snd]
  cases hs : r.stage with
  | fresh =>
    simp only [next, hs, Stateful.bind_apply, Stateful.ofExcept_apply]
    cases r.graph.order <;> exact .same
  | before l =>
    cases l with
    | nil => simp only [next, hs]; exact .same
    | cons n rest =>
      simp only [next, hs, visit_apply]
      split
      next => exact .same
      next => split; exacts [.same, .draw, .draw]
  | recording v q =>
    simp only [next, hs, Stateful.bind_apply, World.onStore]
    have ht : Touches actions r w { w with store := (q.record v.step w.store).2 } := .record hs
    rcases hq : q.record v.step w.store with ⟨f | u, store⟩ <;> rw [hq] at ht <;> exact ht
  | announcing v q =>
    simp only [next, hs, Stateful.bind_apply, World.send, Stateful.modify_apply, Stateful.ofExcept_apply]
    exact .send _
  | executing v =>
    simp only [next, hs, Stateful.bind_apply]
    have ht : Touches actions r w (r.attempt actions v.node w).2 := touches_of_attempt hs
    rcases ha : r.attempt actions v.node w with ⟨f | a, w'⟩ <;> rw [ha] at ht <;> exact ht
  | performed v a =>
    simp only [next, hs, Stateful.bind_apply, Stateful.get_apply]
    cases a.outcome? w with
    | none => exact .same
    | some o => simp only [Stateful.bind_apply, clock_apply, Stateful.ofExcept_apply]; exact .same
  | ending result => simp only [next, hs]; exact .same
  | storing e result =>
    simp only [next, hs, Stateful.bind_apply, Stateful.tryCatch_apply, Stateful.discard_apply,
      World.onStore]
    have ht : Touches actions r w { w with store := (Store.update e w.store).2 } := .update hs
    rcases hu : Store.update e w.store with ⟨f | b, store⟩ <;> rw [hu] at ht <;> exact ht
  | telling e result => simp only [next, hs]; exact .send _
  | atEnd result => simp only [next, hs]; exact .same

/-- A step of a run takes back no request to stop, and opens no gate. -/
theorem advance_keeps (actions : Registry σ) (r : Run) (w : World σ) :
    w.stopping <+: (r.advance actions w).2.stopping ∧ (r.advance actions w).2.opened = w.opened := by
  have ht := touches_of_advance actions r w
  generalize (r.advance actions w).2 = w' at ht
  cases ht with
  | perform type params hs =>
    simp only [perform]
    split
    next => exact ⟨List.prefix_append .., rfl⟩
    next => exact ⟨List.prefix_rfl, rfl⟩
  | _ => exact ⟨List.prefix_rfl, rfl⟩

/-- Only with the execution of a node others are asked to stop. -/
theorem advance_stopping (hs : ∀ v, r.stage ≠ .executing v) :
    (r.advance actions w).2.stopping = w.stopping := by
  have ht := touches_of_advance actions r w
  generalize (r.advance actions w).2 = w' at ht
  cases ht with
  | perform type params h => exact absurd h (hs _)
  | _ => rfl

theorem not_drawn_of_stopping (hs : r.execution.id ∈ w.stopping)
    (hm : Move actions r eff evs r') (hon : eff.On w (r.advance actions w).2) : eff.drawn? = none := by
  have hsame : ∀ {n : Node} {rest : List Node}, r.stage = .before (n :: rest) →
      (r.advance actions w).2 = w := by
    intro n rest hst
    have hstop : w.stopping.contains r.execution.id = true := by simpa using hs
    simp only [advance, next, hst, visit_apply, hstop, if_true]
  have hdraw : ∀ id, eff = .draw id → (r.advance actions w).2.drawn = w.drawn + 1 := by
    rintro id rfl
    rw [(hon.drawn rfl).2]
  cases hm with
  | enter id now hst => have := hdraw id rfl; rw [hsame hst] at this; omega
  | skip id now hst => have := hdraw id rfl; rw [hsame hst] at this; omega
  | record => unfold Sequel.effect; split <;> rfl
  | _ => rfl

theorem outcome?_congr {a : Attempt} (h : w'.opened = w.opened) : a.outcome? w' = a.outcome? w := by
  cases a with
  | done o => rfl
  | held gate params result =>
    have hopen : w'.isOpen gate = w.isOpen gate := by simp only [World.isOpen, h]
    simp only [Attempt.outcome?, hopen]

/-- What an attempt has led to stays when more gates open. -/
theorem outcome?_mono {a : Attempt} {o : Outcome NodeOutcome} (ho : w.opened ⊆ w'.opened)
    (h : a.outcome? w = some o) : a.outcome? w' = some o := by
  cases a with
  | done o => exact h
  | held gate params result =>
    have hopen : w.isOpen gate = true := by
      by_contra hno
      simp [Attempt.outcome?, hno] at h
    have hopen' : w'.isOpen gate = true := by
      simp only [World.isOpen, Option.any_eq_true] at hopen ⊢
      obtain ⟨t, ht, hmem⟩ := hopen
      exact ⟨t, ht, by simpa using ho (by simpa using hmem)⟩
    simpa only [Attempt.outcome?, hopen, hopen', if_true] using h

theorem isBlocked_congr (h : w'.opened = w.opened) : r.isBlocked w' = r.isBlocked w := by
  unfold isBlocked
  split
  next v a _ => rw [outcome?_congr h]
  next => rfl

theorem isBlocked_of_gate {gate : String} (h : r.isBlocked w = true) (hg : r.gate? ≠ some gate) :
    r.isBlocked { w with opened := w.opened ++ [gate] } = true := by
  unfold isBlocked at h ⊢
  split at h
  next v a hs =>
    cases a with
    | done o => cases h
    | held g params result =>
      simp only [gate?, hs] at hg
      have hclosed : w.isOpen g = false := by
        by_contra ho
        simp [Attempt.outcome?, ho] at h
      have hclosed' : ({ w with opened := w.opened ++ [gate] } : World σ).isOpen g = false := by
        simp only [World.isOpen] at hclosed ⊢
        cases ht : g.text? with
        | none => rfl
        | some t =>
          rw [ht] at hclosed hg
          have hne : t ≠ gate := fun he => hg (congrArg some he)
          simpa [hne] using hclosed
      simp [Attempt.outcome?, hclosed']
  next => cases h

end Run

namespace Engine

open Run

variable {σ : Type} {actions : Registry σ} {log more : Log} {e e' : Engine σ} {x : String} {r : Run}
  {g : FlowGraph}

/-! ### What can happen, seen from the runs -/

/-- What happens, seen from the runs and from what is on record of executions. -/
inductive Turn (e : Engine σ) : Log → Engine σ → Prop where
  /-- One of the runs moves. -/
  | move {q q' : Run} {others : List Run} {eff : Effect} {evs : List Event} {e' : Engine σ}
      (hm : Move e.actions q eff evs q') (hon : eff.On e.world e'.world)
      (hd : e'.delivered = e.delivered) (hq : e.runs.Perm (q :: others))
      (hq' : e'.runs.Perm (q' :: others) ∨ q'.isOver = true ∧ e'.runs.Perm others)
      (hstop : q.execution.id ∈ e.world.stopping → eff.drawn? = none)
      (htaken : .interrupted ∈ evs ∨
        q.isBlocked e.world = false ∧ q.advance e.actions e.world = (q', e'.world)) :
      Turn e (evs.map (q.execution.id, ·)) e'
  | still {e' : Engine σ} (hruns : e.runs.Perm e'.runs)
      (hist : ∀ events x, e'.world.history e'.delivered events x = e.world.history e.delivered events x) :
      Turn e [] e'
  /-- A run that is over is no longer among the runs. -/
  | drop {q : Run} {others : List Run} {e' : Engine σ} (ho : q.isOver = true)
      (hq : e.runs.Perm (q :: others)) (hq' : e'.runs.Perm others)
      (hist : ∀ events x, e'.world.history e'.delivered events x = e.world.history e.delivered events x) :
      Turn e [] e'
  | start {ex : Execution} {payload : Value} {g : FlowGraph} {e' : Engine σ}
      (hid : ex.id = idOf (e.world.drawn + 1)) (hruns : (.ofExecution g ex payload :: e.runs).Perm e'.runs)
      (hist : ∀ events x, x ≠ ex.id →
        e'.world.history e'.delivered events x = e.world.history e.delivered events x) :
      Turn e [(ex.id, .started g)] e'

theorem world_stepAt {i : Nat} {q : Run} (hi : e.ready[i]? = some (.proceed q)) :
    (e.stepAt i).world = (q.advance e.actions e.world).2 := by
  rw [stepAt_proceed hi, (place_keeps _ _).1, (wake_keeps _).1]

theorem delivered_stepAt_of_proceed {i : Nat} {q : Run} (hi : e.ready[i]? = some (.proceed q)) :
    (e.stepAt i).delivered = e.delivered := by
  rw [stepAt_proceed hi, (place_keeps _ _).2.1, (wake_keeps _).2.1]

theorem runs_stepAt {i : Nat} {q : Run} (hi : e.ready[i]? = some (.proceed q)) :
    ∃ others, e.runs.Perm (q :: others) ∧
      ((q.advance e.actions e.world).1.isOver = false ∧
          (e.stepAt i).runs.Perm ((q.advance e.actions e.world).1 :: others) ∨
        (q.advance e.actions e.world).1.isOver = true ∧ (e.stepAt i).runs.Perm others) := by
  let e₁ : Engine σ := { e with ready := e.ready.eraseIdx i, world := (q.advance e.actions e.world).2 }
  have hstep : e.stepAt i = e₁.wake.place (q.advance e.actions e.world).1 := stepAt_proceed hi
  refine ⟨e₁.runs, runs_perm_of_ready hi, ?_⟩
  rw [hstep, ← runs_wake e₁]
  exact (place_runs ..).imp_right fun ⟨ho, hp⟩ => ⟨ho, .of_eq hp⟩

theorem turn_proceed {i : Nat} {q : Run} (hi : e.ready[i]? = some (.proceed q)) :
    e.Turn (e.events (.proceed q)) (e.stepAt i) := by
  have hworld := world_stepAt hi
  have hdel := delivered_stepAt_of_proceed hi
  obtain ⟨others, hq, hruns⟩ := runs_stepAt hi
  by_cases h : q.isBlocked e.world = true ∨ q.isOver = true
  · obtain ⟨ha, hevs⟩ := advance_eq_self e.actions q e.world h
    rw [ha] at hworld hruns
    have hist : ∀ events x, (e.stepAt i).world.history (e.stepAt i).delivered events x =
        e.world.history e.delivered events x := fun events x => by rw [hworld, hdel]
    rw [Engine.events, hevs]
    rcases hruns with ⟨-, hp⟩ | ⟨ho, hp⟩
    · exact .still (hq.trans hp.symm) hist
    · exact .drop ho hq hp hist
  · rw [not_or, Bool.not_eq_true, Bool.not_eq_true] at h
    obtain ⟨eff, hm, hon⟩ := moves_of_advance e.actions q e.world h.1 h.2
    exact .move hm (hworld ▸ hon) hdel hq (hruns.imp_left And.right)
      (fun hs => not_drawn_of_stopping hs hm hon) (.inr ⟨h.1, Prod.ext rfl hworld.symm⟩)

theorem turn_deliver {i : Nat} (hi : e.ready[i]? = some .deliver) : e.Turn [] (e.stepAt i) := by
  have hruns : e.runs.Perm ({ e with ready := e.ready.eraseIdx i } : Engine σ).runs :=
    runs_perm_of_ready hi
  cases hse : e.world.sent with
  | nil =>
    have hstep : e.stepAt i = { e with ready := e.ready.eraseIdx i } := by
      simp only [stepAt, hi, perform, deliver, hse]
    rw [hstep]
    exact .still hruns fun _ _ => rfl
  | cons m ms =>
    have hstep : e.stepAt i = { e with
        world := { e.world with sent := ms }, delivered := e.delivered ++ [m]
        ready := if ms.isEmpty then e.ready.eraseIdx i else .deliver :: e.ready.eraseIdx i } := by
      simp only [stepAt, hi, perform, deliver, hse]
    rw [hstep]
    refine .still ?_ fun events x => ?_
    · cases ms <;> exact hruns
    · simp [World.history, hse]

theorem Turn.of_rows (hs : e.Sound actions log) (hk : e'.world.store.Keyed)
    (hsteps : e'.world.store.steps = e.world.store.steps)
    (hex : e'.world.store.executions = e.world.store.executions)
    (hsent : e'.world.sent = e.world.sent) (hd : e'.delivered = e.delivered)
    (hruns : e.runs.Perm e'.runs) : e.Turn [] e' :=
  .still hruns fun _ _ => World.history_congr hs.traced.keyed hk hsteps hex (by rw [hsent, hd])

theorem turn_call (hs : e.Sound actions log) (c : Call σ) : e.Turn (e.call c).1 (e.call c).2 := by
  have hk := hs.traced.keyed
  cases c with
  | start g startMode payload =>
    rcases runGraph_cases g startMode payload e with
      ⟨refusal, w', hr, hrec, hsent, -, -⟩ | ⟨ex, i, store, -, hid, -, hc, hr⟩ <;>
      simp only [Engine.call, hr]
    · exact .of_rows hs (hk.of_records hrec) (Effect.On.steps_of_records hrec)
        (Effect.On.executions_of_records hrec) hsent rfl (.refl _)
    · have hu := (hs.traced.unused _ (Nat.lt_succ_self _)).1.executions
      obtain ⟨hk', hex, hst⟩ := hk.create_ok (hid ▸ hu) hc
      refine .start hid (runs_append e.ready (.ofExecution g ex payload) e.waiting) fun events y hy => ?_
      let w' : World σ := { e.world with
        drawn := e.world.drawn + 1, store, running := e.world.running ++ [ex.id] }
      have hk' : w'.store.Keyed := hk'
      exact hs.traced.history_other hk' hex hst rfl (Ne.symm hy) events
  | cancel id =>
    simp only [Engine.call, cancel]
    split <;> exact .of_rows hs hk rfl rfl rfl rfl (.refl _)
  | stopAll => exact .of_rows hs hk rfl rfl rfl rfl (.refl _)
  | release gate => exact .of_rows hs hk rfl rfl rfl rfl (runs_release e gate)
  | save g =>
    obtain ⟨hk', hst, hex⟩ := hk.saveGraph g e.world.now
    exact .of_rows hs hk' hst hex rfl rfl (.refl _)
  | elsewhere now surroundings ids => exact .of_rows hs hk rfl rfl rfl rfl (.refl _)

theorem Happens.turn (hs : e.Sound actions log) (h : e.Happens more e') : e.Turn more e' := by
  cases h with
  | job i j hj =>
    cases j with
    | proceed q => exact turn_proceed hj
    | deliver => exact turn_deliver hj
    | forget y =>
      have hstep : e.stepAt i = { e with
          ready := e.ready.eraseIdx i
          world := { e.world with running := e.world.running.erase y } } := by
        simp only [stepAt, hj, perform]
      rw [hstep]
      exact .of_rows hs hs.traced.keyed rfl rfl rfl rfl (runs_perm_of_ready hj)
  | interrupt i message q q' hq hq' =>
    exact .move (interrupt_move hq') (.none rfl rfl rfl rfl) rfl (runs_perm_of_ready hq)
      (.inl (runs_set hq q')) (fun _ => rfl) (.inl (List.mem_singleton_self _))
  | interruptWaiting i message q q' hq hq' =>
    exact .move (interrupt_move hq') (.none rfl rfl rfl rfl) rfl (runs_perm_of_waiting hq)
      (.inl (runs_append e.ready q' _).symm) (fun _ => rfl) (.inl (List.mem_singleton_self _))
  | call c => exact turn_call hs c

/-! ### The run of an execution -/

/-- Where the run of an execution stands: it is among the runs, or over and no longer there. -/
structure At (e : Engine σ) (x : String) (r : Run) : Prop where
  id : r.execution.id = x
  stands : r ∈ e.runs ∨ r.isOver = true ∧ ∀ q ∈ e.runs, q.execution.id ≠ x

theorem At.congr (h : e.At x r) (hruns : e.runs.Perm e'.runs) : e'.At x r where
  id := h.id
  stands := h.stands.imp hruns.mem_iff.1 (And.imp_right fun hne q hq => hne q (hruns.mem_iff.2 hq))

theorem At.eq (ht : Traced actions e.world e.delivered e.runs log) (h : e.At x r) {q : Run}
    (hq : q ∈ e.runs) (hid : q.execution.id = x) : q = r := by
  rcases h.stands with hr | ⟨-, hne⟩
  · by_contra hqr
    have : Std.Symm (Apart : Run → Run → Prop) := ⟨fun _ _ => Apart.symm⟩
    exact (ht.apart.forall hq hr hqr).1 (hid.trans h.id.symm)
  · exact absurd hid (hne q hq)

section At

variable {q q' : Run} {others : List Run}

/-- The run has moved. -/
theorem At.of_move (hid : q'.execution.id = q.execution.id)
    (hothers : ∀ p ∈ others, q.execution.id ≠ p.execution.id)
    (hq' : e'.runs.Perm (q' :: others) ∨ q'.isOver = true ∧ e'.runs.Perm others) :
    e'.At q.execution.id q' where
  id := hid
  stands := hq'.imp (fun hp => hp.mem_iff.2 (by simp)) fun ⟨ho, hp⟩ =>
    ⟨ho, fun p hmem => (hothers p (hp.mem_iff.1 hmem)).symm⟩

/-- Another run has moved. -/
theorem At.of_other (hr : e.At x r) (hne : q.execution.id ≠ x)
    (hid : q'.execution.id = q.execution.id) (hq : e.runs.Perm (q :: others))
    (hq' : e'.runs.Perm (q' :: others) ∨ q'.isOver = true ∧ e'.runs.Perm others) : e'.At x r := by
  have hkeep : ∀ p ∈ others, p ∈ e'.runs := fun p hp =>
    hq'.elim (fun h => h.mem_iff.2 (by simp [hp])) fun h => h.2.mem_iff.2 hp
  have hback : ∀ p ∈ e'.runs, p = q' ∨ p ∈ others := fun p hp =>
    hq'.elim (fun h => List.mem_cons.1 (h.mem_iff.1 hp)) fun h => .inr (h.2.mem_iff.1 hp)
  refine ⟨hr.id, hr.stands.imp (fun hmem => ?_) (And.imp_right fun hno p hp => ?_)⟩
  · rcases List.mem_cons.1 (hq.mem_iff.1 hmem) with rfl | hmem
    · exact absurd hr.id hne
    · exact hkeep r hmem
  · rcases hback p hp with rfl | hp
    · exact fun h => hne (hid.symm.trans h)
    · exact hno p (hq.mem_iff.2 (by simp [hp]))

/-- A run that is over is no longer there. -/
theorem At.of_drop (hr : e.At x r) (ho : q.isOver = true)
    (hothers : ∀ p ∈ others, q.execution.id ≠ p.execution.id) (hq : e.runs.Perm (q :: others))
    (hq' : e'.runs.Perm others) : e'.At x r := by
  refine ⟨hr.id, ?_⟩
  rcases hr.stands with hmem | ⟨hover, hne⟩
  · rcases List.mem_cons.1 (hq.mem_iff.1 hmem) with rfl | hmem
    · exact .inr ⟨ho, fun p hp => hr.id ▸ (hothers p (hq'.mem_iff.1 hp)).symm⟩
    · exact .inl (hq'.mem_iff.2 hmem)
  · exact .inr ⟨hover, fun p hp => hne p (hq.mem_iff.2 (by simp [hq'.mem_iff.1 hp]))⟩

theorem At.of_start (hr : e.At x r) (hne : q.execution.id ≠ x) (hruns : (q :: e.runs).Perm e'.runs) :
    e'.At x r := by
  refine ⟨hr.id, hr.stands.imp (fun hmem => hruns.mem_iff.1 (by simp [hmem]))
    (And.imp_right fun hno p hp => ?_)⟩
  rcases List.mem_cons.1 (hruns.mem_iff.2 hp) with rfl | hp
  · exact hne
  · exact hno p hp

end At

/-- The run of an execution after a turn: it has moved, or it is the same. -/
theorem Turn.follow (ht : Traced e.actions e.world e.delivered e.runs log) (h : e.Turn more e')
    (hx : log.Started x) (hr : e.At x r) :
    ∃ r', e'.At x r' ∧
      ((r' = r ∧ e'.world.history e'.delivered ((log ++ more).of x) x =
          e.world.history e.delivered (log.of x) x) ∨
        ∃ eff evs, Move e.actions r eff evs r' ∧
          (e.world.history e.delivered (log.of x) x).Admits eff ∧
          (x ∈ e.world.stopping → eff.drawn? = none) ∧
          (.interrupted ∈ evs ∨
            r.isBlocked e.world = false ∧ r.advance e.actions e.world = (r', e'.world)) ∧
          e'.world.history e'.delivered ((log ++ more).of x) x =
            (e.world.history e.delivered (log.of x) x).after evs eff) := by
  rw [Log.of_append]
  cases h with
  | @move q q' others eff evs e' hm hon hd hq hq' hstop htaken =>
    have htq := ht.perm hq
    have hothers : ∀ p ∈ others, q.execution.id ≠ p.execution.id := fun p hp =>
      ((List.pairwise_cons.1 htq.apart).1 p hp).1
    have hid : q'.execution.id = q.execution.id := congrArg Execution.id hm.keeps.2
    by_cases hx : q.execution.id = x
    · subst hx
      obtain rfl := At.eq ht hr (hq.mem_iff.2 (by simp)) rfl
      refine ⟨q', .of_move hid hothers hq', .inr ⟨eff, evs, hm, htq.admits hm _, hstop, htaken, ?_⟩⟩
      rw [Log.of_map_self, hd, hon.history_own htq.keyed (htq.fits hm)]
    · refine ⟨r, hr.of_other hx hid hq hq', .inl ⟨rfl, ?_⟩⟩
      rw [Log.of_map_ne (Ne.symm hx), List.append_nil, hd,
        hon.history_other htq.keyed (htq.fits hm) (Ne.symm hx)]
  | still hruns hist =>
    exact ⟨r, hr.congr hruns, .inl ⟨rfl, by rw [show Log.of x [] = [] from rfl, List.append_nil, hist]⟩⟩
  | @drop q others e' ho hq hq' hist =>
    have hothers : ∀ p ∈ others, q.execution.id ≠ p.execution.id := fun p hp =>
      ((List.pairwise_cons.1 (ht.perm hq).apart).1 p hp).1
    refine ⟨r, hr.of_drop ho hothers hq hq', .inl ⟨rfl, ?_⟩⟩
    rw [show Log.of x [] = [] from rfl, List.append_nil, hist]
  | @start ex payload g e' hid hruns hist =>
    have hne : ex.id ≠ x := by
      rintro rfl
      exact (ht.unused _ (Nat.lt_succ_self _)).1.executions (hid ▸ ht.stored hx)
    have hlog : Log.of x [(ex.id, .started g)] = [] := by simp [Log.of, hne]
    exact ⟨r, hr.of_start hne hruns,
      .inl ⟨rfl, by rw [hlog, List.append_nil, hist _ _ (Ne.symm hne)]⟩⟩

/-! ### Requests to stop -/

theorem runGraph_keeps (g : FlowGraph) (startMode : String) (payload : Value) (e : Engine σ) :
    (e.runGraph g startMode payload).2.world.stopping = e.world.stopping ∧
      (e.runGraph g startMode payload).2.world.opened = e.world.opened ∧
      (e.runGraph g startMode payload).2.waiting = e.waiting := by
  unfold runGraph
  split
  next => exact ⟨rfl, rfl, rfl⟩
  next => exact ⟨rfl, rfl, rfl⟩
  next =>
    obtain ⟨ex, -, -, hn⟩ := newExecution_apply g startMode e.world
    simp only [inWorld, hn]
    rcases Store.create ex e.world.store with ⟨f | i, store⟩ <;> exact ⟨rfl, rfl, rfl⟩

theorem Happens.stopping (h : e.Happens more e') : e.world.stopping <+: e'.world.stopping := by
  cases h with
  | job i j hj =>
    cases j with
    | proceed q => rw [world_stepAt hj]; exact (advance_keeps ..).1
    | deliver =>
      simp only [stepAt, hj, perform, deliver]
      cases e.world.sent <;> exact List.prefix_rfl
    | forget y => simp only [stepAt, hj, perform]; exact List.prefix_rfl
  | interrupt => exact List.prefix_rfl
  | interruptWaiting => exact List.prefix_rfl
  | call c =>
    cases c with
    | start g startMode payload =>
      have hk := (runGraph_keeps g startMode payload e).1
      simp only [Engine.call]
      split <;> rename_i heq <;> rw [heq] at hk <;> exact hk ▸ List.prefix_rfl
    | cancel id =>
      simp only [Engine.call, cancel]
      split
      · exact List.prefix_append ..
      · exact List.prefix_rfl
    | stopAll => exact List.prefix_append ..
    | _ => exact List.prefix_rfl

theorem Interleaved.stopping (h : e.Interleaved more e') : e.world.stopping <+: e'.world.stopping := by
  induction h with
  | start => exact List.prefix_rfl
  | step _ hs ih => exact ih.trans hs.stopping

/-! ### An invariant of one run -/

/-- What the moves of a run keep holds of it after all that happens. -/
theorem Interleaved.follow {P : Run → History → Prop} (hs : e.Sound actions log)
    (hr : e.At x r) (hc : Comes actions g x r (e.world.history e.delivered (log.of x) x))
    (hx : (x, .started g) ∈ log)
    (hstep : ∀ {r r' : Run} {h : History} {eff : Effect} {evs : List Event}, Comes actions g x r h →
      Move actions r eff evs r' → h.Admits eff → (x ∈ e.world.stopping → eff.drawn? = none) →
      P r h → P r' (h.after evs eff))
    (hP : P r (e.world.history e.delivered (log.of x) x)) (h : e.Interleaved more e') :
    ∃ r', e'.At x r' ∧
      Comes actions g x r' (e'.world.history e'.delivered ((log ++ more).of x) x) ∧
      P r' (e'.world.history e'.delivered ((log ++ more).of x) x) := by
  induction h with
  | start => exact ⟨r, hr, by simpa using hc, by simpa using hP⟩
  | @step ms m e₁ e₂ h hh ih =>
    obtain ⟨q, hq, hcq, hPq⟩ := ih
    have hs₁ := h.keeps hs
    obtain ⟨r', hr', hmove⟩ := (hh.turn hs₁).follow (hs₁.registry ▸ hs₁.traced)
      ⟨g, List.mem_append_left _ hx⟩ hq
    rw [hs₁.registry, List.append_assoc] at hmove
    refine ⟨r', hr', ?_⟩
    rcases hmove with ⟨rfl, hist⟩ | ⟨eff, evs, hm, ha, hstop, -, hist⟩ <;> rw [hist]
    · exact ⟨hcq, hPq⟩
    · exact ⟨hcq.move hm ha, hstep hcq hm ha (fun hx => hstop (h.stopping.subset hx)) hPq⟩

/-! ### Runs that wait -/

/-- The runs that wait are blocked. -/
def Parked (e : Engine σ) : Prop := ∀ r ∈ e.waiting, r.isBlocked e.world = true

theorem Idle.parked (h : e.Idle) : e.Parked := by simp [Parked, h.waiting]

theorem Parked.congr (hp : e.Parked) (ho : e'.world.opened = e.world.opened)
    (hw : e'.waiting ⊆ e.waiting) : e'.Parked :=
  fun r hr => (isBlocked_congr ho).trans (hp r (hw hr))

theorem Parked.place (hp : e.Parked) (r : Run) : (e.place r).Parked := by
  unfold Engine.place
  split
  · exact hp
  · exact hp
  · split
    next hb =>
      intro q hq
      rcases List.mem_append.1 hq with hq | hq
      · exact hp q hq
      · exact List.mem_singleton.1 hq ▸ hb
    next => exact hp

theorem Happens.parked (h : e.Happens more e') (hp : e.Parked) : e'.Parked := by
  cases h with
  | job i j hj =>
    cases j with
    | proceed q =>
      rw [stepAt_proceed hj]
      refine Parked.place (hp.congr ?_ ?_) _
      · rw [(wake_keeps _).1]; exact (advance_keeps ..).2
      · rw [(wake_keeps _).2.2.2]; exact List.Subset.refl _
    | deliver =>
      simp only [stepAt, hj, perform, deliver]
      cases e.world.sent <;> exact hp.congr rfl (List.Subset.refl _)
    | forget y => simp only [stepAt, hj, perform]; exact hp.congr rfl (List.Subset.refl _)
  | interrupt => exact hp.congr rfl (List.Subset.refl _)
  | interruptWaiting => exact hp.congr rfl (List.eraseIdx_subset ..)
  | call c =>
    cases c with
    | start g startMode payload =>
      obtain ⟨-, ho, hw⟩ := runGraph_keeps g startMode payload e
      simp only [Engine.call]
      split <;> rename_i heq <;> rw [heq] at ho hw <;> exact hp.congr ho (hw ▸ List.Subset.refl _)
    | cancel id =>
      simp only [Engine.call, cancel]
      split <;> exact hp.congr rfl (List.Subset.refl _)
    | release gate =>
      intro q hq
      obtain ⟨hmem, hgate⟩ := List.mem_filter.1 hq
      exact isBlocked_of_gate (hp q hmem) (by simpa using hgate)
    | _ => exact hp.congr rfl (List.Subset.refl _)

theorem Interleaved.parked (h : e.Interleaved more e') (hp : e.Parked) : e'.Parked := by
  induction h with
  | start => exact hp
  | step _ hs ih => exact hs.parked ih

/-- Once nothing is left to do the runs that are left are blocked. -/
theorem Sound.blocked_of_settle (hs : e.Sound actions log) (hp : e.Parked) :
    ∀ r ∈ e.settle.runs, r.isBlocked e.settle.world = true := by
  intro r hr
  rw [runs, settle_ready hs] at hr
  exact (steps_interleaved e.fuel e).parked hp r hr

end Engine

end Workflow
