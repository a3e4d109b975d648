import Workflow.Interleaving
import Workflow.Proofs.Store

/-!
# What a run can do

`Run.Move` lists the steps of a run, each with its `Effect` on the world and what the log tells of it.
Every step that is taken in a world is one of them (`Run.moves_of_advance`), or the run waits or is
over and nothing changes.
-/

namespace Workflow

/-- What a step of a run changes for others to see. -/
inductive Effect where
  | none
  | draw (id : String)
  | create (step : Step)
  | update (step : Step)
  | finish (e : Execution)
  | tell (m : Message)

/-- The effect of a step of a run on the world. Time, surroundings and who is asked to stop may change
with any of them. -/
inductive Effect.On {σ : Type} (w : World σ) : Effect → World σ → Prop where
  | none {w' : World σ} (hr : w'.store.records = w.store.records) (hs : w'.sent = w.sent)
      (hd : w'.drawn = w.drawn) (hrun : w'.running = w.running) :
      On w .none w'
  | draw : On w (.draw (idOf (w.drawn + 1))) { w with drawn := w.drawn + 1 }
  | create {step : Step} {i : String} {store : Store}
      (h : Store.createStep step w.store = (.ok i, store)) : On w (.create step) { w with store }
  | update {step : Step} {b : Bool} {store : Store}
      (h : Store.updateStep step w.store = (.ok b, store)) : On w (.update step) { w with store }
  | finish {e : Execution} {b : Bool} {store : Store} (h : Store.update e w.store = (.ok b, store)) :
      On w (.finish e) { w with store }
  | tell {m : Message} : On w (.tell m) { w with sent := w.sent ++ [m] }

/-- Messages are only added, and the executions in progress stay the same. -/
theorem Effect.On.prefix_sent {σ : Type} {w w' : World σ} {eff : Effect} (h : eff.On w w') :
    w.sent <+: w'.sent ∧ w'.running = w.running := by
  cases h with
  | none _ hs _ hr => exact ⟨hs ▸ List.prefix_rfl, hr⟩
  | tell => exact ⟨List.prefix_append .., rfl⟩
  | _ => exact ⟨List.prefix_rfl, rfl⟩

namespace Run

variable {σ : Type} {actions : Registry σ}

/-- Whether a step is new to the store. -/
def Sequel.isNew : Sequel → Bool
  | execute => true
  | pass => true
  | _ => false

/-- The effect of recording a step. -/
def Sequel.effect (step : Step) (q : Sequel) : Effect :=
  if q.isNew then .create step else .update step

/-- The run after an outcome; a failure ends the walk. -/
def orEnding (r : Run) : Outcome Run → Run
  | .ok r' => r'
  | .error f => r.moveTo (.ending (.error f))

/-- A new step of a node that is executed. -/
def startedStep (r : Run) (n : Node) (id : String) (now : Instant) : Step :=
  { id, execution := r.execution.id, node := n.id, status := .running, started := some now }

/-- A new step of a node that is skipped. -/
def skippedStep (r : Run) (n : Node) (id : String) (now : Instant) : Step :=
  { id, execution := r.execution.id, node := n.id, status := .skipped, completed := some now }

/-- The steps that a run can take, and that it is cancelled from without. -/
inductive Move (actions : Registry σ) (r : Run) : Effect → List Event → Run → Prop where
  | order {l : List Node} (hs : r.stage = .fresh) (ho : r.graph.order = .ok l) :
      Move actions r .none [] (r.moveTo (.before l))
  | disorder {f : Failure} (hs : r.stage = .fresh) (ho : r.graph.order = .error f) :
      Move actions r .none [] (r.moveTo (.ending (.error f)))
  | complete (hs : r.stage = .before []) :
      Move actions r .none [] (r.moveTo (.ending (.ok .completed)))
  | stop {n : Node} {rest : List Node} (hs : r.stage = .before (n :: rest)) :
      Move actions r .none [] (r.moveTo (.ending (.ok .stopped)))
  | unclear {n : Node} {rest : List Node} {f : Failure} (hs : r.stage = .before (n :: rest))
      (hr : r.isReached n = .error f) : Move actions r .none [] (r.moveTo (.ending (.error f)))
  | enter {n : Node} {rest : List Node} (id : String) (now : Instant)
      (hs : r.stage = .before (n :: rest)) (hr : r.isReached n = .ok true) :
      Move actions r (.draw id) []
        (r.moveTo (.recording ⟨n, r.startedStep n id now, rest⟩ .execute))
  | skip {n : Node} {rest : List Node} (id : String) (now : Instant)
      (hs : r.stage = .before (n :: rest)) (hr : r.isReached n = .ok false) :
      Move actions r (.draw id) []
        (r.moveTo (.recording ⟨n, r.skippedStep n id now, rest⟩ .pass))
  | record {v : Visit} {q : Sequel} (hs : r.stage = .recording v q) :
      Move actions r (q.effect v.step) [.wrote v.step] (r.moveTo (.announcing v q))
  | refuse {v : Visit} {q : Sequel} (f : Failure) (hs : r.stage = .recording v q) :
      Move actions r .none [.refused] (r.moveTo (.ending (.error f)))
  | announce {v : Visit} {q : Sequel} (hs : r.stage = .announcing v q) :
      Move actions r (.tell (stepMessage v.step)) [] (r.orEnding (r.proceed v q))
  | execute {v : Visit} {a : Attempt} {w : World σ} (hs : r.stage = .executing v)
      (ha : (r.attempt actions v.node w).1 = .ok a) :
      Move actions r .none [] (r.moveTo (.performed v a))
  | conclude {v : Visit} {a : Attempt} {o : Outcome NodeOutcome} {w : World σ}
      (hs : r.stage = .performed v a) (ho : a.outcome? w = some o) :
      Move actions r .none [.executed v.node o] (r.orEnding (r.conclude v w.now o))
  | interrupt {v : Visit} (message : String)
      (hs : r.stage = .executing v ∨ ∃ a, r.stage = .performed v a) :
      Move actions r .none [.interrupted] (r.moveTo (.ending (.error ⟨.cancelled, message⟩)))
  | finish {result : Outcome Progress} (now : Instant) (hs : r.stage = .ending result) :
      Move actions r .none [.ended result] (r.moveTo (afterWalk r.execution now result))
  | store {e : Execution} {result : Outcome Execution} (hs : r.stage = .storing e result) :
      Move actions r (.finish e) [] (r.moveTo (.telling e result))
  | unstored {e : Execution} {result : Outcome Execution} (hs : r.stage = .storing e result) :
      Move actions r .none [.refused] (r.moveTo (.telling e result))
  | tell {e : Execution} {result : Outcome Execution} (hs : r.stage = .telling e result) :
      Move actions r (.tell (endMessage e)) [] (r.moveTo (.atEnd result))

theorem interrupt_move {r r' : Run} {message : String} (h : r.interrupt message = some r') :
    Move actions r .none [.interrupted] r' := by
  unfold Run.interrupt at h
  split at h
  next v hs => cases h; exact .interrupt message (.inl hs)
  next v a hs => cases h; exact .interrupt message (.inr ⟨a, hs⟩)
  next => cases h

/-! ### The steps that are taken in a world -/

variable {r : Run} {w : World σ}

/-- A step of a run in a world: one of the moves, with its effect. -/
def Moves (actions : Registry σ) (r : Run) (w : World σ) : Prop :=
  ∃ eff, Move actions r eff (r.events w) (r.advance actions w).1 ∧
    Effect.On w eff (r.advance actions w).2

/-- A step that leaves the world as it is. -/
theorem Moves.of_same {r' : Run} (hn : r.advance actions w = (r', w)) (he : r.events w = [])
    (hm : Move actions r .none [] r') : Moves actions r w := by
  refine ⟨.none, ?_, ?_⟩
  · rw [hn, he]; exact hm
  · rw [hn]; exact .none rfl rfl rfl rfl

theorem moves_fresh (hs : r.stage = .fresh) : Moves actions r w := by
  have he : r.events w = [] := by rw [events, hs]
  cases ho : r.graph.order with
  | ok l => exact .of_same (by simp [advance, next, hs, ho]) he (.order hs ho)
  | error f => exact .of_same (by simp [advance, next, hs, ho]) he (.disorder hs ho)

theorem visit_apply (n : Node) (rest : List Node) :
    r.visit n rest w =
      if w.stopping.contains r.execution.id then (.ok (r.moveTo (.ending (.ok .stopped))), w)
      else
        match r.isReached n with
        | .error f => (.error f, w)
        | .ok true =>
          (.ok (r.moveTo (.recording ⟨n, r.startedStep n (idOf (w.drawn + 1)) w.now, rest⟩ .execute)),
            { w with drawn := w.drawn + 1 })
        | .ok false =>
          (.ok (r.moveTo (.recording ⟨n, r.skippedStep n (idOf (w.drawn + 1)) w.now, rest⟩ .pass)),
            { w with drawn := w.drawn + 1 }) := by
  simp only [visit, Stateful.bind_apply, Stateful.get_apply]
  split
  next => rfl
  next =>
    simp only [Stateful.bind_apply, Stateful.ofExcept_apply]
    cases r.isReached n with
    | error f => rfl
    | ok b => cases b <;> rfl

theorem moves_before {l : List Node} (hs : r.stage = .before l) : Moves actions r w := by
  have he : r.events w = [] := by rw [events, hs]
  cases l with
  | nil => exact .of_same (by simp [advance, next, hs]) he (.complete hs)
  | cons n rest =>
    have hn : r.next actions w = r.visit n rest w := by rw [next, hs]
    rw [visit_apply] at hn
    split at hn
    next => exact .of_same (by simp only [advance, hn]) he (.stop hs)
    next =>
      split at hn
      next f hr => exact .of_same (by simp only [advance, hn]) he (.unclear hs hr)
      next hr =>
        refine ⟨.draw (idOf (w.drawn + 1)), ?_, ?_⟩ <;> simp only [advance, hn]
        · rw [he]; exact .enter _ _ hs hr
        · exact .draw
      next hr =>
        refine ⟨.draw (idOf (w.drawn + 1)), ?_, ?_⟩ <;> simp only [advance, hn]
        · rw [he]; exact .skip _ _ hs hr
        · exact .draw

section Record

variable {step : Step} {q : Sequel} {store store' : Store}

theorem record_ok (h : q.record step w.store = (.ok (), store)) :
    Effect.On w (q.effect step) { w with store } := by
  cases q with
  | execute => obtain ⟨i, hi⟩ := Stateful.ok_of_discard h; exact .create hi
  | pass => obtain ⟨i, hi⟩ := Stateful.ok_of_discard h; exact .create hi
  | follow _ => obtain ⟨b, hb⟩ := Stateful.ok_of_discard h; exact .update hb
  | stop _ => obtain ⟨b, hb⟩ := Stateful.ok_of_discard h; exact .update hb

theorem record_error {f : Failure} (h : q.record step store = (.error f, store')) :
    store'.records = store.records := by
  cases q <;> exact Store.write_error (Stateful.error_of_discard h)

end Record

theorem moves_recording {v : Visit} {q : Sequel} (hs : r.stage = .recording v q) : Moves actions r w := by
  have hn : r.next actions w =
      match q.record v.step w.store with
      | (.ok _, store) => (.ok (r.moveTo (.announcing v q)), { w with store })
      | (.error f, store) => (.error f, { w with store }) := by
    simp only [next, hs, Stateful.bind_apply, World.onStore]
    rcases q.record v.step w.store with ⟨_ | _, _⟩ <;> rfl
  rcases hq : q.record v.step w.store with ⟨f | _, store⟩ <;> rw [hq] at hn
  · refine ⟨.none, ?_, ?_⟩ <;> simp only [advance, hn]
    · simp only [events, hs, hq]; exact .refuse f hs
    · exact .none (record_error hq) rfl rfl rfl
  · refine ⟨q.effect v.step, ?_, ?_⟩ <;> simp only [advance, hn]
    · simp only [events, hs, hq]; exact .record hs
    · exact record_ok hq

theorem moves_announcing {v : Visit} {q : Sequel} (hs : r.stage = .announcing v q) : Moves actions r w := by
  have he : r.events w = [] := by rw [events, hs]
  have hn : r.next actions w = (r.proceed v q, { w with sent := w.sent ++ [stepMessage v.step] }) := by
    simp [next, hs, World.send]
  have ha : r.advance actions w =
      (r.orEnding (r.proceed v q), { w with sent := w.sent ++ [stepMessage v.step] }) := by
    cases hp : r.proceed v q <;> simp only [advance, hn, hp, orEnding]
  refine ⟨.tell (stepMessage v.step), ?_, ?_⟩ <;> rw [ha]
  · rw [he]; exact .announce hs
  · exact .tell

theorem attempt_apply (actions : Registry σ) (r : Run) (n : Node) (w : World σ) :
    ∃ a w', r.attempt actions n w = (.ok a, w') ∧ Effect.On w .none w' := by
  have hrefl : Effect.On w .none w := .none rfl rfl rfl rfl
  cases hc : n.parsedConfig with
  | trigger _ _ => exact ⟨_, w, by simp only [attempt, hc]; rfl, hrefl⟩
  | action type params =>
    cases hp : Template.renderFields r.context.root (params.getD []) with
    | error f => exact ⟨_, w, by simp only [attempt, hc, hp]; rfl, hrefl⟩
    | ok params =>
      refine ⟨_, (perform actions type params w).2, by simp only [attempt, hc, hp]; rfl, ?_⟩
      simp only [perform]
      split <;> exact .none rfl rfl rfl rfl
  | condition _ => exact ⟨_, w, by simp only [attempt, hc]; rfl, hrefl⟩
  | other _ => exact ⟨_, w, by simp only [attempt, hc]; rfl, hrefl⟩

theorem moves_executing {v : Visit} (hs : r.stage = .executing v) : Moves actions r w := by
  have he : r.events w = [] := by rw [events, hs]
  obtain ⟨a, w', ha, hw⟩ := attempt_apply actions r v.node w
  have hn : r.next actions w = (.ok (r.moveTo (.performed v a)), w') := by
    simp [next, hs, ha]
  refine ⟨.none, ?_, ?_⟩ <;> simp only [advance, hn]
  · rw [he]; exact .execute hs (congrArg Prod.fst ha)
  · exact hw

theorem clock_apply : (World.clock : Working σ Instant) w = (.ok w.now, w) := rfl

theorem moves_performed {v : Visit} {a : Attempt} {o : Outcome NodeOutcome} (hs : r.stage = .performed v a)
    (ho : a.outcome? w = some o) : Moves actions r w := by
  have hn : r.next actions w = (r.conclude v w.now o, w) := by
    simp only [next, hs, Stateful.bind_apply, Stateful.get_apply, ho, clock_apply, Stateful.ofExcept_apply]
  have ha : r.advance actions w = (r.orEnding (r.conclude v w.now o), w) := by
    cases hc : r.conclude v w.now o <;> simp only [advance, hn, hc, orEnding]
  refine ⟨.none, ?_, ?_⟩ <;> rw [ha]
  · simp only [events, hs, ho]; exact .conclude hs ho
  · exact .none rfl rfl rfl rfl

theorem moves_ending {o : Outcome Progress} (hs : r.stage = .ending o) : Moves actions r w := by
  have hn : r.next actions w = (.ok (r.moveTo (afterWalk r.execution w.now o)), w) := by
    simp only [next, hs, Stateful.bind_apply, clock_apply, Stateful.pure_apply]
  refine ⟨.none, ?_, ?_⟩ <;> simp only [advance, hn]
  · simp only [events, hs]; exact .finish _ hs
  · exact .none rfl rfl rfl rfl

theorem moves_storing {e : Execution} {o : Outcome Execution} (hs : r.stage = .storing e o) : Moves actions r w := by
  have hn : r.next actions w =
      (.ok (r.moveTo (.telling e o)), { w with store := (Store.update e w.store).2 }) := by
    simp only [next, hs, Stateful.bind_apply, Stateful.tryCatch_apply, Stateful.discard_apply, World.onStore]
    rcases Store.update e w.store with ⟨_ | _, store⟩ <;> rfl
  rcases hu : Store.update e w.store with ⟨f | b, store⟩ <;> rw [hu] at hn
  · refine ⟨.none, ?_, ?_⟩ <;> simp only [advance, hn]
    · simp only [events, hs, hu]; exact .unstored hs
    · exact .none (Store.write_error hu) rfl rfl rfl
  · refine ⟨.finish e, ?_, ?_⟩ <;> simp only [advance, hn]
    · simp only [events, hs, hu]; exact .store hs
    · exact .finish hu

theorem moves_telling {e : Execution} {o : Outcome Execution} (hs : r.stage = .telling e o) : Moves actions r w := by
  have he : r.events w = [] := by rw [events, hs]
  have hn : r.next actions w = (.ok (r.moveTo (.atEnd o)), { w with sent := w.sent ++ [endMessage e] }) := by
    simp [next, hs, World.send]
  refine ⟨.tell (endMessage e), ?_, ?_⟩ <;> simp only [advance, hn]
  · rw [he]; exact .tell hs
  · exact .tell

/-- A step of a run in a world is one of the moves, unless the run waits or is over. -/
theorem moves_of_advance (actions : Registry σ) (r : Run) (w : World σ)
    (hb : r.isBlocked w = false) (ho : r.isOver = false) : Moves actions r w := by
  cases hs : r.stage with
  | fresh => exact moves_fresh hs
  | before l => exact moves_before hs
  | recording v q => exact moves_recording hs
  | announcing v q => exact moves_announcing hs
  | executing v => exact moves_executing hs
  | performed v a =>
    simp only [isBlocked, hs] at hb
    obtain ⟨o, ho⟩ := Option.isSome_iff_exists.1 (Option.isNone_eq_false_iff.1 hb)
    exact moves_performed hs ho
  | ending o => exact moves_ending hs
  | storing e o => exact moves_storing hs
  | telling e o => exact moves_telling hs
  | atEnd o => simp only [isOver, hs, reduceCtorEq] at ho

/-- A run that waits or is over does not move. -/
theorem advance_eq_self (actions : Registry σ) (r : Run) (w : World σ)
    (h : r.isBlocked w = true ∨ r.isOver = true) :
    r.advance actions w = (r, w) ∧ r.events w = [] := by
  cases hs : r.stage with
  | performed v a =>
    rcases h with hb | ho
    · simp only [isBlocked, hs, Option.isNone_iff_eq_none] at hb
      have hn : r.next actions w = (.ok r, w) := by
        simp only [next, hs, Stateful.bind_apply, Stateful.get_apply, hb, Stateful.pure_apply]
      exact ⟨by simp only [advance, hn], by simp only [events, hs, hb]; rfl⟩
    · simp only [isOver, hs, reduceCtorEq] at ho
  | atEnd o =>
    have hn : r.next actions w = (.ok r, w) := by simp only [next, hs, Stateful.pure_apply]
    exact ⟨by simp only [advance, hn], by simp only [events, hs]⟩
  | _ => simp only [isBlocked, isOver, hs, Bool.false_eq_true, or_self] at h

theorem advance_prefix_sent (actions : Registry σ) (r : Run) (w : World σ) :
    w.sent <+: (r.advance actions w).2.sent ∧ (r.advance actions w).2.running = w.running := by
  by_cases h : r.isBlocked w = true ∨ r.isOver = true
  · rw [(advance_eq_self actions r w h).1]
    exact ⟨List.prefix_rfl, rfl⟩
  · rw [not_or, Bool.not_eq_true, Bool.not_eq_true] at h
    obtain ⟨eff, -, hon⟩ := moves_of_advance actions r w h.1 h.2
    exact hon.prefix_sent

end Run

end Workflow
