import Workflow.Proofs.Granted

/-!
# What happens on a store in memory

A store in memory refuses no write (`Store.Reliable`), and on it a flow may be deleted without a change of
what is on record of executions. `Engine.Develops` tells that an engine comes from one to another by all
that `Happens` lists and by flows being deleted; to wait for an execution is part of it
(`Develops.waitFor`). What the steps of a run keep, each in the
world in which it is taken, holds after a development (`Develops.stands`).
-/

namespace Workflow

/-! ### Deletions -/

namespace Store

variable {s : Store} {flow : String}

theorem deleteFlow_of_memory {m : Memory} (hr : s.records = .memory m) :
    (Store.deleteFlow flow s).2 = { s with records := .memory (m.deleteFlow flow).1 } := by
  simp only [Store.deleteFlow, Stateful.bind_apply, Stateful.get_apply, hr, Stateful.set_apply,
    Stateful.pure_apply]

theorem deleteFlow_of_tables {t : Tables} (hr : s.records = .tables t) :
    (Store.deleteFlow flow s).2 = { s with records := .tables (t.deleteFlow flow).1 } := by
  simp only [Store.deleteFlow, Stateful.bind_apply, Stateful.get_apply, hr, Stateful.set_apply,
    Stateful.pure_apply]

end Store

/-! ### A store that refuses nothing -/

/-- The records are in memory, and no write is to fail. -/
structure Store.Reliable (s : Store) : Prop where
  memory : ∃ m, s.records = .memory m
  outages : s.outages = []

namespace Store.Reliable

variable {s : Store} {α : Type}

theorem write (h : s.Reliable) (w : Write) (f : Memory → Memory × α)
    (g : Tables → Outcome (Tables × α)) : ∃ a s', Store.write w f g s = (.ok a, s') ∧ s'.Reliable := by
  obtain ⟨m, hm⟩ := h.memory
  refine ⟨(f m).2, { s with records := .memory (f m).1 }, ?_, ⟨_, rfl⟩, h.outages⟩
  simp only [Store.write, Stateful.bind_apply, attempt_calm h.outages, Stateful.get_apply, hm, Stateful.set_apply,
    Stateful.pure_apply]

theorem record (h : s.Reliable) (step : Step) (q : Run.Sequel) :
    ∃ s', q.record step s = (.ok (), s') ∧ s'.Reliable := by
  have hdiscard : ∀ {α : Type} {m : Store.Access α} {a : α} {s' : Store}, m s = (.ok a, s') →
      Functor.discard m s = (.ok (), s') := by
    intro α m a s' hm
    rw [Stateful.discard_apply, hm]
    rfl
  cases q with
  | execute => obtain ⟨a, s', hw, hs⟩ := h.write ..; exact ⟨s', hdiscard hw, hs⟩
  | pass => obtain ⟨a, s', hw, hs⟩ := h.write ..; exact ⟨s', hdiscard hw, hs⟩
  | follow _ => obtain ⟨a, s', hw, hs⟩ := h.write ..; exact ⟨s', hdiscard hw, hs⟩
  | stop _ => obtain ⟨a, s', hw, hs⟩ := h.write ..; exact ⟨s', hdiscard hw, hs⟩

theorem saveGraph (h : s.Reliable) (g : FlowGraph) (now : Instant) :
    (Store.saveGraph g now s).2.Reliable := by
  obtain ⟨m, hm⟩ := h.memory
  simp only [Store.saveGraph, Stateful.bind_apply, Stateful.get_apply, hm, Stateful.set_apply,
    Stateful.pure_apply]
  exact ⟨⟨_, rfl⟩, h.outages⟩

theorem deleteFlow_eq (h : s.Reliable) (flow : String) :
    ∃ m, s.records = .memory m ∧
      (Store.deleteFlow flow s).2 = { s with records := .memory (m.deleteFlow flow).1 } := by
  obtain ⟨m, hm⟩ := h.memory
  exact ⟨m, hm, deleteFlow_of_memory hm⟩

theorem deleteFlow (h : s.Reliable) (flow : String) : (Store.deleteFlow flow s).2.Reliable := by
  obtain ⟨m, -, hd⟩ := h.deleteFlow_eq flow
  rw [hd]
  exact ⟨⟨_, rfl⟩, h.outages⟩

/-- A flow is deleted without its executions. -/
theorem deleteFlow_keeps (h : s.Reliable) (hk : s.Keyed) (flow : String) :
    (Store.deleteFlow flow s).2.Keyed ∧ (Store.deleteFlow flow s).2.steps = s.steps ∧
      (Store.deleteFlow flow s).2.executions = s.executions := by
  obtain ⟨m, hm, hd⟩ := h.deleteFlow_eq flow
  have hsteps : (Store.deleteFlow flow s).2.steps = s.steps := by
    simp only [Store.steps, hd, hm, Memory.deleteFlow]
  have hex : (Store.deleteFlow flow s).2.executions = s.executions := by
    simp only [Store.executions, hd, hm, Memory.deleteFlow]
  refine ⟨⟨hsteps ▸ hk.steps, hex ▸ hk.executions, ?_⟩, hsteps, hex⟩
  have hn := hk.numbered
  rw [hm] at hn
  rw [hd]
  exact hn

end Store.Reliable

namespace Run

variable {σ : Type} {actions : Registry σ} {r r' : Run} {w : World σ} {eff : Effect} {evs : List Event}

theorem advance_reliable (actions : Registry σ) (r : Run) (hw : w.store.Reliable) :
    (r.advance actions w).2.store.Reliable := by
  have ht := touches_of_advance actions r w
  generalize (r.advance actions w).2 = w' at ht
  cases ht with
  | perform type params hs =>
    simp only [perform]
    split <;> exact hw
  | @record v q hs =>
    obtain ⟨s', hs', hr⟩ := hw.record v.step q
    rwa [hs']
  | @update e result hs =>
    obtain ⟨b, s', hs', hr⟩ := hw.write .update (·.update e) (·.update e)
    rwa [Store.update, hs']
  | _ => exact hw

/-- A reliable store refuses no write of a run. -/
theorem not_refused (r : Run) (hw : w.store.Reliable) : .refused ∉ r.events w := by
  cases hs : r.stage with
  | recording v q =>
    obtain ⟨s', hs', -⟩ := hw.record v.step q
    simp [events, hs, hs']
  | storing e res =>
    obtain ⟨b, s', hs', -⟩ := hw.write .update (·.update e) (·.update e)
    simp [events, hs, Store.update, hs']
  | performed v a => simp [events, hs]
  | _ => simp [events, hs]

theorem Move.notOver (hm : Move actions r eff evs r') : r.isOver = false := by
  cases hm with
  | interrupt message hs => rcases hs with hs | ⟨a, hs⟩ <;> simp [isOver, hs]
  | _ => simp_all [isOver]

end Run

open Run

namespace Engine

variable {σ : Type} {actions : Registry σ} {e₀ e e' : Engine σ} {log more : Log} {x : String} {r : Run}
  {g : FlowGraph}

/-! ### Jobs that are not steps of runs -/

/-- What a delivery, and the end of a run, leave as it is. -/
structure Quiet (e e' : Engine σ) : Prop where
  actions : e'.actions = e.actions
  runs : e.runs.Perm e'.runs
  told : e'.told = e.told
  store : e'.world.store = e.world.store
  drawn : e'.world.drawn = e.world.drawn
  opened : e'.world.opened = e.world.opened

theorem stepAt_quiet {i : Nat} {j : Job} (hi : e.ready[i]? = some j) (hj : j.run? = none) :
    e.Quiet (e.stepAt i) := by
  have hruns : e.runs.Perm (j.run?.toList ++ ({ e with ready := e.ready.eraseIdx i } : Engine σ).runs) :=
    runs_perm_of_ready hi
  rw [hj] at hruns
  cases j with
  | proceed r => cases hj
  | deliver =>
    simp only [stepAt, hi, perform, deliver]
    cases hse : e.world.sent with
    | nil => exact ⟨rfl, hruns, by simp [told, hse], rfl, rfl, rfl⟩
    | cons m ms => exact ⟨rfl, by cases ms <;> exact hruns, by simp [told, hse], rfl, rfl, rfl⟩
  | forget y =>
    simp only [stepAt, hi, perform]
    exact ⟨rfl, hruns, rfl, rfl, rfl, rfl⟩

/-! ### What can happen, seen from the runs and the records -/

/-- The runs and what is on record of executions stay the same. -/
structure Calm (e e' : Engine σ) : Prop where
  actions : e'.actions = e.actions
  runs : e.runs.Perm e'.runs
  keyed : e'.world.store.Keyed
  steps : e'.world.store.steps = e.world.store.steps
  executions : e'.world.store.executions = e.world.store.executions
  told : e'.told = e.told
  drawn : e.world.drawn ≤ e'.world.drawn

inductive Change (e : Engine σ) : Log → Engine σ → Prop where
  | calm {e' : Engine σ} (h : e.Calm e') : Change e [] e'
  | move {r r' : Run} {others : List Run} {eff : Effect} {evs : List Event} {e' : Engine σ}
      (hact : e'.actions = e.actions) (hm : Move e.actions r eff evs r') (hon : eff.On e.world e'.world)
      (hd : e'.delivered = e.delivered) (hr : e.runs.Perm (r :: others))
      (hr' : e'.runs.Perm (r' :: others) ∨ r'.isOver = true ∧ e'.runs.Perm others) :
      Change e (evs.map (r.execution.id, ·)) e'
  /-- A run that is over is no longer among the runs. -/
  | drop {r : Run} {others : List Run} {e' : Engine σ} (hact : e'.actions = e.actions)
      (ho : r.isOver = true) (hworld : e'.world = e.world) (hd : e'.delivered = e.delivered)
      (hr : e.runs.Perm (r :: others)) (hr' : e'.runs.Perm others) : Change e [] e'
  | start {g : FlowGraph} {payload : Value} {y : Execution} {i : String} {store : Store} {e' : Engine σ}
      (hact : e'.actions = e.actions) (hid : y.id = idOf (e.world.drawn + 1)) (hy : y.status = .running)
      (hc : Store.create y e.world.store = (.ok i, store))
      (hworld : e'.world = { e.world with
        drawn := e.world.drawn + 1, store, running := e.world.running ++ [y.id] })
      (hd : e'.delivered = e.delivered) (hruns : (.ofExecution g y payload :: e.runs).Perm e'.runs) :
      Change e [(y.id, .started g)] e'

theorem Quiet.calm (hq : e.Quiet e') (hk : e.world.store.Keyed) : e.Calm e' :=
  ⟨hq.actions, hq.runs, hq.store ▸ hk, by rw [hq.store], by rw [hq.store], hq.told, hq.drawn.ge⟩

theorem change_proceed (hk : e.world.store.Keyed) {i : Nat} (hi : e.ready[i]? = some (.proceed r)) :
    e.Change (e.events (.proceed r)) (e.stepAt i) := by
  have hworld := world_stepAt hi
  have hdel := delivered_stepAt_of_proceed hi
  have hact : (e.stepAt i).actions = e.actions := by
    rw [stepAt_proceed hi, (place_keeps _ _).2.2, (wake_keeps _).2.2.1]
  obtain ⟨others, hr, hr'⟩ := runs_stepAt hi
  by_cases h : r.isBlocked e.world = true ∨ r.isOver = true
  · obtain ⟨ha, hevs⟩ := advance_eq_self e.actions r e.world h
    rw [ha] at hworld hr'
    rw [Engine.events, hevs]
    rcases hr' with ⟨-, hr'⟩ | ⟨ho, hr'⟩
    · exact .calm ⟨hact, hr.trans hr'.symm, hworld ▸ hk, by rw [hworld], by rw [hworld],
        by rw [told, hdel, hworld, told], by rw [hworld]⟩
    · exact .drop hact ho hworld hdel hr hr'
  · rw [not_or, Bool.not_eq_true, Bool.not_eq_true] at h
    obtain ⟨eff, hm, hon⟩ := moves_of_advance e.actions r e.world h.1 h.2
    exact .move hact hm (hworld ▸ hon) hdel hr (hr'.imp_left And.right)

theorem change_call (hk : e.world.store.Keyed) (c : Call σ) : e.Change (e.call c).1 (e.call c).2 := by
  -- nothing but the world changes, and in it nothing of executions
  have hworld : ∀ w' : World σ, w'.store.Keyed → w'.store.steps = e.world.store.steps →
      w'.store.executions = e.world.store.executions → w'.sent = e.world.sent →
      e.world.drawn ≤ w'.drawn → e.Change [] { e with world := w' } :=
    fun w' hk hs he hm hd => .calm ⟨rfl, .refl _, hk, hs, he, by simp only [told, hm], hd⟩
  cases c with
  | start g startMode payload =>
    rcases runGraph_cases g startMode payload e with
      ⟨refusal, w', hr, hrec, hsent, hdr, -⟩ | ⟨y, i, store, -, hid, hy, hc, hr⟩ <;>
      simp only [Engine.call, hr]
    · exact hworld w' (hk.of_records hrec) (Effect.On.steps_of_records hrec)
        (Effect.On.executions_of_records hrec) hsent hdr
    · exact .start rfl hid hy hc rfl rfl (runs_append e.ready _ e.waiting)
  | cancel id =>
    simp only [Engine.call, cancel]
    split
    · exact hworld _ hk rfl rfl rfl (Nat.le_refl _)
    · exact hworld e.world hk rfl rfl rfl (Nat.le_refl _)
  | stopAll => exact hworld _ hk rfl rfl rfl (Nat.le_refl _)
  | release gate => exact .calm ⟨rfl, runs_release e gate, hk, rfl, rfl, rfl, Nat.le_refl _⟩
  | save g =>
    obtain ⟨hk', hs, he⟩ := hk.saveGraph g e.world.now
    exact hworld _ hk' hs he rfl (Nat.le_refl _)
  | elsewhere now surroundings ids => exact hworld _ hk rfl rfl rfl (Nat.le_add_right _ _)

theorem Happens.change (h : e.Happens more e') (hk : e.world.store.Keyed) : e.Change more e' := by
  cases h with
  | job i j hj =>
    cases j with
    | proceed r => exact change_proceed hk hj
    | deliver => exact .calm ((stepAt_quiet hj rfl).calm hk)
    | forget x => exact .calm ((stepAt_quiet hj rfl).calm hk)
  | interrupt i message r r' hr hr' =>
    have hc : e.Change ([.interrupted].map (r.execution.id, ·)) { e with ready := e.ready.set i (.proceed r') } :=
      .move rfl (interrupt_move hr') (.none rfl rfl rfl rfl) rfl (runs_perm_of_ready hr) (.inl (runs_set hr r'))
    exact hc
  | interruptWaiting i message r r' hr hr' =>
    have hc : e.Change ([.interrupted].map (r.execution.id, ·))
        { e with waiting := e.waiting.eraseIdx i, ready := e.ready ++ [.proceed r'] } :=
      .move rfl (interrupt_move hr') (.none rfl rfl rfl rfl) rfl (runs_perm_of_waiting hr)
        (.inl (runs_append e.ready r' _).symm)
    exact hc
  | call c => exact change_call hk c

/-! ### All that can happen -/

/-- All that can happen, one thing after the other, with flows deleted in between. -/
inductive Develops (e₀ : Engine σ) : Log → Engine σ → Prop where
  | start : Develops e₀ [] e₀
  | step {log more : Log} {e e' : Engine σ} (h : Develops e₀ log e) (hs : e.Happens more e') :
      Develops e₀ (log ++ more) e'
  | delete {log : Log} {e : Engine σ} (h : Develops e₀ log e) (flow : String) :
      Develops e₀ log (e.deleteFlow flow)

theorem Interleaved.develops (h : e₀.Interleaved log e) : e₀.Develops log e := by
  induction h with
  | start => exact .start
  | step _ hs ih => exact ih.step hs

theorem Develops.trans (h : e₀.Develops log e) (h' : e.Develops more e') :
    e₀.Develops (log ++ more) e' := by
  induction h' with
  | start => simpa using h
  | step _ hs ih => rw [← List.append_assoc]; exact ih.step hs
  | delete _ flow ih => exact ih.delete flow

/-- To wait for an execution is to do jobs, whether it ends in time or not. -/
theorem Develops.waitFor (h : e₀.Develops log e) (id : String) :
    ∃ more, e₀.Develops (log ++ more) (e.waitFor id).2 := by
  by_cases hr : e.isRunning id = true
  · refine ⟨e.stepsLog e.fuel, ?_⟩
    have hwait : (e.waitFor id).2 = e.settle := by
      simp only [Engine.waitFor, hr, if_true]
      split
      next => rfl
      next =>
        split
        next => rfl
        next => split <;> rfl
    rw [hwait]
    exact h.trans (steps_interleaved e.fuel e).develops
  · refine ⟨[], ?_⟩
    have hwait : (e.waitFor id).2 = e := by
      rw [Bool.not_eq_true] at hr
      simp only [Engine.waitFor, hr, Bool.false_eq_true, if_false, Bool.false_and]
      split <;> rfl
    rw [hwait, List.append_nil]
    exact h

/-- On a reliable store an execution is started just if the flow is valid. -/
theorem runGraph_reliable (hr : e.world.store.Reliable) (g : FlowGraph) (startMode : String)
    (payload : Value) :
    (g.reports ≠ .ok [] ∧ ∃ refusal, e.runGraph g startMode payload = (.error refusal, e)) ∨
    ∃ store, g.reports = .ok [] ∧ store.Reliable ∧
      (∃ i, Store.create (begun g startMode e.world) e.world.store = (.ok i, store)) ∧
      e.runGraph g startMode payload = (.ok (begun g startMode e.world).id, { e with
        world := { e.world with
          drawn := e.world.drawn + 1, store
          running := e.world.running ++ [(begun g startMode e.world).id] }
        ready := e.ready ++ [.proceed (.ofExecution g (begun g startMode e.world) payload)] }) := by
  cases hg : g.reports with
  | error f => exact .inl ⟨by simp, .failure f, by simp only [runGraph, hg]⟩
  | ok reports =>
    cases reports with
    | cons report reports => exact .inl ⟨by simp, .invalid (report :: reports), by simp only [runGraph, hg]⟩
    | nil =>
      obtain ⟨i, store, hc, hs⟩ : ∃ i store,
          Store.create (begun g startMode e.world) e.world.store = (.ok i, store) ∧ store.Reliable :=
        hr.write ..
      have hn := newExecution_eq g startMode e.world
      rw [hc] at hn
      exact .inr ⟨store, rfl, hs, ⟨i, hc⟩, by simp only [runGraph, hg, inWorld, hn]⟩

theorem Happens.reliable (h : e.Happens more e') (hr : e.world.store.Reliable) :
    e'.world.store.Reliable ∧ ∀ x, (x, .refused) ∉ more := by
  cases h with
  | job i j hj =>
    cases j with
    | proceed q =>
      rw [world_stepAt hj]
      refine ⟨advance_reliable _ q hr, fun x hx => ?_⟩
      obtain ⟨ev, hev, heq⟩ := List.mem_map.1 hx
      cases heq
      exact not_refused q hr hev
    | deliver => exact ⟨(stepAt_quiet hj rfl).store ▸ hr, fun _ => List.not_mem_nil⟩
    | forget y => exact ⟨(stepAt_quiet hj rfl).store ▸ hr, fun _ => List.not_mem_nil⟩
  | interrupt => exact ⟨hr, by simp⟩
  | interruptWaiting => exact ⟨hr, by simp⟩
  | call c =>
    cases c with
    | start g startMode payload =>
      rcases runGraph_reliable hr g startMode payload with ⟨-, refusal, h⟩ | ⟨store, -, hs, -, h⟩ <;>
        simp only [Engine.call, h]
      · exact ⟨hr, fun _ => List.not_mem_nil⟩
      · exact ⟨hs, by simp⟩
    | cancel id =>
      simp only [Engine.call, cancel]
      split <;> exact ⟨hr, fun _ => List.not_mem_nil⟩
    | save g => exact ⟨hr.saveGraph .., fun _ => List.not_mem_nil⟩
    | _ => exact ⟨hr, fun _ => List.not_mem_nil⟩

/-- An engine all of whose runs are traced, on a store that refuses nothing. -/
structure Steadfast (actions : Registry σ) (log : Log) (e : Engine σ) : Prop where
  sound : e.Sound actions log
  exact : e.Exact
  reliable : e.world.store.Reliable
  unrefused : ∀ x, (x, .refused) ∉ log

theorem Idle.steadfast (h : e.Idle) (hr : e.world.store.Reliable) : e.Steadfast e.actions [] :=
  ⟨h.sound, h.exact, hr, fun _ => List.not_mem_nil⟩

theorem Happens.steadfast (h : e.Happens more e') (hs : e.Steadfast actions log) :
    e'.Steadfast actions (log ++ more) where
  sound := h.sound hs.sound
  exact := h.exact hs.exact
  reliable := (h.reliable hs.reliable).1
  unrefused x hx := (List.mem_append.1 hx).elim (hs.unrefused x) ((h.reliable hs.reliable).2 x)

/-- What is on record of executions is left by the deletion of a flow. -/
theorem turn_delete (hs : e.Steadfast actions log) (flow : String) : e.Turn [] (e.deleteFlow flow) := by
  obtain ⟨hk, hsteps, hex⟩ := hs.reliable.deleteFlow_keeps hs.sound.traced.keyed flow
  exact .of_rows hs.sound hk hsteps hex rfl rfl (.refl _)

theorem Steadfast.deleteFlow (hs : e.Steadfast actions log) (flow : String) :
    (e.deleteFlow flow).Steadfast actions log where
  sound := by
    obtain ⟨hk, hsteps, hex⟩ := hs.reliable.deleteFlow_keeps hs.sound.traced.keyed flow
    exact ⟨hs.sound.registry, hs.sound.traced.of_world hk hsteps hex rfl (Nat.le_refl _),
      hs.sound.delivering, hs.sound.running⟩
  exact := hs.exact.deleteFlow flow
  reliable := hs.reliable.deleteFlow flow
  unrefused := hs.unrefused

theorem Develops.steadfast (h : e.Develops more e') (hs : e.Steadfast actions log) :
    e'.Steadfast actions (log ++ more) := by
  induction h with
  | start => simpa using hs
  | step _ hh ih => rw [← List.append_assoc]; exact hh.steadfast ih
  | delete _ flow ih => exact ih.deleteFlow flow

/-! ### What only grows -/

theorem opened_stepAt (e : Engine σ) (i : Nat) : (e.stepAt i).world.opened = e.world.opened := by
  cases hi : e.ready[i]? with
  | none => simp only [stepAt, hi]
  | some j =>
    cases j with
    | proceed q => rw [world_stepAt hi, (advance_keeps ..).2]
    | deliver => exact (stepAt_quiet hi rfl).opened
    | forget y => exact (stepAt_quiet hi rfl).opened

theorem Happens.opened (h : e.Happens more e') : e.world.opened ⊆ e'.world.opened := by
  have hrefl := List.Subset.refl e.world.opened
  cases h with
  | job i j hj => exact opened_stepAt e i ▸ hrefl
  | interrupt => exact hrefl
  | interruptWaiting => exact hrefl
  | call c =>
    cases c with
    | start g startMode payload =>
      have hk := (runGraph_keeps g startMode payload e).2.1
      simp only [Engine.call]
      split <;> rename_i heq <;> rw [heq] at hk <;> exact hk ▸ hrefl
    | cancel id => simp only [Engine.call, cancel]; split <;> exact hrefl
    | release gate => exact List.subset_append_left ..
    | _ => exact hrefl

theorem Interleaved.opened (h : e.Interleaved more e') : e.world.opened ⊆ e'.world.opened := by
  induction h with
  | start => exact List.Subset.refl _
  | step _ hh ih => exact List.Subset.trans ih hh.opened

/-! ### Following one run -/

/-- What the steps of the run of an execution keep, and what others leave as it is. A step is taken in
the world, unless the run is cancelled from without. -/
structure Lasting (actions : Registry σ) (g : FlowGraph) (x : String)
    (P : World σ → Run → History → Prop) : Prop where
  own : ∀ {w w' : World σ} {r r' : Run} {h : History} {eff : Effect} {evs : List Event},
    Comes actions g x r h → Move actions r eff evs r' → h.Admits eff → x ∈ w.running →
    (.interrupted ∈ evs ∨ r.isBlocked w = false ∧ r.advance actions w = (r', w')) →
    w.stopping ⊆ w'.stopping → w.opened ⊆ w'.opened → P w r h → P w' r' (h.after evs eff)
  other : ∀ {w w' : World σ} {r : Run} {h : History}, w.stopping ⊆ w'.stopping →
    w.opened ⊆ w'.opened → P w r h → P w' r h

/-- Where the run of an execution stands, with what is on record of it and something that holds. -/
def Stands (actions : Registry σ) (g : FlowGraph) (x : String) (P : World σ → Run → History → Prop)
    (log : Log) (e : Engine σ) : Prop :=
  ∃ r, e.At x r ∧ Comes actions g x r (e.world.history e.delivered (log.of x) x) ∧
    P e.world r (e.world.history e.delivered (log.of x) x)

variable {P : World σ → Run → History → Prop}

theorem Turn.stands (ht : e.Turn more e') (hs : e.Sound actions log) (he : e.Exact)
    (hstop : e.world.stopping ⊆ e'.world.stopping) (hopen : e.world.opened ⊆ e'.world.opened)
    (hx : (x, .started g) ∈ log) (hP : Lasting actions g x P) (h : Stands actions g x P log e) :
    Stands actions g x P (log ++ more) e' := by
  obtain ⟨r, hr, hc, h⟩ := h
  obtain ⟨r', hr', hmove⟩ := ht.follow (hs.registry ▸ hs.traced) ⟨g, hx⟩ hr
  rw [hs.registry] at hmove
  refine ⟨r', hr', ?_⟩
  rcases hmove with ⟨rfl, hist⟩ | ⟨eff, evs, hm, ha, -, htaken, hist⟩ <;> rw [hist]
  · exact ⟨hc, hP.other hstop hopen h⟩
  · -- a run that takes a step is not over, so its execution is still listed as running
    have hmem : r ∈ e.runs := hr.stands.resolve_right fun ho => by rw [hm.notOver] at ho; cases ho.1
    have hrun : x ∈ e.world.running := he.listed.mem_iff.2 (mem_listed.2 (.inl ⟨r, hmem, hr.id⟩))
    exact ⟨hc.move hm ha, hP.own hc hm ha hrun htaken hstop hopen h⟩

theorem Happens.stands (hh : e.Happens more e') (hs : e.Sound actions log) (he : e.Exact)
    (hx : (x, .started g) ∈ log) (hP : Lasting actions g x P) (h : Stands actions g x P log e) :
    Stands actions g x P (log ++ more) e' :=
  (hh.turn hs).stands hs he hh.stopping.subset hh.opened hx hP h

theorem Interleaved.stands (hi : e.Interleaved more e') (hs : e.Sound actions log) (he : e.Exact)
    (hx : (x, .started g) ∈ log) (hP : Lasting actions g x P) (h : Stands actions g x P log e) :
    Stands actions g x P (log ++ more) e' := by
  induction hi with
  | start => rwa [List.append_nil]
  | step hi hh ih =>
    rw [← List.append_assoc]
    exact hh.stands (hi.keeps hs) (hi.unfolds.exact he) (List.mem_append_left _ hx) hP ih

theorem Develops.stands (hd : e.Develops more e') (hs : e.Steadfast actions log)
    (hx : (x, .started g) ∈ log) (hP : Lasting actions g x P) (h : Stands actions g x P log e) :
    Stands actions g x P (log ++ more) e' := by
  induction hd with
  | start => rwa [List.append_nil]
  | step hd hh ih =>
    have hs₁ := hd.steadfast hs
    rw [← List.append_assoc]
    exact hh.stands hs₁.sound hs₁.exact (List.mem_append_left _ hx) hP ih
  | @delete ms e₁ hd flow ih =>
    have hs₁ := hd.steadfast hs
    have := (turn_delete hs₁ flow).stands hs₁.sound hs₁.exact (List.Subset.refl _) (List.Subset.refl _)
      (List.mem_append_left _ hx) hP ih
    rwa [List.append_nil] at this

end Engine

end Workflow
