import Mathlib.Data.List.Perm.Basic
import Workflow.Proofs.Tracing

/-!
# What every interleaving keeps

`Sound` is the invariant of an engine: its runs are traced, and a delivery is among its jobs just while
there is a message on its way. It holds of an engine with nothing in progress (`Idle`), and whatever can
happen keeps it (`Happens.sound`), so that it holds after every interleaving (`Interleaved.sound`).
-/

namespace Workflow.Engine

open Run

variable {σ : Type} {actions : Registry σ} {log more : Log} {e e' : Engine σ} {r : Run}

/-- Nothing is in progress, and no id that is still to be drawn is in use. -/
structure Idle (e : Engine σ) : Prop where
  keyed : e.world.store.Keyed
  unused : ∀ n, e.world.drawn < n → e.world.store.Unused (idOf n)
  ready : e.ready = []
  waiting : e.waiting = []
  sent : e.world.sent = []
  delivered : e.delivered = []
  running : e.world.running = []

/-- An engine that was just made, with a store in memory. -/
def new (actions : Registry σ) (surroundings : σ) : Engine σ :=
  { actions, world := { now := ⟨0⟩, surroundings } }

theorem new_idle (actions : Registry σ) (surroundings : σ) : (new actions surroundings).Idle where
  keyed := ⟨.nil, .nil, by simp [new, Store.Numbered, Shelf.Keyed]⟩
  unused n _ := ⟨List.not_mem_nil, List.not_mem_nil, fun _ h => absurd h List.not_mem_nil⟩
  ready := rfl
  waiting := rfl
  sent := rfl
  delivered := rfl
  running := rfl

/-- A delivery is among the jobs just while there is a message on its way. -/
def Delivering (e : Engine σ) : Prop :=
  e.ready.filter Job.isDeliver = if e.world.sent.isEmpty then [] else [.deliver]

structure Sound (actions : Registry σ) (log : Log) (e : Engine σ) : Prop where
  registry : e.actions = actions
  traced : Traced actions e.world e.delivered e.runs log
  delivering : e.Delivering
  running : ∀ x ∈ e.world.running, log.Started x

theorem Idle.sound (h : e.Idle) : e.Sound e.actions [] where
  registry := rfl
  traced := by
    have hruns : e.runs = [] := by rw [runs, h.ready, h.waiting]; rfl
    rw [hruns, h.delivered]
    refine ⟨h.keyed, fun n hn => ⟨h.unused n hn, by simp⟩, .nil, by simp, by simp, ?_, by simp, by simp⟩
    simp [h.sent]
  delivering := by rw [Delivering, h.ready, h.sent]; rfl
  running := by rw [h.running]; simp

/-! ### Where the runs are -/

theorem eraseIdx_perm {α : Type} {l : List α} {i : Nat} {a : α} (h : l[i]? = some a) :
    l.Perm (a :: l.eraseIdx i) := by
  obtain ⟨hi, rfl⟩ := List.getElem?_eq_some_iff.1 h
  exact (List.getElem_cons_eraseIdx_perm hi).symm

/-- The runs without those of a job that is taken. -/
theorem runs_perm_of_ready {i : Nat} {j : Job} (h : e.ready[i]? = some j) :
    e.runs.Perm (j.run?.toList ++ ({ e with ready := e.ready.eraseIdx i } : Engine σ).runs) := by
  have := ((eraseIdx_perm h).filterMap Job.run?).append_right e.waiting
  rw [List.filterMap_cons] at this
  cases hj : j.run? <;> simp only [hj] at this <;> exact this

theorem runs_perm_of_waiting {i : Nat} (h : e.waiting[i]? = some r) :
    e.runs.Perm (r :: ({ e with waiting := e.waiting.eraseIdx i } : Engine σ).runs) := by
  exact ((eraseIdx_perm h).append_left _).trans List.perm_middle

/-- The runs after a change of one that is ready. -/
theorem runs_set {i : Nat} (h : e.ready[i]? = some (.proceed r)) (r' : Run) :
    ({ e with ready := e.ready.set i (.proceed r') } : Engine σ).runs.Perm
      (r' :: ({ e with ready := e.ready.eraseIdx i } : Engine σ).runs) := by
  have hlen := (List.getElem?_eq_some_iff.1 h).1
  have hset : (e.ready.set i (.proceed r'))[i]? = some (.proceed r') := by simp [hlen]
  have hp := runs_perm_of_ready (e := { e with ready := e.ready.set i (.proceed r') }) hset
  rwa [List.eraseIdx_set_eq] at hp

theorem runs_wake (e : Engine σ) : e.wake.runs = e.runs := by
  unfold wake
  split
  next => rfl
  next => simp [runs, Job.run?]

theorem wake_keeps (e : Engine σ) :
    e.wake.world = e.world ∧ e.wake.delivered = e.delivered ∧ e.wake.actions = e.actions ∧
      e.wake.waiting = e.waiting := by
  unfold wake
  split <;> exact ⟨rfl, rfl, rfl, rfl⟩

theorem place_keeps (e : Engine σ) (r : Run) :
    (e.place r).world = e.world ∧ (e.place r).delivered = e.delivered ∧
      (e.place r).actions = e.actions := by
  unfold place
  split
  · exact ⟨rfl, rfl, rfl⟩
  · exact ⟨rfl, rfl, rfl⟩
  · split <;> exact ⟨rfl, rfl, rfl⟩

theorem isOver_eq_false (hok : ∀ y, r.stage ≠ .atEnd (.ok y))
    (herror : ∀ f, r.stage ≠ .atEnd (.error f)) : r.isOver = false := by
  unfold isOver
  split
  next result hs =>
    cases result with
    | ok y => exact absurd hs (hok y)
    | error f => exact absurd hs (herror f)
  next => rfl

/-- A run that has taken a step is among the runs, unless it is over. -/
theorem place_runs (e : Engine σ) (r : Run) :
    r.isOver = false ∧ (e.place r).runs.Perm (r :: e.runs) ∨ r.isOver = true ∧ (e.place r).runs = e.runs := by
  unfold place
  split
  next hs => exact .inr ⟨by rw [isOver, hs], by simp [runs, Job.run?]⟩
  next hs => exact .inr ⟨by rw [isOver, hs], by simp [runs, Job.run?]⟩
  next hok herror =>
    refine .inl ⟨isOver_eq_false hok herror, ?_⟩
    split
    · rw [runs, ← List.append_assoc]; exact List.perm_append_singleton ..
    · exact .refl _

theorem place_delivers (e : Engine σ) (r : Run) :
    (e.place r).ready.filter Job.isDeliver = e.ready.filter Job.isDeliver := by
  unfold place
  split
  · simp [Job.isDeliver]
  · simp [Job.isDeliver]
  · split <;> simp [Job.isDeliver]

/-- A run that becomes ready is among the runs. -/
theorem runs_append (ready : List Job) (r : Run) (waiting : List Run) :
    (r :: (ready.filterMap Job.run? ++ waiting)).Perm
      ((ready ++ [Job.proceed r]).filterMap Job.run? ++ waiting) := by
  rw [List.filterMap_append, List.append_assoc]
  exact List.perm_middle.symm

/-- The runs that waited for a gate are among the runs once it is open. -/
theorem runs_release (e : Engine σ) (gate : String) : e.runs.Perm (e.release gate).runs := by
  have hmap : ∀ l : List Run, (l.map Job.proceed).filterMap Job.run? = l := fun l => by
    rw [List.filterMap_map]; exact List.filterMap_some
  simp only [release, runs, List.filterMap_append, hmap, List.append_assoc]
  exact ((List.filter_append_perm (fun r : Run => r.gate? == some gate) e.waiting).symm).append_left _

/-! ### Deliveries -/

/-- Once a delivery is there or nothing is on its way, `wake` sees to the rest. -/
theorem delivering_wake (h : e.ready.filter Job.isDeliver = [] ∨
    e.ready.filter Job.isDeliver = [.deliver] ∧ e.world.sent.isEmpty = false) : e.wake.Delivering := by
  unfold Delivering
  rw [(wake_keeps e).1]
  have hany : e.ready.any Job.isDeliver = !(e.ready.filter Job.isDeliver).isEmpty := by
    rw [Bool.eq_iff_iff]; simp
  unfold wake
  rw [hany]
  rcases h with h | ⟨h, hs⟩
  · cases e.world.sent.isEmpty <;> simp [h, Job.isDeliver]
  · simp [h, hs]

/-! ### What can happen -/

theorem filter_isDeliver_perm {i : Nat} {j : Job} (hi : e.ready[i]? = some j) :
    ((if j.isDeliver then [j] else []) ++ (e.ready.eraseIdx i).filter Job.isDeliver).Perm
      (e.ready.filter Job.isDeliver) := by
  have := ((eraseIdx_perm hi).filter Job.isDeliver).symm
  rw [List.filter_cons] at this
  cases hj : j.isDeliver <;> simpa [hj] using this

/-- Taking a job other than a delivery leaves the deliveries as they are. -/
theorem Delivering.eraseIdx (hd : e.Delivering) {i : Nat} {j : Job} (hi : e.ready[i]? = some j)
    (hj : j.isDeliver = false) : ({ e with ready := e.ready.eraseIdx i } : Engine σ).Delivering := by
  have hp := filter_isDeliver_perm hi
  rw [Delivering] at hd ⊢
  rw [hd, hj] at hp
  cases hse : e.world.sent <;> rw [hse] at hp
  · exact hp.eq_nil
  · exact List.perm_singleton.1 hp

theorem stepAt_proceed {i : Nat} (hi : e.ready[i]? = some (.proceed r)) :
    e.stepAt i = ({ e with
      ready := e.ready.eraseIdx i, world := (r.advance e.actions e.world).2 } : Engine σ).wake.place
        (r.advance e.actions e.world).1 := by
  simp only [stepAt, hi, perform]
  rfl

theorem Sound.proceed (hs : e.Sound actions log) {i : Nat} (hi : e.ready[i]? = some (.proceed r)) :
    (e.stepAt i).Sound actions (log ++ e.events (.proceed r)) := by
  obtain ⟨hreg, ht, hd, hrun⟩ := hs
  subst hreg
  have ht := (ht.perm (runs_perm_of_ready hi)).advance
  obtain ⟨hsent, hrunning⟩ := advance_prefix_sent e.actions r e.world
  have hstep := stepAt_proceed hi
  generalize (r.advance e.actions e.world).1 = r' at ht hstep
  generalize (r.advance e.actions e.world).2 = w' at ht hsent hrunning hstep
  let e₁ : Engine σ := { e with ready := e.ready.eraseIdx i, world := w' }
  have hd₁ : e₁.wake.Delivering := by
    refine delivering_wake ?_
    have hd := hd.eraseIdx hi rfl
    rw [Delivering] at hd
    cases hse : e.world.sent with
    | nil => left; simpa [hse] using hd
    | cons m ms =>
      right
      obtain ⟨more, hmore⟩ := hsent
      exact ⟨by simpa [hse] using hd, by simp [e₁, ← hmore, hse]⟩
  obtain ⟨hw, hdel, hact⟩ := place_keeps e₁.wake r'
  obtain ⟨hw₁, hdel₁, hact₁, -⟩ := wake_keeps e₁
  rw [hstep]
  refine ⟨hact.trans hact₁, ?_, ?_, ?_⟩
  · rw [hw, hdel, hw₁, hdel₁]
    have hruns : e₁.wake.runs = e₁.runs := runs_wake e₁
    rcases place_runs e₁.wake r' with ⟨-, hp⟩ | ⟨ho, hp⟩
    · exact ht.perm (hruns ▸ hp.symm)
    · rw [hp, hruns]; exact ht.drop ho
  · rw [Delivering, place_delivers, hw]; exact hd₁
  · rw [hw, hw₁]
    intro x hx
    exact (hrun x (hrunning ▸ hx)).append _

theorem Sound.deliver (hs : e.Sound actions log) {i : Nat} (hi : e.ready[i]? = some .deliver) :
    (e.stepAt i).Sound actions log := by
  obtain ⟨hreg, ht, hd, hrun⟩ := hs
  have hp := filter_isDeliver_perm hi
  have hruns : e.runs.Perm ({ e with ready := e.ready.eraseIdx i } : Engine σ).runs :=
    runs_perm_of_ready hi
  rw [Delivering] at hd
  rw [hd] at hp
  cases hse : e.world.sent with
  | nil => rw [hse] at hp; exact absurd hp.eq_nil (by simp [Job.isDeliver])
  | cons m ms =>
    have hrest : (e.ready.eraseIdx i).filter Job.isDeliver = [] := by
      rw [hse] at hp
      have := List.perm_singleton.1 hp
      simpa [Job.isDeliver] using this
    have hstep : e.stepAt i = { e with
        world := { e.world with sent := ms }, delivered := e.delivered ++ [m]
        ready := if ms.isEmpty then e.ready.eraseIdx i else .deliver :: e.ready.eraseIdx i } := by
      simp only [stepAt, hi, perform, Engine.deliver, hse]
    rw [hstep]
    refine ⟨hreg, ?_, ?_, hrun⟩
    · have ht' : Traced actions { e.world with sent := ms } (e.delivered ++ [m])
          ({ e with ready := e.ready.eraseIdx i } : Engine σ).runs log :=
        (ht.perm hruns).of_world ht.keyed rfl rfl (by simp [hse]) (Nat.le_refl _)
      cases ms <;> exact ht'
    · have hcons : (Job.deliver :: e.ready.eraseIdx i).filter Job.isDeliver = [.deliver] := by
        rw [List.filter_cons, hrest]; rfl
      cases ms
      · exact hrest
      · exact hcons

theorem Sound.forget (hs : e.Sound actions log) {i : Nat} {x : String}
    (hi : e.ready[i]? = some (.forget x)) : (e.stepAt i).Sound actions log := by
  obtain ⟨hreg, ht, hd, hrun⟩ := hs
  have hstep : e.stepAt i = { e with
      ready := e.ready.eraseIdx i, world := { e.world with running := e.world.running.erase x } } := by
    simp only [stepAt, hi, perform]
  rw [hstep]
  refine ⟨hreg, ?_, ?_, fun y hy => hrun y (List.mem_of_mem_erase hy)⟩
  · exact (ht.perm (runs_perm_of_ready hi)).of_world ht.keyed rfl rfl rfl (Nat.le_refl _)
  · exact hd.eraseIdx hi rfl

theorem Sound.interrupt (hs : e.Sound actions log) {i : Nat} {message : String} {r' : Run}
    (hi : e.ready[i]? = some (.proceed r)) (hr : r.interrupt message = some r') :
    ({ e with ready := e.ready.set i (.proceed r') } : Engine σ).Sound actions
      (log ++ [(r.execution.id, .interrupted)]) := by
  obtain ⟨hreg, ht, hd, hrun⟩ := hs
  have hlen := (List.getElem?_eq_some_iff.1 hi).1
  have hi' : (e.ready.set i (.proceed r'))[i]? = some (.proceed r') := by simp [hlen]
  have ht' := (ht.perm (runs_perm_of_ready hi)).move (interrupt_move hr) (.none rfl rfl rfl rfl)
  have hf' := filter_isDeliver_perm (e := { e with ready := e.ready.set i (.proceed r') }) hi'
  have hf : ((e.ready.eraseIdx i).filter Job.isDeliver).Perm (e.ready.filter Job.isDeliver) :=
    filter_isDeliver_perm hi
  rw [List.eraseIdx_set_eq] at hf'
  refine ⟨hreg, ht'.perm (runs_set hi r').symm, ?_, fun x hx => (hrun x hx).append _⟩
  have hf := hf'.symm.trans hf
  rw [Delivering] at hd ⊢
  rw [hd] at hf
  cases hse : e.world.sent <;> rw [hse] at hf
  · exact hf.eq_nil
  · exact List.perm_singleton.1 hf

theorem Sound.interruptWaiting (hs : e.Sound actions log) {i : Nat} {message : String} {r' : Run}
    (hi : e.waiting[i]? = some r) (hr : r.interrupt message = some r') :
    ({ e with waiting := e.waiting.eraseIdx i, ready := e.ready ++ [.proceed r'] } : Engine σ).Sound
      actions (log ++ [(r.execution.id, .interrupted)]) := by
  obtain ⟨hreg, ht, hd, hrun⟩ := hs
  have ht' := (ht.perm (runs_perm_of_waiting hi)).move (interrupt_move hr) (.none rfl rfl rfl rfl)
  refine ⟨hreg, ht'.perm (runs_append e.ready r' _), ?_, fun x hx => (hrun x hx).append _⟩
  rw [Delivering] at hd ⊢
  simpa [Job.isDeliver] using hd

/-! ### What is asked of an engine -/

/-- The execution that is started next. -/
def begun (g : FlowGraph) (startMode : String) (w : World σ) : Execution :=
  Execution.start { id := idOf (w.drawn + 1), flow := g.flow.id, startMode, created := w.now } w.now

theorem newExecution_eq (g : FlowGraph) (startMode : String) (w : World σ) :
    newExecution g startMode w =
      match Store.create (begun g startMode w) w.store with
      | (.ok _, store) => (.ok (begun g startMode w), { w with drawn := w.drawn + 1, store })
      | (.error f, store) => (.error f, { w with drawn := w.drawn + 1, store }) := by
  simp only [newExecution, World.draw, Stateful.bind_apply, Stateful.modify_apply, Stateful.get_apply,
    Stateful.pure_apply, clock_apply, Stateful.discard_apply, World.onStore, begun]
  rcases Store.create _ w.store with ⟨_ | _, _⟩ <;> rfl

theorem newExecution_apply (g : FlowGraph) (startMode : String) (w : World σ) :
    ∃ x : Execution, x.id = idOf (w.drawn + 1) ∧ x.status = .running ∧
      newExecution g startMode w =
        match Store.create x w.store with
        | (.ok _, store) => (.ok x, { w with drawn := w.drawn + 1, store })
        | (.error f, store) => (.error f, { w with drawn := w.drawn + 1, store }) :=
  ⟨begun g startMode w, rfl, rfl, newExecution_eq g startMode w⟩

/-- An execution is started if the flow is valid, and the store does not refuse it. -/
theorem runGraph_cases (g : FlowGraph) (startMode : String) (payload : Value) (e : Engine σ) :
    (∃ refusal w', e.runGraph g startMode payload = (.error refusal, { e with world := w' }) ∧
      w'.store.records = e.world.store.records ∧ w'.sent = e.world.sent ∧
      e.world.drawn ≤ w'.drawn ∧ w'.running = e.world.running) ∨
    ∃ x i store, g.reports = .ok [] ∧ x.id = idOf (e.world.drawn + 1) ∧ x.status = .running ∧
      Store.create x e.world.store = (.ok i, store) ∧
      e.runGraph g startMode payload = (.ok x.id, { e with
        world := { e.world with
          drawn := e.world.drawn + 1, store, running := e.world.running ++ [x.id] }
        ready := e.ready ++ [.proceed (.ofExecution g x payload)] }) := by
  cases hg : g.reports with
  | error f => exact .inl ⟨.failure f, e.world, by simp only [runGraph, hg], rfl, rfl, Nat.le_refl _, rfl⟩
  | ok reports =>
    cases reports with
    | cons report reports =>
      exact .inl ⟨.invalid (report :: reports), e.world, by simp only [runGraph, hg], rfl, rfl,
        Nat.le_refl _, rfl⟩
    | nil =>
      obtain ⟨x, hid, hst, hn⟩ := newExecution_apply g startMode e.world
      rcases hc : Store.create x e.world.store with ⟨f | i, store⟩ <;> rw [hc] at hn
      · exact .inl ⟨.failure f, { e.world with drawn := e.world.drawn + 1, store },
          by simp only [runGraph, hg, inWorld, hn], Store.write_error hc, rfl, Nat.le_succ _, rfl⟩
      · exact .inr ⟨x, i, store, rfl, hid, hst, hc, by simp only [runGraph, hg, inWorld, hn]⟩

/-- An execution that was started. -/
theorem begun_of_runGraph {g : FlowGraph} {startMode : String} {payload : Value} {x : String}
    (h : e.runGraph g startMode payload = (.ok x, e')) :
    g.reports = .ok [] ∧ x = (begun g startMode e.world).id ∧ ∃ i store,
      Store.create (begun g startMode e.world) e.world.store = (.ok i, store) ∧
      e' = { e with
        world := { e.world with
          drawn := e.world.drawn + 1, store
          running := e.world.running ++ [(begun g startMode e.world).id] }
        ready := e.ready ++ [.proceed (.ofExecution g (begun g startMode e.world) payload)] } := by
  cases hg : g.reports with
  | error f => simp [runGraph, hg] at h
  | ok reports =>
    cases reports with
    | cons report reports => simp [runGraph, hg] at h
    | nil =>
      have hn := newExecution_eq g startMode e.world
      rcases hc : Store.create (begun g startMode e.world) e.world.store with ⟨f | i, store⟩ <;>
        rw [hc] at hn <;> simp only [runGraph, hg, inWorld, hn, Prod.mk.injEq, reduceCtorEq, false_and] at h
      obtain ⟨hid, rfl⟩ := h
      exact ⟨rfl, (Except.ok.inj hid).symm, i, store, rfl, rfl⟩

theorem Sound.call (hs : e.Sound actions log) (c : Call σ) :
    (e.call c).2.Sound actions (log ++ (e.call c).1) := by
  have ⟨hreg, ht, hd, hrun⟩ := hs
  -- nothing but the world changes, and in it nothing of executions
  have hworld : ∀ w' : World σ, w'.store.Keyed → w'.store.steps = e.world.store.steps →
      w'.store.executions = e.world.store.executions → w'.sent = e.world.sent →
      e.world.drawn ≤ w'.drawn → w'.running = e.world.running →
      ({ e with world := w' } : Engine σ).Sound actions (log ++ []) := by
    intro w' hk hs he hm hdr hr
    rw [List.append_nil]
    refine ⟨hreg, ht.of_world hk hs he (by rw [hm]) hdr, ?_, hr ▸ hrun⟩
    rw [Delivering] at hd ⊢
    rw [hd, hm]
  cases c with
  | start g startMode payload =>
    rcases runGraph_cases g startMode payload e with
      ⟨refusal, w', hr, hrec, hsent, hdr, hrn⟩ | ⟨x, i, store, -, hid, hst, hc, hr⟩
    · simp only [Engine.call, hr]
      exact hworld w' (ht.keyed.of_records hrec) (Effect.On.steps_of_records hrec)
        (Effect.On.executions_of_records hrec) hsent hdr hrn
    · simp only [Engine.call, hr]
      have hp := runs_append e.ready (.ofExecution g x payload) e.waiting
      let w' : World σ := { e.world with
        drawn := e.world.drawn + 1, store, running := e.world.running ++ [x.id] }
      have ht' : Traced actions w' e.delivered (.ofExecution g x payload :: e.runs)
          (log ++ [(x.id, .started g)]) := ht.start payload hid hst hc rfl rfl rfl
      refine ⟨hreg, ht'.perm hp, ?_, ?_⟩
      · rw [Delivering] at hd ⊢
        simpa [Job.isDeliver] using hd
      · intro y hy
        rcases List.mem_append.1 hy with hy | hy
        · exact (hrun y hy).append _
        · exact ⟨g, by simp [List.mem_singleton.1 hy]⟩
  | cancel id =>
    simp only [Engine.call, cancel]
    split
    · exact hworld _ ht.keyed rfl rfl rfl (Nat.le_refl _) rfl
    · exact hworld e.world ht.keyed rfl rfl rfl (Nat.le_refl _) rfl
  | stopAll => exact hworld _ ht.keyed rfl rfl rfl (Nat.le_refl _) rfl
  | release gate =>
    simp only [Engine.call, release, List.append_nil]
    refine ⟨hreg, ?_, ?_, hrun⟩
    · exact (ht.perm (runs_release e gate)).of_world ht.keyed rfl rfl rfl (Nat.le_refl _)
    · have hnone : ∀ l : List Run, (l.map Job.proceed).filter Job.isDeliver = [] := fun l => by
        rw [List.filter_map]; simp [Function.comp_def, Job.isDeliver]
      rw [Delivering] at hd ⊢
      rw [List.filter_append, hnone, List.append_nil]
      exact hd
  | save g =>
    obtain ⟨hk, hs, he⟩ := ht.keyed.saveGraph g e.world.now
    exact hworld _ hk hs he rfl (Nat.le_refl _) rfl
  | elsewhere now surroundings ids =>
    exact hworld _ ht.keyed rfl rfl rfl (Nat.le_add_right _ _) rfl

theorem Happens.sound (h : e.Happens more e') (hs : e.Sound actions log) :
    e'.Sound actions (log ++ more) := by
  cases h with
  | job i j hj =>
    cases j with
    | proceed r => exact hs.proceed hj
    | deliver => simpa [events] using hs.deliver hj
    | forget x => simpa [events] using hs.forget hj
  | interrupt i message r r' hr hr' => exact hs.interrupt hr hr'
  | interruptWaiting i message r r' hr hr' => exact hs.interruptWaiting hr hr'
  | call c => exact hs.call c

theorem Interleaved.keeps (h : Interleaved e more e') (hs : e.Sound actions log) :
    e'.Sound actions (log ++ more) := by
  induction h with
  | start => simpa using hs
  | step _ hst ih => rw [← List.append_assoc]; exact hst.sound ih

theorem Interleaved.sound (h : Interleaved e log e') (he : e.Idle) : e'.Sound e.actions log := by
  simpa using h.keeps he.sound

/-- An execution is started only of a flow that is valid. -/
theorem Happens.reports_of_started (h : e.Happens more e') {x : String} {g : FlowGraph}
    (hx : (x, .started g) ∈ more) : g.reports = .ok [] := by
  cases h with
  | job i j hj =>
    cases j with
    | proceed r =>
      obtain ⟨ev, hev, heq⟩ := List.mem_map.1 hx
      cases heq
      by_cases hb : r.isBlocked e.world = true ∨ r.isOver = true
      · rw [(advance_eq_self e.actions r e.world hb).2] at hev
        exact absurd hev List.not_mem_nil
      · rw [not_or, Bool.not_eq_true, Bool.not_eq_true] at hb
        obtain ⟨eff, hm, -⟩ := moves_of_advance e.actions r e.world hb.1 hb.2
        exact absurd hev hm.not_started
    | deliver => exact absurd hx List.not_mem_nil
    | forget id => exact absurd hx List.not_mem_nil
  | interrupt => cases List.mem_singleton.1 hx
  | interruptWaiting => cases List.mem_singleton.1 hx
  | call c =>
    cases c with
    | start g' startMode payload =>
      rcases runGraph_cases g' startMode payload e with
        ⟨_, _, hr, -⟩ | ⟨_, _, _, hg, -, -, -, hr⟩ <;> simp only [Engine.call, hr] at hx
      · exact absurd hx List.not_mem_nil
      · cases List.mem_singleton.1 hx
        exact hg
    | _ => exact absurd hx List.not_mem_nil

theorem Interleaved.reports_of_started (h : Interleaved e log e') {x : String} {g : FlowGraph}
    (hx : (x, .started g) ∈ log) : g.reports = .ok [] := by
  induction h with
  | start => exact absurd hx List.not_mem_nil
  | step _ hs ih => exact (List.mem_append.1 hx).elim ih hs.reports_of_started

theorem Interleaved.trans (h : Interleaved e log e') {e'' : Engine σ} (h' : Interleaved e' more e'') :
    Interleaved e (log ++ more) e'' := by
  induction h' with
  | start => simpa using h
  | step _ hs ih => rw [← List.append_assoc]; exact ih.step hs

/-! ### What was delivered -/

theorem delivered_stepAt (e : Engine σ) (i : Nat) : e.delivered <+: (e.stepAt i).delivered := by
  cases hj : e.ready[i]? with
  | none => simp [stepAt, hj]
  | some j =>
    cases j with
    | proceed r =>
      have hkeep : (e.stepAt i).delivered = e.delivered := by
        rw [stepAt_proceed hj, (place_keeps _ _).2.1, (wake_keeps _).2.1]
      exact hkeep ▸ List.prefix_rfl
    | deliver =>
      simp only [stepAt, hj, perform, deliver]
      cases e.world.sent with
      | nil => exact List.prefix_rfl
      | cons m ms => exact List.prefix_append ..
    | forget x => simp [stepAt, hj, perform]

theorem delivered_call (e : Engine σ) (c : Call σ) : (e.call c).2.delivered = e.delivered := by
  cases c with
  | start g startMode payload =>
    rcases runGraph_cases g startMode payload e with
      ⟨_, _, hr, -⟩ | ⟨_, _, _, -, -, -, -, hr⟩ <;> simp only [call, hr]
  | cancel id => simp only [call, cancel]; split <;> rfl
  | _ => rfl

/-- What was delivered stays delivered. -/
theorem Interleaved.delivered (h : Interleaved e log e') : e.delivered <+: e'.delivered := by
  induction h with
  | start => exact List.prefix_rfl
  | step _ hs ih =>
    refine ih.trans ?_
    cases hs with
    | job i j hj => exact delivered_stepAt _ i
    | interrupt => exact List.prefix_rfl
    | interruptWaiting => exact List.prefix_rfl
    | call c => exact (delivered_call _ c).symm ▸ List.prefix_rfl

end Workflow.Engine
