import Workflow.Proofs.Developments
import Workflow.Proofs.Events
import Workflow.Proofs.ExecutionCalls

/-!
# What remains of executions whose flow is deleted

A flow is deleted in tables together with its executions and their steps. But a run that is in progress
goes on: the end of its execution finds no row to be written to, nor does the step it is at, while the
steps that it begins afterwards are new rows. So nothing is stored of the execution any more, and of its
steps those that were first written after the deletion (`remains_of_deleted`).

The invariant compares the store with a second one from which nothing is removed (`Store.Pruned`). The
runs are traced in the world with the second store (`Engine.Pruned`), and every effect of a run, and every
call, changes both stores alike.
-/

namespace Workflow

/-! ### Versions of steps -/

theorem ids_putVersion {l : List Step} {s : Step} {i : String} :
    i ∈ (putVersion l s).map Step.id ↔ i ∈ l.map Step.id ∨ i = s.id := by
  unfold putVersion
  split
  next h =>
    rw [map_key_replaceRow]
    exact ⟨.inl, fun hi => hi.elim id fun he => he ▸ h⟩
  next => simp

theorem ids_latest (vs : List Step) (i : String) :
    i ∈ (latest vs).map Step.id ↔ i ∈ vs.map Step.id := by
  induction vs using List.reverseRecOn with
  | nil => exact Iff.rfl
  | append_singleton vs s ih => rw [latest_concat, ids_putVersion, ih]; simp

theorem added_eq_nil {vs ws : List Step} :
    (latest (vs ++ ws)).filter (fun s => s.id ∉ vs.map Step.id) = [] ↔
      ∀ s ∈ ws, s.id ∈ vs.map Step.id := by
  have hlatest : (∀ i ∈ (latest (vs ++ ws)).map Step.id, i ∈ vs.map Step.id) ↔
      ∀ i ∈ (vs ++ ws).map Step.id, i ∈ vs.map Step.id := by
    simp only [ids_latest]
  rw [List.forall_mem_map, List.forall_mem_map, List.forall_mem_append] at hlatest
  rw [List.filter_eq_nil_iff]
  simp only [decide_eq_true_eq, not_not, hlatest]
  exact and_iff_right fun s hs => List.mem_map_of_mem hs

theorem Log.written_append (x : String) (log more : Log) :
    (log ++ more).written x = log.written x ++ more.written x := by
  simp only [Log.written, Log.of_append, List.filterMap_append]

namespace Store

variable {s s' whole : Store} {step : Step} {y : Execution} {i x flow : String} {b : Bool}
  {removed : String → Option (List String)}

/-! ### Writes that may find no row -/

theorem Keyed.update_rows (hk : s.Keyed) (h : update y s = (.ok b, s')) :
    s'.Keyed ∧ s'.executions = replaceRow Execution.id y s.executions ∧ s'.steps = s.steps := by
  by_cases hy : y.id ∈ s.executions.map Execution.id
  · exact hk.update_ok hy h
  · have hr := hk.update_absent hy h
    refine ⟨hk.of_records hr, ?_, Effect.On.steps_of_records hr⟩
    rw [Effect.On.executions_of_records hr, replaceRow_of_ne]
    exact fun z hz he => hy (he ▸ List.mem_map_of_mem hz)

theorem Keyed.updateStep_rows (hk : s.Keyed)
    (hown : ∀ t ∈ s.steps, t.id = step.id → t.execution = step.execution)
    (h : updateStep step s = (.ok b, s')) :
    s'.Keyed ∧ s'.steps = replaceRow Step.id step s.steps ∧ s'.executions = s.executions := by
  by_cases hs : step.id ∈ s.steps.map Step.id
  · obtain ⟨t, ht, hid⟩ := List.mem_map.1 hs
    exact hk.updateStep_ok ⟨t, ht, hid, hown t ht hid⟩ h
  · have hr := hk.updateStep_absent hs h
    refine ⟨hk.of_records hr, ?_, Effect.On.executions_of_records hr⟩
    rw [Effect.On.steps_of_records hr, replaceRow_of_ne]
    exact fun t ht he => hs (he ▸ List.mem_map_of_mem ht)

/-! ### Deletions -/

/-- Every execution keeps all of its steps or none. -/
theorem numbered_filter {rows : List StepRow} {n : Nat} (xs : List String)
    (h : (rows.filter (·.step.execution == x)).map StepRow.sequence = List.range n) :
    ∃ n, ((rows.filter fun r => !xs.contains r.step.execution).filter (·.step.execution == x)).map
      StepRow.sequence = List.range n := by
  rw [List.filter_filter]
  by_cases hx : xs.contains x = true
  · refine ⟨0, List.map_eq_nil_iff.2 (List.filter_eq_nil_iff.2 fun r _ hr => ?_)⟩
    obtain ⟨hrx, hr⟩ := Bool.and_eq_true_iff.1 hr
    rw [beq_iff_eq.1 hrx, hx] at hr
    cases hr
  · refine ⟨n, h ▸ congrArg _ (List.filter_congr fun r _ => ?_)⟩
    rw [Bool.not_eq_true] at hx
    by_cases hrx : r.step.execution = x
    · rw [hrx, hx, Bool.not_false, Bool.and_true]
    · rw [beq_eq_false_iff_ne.2 hrx, Bool.false_and]

/-- The executions that go with a flow: in memory none. -/
def deletedWith (s : Store) (flow : String) : List String :=
  if s.inTables then (s.executions.filter (·.flow == flow)).map Execution.id else []

theorem deletedWith_subset (s : Store) (flow : String) :
    s.deletedWith flow ⊆ s.executions.map Execution.id := by
  unfold deletedWith
  split
  next => exact List.map_subset _ (List.filter_subset_self _)
  next => exact List.nil_subset _

theorem mem_deletedWith (hs : s.inTables = true) (hy : y ∈ s.executions) (hf : y.flow = flow) :
    y.id ∈ s.deletedWith flow := by
  rw [deletedWith, if_pos hs]
  exact List.mem_map_of_mem (List.mem_filter.2 ⟨hy, beq_iff_eq.2 hf⟩)

theorem Keyed.mem_deletedWith_iff (hk : s.Keyed) (hs : s.inTables = true) (hy : y ∈ s.executions) :
    y.id ∈ s.deletedWith flow ↔ y.flow = flow := by
  refine ⟨fun h => ?_, mem_deletedWith hs hy⟩
  rw [deletedWith, if_pos hs] at h
  obtain ⟨z, hz, hid⟩ := List.mem_map.1 h
  obtain ⟨hz, hf⟩ := List.mem_filter.1 hz
  rw [← List.inj_on_of_nodup_map hk.executions hz hy hid]
  exact beq_iff_eq.1 hf

/-- A flow is deleted with some executions and their steps. -/
theorem Keyed.deleteFlow_rows (hk : s.Keyed) (flow : String) :
    (Store.deleteFlow flow s).2.Keyed ∧
    (Store.deleteFlow flow s).2.steps = s.steps.filter (fun t => t.execution ∉ s.deletedWith flow) ∧
    (Store.deleteFlow flow s).2.executions =
      s.executions.filter (fun z => z.id ∉ s.deletedWith flow) := by
  have hn := hk.numbered
  cases hr : s.records with
  | memory m =>
    rw [hr] at hn
    have hin : s.inTables = false := by simp only [inTables, hr]
    have hnone : s.deletedWith flow = [] := by rw [deletedWith, hin]; rfl
    rw [deleteFlow_of_memory hr, hnone]
    have hsteps : ({ s with records := .memory (m.deleteFlow flow).1 } : Store).steps = s.steps := by
      simp only [Store.steps, hr, Memory.deleteFlow]
    have hex : ({ s with records := .memory (m.deleteFlow flow).1 } : Store).executions =
        s.executions := by
      simp only [Store.executions, hr, Memory.deleteFlow]
    exact ⟨⟨hsteps ▸ hk.steps, hex ▸ hk.executions, hn⟩, by simp [hsteps], by simp [hex]⟩
  | tables t =>
    rw [hr] at hn
    have hin : s.inTables = true := by simp only [inTables, hr]
    have hexecutions : s.executions = t.executions := by simp only [Store.executions, hr]
    have hgone : s.deletedWith flow = (t.executions.filter (·.flow == flow)).map Execution.id := by
      rw [deletedWith, if_pos hin, hexecutions]
    rw [deleteFlow_of_tables hr]
    have hsteps : ({ s with records := .tables (t.deleteFlow flow).1 } : Store).steps =
        s.steps.filter (fun u => u.execution ∉ s.deletedWith flow) := by
      simp only [Store.steps, hr, Tables.deleteFlow, List.filter_map, hgone]
      refine congrArg _ (List.filter_congr fun r _ => ?_)
      simp only [List.contains_eq_mem, Function.comp_apply, decide_not]
    have hex : ({ s with records := .tables (t.deleteFlow flow).1 } : Store).executions =
        s.executions.filter (fun z => z.id ∉ s.deletedWith flow) := by
      refine Eq.trans ?_ (List.filter_congr (p := fun z => z.flow != flow) fun z hz => ?_)
      · rw [hexecutions]; rfl
      · rw [Bool.eq_iff_iff, bne_iff_ne, decide_eq_true_eq, hk.mem_deletedWith_iff hin hz]
    refine ⟨⟨?_, ?_, fun x => ?_⟩, hsteps, hex⟩
    · rw [hsteps]
      exact hk.steps.sublist (List.filter_sublist.map _)
    · rw [hex]
      exact hk.executions.sublist (List.filter_sublist.map _)
    · exact numbered_filter _ (hn x).choose_spec

/-! ### A store from which nothing is removed -/

/-- A store that keeps what another one keeps, but for the executions that were removed, each with the
steps that it had then. -/
structure Pruned (whole : Store) (removed : String → Option (List String)) (s : Store) : Prop where
  reliable : whole.Reliable
  keyedWhole : whole.Keyed
  keyed : s.Keyed
  steps : s.steps = whole.steps.filter fun t => t.id ∉ (removed t.execution).getD []
  executions : s.executions = whole.executions.filter fun z => (removed z.id).isNone
  known : ∀ x ids, removed x = some ids →
    x ∈ whole.executions.map Execution.id ∧ ids ⊆ whole.steps.map Step.id

/-- What is removed after a deletion: also the executions that go with the flow, and their steps. -/
def removedWith (s : Store) (flow : String) (removed : String → Option (List String)) (x : String) :
    Option (List String) :=
  if x ∈ s.deletedWith flow then some ((s.stepsOf x).map Step.id) else removed x

namespace Pruned

theorem steps_subset (hp : Pruned whole removed s) : s.steps ⊆ whole.steps :=
  hp.steps ▸ List.filter_subset_self _

theorem executions_subset (hp : Pruned whole removed s) : s.executions ⊆ whole.executions :=
  hp.executions ▸ List.filter_subset_self _

theorem removed_eq_none (hp : Pruned whole removed s) (hx : x ∈ s.executions.map Execution.id) :
    removed x = none := by
  obtain ⟨z, hz, rfl⟩ := List.mem_map.1 hx
  rw [hp.executions, List.mem_filter] at hz
  simpa using hz.2

theorem stepsOf_eq (hp : Pruned whole removed s) (x : String) :
    s.stepsOf x = (whole.stepsOf x).filter fun t => t.id ∉ (removed x).getD [] := by
  rw [hp.keyed.stepsOf_eq, hp.keyedWhole.stepsOf_eq, hp.steps, List.filter_filter, List.filter_filter]
  refine List.filter_congr fun t _ => ?_
  by_cases hx : t.execution = x
  · subst hx
    simp only [beq_self_eq_true, Bool.true_and, Bool.and_true]
  · simp only [beq_eq_false_iff_ne.2 hx, Bool.false_and, Bool.and_false]

theorem of_rows (hp : Pruned whole removed s) (hk : s'.Keyed) (hs : s'.steps = s.steps)
    (he : s'.executions = s.executions) : Pruned whole removed s' :=
  { hp with keyed := hk, steps := hs.trans hp.steps, executions := he.trans hp.executions }

theorem create (hp : Pruned whole removed s) (hnew : y.id ∉ whole.executions.map Execution.id)
    (hc : Store.create y s = (.ok i, s')) :
    ∃ j whole', Store.create y whole = (.ok j, whole') ∧ Pruned whole' removed s' := by
  obtain ⟨j, whole', hw, hr⟩ : ∃ j whole', Store.create y whole = (.ok j, whole') ∧ whole'.Reliable :=
    hp.reliable.write ..
  obtain ⟨hkw, hew, hsw⟩ := hp.keyedWhole.create_ok hnew hw
  obtain ⟨hk, he, hs⟩ := hp.keyed.create_ok (fun h => hnew (List.map_subset _ hp.executions_subset h)) hc
  have hstays : removed y.id = none := by
    cases hrem : removed y.id with
    | none => rfl
    | some ids => exact absurd (hp.known _ ids hrem).1 hnew
  refine ⟨j, whole', hw, hr, hkw, hk, by rw [hs, hsw, hp.steps], ?_, fun x ids hx => ?_⟩
  · rw [he, hew, List.filter_append, hp.executions]
    simp [hstays]
  · rw [hew, hsw, List.map_append]
    exact ⟨List.mem_append_left _ (hp.known x ids hx).1, (hp.known x ids hx).2⟩

theorem createStep (hp : Pruned whole removed s) (hnew : step.id ∉ whole.steps.map Step.id)
    (hc : Store.createStep step s = (.ok i, s')) :
    ∃ j whole', Store.createStep step whole = (.ok j, whole') ∧ Pruned whole' removed s' := by
  obtain ⟨j, whole', hw, hr⟩ :
      ∃ j whole', Store.createStep step whole = (.ok j, whole') ∧ whole'.Reliable :=
    hp.reliable.write ..
  obtain ⟨hkw, hsw, hew⟩ := hp.keyedWhole.createStep_ok hnew hw
  obtain ⟨hk, hs, he⟩ := hp.keyed.createStep_ok (fun h => hnew (List.map_subset _ hp.steps_subset h)) hc
  have hstays : step.id ∉ (removed step.execution).getD [] := by
    cases hrem : removed step.execution with
    | none => exact List.not_mem_nil
    | some ids => exact fun h => hnew ((hp.known _ ids hrem).2 h)
  refine ⟨j, whole', hw, hr, hkw, hk, ?_, by rw [he, hew, hp.executions], fun x ids hx => ?_⟩
  · rw [hs, hsw, List.filter_append, hp.steps]
    simp [hstays]
  · rw [hew, hsw, List.map_append]
    exact ⟨(hp.known x ids hx).1, List.subset_append_of_subset_left _ (hp.known x ids hx).2⟩

theorem update (hp : Pruned whole removed s) (hu : Store.update y s = (.ok b, s')) :
    ∃ c whole', Store.update y whole = (.ok c, whole') ∧ Pruned whole' removed s' := by
  obtain ⟨c, whole', hw, hr⟩ : ∃ c whole', Store.update y whole = (.ok c, whole') ∧ whole'.Reliable :=
    hp.reliable.write ..
  obtain ⟨hkw, hew, hsw⟩ := hp.keyedWhole.update_rows hw
  obtain ⟨hk, he, hs⟩ := hp.keyed.update_rows hu
  refine ⟨c, whole', hw, hr, hkw, hk, by rw [hs, hsw, hp.steps], ?_, fun x ids hx => ?_⟩
  · rw [he, hew, hp.executions]
    exact (filter_replaceRow fun z _ hid => by rw [hid]).symm
  · rw [hew, hsw, map_key_replaceRow]
    exact hp.known x ids hx

theorem updateStep (hp : Pruned whole removed s)
    (hown : ∀ t ∈ whole.steps, t.id = step.id → t.execution = step.execution)
    (hu : Store.updateStep step s = (.ok b, s')) :
    ∃ c whole', Store.updateStep step whole = (.ok c, whole') ∧ Pruned whole' removed s' := by
  obtain ⟨c, whole', hw, hr⟩ :
      ∃ c whole', Store.updateStep step whole = (.ok c, whole') ∧ whole'.Reliable :=
    hp.reliable.write ..
  obtain ⟨hkw, hsw, hew⟩ := hp.keyedWhole.updateStep_rows hown hw
  obtain ⟨hk, hs, he⟩ := hp.keyed.updateStep_rows (fun t ht => hown t (hp.steps_subset ht)) hu
  refine ⟨c, whole', hw, hr, hkw, hk, ?_, by rw [he, hew, hp.executions], fun x ids hx => ?_⟩
  · rw [hs, hsw, hp.steps]
    exact (filter_replaceRow fun t ht hid => by rw [hid, hown t ht hid]).symm
  · rw [hew, hsw, map_key_replaceRow]
    exact hp.known x ids hx

/-- A deletion removes executions with the steps that are stored of them. -/
theorem deleteFlow (hp : Pruned whole removed s) (flow : String) :
    Pruned whole (s.removedWith flow removed) (Store.deleteFlow flow s).2 := by
  obtain ⟨hk, hs, he⟩ := hp.keyed.deleteFlow_rows flow
  refine ⟨hp.reliable, hp.keyedWhole, hk, ?_, ?_, fun x ids hx => ?_⟩
  · rw [hs, hp.steps, List.filter_filter]
    refine List.filter_congr fun t ht => ?_
    by_cases hx : t.execution ∈ s.deletedWith flow
    · -- the step is stored, so that it is removed now
      have hmem : t ∈ s.stepsOf t.execution := by
        rw [hp.stepsOf_eq, hp.keyedWhole.stepsOf_eq, hp.removed_eq_none (s.deletedWith_subset flow hx)]
        simpa using ht
      rw [removedWith, if_pos hx, Option.getD_some]
      simp only [hx, not_true_eq_false, decide_false, Bool.false_and]
      exact (decide_eq_false (not_not.2 (List.mem_map_of_mem hmem))).symm
    · rw [removedWith, if_neg hx]
      simp [hx]
  · rw [he, hp.executions, List.filter_filter]
    refine List.filter_congr fun z _ => ?_
    by_cases hx : z.id ∈ s.deletedWith flow
    · simp [removedWith, hx]
    · simp [removedWith, hx]
  · unfold removedWith at hx
    split at hx
    next hmem =>
      cases hx
      refine ⟨List.map_subset _ hp.executions_subset (s.deletedWith_subset flow hmem),
        List.map_subset _ fun t ht => ?_⟩
      rw [hp.keyed.stepsOf_eq] at ht
      exact hp.steps_subset (List.mem_of_mem_filter ht)
    next => exact hp.known x ids hx

theorem removedWith_of_some (hp : Pruned whole removed s) {ids : List String}
    (hx : removed x = some ids) : s.removedWith flow removed x = some ids := by
  refine (if_neg fun hmem => ?_).trans hx
  rw [hp.removed_eq_none (s.deletedWith_subset flow hmem)] at hx
  cases hx

end Pruned

/-- The records of a store, in memory. -/
def inMemory (s : Store) : Store where
  records := .memory
    { executions := s.executions.map fun z => (z.id, z), steps := s.steps.map fun t => (t.id, t) }

theorem steps_inMemory (s : Store) : s.inMemory.steps = s.steps := by
  simp [inMemory, Store.steps, Shelf.values, Function.comp_def]

theorem executions_inMemory (s : Store) : s.inMemory.executions = s.executions := by
  simp [inMemory, Store.executions, Shelf.values, Function.comp_def]

theorem Keyed.inMemory (hk : s.Keyed) : s.inMemory.Keyed where
  steps := s.steps_inMemory ▸ hk.steps
  executions := s.executions_inMemory ▸ hk.executions
  numbered := by
    simp [Store.inMemory, Numbered, Shelf.Keyed]

theorem Keyed.pruned (hk : s.Keyed) : Pruned s.inMemory (fun _ => none) s where
  reliable := ⟨⟨_, rfl⟩, rfl⟩
  keyedWhole := hk.inMemory
  keyed := hk
  steps := by simp [steps_inMemory]
  executions := by simp [executions_inMemory]
  known := nofun

end Store

/-! ### Effects of runs -/

/-- An effect of a run changes both stores alike. -/
theorem Effect.On.pruned {σ : Type} {w w' : World σ} {eff : Effect} {x : String} {whole : Store}
    {removed : String → Option (List String)} (hon : eff.On w w')
    (hp : Store.Pruned whole removed w.store) (hf : eff.Fits x whole) :
    ∃ whole', eff.On { w with store := whole } { w' with store := whole' } ∧
      Store.Pruned whole' removed w'.store := by
  cases hon with
  | none hr hs hd hrun =>
    exact ⟨whole, .none rfl hs hd hrun,
      hp.of_rows (hp.keyed.of_records hr) (steps_of_records hr) (executions_of_records hr)⟩
  | draw => exact ⟨whole, .draw, hp⟩
  | create h =>
    obtain ⟨j, whole', hw, hp'⟩ := hp.createStep hf.2 h
    exact ⟨whole', .create hw, hp'⟩
  | update h =>
    have hown := fun t ht hid => (execution_eq hp.keyedWhole hf (b := t) ht hid).trans hf.1.symm
    obtain ⟨c, whole', hw, hp'⟩ := hp.updateStep hown h
    exact ⟨whole', .update hw, hp'⟩
  | finish h =>
    obtain ⟨c, whole', hw, hp'⟩ := hp.update h
    exact ⟨whole', .finish hw, hp'⟩
  | tell => exact ⟨whole, .tell, hp⟩

namespace Engine

open Run

variable {σ : Type} {actions : Registry σ} {e₀ e e' : Engine σ} {log more : Log} {x : String}
  {r r' : Run} {g : FlowGraph} {whole : Store} {removed : String → Option (List String)}

/-- The runs are traced in the world in which nothing is removed. -/
structure Pruned (actions : Registry σ) (log : Log) (whole : Store)
    (removed : String → Option (List String)) (e : Engine σ) : Prop where
  registry : e.actions = actions
  traced : Traced actions { e.world with store := whole } e.delivered e.runs log
  store : Store.Pruned whole removed e.world.store

theorem Idle.pruned (h : e.Idle) : e.Pruned e.actions [] e.world.store.inMemory fun _ => none where
  registry := rfl
  traced := by
    let e₁ : Engine σ := { e with world := { e.world with store := e.world.store.inMemory } }
    have hidle : e₁.Idle := by
      refine ⟨h.keyed.inMemory, fun n hn => ?_, h.ready, h.waiting, h.sent, h.delivered, h.running⟩
      obtain ⟨h1, h2, h3⟩ := h.unused n hn
      exact ⟨by rwa [Store.steps_inMemory], by rwa [Store.executions_inMemory],
        by rwa [Store.steps_inMemory]⟩
    exact hidle.sound.traced
  store := h.keyed.pruned

theorem Pruned.calm (hp : e.Pruned actions log whole removed) (h : e.Calm e') :
    e'.Pruned actions log whole removed where
  registry := h.actions.trans hp.registry
  traced := (hp.traced.perm h.runs).of_world hp.store.keyedWhole rfl rfl h.told h.drawn
  store := hp.store.of_rows h.keyed h.steps h.executions

theorem Change.pruned (h : e.Change more e') (hp : e.Pruned actions log whole removed) :
    ∃ whole', e'.Pruned actions (log ++ more) whole' removed := by
  cases h with
  | calm h => exact ⟨whole, (List.append_nil log).symm ▸ hp.calm h⟩
  | move hact hm hon hd hr hr' =>
    rw [hp.registry] at hm
    have ht := hp.traced.perm hr
    obtain ⟨whole', hon', hs⟩ := hon.pruned hp.store (ht.fits hm)
    have ht' := ht.move hm hon'
    refine ⟨whole', hact.trans hp.registry, ?_, hs⟩
    rw [hd]
    rcases hr' with hr' | ⟨ho, hr'⟩
    · exact ht'.perm hr'.symm
    · exact (ht'.drop ho).perm hr'.symm
  | drop hact ho hworld hd hr hr' =>
    refine ⟨whole, hact.trans hp.registry, ?_, hworld ▸ hp.store⟩
    rw [hworld, hd, List.append_nil]
    exact ((hp.traced.perm hr).drop ho).perm hr'.symm
  | @start g payload y _ _ _ hact hid hy hc hworld hd hruns =>
    have hnew := (hp.traced.unused _ (Nat.lt_succ_self _)).1.executions
    obtain ⟨j, whole', hw, hs⟩ := hp.store.create (hid ▸ hnew) hc
    let w' : World σ := { e.world with
      drawn := e.world.drawn + 1, store := whole', running := e.world.running ++ [y.id] }
    have ht : Traced actions w' e.delivered (.ofExecution g y payload :: e.runs) (log ++ [(y.id, .started g)]) :=
      hp.traced.start payload hid hy hw rfl rfl rfl
    refine ⟨whole', hact.trans hp.registry, ?_, by rw [hworld]; exact hs⟩
    rw [hworld, hd]
    exact ht.perm hruns

theorem Pruned.deleteFlow (hp : e.Pruned actions log whole removed) (flow : String) :
    (e.deleteFlow flow).Pruned actions log whole (e.world.store.removedWith flow removed) :=
  ⟨hp.registry, hp.traced, hp.store.deleteFlow flow⟩

/-- What was removed stays so, whatever happens. -/
theorem Develops.pruned (h : e.Develops more e') (hp : e.Pruned actions log whole removed) :
    ∃ whole' removed', e'.Pruned actions (log ++ more) whole' removed' ∧
      ∀ x ids, removed x = some ids → removed' x = some ids := by
  induction h with
  | start => exact ⟨whole, removed, by rwa [List.append_nil], fun _ _ h => h⟩
  | step _ hh ih =>
    obtain ⟨whole', removed', hp', hkeeps⟩ := ih
    obtain ⟨whole'', hp''⟩ := (hh.change hp'.store.keyed).pruned hp'
    exact ⟨whole'', removed', by rwa [← List.append_assoc], hkeeps⟩
  | delete _ flow ih =>
    obtain ⟨whole', removed', hp', hkeeps⟩ := ih
    exact ⟨whole', _, hp'.deleteFlow flow,
      fun x ids hx => hp'.store.removedWith_of_some (hkeeps x ids hx)⟩

theorem call_interleaved (e : Engine σ) (c : Call σ) : e.Interleaved (e.call c).1 (e.call c).2 := by
  simpa using Interleaved.start.step (.call c)

/-! ### Executions without a run -/

/-- Of an execution without a run nothing is told, and it gets no run again. -/
theorem Change.silent (h : e.Change more e') (hno : ∀ r ∈ e.runs, r.execution.id ≠ x)
    (hnew : idOf (e.world.drawn + 1) ≠ x) : more.of x = [] ∧ ∀ r ∈ e'.runs, r.execution.id ≠ x := by
  have hnil : Log.of x [] = [] := rfl
  cases h with
  | calm h => exact ⟨hnil, fun r hr => hno r (h.runs.mem_iff.2 hr)⟩
  | @move r r' others eff evs _ _ hm _ _ hr hr' =>
    have hx : r.execution.id ≠ x := hno r (hr.mem_iff.2 (by simp))
    have hothers : ∀ q ∈ others, q.execution.id ≠ x := fun q hq => hno q (hr.mem_iff.2 (by simp [hq]))
    refine ⟨Log.of_map_ne hx.symm evs, fun q hq => ?_⟩
    rcases hr' with hr' | ⟨-, hr'⟩
    · rcases List.mem_cons.1 (hr'.mem_iff.1 hq) with rfl | hq
      · rw [hm.keeps.2]; exact hx
      · exact hothers q hq
    · exact hothers q (hr'.mem_iff.1 hq)
  | drop _ _ _ _ hr hr' =>
    exact ⟨hnil, fun q hq => hno q (hr.mem_iff.2 (List.mem_cons_of_mem _ (hr'.mem_iff.1 hq)))⟩
  | @start g payload y _ _ _ _ hid _ _ _ _ hruns =>
    have hy : y.id ≠ x := hid ▸ hnew
    refine ⟨Log.of_map_ne hy.symm [.started g], fun q hq => ?_⟩
    rcases List.mem_cons.1 (hruns.mem_iff.2 hq) with rfl | hq
    · exact hy
    · exact hno q hq

theorem Develops.silent (h : e.Develops more e') (hp : e.Pruned actions log whole removed)
    (hx : log.Started x) (hno : ∀ r ∈ e.runs, r.execution.id ≠ x) :
    more.of x = [] ∧ ∀ r ∈ e'.runs, r.execution.id ≠ x := by
  induction h with
  | start => exact ⟨rfl, hno⟩
  | step hd hh ih =>
    obtain ⟨whole', removed', hp', -⟩ := hd.pruned hp
    have hstored := hp'.traced.stored (hx.append _)
    have hunused := (hp'.traced.unused _ (Nat.lt_succ_self _)).1.executions
    obtain ⟨hlog, hruns⟩ := (hh.change hp'.store.keyed).silent ih.2 fun he => hunused (he ▸ hstored)
    exact ⟨by rw [Log.of_append, ih.1, hlog, List.append_nil], hruns⟩
  | delete _ flow ih => exact ih

/-- The steps of an execution as they were last written, without those that were removed with it. -/
theorem Pruned.stepsOf_eq (hp : e.Pruned actions log whole removed) (hx : (x, .started g) ∈ log) :
    e.world.store.stepsOf x =
      (latest (log.written x)).filter fun s => s.id ∉ (removed x).getD [] := by
  obtain ⟨r, hc, -⟩ := hp.traced.comes x g hx
  have hsteps : whole.stepsOf x = latest (log.written x) := hc.reported.steps
  rw [hp.store.stepsOf_eq, hsteps]

end Engine

variable {σ : Type} {e₀ e e' : Engine σ} {log more : Log} {x : String} {g : FlowGraph} {y : Execution}

/-- What remains of an execution that is stored when its flow is deleted, whatever happens afterwards:
the steps that its run begins then. -/
theorem remains_of_deleted (h₀ : e₀.Idle) (h : e₀.Develops log e) (hx : (x, .started g) ∈ log)
    (htables : e.world.store.inTables = true) (hy : e.world.store.execution? x = some y)
    (h' : (e.deleteFlow y.flow).Develops more e') :
    e'.world.store.execution? x = none ∧
    e'.world.store.stepsOf x =
      (latest ((log ++ more).written x)).filter (fun s => s.id ∉ (log.written x).map Step.id) ∧
    (e'.world.store.stepsOf x = [] ↔ ∀ s ∈ more.written x, s.id ∈ (log.written x).map Step.id) ∧
    ((∀ r ∈ e.runs, r.execution.id ≠ x) → e'.world.store.stepsOf x = []) := by
  obtain ⟨whole, removed, hp, -⟩ := h.pruned h₀.pruned
  rw [List.nil_append] at hp
  -- the execution with all of its steps is removed
  have hfind := hy
  rw [hp.store.keyed.execution?_eq] at hfind
  have hmem := List.mem_of_find?_eq_some hfind
  obtain rfl : y.id = x := by simpa using List.find?_some hfind
  have hbefore := hp.stepsOf_eq hx
  rw [hp.store.removed_eq_none (List.mem_map_of_mem hmem)] at hbefore
  have hwritten : e.world.store.stepsOf y.id = latest (log.written y.id) := by simpa using hbefore
  have hdeleted := hp.deleteFlow y.flow
  obtain ⟨whole', removed', hp', hkeeps⟩ := h'.pruned hdeleted
  have hgone := hkeeps y.id _ (if_pos (Store.mem_deletedWith htables hmem rfl))
  have hsteps : e'.world.store.stepsOf y.id = (latest ((log ++ more).written y.id)).filter
      (fun s => s.id ∉ (log.written y.id).map Step.id) := by
    rw [hp'.stepsOf_eq (List.mem_append_left _ hx), hgone, hwritten]
    refine List.filter_congr fun s _ => ?_
    rw [Option.getD_some, decide_eq_decide, ids_latest]
  have hnothing : e'.world.store.stepsOf y.id = [] ↔
      ∀ s ∈ more.written y.id, s.id ∈ (log.written y.id).map Step.id := by
    rw [hsteps, Log.written_append, added_eq_nil]
  refine ⟨?_, hsteps, hnothing, fun hover => hnothing.2 fun s hs => ?_⟩
  · rw [hp'.store.keyed.execution?_eq, hp'.store.executions, List.find?_eq_none]
    intro z hz hid
    rw [List.mem_filter, beq_iff_eq.1 hid, hgone] at hz
    cases hz.2
  · have hnone := (h'.silent hdeleted ⟨g, hx⟩ hover).1
    rw [Log.written, hnone] at hs
    cases hs

/-- A flow that is saved and deleted while its action waits: the step of the node behind that remains. -/
theorem remains_of_gatedFetch :
    let started := (Engine.ofTables ⟨[("fetch", gatedFetch)]⟩ ()).call (.start .labelled "manual" .null)
    let saved := (started.2.steps 60).call (.save { FlowGraph.labelled with nodes := [], edges := [] })
    let released := (saved.2.deleteFlow "labelled").call (.release "gate")
    let later := released.2.steps 60
    (Store.deleteFlow "labelled" saved.2.world.store).1.toOption = some true ∧
    later.runs.length = 0 ∧ later.world.store.execution? (idOf 1) = none ∧
    (later.world.store.stepsOf (idOf 1)).map (fun s => (s.node, s.status)) = [("note", .success)] := by
  intro started saved released later
  have h : (Engine.ofTables ⟨[("fetch", gatedFetch)]⟩ ()).Interleaved
      (started.1 ++ started.2.stepsLog 60 ++ saved.1) saved.2 :=
    (Engine.call_steps_interleaved _ _ 60).trans (Engine.call_interleaved _ _)
  have hx : (idOf 1, .started .labelled) ∈ started.1 ++ started.2.stepsLog 60 ++ saved.1 :=
    List.mem_append_left _ (List.mem_append_left _ (List.mem_singleton_self _))
  have hflow : (saved.2.world.store.execution? (idOf 1)).map Execution.flow = some "labelled" := by
    decide +kernel
  obtain ⟨y, hy, hf⟩ := Option.map_eq_some_iff.1 hflow
  have h' : (saved.2.deleteFlow y.flow).Interleaved (released.1 ++ released.2.stepsLog 60) later := by
    rw [hf]
    exact Engine.call_steps_interleaved _ _ 60
  obtain ⟨hgone, hsteps, -, -⟩ := remains_of_deleted (Engine.ofTables_idle _ ()) h.develops hx
    (by decide +kernel) hy h'.develops
  refine ⟨by decide +kernel, by decide +kernel, hgone, ?_⟩
  rw [hsteps]
  decide +kernel

end Workflow
