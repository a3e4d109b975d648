import Workflow.Proofs.Stopping

/-!
# Which requests to stop are granted

A request to stop an execution is granted by the list of the executions in progress, not by what is
stored of them. The list is exact: it has the executions whose run is not over, and those that are yet
to be taken off it (`Engine.Exact`). So a request is granted for an execution that is stored as running;
but also for one that was deleted with its flow, and for one that has ended, from the moment its end is
stored until it is taken off the list, which comes after its end is told (`cancel_of_unfolds`).
-/

namespace Workflow

/-! ### The executions on record -/

namespace Store

variable {s s' : Store} {x : String} {y : Execution} {step : Step} {i : String} {b : Bool}

/-- The executions of a store, each with the name by which it is found. -/
def entries (s : Store) : List (String × Execution) :=
  match s.records with
  | .memory m => m.executions
  | .tables t => t.executions.map fun y => (y.id, y)

theorem entries_of_records (h : s'.records = s.records) : s'.entries = s.entries := by
  simp only [entries, h]

theorem mem_entries_of_execution? (h : s.execution? x = some y) : (x, y) ∈ s.entries := by
  unfold execution? at h
  unfold entries
  split at h
  next m hm =>
    obtain ⟨⟨n, z⟩, hz, rfl⟩ := Option.map_eq_some_iff.1 h
    obtain rfl : n = x := by simpa using List.find?_some hz
    simpa only [hm] using List.mem_of_find?_eq_some hz
  next t ht =>
    obtain rfl : y.id = x := by simpa using List.find?_some h
    simpa only [ht] using List.mem_map_of_mem (List.mem_of_find?_eq_some h)

/-- All that is stored under the name of an execution that was created is this execution. -/
theorem entries_create (h : create y s = (.ok i, s')) {p : String × Execution} (hp : p ∈ s'.entries) :
    p = (y.id, y) ∨ p ∈ s.entries ∧ p.1 ≠ y.id := by
  unfold entries at hp ⊢
  rcases write_ok h with ⟨m, hm, hm'⟩ | ⟨t, t', ht, hok, ht'⟩
  · simp only [hm', Memory.create, Shelf.put] at hp
    simp only [hm]
    split at hp
    next =>
      obtain ⟨q, hq, rfl⟩ := List.mem_map.1 hp
      split
      next => exact .inl rfl
      next hne => exact .inr ⟨hq, by simpa using hne⟩
    next hhas =>
      rcases List.mem_append.1 hp with hp | hp
      · refine .inr ⟨hp, fun he => hhas ?_⟩
        exact List.any_eq_true.2 ⟨p, hp, beq_iff_eq.2 he⟩
      · exact .inl (List.mem_singleton.1 hp)
  · simp only [ht'] at hp
    simp only [ht]
    cases hc : t.create y <;> rw [hc] at hok <;> cases hok
    rw [Tables.create_ok hc] at hp
    rcases List.mem_append.1 (List.map_append ▸ hp) with hp | hp
    · obtain ⟨z, hz, rfl⟩ := List.mem_map.1 hp
      exact .inr ⟨hp, Tables.id_ne_of_create hc hz⟩
    · exact .inl (List.mem_singleton.1 hp)

theorem entries_update (h : update y s = (.ok b, s')) {p : String × Execution} (hp : p ∈ s'.entries) :
    p.1 = y.id ∨ p ∈ s.entries := by
  unfold entries at hp ⊢
  rcases write_ok h with ⟨m, hm, hm'⟩ | ⟨t, t', ht, hok, ht'⟩
  · simp only [hm', Memory.update] at hp
    simp only [hm]
    split at hp
    next hhas =>
      simp only [Memory.create, Shelf.put, if_pos hhas] at hp
      obtain ⟨q, hq, rfl⟩ := List.mem_map.1 hp
      split
      next => exact .inl rfl
      next => exact .inr hq
    next => exact .inr hp
  · simp only [ht'] at hp
    simp only [ht]
    by_cases hany : y.id ∈ t.executions.map Execution.id
    · obtain rfl := Tables.update_ok hok hany
      obtain ⟨z, hz, rfl⟩ := List.mem_map.1 hp
      rcases mem_replaceRow hz with rfl | ⟨hz, -⟩
      · exact .inl rfl
      · exact .inr (List.mem_map_of_mem hz)
    · have hno : t.executions.any (·.id == y.id) = false := by simpa using hany
      obtain ⟨-, -, hok⟩ := Outcome.bind_eq_ok.1 hok
      rw [hno] at hok
      cases hok
      exact .inr hp

theorem entries_createStep (h : createStep step s = (.ok i, s')) : s'.entries = s.entries := by
  unfold entries
  rcases write_ok h with ⟨m, hm, hm'⟩ | ⟨t, t', ht, hok, ht'⟩
  · simp only [hm, hm', Memory.createStep]
  · cases hc : t.createStep step <;> rw [hc] at hok <;> cases hok
    obtain rfl := Tables.createStep_ok hc
    simp only [ht, ht']

theorem entries_updateStep (h : updateStep step s = (.ok b, s')) : s'.entries = s.entries := by
  unfold entries
  rcases write_ok h with ⟨m, hm, hm'⟩ | ⟨t, t', ht, hok, ht'⟩
  · simp only [hm, hm', Memory.updateStep]
    split <;> rfl
  · obtain ⟨-, -, hok⟩ := Outcome.bind_eq_ok.1 hok
    simp only [ht, ht']
    split at hok
    next => obtain ⟨-, -, hok⟩ := Outcome.bind_eq_ok.1 hok; cases hok; rfl
    next => cases hok; rfl

theorem entries_saveGraph (g : FlowGraph) (now : Instant) (s : Store) :
    (saveGraph g now s).2.entries = s.entries := by
  simp only [saveGraph, Stateful.bind_apply, Stateful.get_apply]
  cases hr : s.records with
  | memory m => simp only [Stateful.bind_apply, Stateful.set_apply, Stateful.pure_apply, entries, hr]; rfl
  | tables t =>
    cases hg : t.saveGraph g now with
    | error f => simp only [Stateful.bind_apply, Stateful.ofExcept_apply, hg]
    | ok t' =>
      simp only [Stateful.bind_apply, Stateful.ofExcept_apply, hg, Stateful.set_apply,
        Stateful.pure_apply, entries, hr, (Tables.saveGraph_ok hg).2]

theorem entries_deleteFlow (flow : String) (s : Store) : (deleteFlow flow s).2.entries ⊆ s.entries := by
  simp only [deleteFlow, Stateful.bind_apply, Stateful.get_apply]
  cases hr : s.records with
  | memory m =>
    simp only [Stateful.bind_apply, Stateful.set_apply, Stateful.pure_apply, entries, hr,
      Memory.deleteFlow]
    exact List.Subset.refl _
  | tables t =>
    simp only [Stateful.bind_apply, Stateful.set_apply, Stateful.pure_apply, entries, hr,
      Tables.deleteFlow]
    exact List.map_subset _ (List.filter_subset_self _)

/-- Nothing is stored under a name but running executions. -/
def Unended (s : Store) (x : String) : Prop := ∀ y, (x, y) ∈ s.entries → y.status = .running

theorem Unended.mono (h : s.Unended x) (hsub : s'.entries ⊆ s.entries) : s'.Unended x :=
  fun y hy => h y (hsub hy)

theorem Unended.congr (h : s.Unended x) (he : s'.entries = s.entries) : s'.Unended x :=
  h.mono (he ▸ List.Subset.refl _)

end Store

/-- The execution of whose end a message tells. -/
def Message.ended? (m : Message) : Option String :=
  if m.topic == Run.topicOfEnds then (m.payload.field "id").text? else none

/-! ### A run that is not over -/

theorem Effect.On.unended {σ : Type} {w w' : World σ} {eff : Effect} {x : String} (h : eff.On w w')
    (hne : ∀ y, eff = .finish y → y.id ≠ x) (hx : w.store.Unended x) : w'.store.Unended x := by
  cases h with
  | none hr => exact hx.congr (Store.entries_of_records hr)
  | draw => exact hx
  | create h => exact hx.congr (Store.entries_createStep h)
  | update h => exact hx.congr (Store.entries_updateStep h)
  | @finish y b store h =>
    intro z hz
    rcases Store.entries_update h hz with hid | hz
    · exact absurd hid.symm (hne y rfl)
    · exact hx z hz
  | tell => exact hx

theorem Effect.On.eq_tell {σ : Type} {w w' : World σ} {eff : Effect} (h : eff.On w w') {m : Message}
    (hm : m ∈ w'.sent) : m ∈ w.sent ∨ eff = .tell m := by
  cases h with
  | none _ hs => exact .inl (hs ▸ hm)
  | tell =>
    rcases List.mem_append.1 hm with hm | hm
    · exact .inl hm
    · exact .inr (by rw [List.mem_singleton.1 hm])
  | _ => exact .inl hm

namespace Run

variable {σ : Type} {actions : Registry σ} {r r' q : Run} {eff : Effect} {evs : List Event}
  {w w' : World σ} {delivered : List Message} {x : String}

theorem ended?_stepMessage (s : Step) : (stepMessage s).ended? = none := by
  have hne : (topicOfSteps == topicOfEnds) = false := by decide
  simp only [stepMessage, Message.ended?, hne, Bool.false_eq_true, if_false]

theorem ended?_endMessage (y : Execution) : (endMessage y).ended? = some y.id := by
  simp [endMessage, Message.ended?, Value.record, Value.field, Fields.get?, Value.text?]

/-- The end of the execution that is about to be written or told. -/
def Stage.ending? : Stage → Option Execution
  | storing y _ => some y
  | telling y _ => some y
  | _ => none

/-- Whether the end of the execution may be stored. -/
def Stage.isTelling : Stage → Bool
  | telling _ _ => true
  | _ => false

theorem Move.of_finish (hm : Move actions r eff evs r') {y : Execution} (he : eff = .finish y) :
    r.stage.ending? = some y ∧ r'.stage.isTelling = true := by
  cases hm with
  | @record v q hs => unfold Sequel.effect at he; split at he <;> cases he
  | store hs => cases he; rw [hs]; exact ⟨rfl, rfl⟩
  | _ => cases he

theorem Move.of_tell (hm : Move actions r eff evs r') {m : Message} (he : eff = .tell m)
    (hx : m.ended? = some x) : r'.isOver = true ∧ ∃ y, r.stage.ending? = some y ∧ y.id = x := by
  cases hm with
  | @record v q hs => unfold Sequel.effect at he; split at he <;> cases he
  | announce hs => cases he; rw [ended?_stepMessage] at hx; cases hx
  | @tell y res hs =>
    cases he
    rw [ended?_endMessage] at hx
    exact ⟨rfl, y, by rw [hs]; rfl, Option.some.inj hx⟩
  | _ => cases he

theorem Move.over_of_telling (hm : Move actions r eff evs r') {y : Execution} {res : Outcome Execution}
    (hs : r.stage = .telling y res) : r'.isOver = true := by
  cases hm with
  | tell => rfl
  | interrupt message hs' => rcases hs' with hs' | ⟨a, hs'⟩ <;> cases hs.symm.trans hs'
  | _ => simp_all only [reduceCtorEq]

theorem Move.ending?_id (hm : Move actions r eff evs r') (hr : r.execution.status = .running)
    (hown : ∀ y, r.stage.ending? = some y → y.id = r.execution.id) {y : Execution}
    (hy : r'.stage.ending? = some y) : y.id = r.execution.id := by
  cases hm with
  | @announce v q hs =>
    rcases orEnding_cases r (r.proceed v q) with ⟨f, -, ho⟩ | ⟨r', ho, ho'⟩
    · rw [ho] at hy; cases hy
    · rw [ho'] at hy
      cases q with
      | execute => cases ho; cases hy
      | pass => cases ho; cases hy
      | follow o =>
        obtain ⟨more, -, ho⟩ := Outcome.bind_eq_ok.1 ho
        cases ho
        cases hy
      | stop f => cases ho
  | @conclude v a o w hs ho =>
    rcases orEnding_cases r (r.conclude v w.now o) with ⟨f, -, hr⟩ | ⟨r', hr, hr'⟩
    · rw [hr] at hy; cases hy
    · obtain ⟨no, s, -, -, rfl⟩ := conclude_ok hr
      rw [hr'] at hy
      cases hy
  | @finish result now hs =>
    obtain ⟨res, hw⟩ := afterWalk_running hr now result
    rw [hw] at hy
    cases hy
    rfl
  | store hs => exact hown y (by rw [hs]; exact hy)
  | unstored hs => exact hown y (by rw [hs]; exact hy)
  | _ => cases hy

theorem notOver_of_interrupt {message : String} (h : r.interrupt message = some r') :
    r'.isOver = false := by
  unfold interrupt at h
  split at h <;> cases h <;> rfl

/-- A run that is not over, beside a store and what subscribers were told. -/
structure Underway (r : Run) (s : Store) (told : List Message) : Prop where
  running : r.execution.status = .running
  notOver : r.isOver = false
  own : ∀ y, r.stage.ending? = some y → y.id = r.execution.id
  unended : r.stage.isTelling = false → s.Unended r.execution.id
  untold : ∀ m ∈ told, m.ended? ≠ some r.execution.id

theorem Move.underway (hm : Move actions r eff evs r') (hon : eff.On w w')
    (hr : r.Underway w.store (delivered ++ w.sent)) (ho : r'.isOver = false) :
    r'.Underway w'.store (delivered ++ w'.sent) where
  running := by rw [hm.keeps.2]; exact hr.running
  notOver := ho
  own y hy := by rw [hm.keeps.2]; exact hm.ending?_id hr.running hr.own hy
  unended ht := by
    rw [hm.keeps.2]
    refine hon.unended (fun y he => ?_) (hr.unended ?_)
    · rw [(hm.of_finish he).2] at ht
      cases ht
    · cases hs : r.stage
      case telling y res => rw [hm.over_of_telling hs] at ho; cases ho
      all_goals rfl
  untold m hmem hx := by
    rw [hm.keeps.2] at hx
    rcases List.mem_append.1 hmem with hmem | hmem
    · exact hr.untold m (List.mem_append_left _ hmem) hx
    · rcases hon.eq_tell hmem with hmem | he
      · exact hr.untold m (List.mem_append_right _ hmem) hx
      · rw [(hm.of_tell he hx).1] at ho
        cases ho

theorem Underway.of_other (hq : q.Underway w.store (delivered ++ w.sent))
    (hm : Move actions r eff evs r') (hon : eff.On w w')
    (hown : ∀ y, r.stage.ending? = some y → y.id = r.execution.id)
    (hne : r.execution.id ≠ q.execution.id) : q.Underway w'.store (delivered ++ w'.sent) where
  running := hq.running
  notOver := hq.notOver
  own := hq.own
  unended ht := by
    refine hon.unended (fun y he hid => hne ?_) (hq.unended ht)
    rw [← hown y (hm.of_finish he).1, hid]
  untold m hmem hx := by
    rcases List.mem_append.1 hmem with hmem | hmem
    · exact hq.untold m (List.mem_append_left _ hmem) hx
    · rcases hon.eq_tell hmem with hmem | he
      · exact hq.untold m (List.mem_append_right _ hmem) hx
      · obtain ⟨-, y, hy, hid⟩ := hm.of_tell he hx
        exact hne (by rw [← hown y hy, hid])

section Create

variable {s s' : Store} {told : List Message} {y : Execution} {i : String}

theorem Underway.of_create (hq : q.Underway s told) (hc : Store.create y s = (.ok i, s'))
    (hne : q.execution.id ≠ y.id) : q.Underway s' told where
  running := hq.running
  notOver := hq.notOver
  own := hq.own
  unended ht z hz := by
    rcases Store.entries_create hc hz with he | ⟨hz, -⟩
    · exact absurd (Prod.mk.inj he).1 hne
    · exact hq.unended ht z hz
  untold := hq.untold

theorem underway_ofExecution (g : FlowGraph) (payload : Value) (hy : y.status = .running)
    (hc : Store.create y s = (.ok i, s')) (htold : ∀ m ∈ told, m.ended? ≠ some y.id) :
    (ofExecution g y payload).Underway s' told where
  running := hy
  notOver := rfl
  own := nofun
  unended _ z hz := by
    rcases Store.entries_create hc hz with he | ⟨-, hne⟩
    · rw [(Prod.mk.inj he).2]
      exact hy
    · exact absurd rfl hne
  untold := htold

end Create

end Run

open Run

def Job.execution? : Job → Option String
  | .proceed r => some r.execution.id
  | .deliver => none
  | .forget x => some x

/-- The execution that a job takes off the list of those in progress. -/
def Job.forgotten? : Job → Option String
  | .forget x => some x
  | _ => none

namespace Engine

variable {σ : Type} {e e' : Engine σ} {r r' : Run} {eff : Effect} {evs : List Event}
  {more : Log} {x : String} {others : List Run}

/-- The executions that are yet to be taken off the list of those in progress. -/
def leaving (e : Engine σ) : List String := e.ready.filterMap Job.forgotten?

/-- The executions that should be listed as in progress. -/
def listed (e : Engine σ) : List String := e.runs.map (·.execution.id) ++ e.leaving

/-- The messages that were sent, delivered or on their way. -/
def told (e : Engine σ) : List Message := e.delivered ++ e.world.sent

theorem mem_leaving : x ∈ e.leaving ↔ .forget x ∈ e.ready := by
  simp only [leaving, List.mem_filterMap]
  constructor
  · rintro ⟨j, hj, hx⟩
    cases j <;> cases hx
    exact hj
  · exact fun h => ⟨_, h, rfl⟩

theorem mem_listed : x ∈ e.listed ↔ (∃ r ∈ e.runs, r.execution.id = x) ∨ .forget x ∈ e.ready := by
  rw [listed, List.mem_append, List.mem_map, mem_leaving]

theorem listed_perm {i : Nat} {j : Job} (h : e.ready[i]? = some j) :
    e.listed.Perm
      (j.execution?.toList ++ ({ e with ready := e.ready.eraseIdx i } : Engine σ).listed) := by
  have hruns := (runs_perm_of_ready h).map (·.execution.id)
  have hleave : e.leaving.Perm
      (j.forgotten?.toList ++ ({ e with ready := e.ready.eraseIdx i } : Engine σ).leaving) := by
    have := (eraseIdx_perm h).filterMap Job.forgotten?
    rw [List.filterMap_cons] at this
    cases hj : j.forgotten? <;> simp only [hj] at this <;> exact this
  rw [List.map_append] at hruns
  refine (hruns.append hleave).trans ?_
  cases j with
  | proceed r => exact .refl _
  | deliver => exact .refl _
  | forget y => exact List.perm_middle

theorem forgotten_append (ready : List Job) (l : List Run) :
    (ready ++ l.map Job.proceed).filterMap Job.forgotten? = ready.filterMap Job.forgotten? := by
  rw [List.filterMap_append, List.filterMap_map]
  simp [Function.comp_def, Job.forgotten?]

theorem listed_set {i : Nat} (h : e.ready[i]? = some (.proceed r)) (r' : Run) :
    ({ e with ready := e.ready.set i (.proceed r') } : Engine σ).listed.Perm
      (r'.execution.id :: ({ e with ready := e.ready.eraseIdx i } : Engine σ).listed) := by
  have hlen := (List.getElem?_eq_some_iff.1 h).1
  have hset : (e.ready.set i (.proceed r'))[i]? = some (.proceed r') := by simp [hlen]
  have hp := listed_perm (e := { e with ready := e.ready.set i (.proceed r') }) hset
  rwa [List.eraseIdx_set_eq] at hp

theorem listed_wake (e : Engine σ) : e.wake.listed = e.listed := by
  rw [listed, runs_wake]
  unfold wake
  split
  next => rfl
  next => simp [listed, leaving, Job.forgotten?]

theorem leaving_place (e : Engine σ) (r : Run) :
    (e.place r).leaving = e.leaving ++ if r.isOver then [r.execution.id] else [] := by
  unfold place
  split
  next hs => simp [leaving, Job.forgotten?, isOver, hs]
  next hs => simp [leaving, Job.forgotten?, isOver, hs]
  next hok herror =>
    rw [isOver_eq_false hok herror, if_neg Bool.false_ne_true, List.append_nil]
    split <;> rfl

theorem listed_place (e : Engine σ) (r : Run) :
    (e.place r).listed.Perm (r.execution.id :: e.listed) := by
  rw [listed, leaving_place]
  rcases place_runs e r with ⟨ho, hp⟩ | ⟨ho, hp⟩ <;> rw [ho]
  · rw [if_neg Bool.false_ne_true, List.append_nil]
    exact (hp.map _).append_right _
  · rw [if_pos rfl, hp, ← List.append_assoc]
    exact List.perm_append_singleton ..

/-- The list of the executions in progress is exact, and no run that is not over has an end on record. -/
structure Exact (e : Engine σ) : Prop where
  listed : e.world.running.Perm e.listed
  nodup : e.world.running.Nodup
  drawn : ∀ x ∈ e.world.running, ∃ n ≤ e.world.drawn, x = idOf n
  drawnTold : ∀ m ∈ e.told, ∀ x, m.ended? = some x → ∃ n ≤ e.world.drawn, x = idOf n
  underway : ∀ r ∈ e.runs, r.Underway e.world.store e.told

theorem Idle.exact (h : e.Idle) : e.Exact where
  listed := by simp [h.running, Engine.listed, runs, leaving, h.ready, h.waiting]
  nodup := by simp [h.running]
  drawn := by simp [h.running]
  drawnTold := by simp [told, h.sent, h.delivered]
  underway := by simp [runs, h.ready, h.waiting]

namespace Exact

theorem apart (h : e.Exact) (hr : e.runs.Perm (r :: others)) :
    ∀ q ∈ others, r.execution.id ≠ q.execution.id := by
  have hnd := h.listed.nodup_iff.1 h.nodup
  have hnd := ((hr.map (·.execution.id)).nodup_iff.1 (List.nodup_append.1 hnd).1)
  rw [List.map_cons, List.nodup_cons] at hnd
  exact fun q hq he => hnd.1 (List.mem_map.2 ⟨q, hq, he.symm⟩)

/-- Nothing of executions is written, and the jobs are about the same executions. -/
theorem congr (h : e.Exact) (hruns : e'.runs ⊆ e.runs) (hl : e'.listed.Perm e.listed)
    (hrun : e'.world.running = e.world.running) (hd : e.world.drawn ≤ e'.world.drawn)
    (hs : e'.world.store.entries ⊆ e.world.store.entries) (ht : e'.told = e.told) : e'.Exact where
  listed := by rw [hrun]; exact h.listed.trans hl.symm
  nodup := by rw [hrun]; exact h.nodup
  drawn x hx := by
    obtain ⟨n, hn, he⟩ := h.drawn x (hrun ▸ hx)
    exact ⟨n, hn.trans hd, he⟩
  drawnTold m hm x hx := by
    obtain ⟨n, hn, he⟩ := h.drawnTold m (ht ▸ hm) x hx
    exact ⟨n, hn.trans hd, he⟩
  underway r hr := by
    have hr := h.underway r (hruns hr)
    rw [ht]
    exact ⟨hr.running, hr.notOver, hr.own, fun ht => (hr.unended ht).mono hs, hr.untold⟩

theorem move (h : e.Exact) {actions : Registry σ} (hm : Move actions r eff evs r')
    (hon : eff.On e.world e'.world) (hdel : e'.delivered = e.delivered)
    (hr : e.runs.Perm (r :: others))
    (hr' : r'.isOver = false ∧ e'.runs.Perm (r' :: others) ∨ r'.isOver = true ∧ e'.runs.Perm others)
    (hl : e'.listed.Perm e.listed) : e'.Exact := by
  have hrun : e'.world.running = e.world.running := hon.prefix_sent.2
  have hur := h.underway r (hr.mem_iff.2 (by simp))
  have hothers : ∀ q ∈ others, q.Underway e'.world.store e'.told := fun q hq => by
    have huq := h.underway q (hr.mem_iff.2 (by simp [hq]))
    rw [told, hdel]
    exact huq.of_other hm hon hur.own (h.apart hr q hq)
  refine ⟨hrun ▸ h.listed.trans hl.symm, hrun ▸ h.nodup, fun x hx => ?_, fun m hmem x hx => ?_,
    fun q hq => ?_⟩
  · obtain ⟨n, hn, he⟩ := h.drawn x (hrun ▸ hx)
    exact ⟨n, hn.trans hon.drawn_le, he⟩
  · have hx' : ∃ n ≤ e.world.drawn, x = idOf n := by
      rw [told, hdel] at hmem
      rcases List.mem_append.1 hmem with hmem | hmem
      · exact h.drawnTold m (List.mem_append_left _ hmem) x hx
      · rcases hon.eq_tell hmem with hmem | he
        · exact h.drawnTold m (List.mem_append_right _ hmem) x hx
        -- the run tells the end of its own execution, whose id is on the list
        · obtain ⟨-, y, hy, rfl⟩ := hm.of_tell he hx
          rw [hur.own y hy]
          refine h.drawn _ (h.listed.mem_iff.2 (mem_listed.2 (.inl ⟨r, ?_, rfl⟩)))
          exact hr.mem_iff.2 (by simp)
    obtain ⟨n, hn, he⟩ := hx'
    exact ⟨n, hn.trans hon.drawn_le, he⟩
  · rcases hr' with ⟨ho, hp⟩ | ⟨-, hp⟩
    · rcases List.mem_cons.1 (hp.mem_iff.1 hq) with rfl | hq
      · rw [told, hdel]
        exact hm.underway hon hur ho
      · exact hothers q hq
    · exact hothers q (hp.mem_iff.1 hq)

theorem proceed (h : e.Exact) {i : Nat} (hi : e.ready[i]? = some (.proceed r)) : (e.stepAt i).Exact := by
  have hmem : r ∈ e.runs := (runs_perm_of_ready hi).mem_iff.2 (by simp [Job.run?])
  have hdel := delivered_stepAt_of_proceed hi
  have hworld := world_stepAt hi
  obtain ⟨others, hr, hr'⟩ := runs_stepAt hi
  have hl : (e.stepAt i).listed.Perm ((r.advance e.actions e.world).1.execution.id ::
      ({ e with ready := e.ready.eraseIdx i } : Engine σ).listed) := by
    rw [stepAt_proceed hi]
    refine (listed_place _ _).trans ?_
    rw [listed_wake]
    rfl
  have hlisted : e.listed.Perm (r.execution.id ::
      ({ e with ready := e.ready.eraseIdx i } : Engine σ).listed) := listed_perm hi
  by_cases hb : r.isBlocked e.world = true
  -- the run only goes back to those that wait
  · rw [(advance_eq_self e.actions r e.world (.inl hb)).1] at hworld hr' hl
    have hp : (e.stepAt i).runs.Perm e.runs := by
      rcases hr' with ⟨-, hp⟩ | ⟨ho, -⟩
      · exact hp.trans hr.symm
      · rw [(h.underway r hmem).notOver] at ho
        cases ho
    have hworld : (e.stepAt i).world = e.world := hworld
    refine h.congr hp.subset (hl.trans hlisted.symm) (by rw [hworld]) (by rw [hworld]) ?_ ?_
    · rw [hworld]; exact List.Subset.refl _
    · rw [told, hdel, hworld, told]
  · rw [Bool.not_eq_true] at hb
    obtain ⟨eff, hm, hon⟩ := moves_of_advance e.actions r e.world hb (h.underway r hmem).notOver
    rw [hm.keeps.2] at hl
    exact h.move hm (hworld ▸ hon) hdel hr hr' (hl.trans hlisted.symm)

theorem deliver (h : e.Exact) {i : Nat} (hi : e.ready[i]? = some .deliver) : (e.stepAt i).Exact := by
  have hruns : e.runs.Perm ({ e with ready := e.ready.eraseIdx i } : Engine σ).runs :=
    runs_perm_of_ready hi
  have hl : e.listed.Perm ({ e with ready := e.ready.eraseIdx i } : Engine σ).listed := listed_perm hi
  simp only [stepAt, hi, perform, Engine.deliver]
  cases hse : e.world.sent with
  | nil =>
    exact h.congr hruns.symm.subset hl.symm rfl (Nat.le_refl _) (List.Subset.refl _)
      (by simp [told, hse])
  | cons m ms =>
    refine h.congr ?_ ?_ rfl (Nat.le_refl _) (List.Subset.refl _) (by simp [told, hse])
    · cases ms <;> exact hruns.symm.subset
    · cases ms <;> exact hl.symm

-- the one job that changes the list, and the jobs that are left by the same execution
theorem forget (h : e.Exact) {i : Nat} (hi : e.ready[i]? = some (.forget x)) : (e.stepAt i).Exact := by
  have hruns : e.runs.Perm ({ e with ready := e.ready.eraseIdx i } : Engine σ).runs :=
    runs_perm_of_ready hi
  have hl : e.listed.Perm (x :: ({ e with ready := e.ready.eraseIdx i } : Engine σ).listed) :=
    listed_perm hi
  simp only [stepAt, hi, perform]
  refine ⟨?_, h.nodup.erase x, fun y hy => h.drawn y (List.mem_of_mem_erase hy), h.drawnTold,
    fun r hr => h.underway r (hruns.mem_iff.2 hr)⟩
  have hp := (h.listed.trans hl).erase x
  rwa [List.erase_cons_head] at hp

theorem start (h : e.Exact) {y : Execution} {i : String} {store : Store} {g : FlowGraph}
    {payload : Value} (hid : y.id = idOf (e.world.drawn + 1)) (hy : y.status = .running)
    (hc : Store.create y e.world.store = (.ok i, store)) :
    ({ e with
      world := { e.world with
        drawn := e.world.drawn + 1, store, running := e.world.running ++ [y.id] }
      ready := e.ready ++ [.proceed (.ofExecution g y payload)] } : Engine σ).Exact := by
  -- all ids on the list and in messages were drawn before
  have hnew : ∀ x n, n ≤ e.world.drawn → x = idOf n → x ≠ y.id := by
    rintro x n hn rfl heq
    have := idOf_injective (heq.trans hid)
    omega
  have hfresh : y.id ∉ e.world.running := fun hmem => by
    obtain ⟨n, hn, he⟩ := h.drawn _ hmem
    exact hnew _ n hn he rfl
  have hruns := runs_append e.ready (.ofExecution g y payload) e.waiting
  refine ⟨?_, Store.nodup_concat h.nodup hfresh, fun x hx => ?_, fun m hm x hx => ?_, fun r hr => ?_⟩
  · refine (List.perm_append_singleton ..).trans ((h.listed.cons _).trans ?_)
    have hleave := forgotten_append e.ready [.ofExecution g y payload]
    simp only [List.map_cons, List.map_nil] at hleave
    simp only [Engine.listed, leaving, hleave]
    exact (hruns.map (·.execution.id)).append_right _
  · rcases List.mem_append.1 hx with hx | hx
    · obtain ⟨n, hn, he⟩ := h.drawn x hx
      exact ⟨n, Nat.le_succ_of_le hn, he⟩
    · exact ⟨_, Nat.le_refl _, (List.mem_singleton.1 hx).trans hid⟩
  · obtain ⟨n, hn, he⟩ := h.drawnTold m hm x hx
    exact ⟨n, Nat.le_succ_of_le hn, he⟩
  · rcases List.mem_cons.1 (hruns.mem_iff.2 hr) with rfl | hr
    · refine underway_ofExecution g payload hy hc fun m hm he => ?_
      obtain ⟨n, hn, he⟩ := h.drawnTold m hm _ he
      exact hnew _ n hn he rfl
    · obtain ⟨n, hn, he⟩ := h.drawn _ (h.listed.mem_iff.2 (mem_listed.2 (.inl ⟨r, hr, rfl⟩)))
      exact (h.underway r hr).of_create hc (hnew _ n hn he)

theorem interrupt (h : e.Exact) {i : Nat} {message : String} (hi : e.ready[i]? = some (.proceed r))
    (hr : r.interrupt message = some r') :
    ({ e with ready := e.ready.set i (.proceed r') } : Engine σ).Exact := by
  have hm : Move e.actions r .none [.interrupted] r' := interrupt_move hr
  have hl := listed_set hi r'
  rw [hm.keeps.2] at hl
  exact h.move hm (.none rfl rfl rfl rfl) rfl (runs_perm_of_ready hi)
    (.inl ⟨notOver_of_interrupt hr, runs_set hi r'⟩) (hl.trans (listed_perm hi).symm)

theorem interruptWaiting (h : e.Exact) {i : Nat} {message : String} (hi : e.waiting[i]? = some r)
    (hr : r.interrupt message = some r') :
    ({ e with waiting := e.waiting.eraseIdx i, ready := e.ready ++ [.proceed r'] } : Engine σ).Exact := by
  have hm : Move e.actions r .none [.interrupted] r' := interrupt_move hr
  have hruns := (runs_append e.ready r' (e.waiting.eraseIdx i)).symm
  refine h.move hm (.none rfl rfl rfl rfl) rfl (runs_perm_of_waiting hi)
    (.inl ⟨notOver_of_interrupt hr, hruns⟩) ?_
  have hleave := forgotten_append e.ready [r']
  simp only [List.map_cons, List.map_nil] at hleave
  simp only [Engine.listed, leaving, hleave]
  refine .append_right _ ((hruns.map (·.execution.id)).trans ?_)
  rw [List.map_cons, hm.keeps.2]
  exact ((runs_perm_of_waiting hi).map (·.execution.id)).symm

theorem call (h : e.Exact) (c : Call σ) : (e.call c).2.Exact := by
  have hsub := List.Subset.refl e.world.store.entries
  cases c with
  | start g startMode payload =>
    rcases runGraph_cases g startMode payload e with
      ⟨refusal, w', hr, hrec, hsent, hdr, hrn⟩ | ⟨y, i, store, -, hid, hy, hc, hr⟩ <;>
      simp only [Engine.call, hr]
    · refine h.congr (List.Subset.refl _) (.refl _) hrn hdr ?_ (by simp only [told, hsent])
      rw [Store.entries_of_records hrec]
      exact hsub
    · exact h.start hid hy hc
  | cancel id =>
    simp only [Engine.call, Engine.cancel]
    split <;> exact h.congr (List.Subset.refl _) (.refl _) rfl (Nat.le_refl _) hsub rfl
  | stopAll => exact h.congr (List.Subset.refl _) (.refl _) rfl (Nat.le_refl _) hsub rfl
  | release gate =>
    refine h.congr (runs_release e gate).symm.subset ?_ rfl (Nat.le_refl _) hsub rfl
    have hleave : (e.release gate).leaving = e.leaving := forgotten_append e.ready _
    simp only [Engine.call, Engine.listed]
    rw [hleave]
    exact ((runs_release e gate).symm.map _).append_right _
  | save g =>
    refine h.congr (List.Subset.refl _) (.refl _) rfl (Nat.le_refl _) ?_ rfl
    exact Store.entries_saveGraph g e.world.now e.world.store ▸ hsub
  | elsewhere now surroundings ids =>
    exact h.congr (List.Subset.refl _) (.refl _) rfl (Nat.le_add_right _ _) hsub rfl

end Exact

theorem Happens.exact (h : e.Happens more e') (he : e.Exact) : e'.Exact := by
  cases h with
  | job i j hj =>
    cases j with
    | proceed r => exact he.proceed hj
    | deliver => exact he.deliver hj
    | forget x => exact he.forget hj
  | interrupt i message r r' hr hr' => exact he.interrupt hr hr'
  | interruptWaiting i message r r' hr hr' => exact he.interruptWaiting hr hr'
  | call c => exact he.call c

/-! ### Flows that are deleted -/

/-- Deletes a flow in the store. -/
def deleteFlow (e : Engine σ) (flow : String) : Engine σ :=
  (e.inWorld (World.onStore (Store.deleteFlow flow))).2

/-- All that can happen, one thing after the other, with flows deleted in between. -/
inductive Unfolds (e₀ : Engine σ) : Engine σ → Prop where
  | start : Unfolds e₀ e₀
  | step {more : Log} {e e' : Engine σ} (h : Unfolds e₀ e) (hs : e.Happens more e') : Unfolds e₀ e'
  | delete {e : Engine σ} (h : Unfolds e₀ e) (flow : String) : Unfolds e₀ (e.deleteFlow flow)

theorem Interleaved.unfolds {e₀ : Engine σ} {log : Log} (h : e₀.Interleaved log e) : e₀.Unfolds e := by
  induction h with
  | start => exact .start
  | step _ hs ih => exact ih.step hs

theorem Exact.deleteFlow (h : e.Exact) (flow : String) : (e.deleteFlow flow).Exact :=
  h.congr (List.Subset.refl _) (.refl _) rfl (Nat.le_refl _)
    (Store.entries_deleteFlow flow e.world.store) rfl

theorem Unfolds.exact {e₀ : Engine σ} (h : e₀.Unfolds e) (h₀ : e₀.Exact) : e.Exact := by
  induction h with
  | start => exact h₀
  | step _ hs ih => exact hs.exact ih
  | delete _ flow ih => exact ih.deleteFlow flow

theorem Unfolds.parked {e₀ : Engine σ} (h : e₀.Unfolds e) (h₀ : e₀.Parked) : e.Parked := by
  induction h with
  | start => exact h₀
  | step _ hs ih => exact hs.parked ih
  | delete _ flow ih => exact ih.congr rfl (List.Subset.refl _)

theorem cancel_snd (e : Engine σ) (x : String) : (e.cancel x).2 = true ↔ x ∈ e.world.running := by
  unfold cancel isRunning
  split
  next hr => simpa using hr
  next hr => simpa using hr

end Engine

variable {σ : Type} {e₀ e : Engine σ}

/-- Which requests to stop are granted, whatever has happened. -/
theorem cancel_of_unfolds (h₀ : e₀.Idle) (h : e₀.Unfolds e) (x : String) :
    ((e.cancel x).2 = true ↔ (∃ r ∈ e.runs, r.execution.id = x) ∨ .forget x ∈ e.ready) ∧
    -- what is stored has not ended, unless the run has only to tell the end, or is over
    (∀ y, e.world.store.execution? x = some y → (e.cancel x).2 = true →
      y.status = .running ∨ .forget x ∈ e.ready ∨
        ∃ r ∈ e.runs, r.execution.id = x ∧ ∃ y res, r.stage = .telling y res) ∧
    ((∃ m ∈ e.told, m.ended? = some x) → ((e.cancel x).2 = true ↔ .forget x ∈ e.ready)) ∧
    (e.ready = [] → ∀ y, e.world.store.execution? x = some y → (e.cancel x).2 = true →
      y.status = .running) ∧
    -- without deletions something is stored
    (∀ log, e₀.Interleaved log e → (e.cancel x).2 = true → ∃ y, e.world.store.execution? x = some y) := by
  have hex := h.exact h₀.exact
  have hgrant : (e.cancel x).2 = true ↔ (∃ r ∈ e.runs, r.execution.id = x) ∨ .forget x ∈ e.ready := by
    rw [Engine.cancel_snd, hex.listed.mem_iff, Engine.mem_listed]
  -- a run that has not written the end
  have hrunning : ∀ r ∈ e.runs, r.execution.id = x → r.stage.isTelling = false →
      ∀ y, e.world.store.execution? x = some y → y.status = .running := by
    rintro r hr rfl ht y hy
    exact (hex.underway r hr).unended ht y (Store.mem_entries_of_execution? hy)
  refine ⟨hgrant, fun y hy hc => ?_, fun ⟨m, hm, hx⟩ => ?_, fun hready y hy hc => ?_,
    fun log hlog hc => ?_⟩
  · rcases hgrant.1 hc with ⟨r, hr, hid⟩ | hf
    · by_cases ht : r.stage.isTelling = true
      · refine .inr (.inr ⟨r, hr, hid, ?_⟩)
        cases hs : r.stage
        case telling z res => exact ⟨z, res, rfl⟩
        all_goals rw [hs] at ht; cases ht
      · exact .inl (hrunning r hr hid (by simpa using ht) y hy)
    · exact .inr (.inl hf)
  · refine hgrant.trans (or_iff_right ?_)
    rintro ⟨r, hr, rfl⟩
    exact (hex.underway r hr).untold m hm hx
  · rcases hgrant.1 hc with ⟨r, hr, hid⟩ | hf
    · have hwait : r ∈ e.waiting := by simpa [Engine.runs, hready] using hr
      have hb := h.parked h₀.parked r hwait
      refine hrunning r hr hid ?_ y hy
      cases hs : r.stage
      case telling z res => rw [isBlocked, hs] at hb; cases hb
      all_goals rfl
    · rw [hready] at hf
      cases hf
  · have hsound := hlog.sound h₀
    have hst := hsound.traced.stored (hsound.running x ((Engine.cancel_snd e x).1 hc))
    obtain ⟨y, hy, hid⟩ := List.mem_map.1 hst
    rw [hsound.traced.keyed.execution?_eq]
    exact Option.isSome_iff_exists.1 (List.find?_isSome.2 ⟨y, hy, beq_iff_eq.2 hid⟩)

/-- An engine that was just made, with a store in tables. -/
def Engine.ofTables (actions : Registry σ) (surroundings : σ) : Engine σ :=
  { actions, world := { now := ⟨0⟩, store := { records := .tables {} }, surroundings } }

theorem Engine.ofTables_idle (actions : Registry σ) (surroundings : σ) :
    (ofTables actions surroundings).Idle where
  keyed := ⟨.nil, .nil, fun _ => ⟨0, rfl⟩⟩
  unused _ _ := ⟨List.not_mem_nil, List.not_mem_nil, fun _ h => absurd h List.not_mem_nil⟩
  ready := rfl
  waiting := rfl
  sent := rfl
  delivered := rfl
  running := rfl

/-- Requests that are granted, for an execution that was deleted with its flow and for one that has ended
and whose end was received. -/
theorem cancel_of_gatedFetch :
    let begun := (Engine.ofTables ⟨[("fetch", gatedFetch)]⟩ ()).call (.start .labelled "manual" .null)
    let deleted := (begun.2.steps 60).deleteFlow "labelled"
    let later := ((begun.2.steps 60).call (.release "gate")).2.steps 18
    (deleted.world.store.execution? (idOf 1) = none ∧ (deleted.cancel (idOf 1)).2 = true) ∧
    (∃ m ∈ later.delivered, m.ended? = some (idOf 1)) ∧
    (later.world.store.execution? (idOf 1)).map Execution.status = some .success ∧
    (later.cancel (idOf 1)).2 = true := by
  intro begun deleted later
  have h : (Engine.ofTables ⟨[("fetch", gatedFetch)]⟩ ()).Interleaved
      (begun.1 ++ begun.2.stepsLog 60) (begun.2.steps 60) :=
    Engine.call_steps_interleaved _ _ 60
  have hover := h.trans (Engine.call_steps_interleaved _ (.release "gate") 18)
  have hidle := Engine.ofTables_idle ⟨[("fetch", gatedFetch)]⟩ ()
  obtain ⟨hdeleted, -⟩ := cancel_of_unfolds hidle (h.unfolds.delete "labelled") (idOf 1)
  obtain ⟨-, -, hended, -⟩ := cancel_of_unfolds hidle hover.unfolds (idOf 1)
  have hgone : (deleted.world.store.execution? (idOf 1)).isNone = true := by decide +kernel
  have hwaits : deleted.runs.any (·.execution.id == idOf 1) = true := by decide +kernel
  have hreceived : later.delivered.any (·.ended? == some (idOf 1)) = true := by decide +kernel
  have hforget : later.leaving = [idOf 1] := by decide +kernel
  have hstatus : (later.world.store.execution? (idOf 1)).map Execution.status = some .success := by
    decide +kernel
  obtain ⟨r, hr, hid⟩ := List.any_eq_true.1 hwaits
  obtain ⟨m, hm, hx⟩ := List.any_eq_true.1 hreceived
  have hm' : m ∈ later.told := List.mem_append_left _ hm
  have hleave : .forget (idOf 1) ∈ later.ready := Engine.mem_leaving.1 (by rw [hforget]; simp)
  refine ⟨⟨Option.isNone_iff_eq_none.1 hgone, hdeleted.2 (.inl ⟨r, hr, beq_iff_eq.1 hid⟩)⟩,
    ⟨m, hm, beq_iff_eq.1 hx⟩, hstatus, ?_⟩
  exact (hended ⟨m, hm', beq_iff_eq.1 hx⟩).2 hleave

end Workflow
