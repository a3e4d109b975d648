import Workflow.Proofs.Developments
import Workflow.Proofs.Scanning

/-!
# Jobs in line with the flows

A timetable accounts for every task it has made: a task stands once, with a job or among those that were
cancelled, and no flow has two jobs (`Timetable.Exact`). A refresh that succeeds gives every flow of a store
in memory the job it should have (`Store.interval?`): a job with that interval stays as it is, and the
tasks of all others are cancelled. `Kept` tells how a timetable and an engine come about, with anything
that happens to the engine in between; `jobs_of_kept` says what then holds at every point.
-/

namespace Workflow

/-- A positive number is equal to no other. -/
theorem Double.eq_of_beq {a d : Double} (hd : Double.zero.lt d = true) (h : a.beq d = true) : a = d := by
  cases d with
  | nan => cases hd
  | number t n hn =>
    cases a with
    | nan => cases h
    | number s m hm =>
      have hzero : place false 0 < place t n := of_decide_eq_true hd
      have hplace : place s m = place t n := by simpa [beq] using h
      cases s <;> cases t <;> simp only [place, Bool.false_eq_true, if_true, if_false] at hzero hplace
      · obtain rfl : m = n := by omega
        rfl
      all_goals omega

/-- Replacing the row of a key, where no two rows share one. -/
theorem replaceRow_split {α : Type} {key : α → String} {a b : α} {l : List α} (hn : (l.map key).Nodup)
    (hb : b ∈ l) (hk : key b = key a) : ∃ l₁ l₂, l = l₁ ++ b :: l₂ ∧ replaceRow key a l = l₁ ++ a :: l₂ := by
  obtain ⟨l₁, l₂, rfl⟩ := List.append_of_mem hb
  rw [List.map_append, List.map_cons] at hn
  obtain ⟨-, hn₂, hne⟩ := List.nodup_append.1 hn
  refine ⟨l₁, l₂, rfl, ?_⟩
  have h₁ : replaceRow key a l₁ = l₁ := replaceRow_of_ne fun c hc he =>
    hne _ (List.mem_map_of_mem hc) _ (List.mem_cons_self ..) (he.trans hk.symm)
  have h₂ : replaceRow key a l₂ = l₂ := replaceRow_of_ne fun c hc he =>
    (List.nodup_cons.1 hn₂).1 (hk ▸ he ▸ List.mem_map_of_mem hc)
  rw [replaceRow_append, h₁]
  rw [replaceRow] at h₂ ⊢
  rw [List.map_cons, if_pos (beq_iff_eq.2 hk), h₂]

namespace Timetable

variable {t t' : Timetable} {s : Store} {units : Fields} {x y : String} {d : Double} {j : TimetableJob}
  {ivs : Shelf Double}

/-! ### Tasks -/

/-- Every task that was made stands once, with a job or among those cancelled; no flow has two jobs. -/
structure Exact (t : Timetable) : Prop where
  flows : (t.jobs.map TimetableJob.flow).Nodup
  tasks : (t.jobs.map TimetableJob.task ++ t.cancelled).Perm (List.range t.made)

/-- The tasks that were made and not cancelled are those of the jobs. -/
theorem Exact.live (h : t.Exact) (task : Nat) :
    task ∈ t.jobs.map TimetableJob.task ↔ task < t.made ∧ task ∉ t.cancelled := by
  have hn : (t.jobs.map TimetableJob.task ++ t.cancelled).Nodup := h.tasks.nodup_iff.2 List.nodup_range
  have hmem : task ∈ t.jobs.map TimetableJob.task ∨ task ∈ t.cancelled ↔ task < t.made := by
    rw [← List.mem_append, h.tasks.mem_iff, List.mem_range]
  constructor
  · intro hj
    exact ⟨hmem.1 (.inl hj), fun hc => (List.nodup_append.1 hn).2.2 _ hj _ hc rfl⟩
  · rintro ⟨hlt, hc⟩
    exact (hmem.2 hlt).resolve_right hc

theorem job?_eq_some : t.job? x = some j → j ∈ t.jobs ∧ j.flow = x := fun h =>
  ⟨List.mem_of_find?_eq_some h, by simpa using List.find?_some h⟩

theorem schedule_new (d : Double) (h : t.job? x = none) :
    t.schedule (x, d) = { t with jobs := t.jobs ++ [t.newJob x d], made := t.made + 1 } := by
  simp only [schedule, h]

theorem schedule_same (h : t.job? x = some j) (hb : j.interval.beq d = true) : t.schedule (x, d) = t := by
  simp only [schedule, h, hb, if_true]

theorem schedule_changed (h : t.job? x = some j) (hb : j.interval.beq d = false) :
    t.schedule (x, d) = { t with
      jobs := replaceRow TimetableJob.flow (t.newJob x d) t.jobs
      made := t.made + 1
      cancelled := t.cancelled ++ [j.task] } := by
  simp only [schedule, h, hb, Bool.false_eq_true, if_false]
  rfl

theorem Exact.schedule (h : t.Exact) (p : String × Double) : (t.schedule p).Exact := by
  obtain ⟨x, d⟩ := p
  cases hj : t.job? x with
  | none =>
    rw [schedule_new d hj]
    have hnew : x ∉ t.jobs.map TimetableJob.flow := fun hx => by
      obtain ⟨j, hmem, hf⟩ := List.mem_map.1 hx
      exact List.find?_eq_none.1 hj j hmem (beq_iff_eq.2 hf)
    refine ⟨?_, ?_⟩
    · show ((t.jobs ++ [t.newJob x d]).map TimetableJob.flow).Nodup
      rw [List.map_append]
      exact Store.nodup_concat h.flows hnew
    · show ((t.jobs ++ [t.newJob x d]).map TimetableJob.task ++ t.cancelled).Perm (List.range (t.made + 1))
      rw [List.map_append, List.range_succ, List.append_assoc]
      refine (List.Perm.append_left _ List.perm_append_comm).trans ?_
      rw [← List.append_assoc]
      exact h.tasks.append_right _
  | some old =>
    obtain ⟨hmem, hf⟩ := job?_eq_some hj
    cases hb : old.interval.beq d with
    | true => rw [schedule_same hj hb]; exact h
    | false =>
      rw [schedule_changed hj hb]
      refine ⟨by rw [map_key_replaceRow]; exact h.flows, ?_⟩
      -- the new task takes the place of the old one, which joins those cancelled
      obtain ⟨l₁, l₂, hl, hl'⟩ := replaceRow_split (a := t.newJob x d) h.flows hmem hf
      have htasks := h.tasks
      rw [hl] at htasks
      rw [hl', List.range_succ]
      refine List.Perm.trans (List.perm_iff_count.2 fun task => ?_) (htasks.append_right [t.made])
      simp only [newJob, List.map_append, List.map_cons, List.count_append, List.count_cons, List.count_nil]
      omega

theorem Exact.keepOnly (h : t.Exact) (flows : List String) : (t.keepOnly flows).Exact where
  flows := h.flows.sublist (List.filter_sublist.map _)
  tasks := by
    rw [Timetable.keepOnly]
    have hsplit := (List.filter_append_perm (fun j : TimetableJob => flows.contains j.flow) t.jobs).map
      TimetableJob.task
    rw [List.map_append] at hsplit
    refine List.Perm.trans ?_ ((hsplit.append_right _).trans h.tasks)
    rw [List.append_assoc]
    exact List.Perm.append_left _ List.perm_append_comm

theorem Exact.reconcile (h : t.Exact) (ivs : Shelf Double) : (t.reconcile ivs).Exact := by
  refine Exact.keepOnly ?_ _
  induction ivs generalizing t with
  | nil => exact h
  | cons p ivs ih => exact ih (h.schedule p)

theorem Exact.stop (h : t.Exact) : t.stop.Exact where
  flows := .nil
  tasks := by
    show (t.cancelled ++ t.jobs.map TimetableJob.task).Perm (List.range t.made)
    exact List.perm_append_comm.trans h.tasks

/-! ### Jobs -/

theorem job?_schedule_ne (hne : y ≠ x) (d : Double) : (t.schedule (x, d)).job? y = t.job? y := by
  cases hj : t.job? x with
  | none =>
    rw [schedule_new d hj, job?, List.find?_append]
    have hnew : [t.newJob x d].find? (·.flow == y) = none := by simp [newJob, Ne.symm hne]
    rw [hnew, Option.or_none, job?]
  | some old =>
    cases hb : old.interval.beq d with
    | true => rw [schedule_same hj hb]
    | false =>
      rw [schedule_changed hj hb, job?, find?_replaceRow, ← job?]
      cases hy : t.job? y with
      | none => rfl
      | some j =>
        have hjy : j.flow ≠ x := fun h => hne ((job?_eq_some hy).2.symm.trans h)
        have hkey : (j.flow == (t.newJob x d).flow) = false := by simpa [newJob] using hjy
        rw [Option.map_some, hkey]
        rfl

/-- The flow that is scheduled has a job with the interval. -/
theorem job?_schedule_self (hd : Double.zero.lt d = true) :
    ((t.schedule (x, d)).job? x).map TimetableJob.interval = some d := by
  cases hj : t.job? x with
  | none =>
    have hold : t.jobs.find? (·.flow == x) = none := hj
    rw [schedule_new d hj, job?, List.find?_append, hold]
    simp [newJob]
  | some old =>
    cases hb : old.interval.beq d with
    | true => rw [schedule_same hj hb, hj, Option.map_some, Double.eq_of_beq hd hb]
    | false =>
      have hold : t.jobs.find? (·.flow == x) = some old := hj
      have hkey : (old.flow == (t.newJob x d).flow) = true := beq_iff_eq.2 (job?_eq_some hj).2
      rw [schedule_changed hj hb, job?, find?_replaceRow, hold, Option.map_some, hkey]
      rfl

theorem cancelled_schedule (p : String × Double) : t.cancelled ⊆ (t.schedule p).cancelled := by
  obtain ⟨x, d⟩ := p
  cases hj : t.job? x with
  | none => rw [schedule_new d hj]; exact List.Subset.refl _
  | some old =>
    cases hb : old.interval.beq d with
    | true => rw [schedule_same hj hb]; exact List.Subset.refl _
    | false => rw [schedule_changed hj hb]; exact List.subset_append_left ..

theorem beq_eq_false_of_ne {a : Double} (hd : Double.zero.lt d = true) (h : a ≠ d) : a.beq d = false := by
  rw [← Bool.not_eq_true]
  exact fun hb => h (Double.eq_of_beq hd hb)

theorem beq_self_of_pos (hd : Double.zero.lt d = true) : d.beq d = true := by
  cases d with
  | nan => cases hd
  | number s n h => simp [Double.beq]

/-- What came of a timetable when some flows were scheduled, each with its interval. -/
structure Brings (t : Timetable) (ivs : Shelf Double) (t' : Timetable) : Prop where
  interval : ∀ p ∈ ivs, (t'.job? p.1).map TimetableJob.interval = some p.2
  others : ∀ x ∉ ivs.names, t'.job? x = t.job? x
  kept : ∀ {x j}, t.job? x = some j → (x, j.interval) ∈ ivs → t'.job? x = some j
  replaced : ∀ {x j d}, t.job? x = some j → (x, d) ∈ ivs → j.interval ≠ d → j.task ∈ t'.cancelled

theorem Brings.schedule (h : Brings t ivs t') (hd : Double.zero.lt d = true)
    (hone : ∀ d', (x, d') ∈ ivs → d' = d) : Brings t (ivs ++ [(x, d)]) (t'.schedule (x, d)) := by
  -- the job of the flow is still the one it was, unless it was brought in line before
  have hfresh : ∀ j, t.job? x = some j → j.interval = d ∨ x ∉ ivs.names → t'.job? x = some j := by
    intro j hj hor
    by_cases hx : x ∈ ivs.names
    · obtain ⟨⟨y, d'⟩, hp, rfl⟩ := List.mem_map.1 hx
      obtain rfl := hone d' hp
      exact h.kept hj (hor.resolve_right (not_not_intro hx) ▸ hp)
    · rw [h.others x hx, hj]
  refine ⟨fun p hp => ?_, fun y hy => ?_, fun {y j} hj hmem => ?_, fun {y j d'} hj hmem hne => ?_⟩
  · obtain ⟨y, d'⟩ := p
    by_cases hyx : y = x
    · obtain rfl := hyx
      obtain rfl : d' = d := (List.mem_append.1 hp).elim (hone d')
        fun hp => (Prod.mk.inj (List.mem_singleton.1 hp)).2
      exact job?_schedule_self hd
    · have hp : (y, d') ∈ ivs := (List.mem_append.1 hp).resolve_right
        fun hp => hyx (Prod.mk.inj (List.mem_singleton.1 hp)).1
      rw [job?_schedule_ne hyx]
      exact h.interval _ hp
  · rw [Shelf.names, List.map_append, List.mem_append, not_or] at hy
    rw [job?_schedule_ne fun hyx => hy.2 (by simp [hyx])]
    exact h.others y hy.1
  · by_cases hyx : y = x
    · obtain rfl := hyx
      have hjd : j.interval = d := (List.mem_append.1 hmem).elim (hone _)
        fun hp => (Prod.mk.inj (List.mem_singleton.1 hp)).2
      have hj' := hfresh j hj (.inl hjd)
      rw [schedule_same hj' (hjd.symm ▸ beq_self_of_pos hd), hj']
    · have hmem : (y, j.interval) ∈ ivs := (List.mem_append.1 hmem).resolve_right
        fun hp => hyx (Prod.mk.inj (List.mem_singleton.1 hp)).1
      rw [job?_schedule_ne hyx]
      exact h.kept hj hmem
  · rcases List.mem_append.1 hmem with hmem | hmem
    · exact cancelled_schedule _ (h.replaced hj hmem hne)
    · obtain ⟨rfl, rfl⟩ := Prod.mk.inj (List.mem_singleton.1 hmem)
      by_cases hx : y ∈ ivs.names
      · obtain ⟨⟨z, d''⟩, hp, rfl⟩ := List.mem_map.1 hx
        obtain rfl := hone d'' hp
        exact cancelled_schedule _ (h.replaced hj hp hne)
      · rw [schedule_changed (hfresh j hj (.inr hx)) (beq_eq_false_of_ne hd hne)]
        simp

theorem brings_of_foldl (hpos : ∀ p ∈ ivs, Double.zero.lt p.2 = true)
    (hone : ∀ {x d d'}, (x, d) ∈ ivs → (x, d') ∈ ivs → d' = d) (t : Timetable) :
    Brings t ivs (ivs.foldl Timetable.schedule t) := by
  induction ivs using List.reverseRecOn with
  | nil => exact ⟨by simp, fun _ _ => rfl, by simp, by simp⟩
  | append_singleton ivs p ih =>
    obtain ⟨x, d⟩ := p
    rw [List.foldl_append]
    have ih := ih (fun q hq => hpos q (List.mem_append_left _ hq))
      (fun h h' => hone (List.mem_append_left _ h) (List.mem_append_left _ h'))
    exact ih.schedule (hpos (x, d) (by simp)) fun d' hd' => hone (by simp) (List.mem_append_left _ hd')

theorem job?_keepOnly (t : Timetable) (flows : List String) (x : String) :
    (t.keepOnly flows).job? x = if x ∈ flows then t.job? x else none := by
  rw [job?, keepOnly, List.find?_filter]
  split
  next hx =>
    rw [job?]
    congr 1
    funext j
    by_cases hj : j.flow = x <;> simp [hj, hx]
  next hx =>
    refine List.find?_eq_none.2 fun j _ hj => hx ?_
    obtain ⟨hmem, hf⟩ : j.flow ∈ flows ∧ j.flow = x := by simpa using hj
    exact hf ▸ hmem

/-- What a timetable is brought to by the intervals that flows should have: each such flow has a job with
its interval. The job that a flow had before stays if it has this interval, else its task is cancelled. -/
theorem job?_reconcile {wanted : String → Option Double} (hw : ∀ x d, (x, d) ∈ ivs ↔ wanted x = some d)
    (hpos : ∀ p ∈ ivs, Double.zero.lt p.2 = true) (t : Timetable) (x : String) :
    ((t.reconcile ivs).job? x).map TimetableJob.interval = wanted x ∧
      ∀ j, t.job? x = some j →
        if wanted x = some j.interval then (t.reconcile ivs).job? x = some j
        else j.task ∈ (t.reconcile ivs).cancelled := by
  have h := brings_of_foldl hpos
    (fun hd hd' => Option.some.inj (((hw _ _).1 hd').symm.trans ((hw _ _).1 hd))) t
  have hnames : ∀ x, x ∈ ivs.names ↔ ∃ d, wanted x = some d := fun x => by
    rw [Shelf.names, List.mem_map]
    exact ⟨fun ⟨p, hp, hx⟩ => ⟨p.2, hx ▸ (hw p.1 p.2).1 hp⟩, fun ⟨d, hd⟩ => ⟨_, (hw x d).2 hd, rfl⟩⟩
  rw [reconcile, job?_keepOnly]
  cases hx : wanted x with
  | some d =>
    have hd := (hw x d).2 hx
    rw [if_pos ((hnames x).2 ⟨d, hx⟩)]
    refine ⟨h.interval _ hd, fun j hj => ?_⟩
    split
    next heq => exact h.kept hj (Option.some.inj heq ▸ hd)
    next hne => exact List.mem_append_left _ (h.replaced hj hd fun he => hne (congrArg some he.symm))
  | none =>
    have hout : x ∉ ivs.names := fun hmem => by
      obtain ⟨d, hd⟩ := (hnames x).1 hmem
      cases hx.symm.trans hd
    rw [if_neg hout]
    refine ⟨rfl, fun j hj => ?_⟩
    rw [if_neg nofun]
    -- the job of a flow that has no interval is given up
    obtain ⟨hmem, hf⟩ := job?_eq_some ((h.others x hout).trans hj)
    refine List.mem_append_right _ (List.mem_map_of_mem (List.mem_filter.2 ⟨hmem, ?_⟩))
    simpa [hf] using hout

/-! ### Refreshes -/

/-- After a refresh every flow of the store has the job it should have. -/
theorem job?_refresh (h : t.refresh s = .ok t') (x : String) :
    (t'.job? x).map TimetableJob.interval = s.interval? t.units x ∧
      ∀ j, t.job? x = some j →
        if s.interval? t.units x = some j.interval then t'.job? x = some j else j.task ∈ t'.cancelled := by
  obtain ⟨ivs, hivs, h⟩ := Outcome.bind_eq_ok.1 h
  obtain rfl := Except.ok.inj h
  refine job?_reconcile (fun x d => ?_) (fun p hp => ?_) t x
  · rw [mem_intervals hivs, interval?_eq_some]
  · obtain ⟨f, -, -, hw⟩ := (mem_intervals hivs).1 hp
    exact hw.positive

theorem Exact.refresh (h : t.Exact) (hr : t.refresh s = .ok t') : t'.Exact := by
  obtain ⟨ivs, -, hr⟩ := Outcome.bind_eq_ok.1 hr
  obtain rfl := Except.ok.inj hr
  exact h.reconcile ivs

theorem refresh_error_iff : (∃ e, t.refresh s = .error e) ↔ ∃ e, intervals s t.units = .error e := by
  rw [Timetable.refresh]
  cases intervals s t.units <;> simp [bind, Except.bind, pure, Except.pure]

end Timetable

/-! ### A timetable and an engine in memory -/

namespace Store

variable {s : Store} {α : Type}

theorem listing_attempt (w : Write) (s : Store) : (attempt w s).2.listing = s.listing := by
  simp only [attempt, Stateful.bind_apply, Stateful.get_apply, Stateful.set_apply]
  cases s.outages.find? (Outage.isDue w) <;> rfl

theorem listing_write (w : Write) (f : Memory → Memory × α) (g : Tables → Outcome (Tables × α)) (s : Store) :
    (write w f g s).2.listing = s.listing := by
  have hl := listing_attempt w s
  rw [write, Stateful.bind_apply]
  generalize attempt w s = r at hl ⊢
  rcases r with ⟨_ | _, s₁⟩
  · exact hl
  · simp only [Stateful.bind_apply, Stateful.get_apply]
    cases s₁.records with
    | memory m => exact hl
    | tables t =>
      cases hg : g t <;> simp only [Stateful.bind_apply, Stateful.ofExcept_apply, hg] <;> exact hl

theorem listing_record (step : Step) (q : Run.Sequel) (s : Store) :
    (q.record step s).2.listing = s.listing := by
  cases q <;> rw [Run.Sequel.record, Stateful.discard_apply] <;> exact listing_write ..

theorem listing_saveGraph (g : FlowGraph) (now : Instant) (s : Store) :
    (saveGraph g now s).2.listing = s.listing := by
  simp only [saveGraph, Stateful.bind_apply, Stateful.get_apply]
  cases s.records with
  | memory m => rfl
  | tables t =>
    simp only [Stateful.bind_apply, Stateful.ofExcept_apply]
    cases t.saveGraph g now <;> rfl

theorem listing_deleteFlow (flow : String) (s : Store) : (deleteFlow flow s).2.listing = s.listing := by
  simp only [deleteFlow, Stateful.bind_apply, Stateful.get_apply]
  cases s.records <;> rfl

end Store

namespace Engine

variable {σ : Type} {e e' : Engine σ} {more : Log}

theorem listing_advance (actions : Registry σ) (r : Run) (w : World σ) :
    (r.advance actions w).2.store.listing = w.store.listing := by
  have ht := Run.touches_of_advance actions r w
  generalize (r.advance actions w).2 = w' at ht
  cases ht with
  | perform type params hs =>
    simp only [Run.perform]
    split <;> rfl
  | record hs => exact Store.listing_record ..
  | update hs => exact Store.listing_write ..
  | _ => rfl

theorem listing_runGraph (g : FlowGraph) (startMode : String) (payload : Value) (e : Engine σ) :
    (e.runGraph g startMode payload).2.world.store.listing = e.world.store.listing := by
  unfold runGraph
  split
  next => rfl
  next => rfl
  next =>
    have hl := Store.listing_write .create
      (fun m => (m.create (begun g startMode e.world), (begun g startMode e.world).id))
      (fun t => (t.create (begun g startMode e.world)).map (·, (begun g startMode e.world).id)) e.world.store
    have hn := newExecution_eq g startMode e.world
    rw [Store.create] at hn
    generalize Store.write .create _ _ e.world.store = r at hn hl
    simp only [inWorld, hn]
    rcases r with ⟨f | i, store⟩ <;> exact hl

/-- The flows are kept in memory, where they can be listed. -/
structure InMemory (e : Engine σ) : Prop where
  reliable : e.world.store.Reliable
  listing : e.world.store.listing = none

theorem InMemory.lists (h : e.InMemory) : e.world.store.Lists := by
  obtain ⟨m, hm⟩ := h.reliable.memory
  exact .of_memory hm h.listing

theorem new_inMemory (actions : Registry σ) (surroundings : σ) : (new actions surroundings).InMemory :=
  ⟨⟨⟨_, rfl⟩, rfl⟩, rfl⟩

theorem InMemory.happens (hm : e.InMemory) (h : e.Happens more e') : e'.InMemory := by
  refine ⟨(h.reliable hm.reliable).1, ?_⟩
  rw [← hm.listing]
  cases h with
  | job i j hj =>
    cases j with
    | proceed q => rw [world_stepAt hj, listing_advance]
    | deliver => rw [(stepAt_quiet hj rfl).store]
    | forget y => rw [(stepAt_quiet hj rfl).store]
  | interrupt => rfl
  | interruptWaiting => rfl
  | call c =>
    cases c with
    | start g startMode payload =>
      have hl := listing_runGraph g startMode payload e
      simp only [Engine.call]
      split <;> rename_i heq <;> rw [heq] at hl <;> exact hl
    | cancel id =>
      simp only [Engine.call, cancel]
      split <;> rfl
    | save g => exact Store.listing_saveGraph ..
    | _ => rfl

theorem InMemory.deleteFlow (hm : e.InMemory) (flow : String) : (e.deleteFlow flow).InMemory :=
  ⟨hm.reliable.deleteFlow flow, (Store.listing_deleteFlow flow _).trans hm.listing⟩

theorem InMemory.settle (hm : e.InMemory) : e.settle.InMemory := by
  have h := steps_interleaved e.fuel e
  rw [Engine.settle]
  generalize e.stepsLog e.fuel = log at h
  generalize e.steps e.fuel = e' at h
  induction h with
  | start => exact hm
  | step _ hh ih => exact ih.happens hh

theorem InMemory.runFlow (hm : e.InMemory) (flow : String) : (Timetable.runFlow flow e).InMemory := by
  unfold Timetable.runFlow Engine.run
  split
  next => exact hm
  next g _ =>
    have h := hm.happens (.call (.start g StartMode.schedule.name .null))
    simp only [Engine.call] at h
    split at h <;> rename_i heq <;> rw [heq] <;> exact h

end Engine

namespace Timetable

variable {σ : Type} {t t' : Timetable} {e e' : Engine σ}

/-! ### Time that goes by -/

theorem fire_keeps {β : Type} (key : TimetableJob → β) (hkey : ∀ j due, key { j with due } = key j)
    (due : Double) (jobs : List TimetableJob) (e : Engine σ) :
    (fire due jobs e).1.map key = jobs.map key := by
  induction jobs with
  | nil => rfl
  | cons j rest ih =>
    rw [fire]
    split
    next => rw [List.map_cons, hkey, List.map_cons]
    next => rw [List.map_cons, ih, List.map_cons]

theorem fire_inMemory (hm : e.InMemory) (due : Double) (jobs : List TimetableJob) :
    (fire due jobs e).2.InMemory := by
  induction jobs with
  | nil => exact hm
  | cons j rest ih =>
    rw [fire]
    split
    next => exact (hm.runFlow j.flow).settle
    next => exact ih

/-- That time goes by makes and cancels tasks only in refreshes. -/
theorem Exact.sleepUntil (h : t.Exact) (hm : e.InMemory) (target : Double) (fuel : Nat) :
    (sleepUntil target fuel t e).1.Exact ∧ (sleepUntil target fuel t e).2.InMemory := by
  induction fuel generalizing t e with
  | zero => exact ⟨⟨h.flows, h.tasks⟩, hm⟩
  | succ fuel ih =>
    rw [Timetable.sleepUntil]
    cases earlier t.nextDue t.refreshDue with
    | none => exact ⟨⟨h.flows, h.tasks⟩, hm⟩
    | some due =>
      have hnow : Exact { t with now := due } := ⟨h.flows, h.tasks⟩
      simp only
      split
      next =>
        split
        next =>
          have hflows := fire_keeps TimetableJob.flow (fun _ _ => rfl) due t.jobs e
          have htasks := fire_keeps TimetableJob.task (fun _ _ => rfl) due t.jobs e
          exact ih ⟨hflows.symm ▸ h.flows, htasks.symm ▸ h.tasks⟩ (fire_inMemory hm due t.jobs)
        next =>
          have hrefreshed :
              ((Timetable.refresh { t with now := due } e.world.store).toOption.getD { t with now := due }).Exact := by
            cases hr : Timetable.refresh { t with now := due } e.world.store with
            | error f => exact hnow
            | ok t' => exact hnow.refresh hr
          exact ih ⟨hrefreshed.flows, hrefreshed.tasks⟩ hm
      next => exact ⟨⟨h.flows, h.tasks⟩, hm⟩

/-! ### All that can be done with a timetable -/

/-- What becomes of a new timetable beside a new engine that keeps its flows in memory: refreshes, starts
and stops, time that goes by, and in between anything that happens to the engine, flows that are saved and
deleted among it. A refresh that fails changes nothing. -/
inductive Kept : Timetable → Engine σ → Prop where
  | new (units : Fields) (refreshInterval : Double) (actions : Registry σ) (surroundings : σ) :
      Kept { units, refreshInterval } (Engine.new actions surroundings)
  | refresh {t t' : Timetable} {e : Engine σ} (h : Kept t e) (hr : t.refresh e.world.store = .ok t') :
      Kept t' e
  | start {t t' : Timetable} {e : Engine σ} (h : Kept t e) (hr : t.start e.world.store = .ok t') : Kept t' e
  | stop {t : Timetable} {e : Engine σ} (h : Kept t e) : Kept t.stop e
  | sleep {t : Timetable} {e : Engine σ} (h : Kept t e) (target : Double) (fuel : Nat) :
      Kept (sleepUntil target fuel t e).1 (sleepUntil target fuel t e).2
  | happens {t : Timetable} {e e' : Engine σ} {more : Log} (h : Kept t e) (hh : e.Happens more e') : Kept t e'
  | delete {t : Timetable} {e : Engine σ} (h : Kept t e) (flow : String) : Kept t (e.deleteFlow flow)

theorem Exact.start {s : Store} (h : t.Exact) (hr : t.start s = .ok t') : t'.Exact := by
  obtain ⟨t₁, hr₁, he⟩ := Outcome.bind_eq_ok.1 hr
  obtain rfl := Except.ok.inj he
  exact ⟨(h.refresh hr₁).flows, (h.refresh hr₁).tasks⟩

theorem Kept.exact (h : Kept t e) : t.Exact ∧ e.InMemory := by
  induction h with
  | new units refreshInterval actions surroundings =>
    exact ⟨⟨.nil, .refl _⟩, Engine.new_inMemory actions surroundings⟩
  | refresh _ hr ih => exact ⟨ih.1.refresh hr, ih.2⟩
  | start _ hr ih => exact ⟨ih.1.start hr, ih.2⟩
  | stop _ ih => exact ⟨ih.1.stop, ih.2⟩
  | sleep _ target fuel ih => exact ih.1.sleepUntil ih.2 target fuel
  | happens _ hh ih => exact ⟨ih.1, ih.2.happens hh⟩
  | delete _ flow ih => exact ⟨ih.1, ih.2.deleteFlow flow⟩

/-- At every point the tasks that were made and not cancelled are those of the jobs, and after a stop there
are none. Where the interval of every flow that is not disabled can be told, a refresh succeeds, and so
does a start; then a flow has a job, and one only, if it should be started at an interval, and the job has
that interval. A job that had it before is the same, and the tasks of all others are cancelled. -/
theorem jobs_of_kept (h : Kept t e) :
    (t.Exact ∧ t.stop.Exact ∧ t.stop.jobs = []) ∧
    ((∀ f ∈ e.world.store.allFlows, f.status ≠ "disabled" →
        ∃ d, intervalOf e.world.store t.units f.id = .ok d) →
      ∃ t' due, t.refresh e.world.store = .ok t' ∧
        t.start e.world.store = .ok { t' with refreshDue := due } ∧ t'.Exact ∧
        ∀ x, (t'.job? x).map TimetableJob.interval = e.world.store.interval? t.units x ∧
          ∀ j, t.job? x = some j →
            if e.world.store.interval? t.units x = some j.interval then t'.job? x = some j
            else j.task ∈ t'.cancelled) := by
  obtain ⟨hexact, hmemory⟩ := h.exact
  refine ⟨⟨hexact, hexact.stop, rfl⟩, fun hok => ?_⟩
  cases hr : t.refresh e.world.store with
  | error f =>
    -- no page is missing, and no interval is
    rcases intervals_error_iff.1 (refresh_error_iff.1 ⟨f, hr⟩) with hno | ⟨flow, hmem, hd, f', hf'⟩
    · exact absurd hmemory.lists hno
    · obtain ⟨d, hd⟩ := hok flow hmem hd
      cases hf'.symm.trans hd
  | ok t' =>
    have hstart : t.start e.world.store = .ok { t' with
        refreshDue := t'.refreshDue.orElse fun _ => some (t'.now.add t'.refreshInterval) } := by
      rw [Timetable.start, hr]
      rfl
    exact ⟨t', _, rfl, hstart, hexact.refresh hr, job?_refresh hr⟩

/-- A flow that starts every so many units of time. -/
def every (count : Int) (unit : Value) (id : String) (status : String := "active") : FlowGraph where
  flow := { id, status, created := ⟨0⟩, updated := ⟨0⟩ }
  nodes := [{ id := "start", type := "trigger", config := .record [("triggerType", .text "schedule"),
    ("schedule", .record [("intervalValue", .int count), ("intervalUnit", unit)])] }]
  edges := []

/-- An engine that keeps three such flows. -/
def threeFlows : Engine Unit :=
  ((((Engine.new {} ()).call (.save (every 1 (.text "minutes") "first"))).2.call
    (.save (every 2 (.text "hours") "second"))).2.call (.save (every 3 (.text "days") "third"))).2

/-- The engine after one flow was changed, one deleted and one added. -/
def threeFlowsLater : Engine Unit :=
  (((threeFlows.call (.save (every 20 (.text "hours") "second"))).2.deleteFlow "third").call
    (.save (every 4 (.text "minutes") "fourth"))).2

/-- The timetable of the three flows. -/
def ofThreeFlows : Timetable :=
  let t : Timetable := { refreshInterval := .roundInt 60 }
  (t.refresh threeFlows.world.store).toOption.getD t

theorem kept_threeFlows : Kept ofThreeFlows threeFlowsLater := by
  have hnew : Kept { refreshInterval := .roundInt 60 } (Engine.new {} ()) := .new _ _ {} ()
  have hsaved : Kept _ threeFlows := ((hnew.happens (.call _)).happens (.call _)).happens (.call _)
  have hr : ({ refreshInterval := .roundInt 60 } : Timetable).refresh threeFlows.world.store =
      .ok ofThreeFlows := by
    have hok : (({ refreshInterval := .roundInt 60 } : Timetable).refresh
        threeFlows.world.store).toOption.isSome = true := by decide +kernel
    rw [ofThreeFlows]
    cases h : ({ refreshInterval := .roundInt 60 } : Timetable).refresh threeFlows.world.store with
    | error f => rw [h] at hok; cases hok
    | ok t => rfl
  exact (((hsaved.refresh hr).happens (.call _)).delete "third").happens (.call _)

/-- A flow that is left as it was keeps its task; those that were changed or deleted lose theirs. -/
theorem jobs_of_threeFlows :
    (ofThreeFlows.jobs.map fun j => (j.flow, j.task)) = [("first", 0), ("second", 1), ("third", 2)] ∧
    ∃ t', ofThreeFlows.refresh threeFlowsLater.world.store = .ok t' ∧ t'.Exact ∧
      (t'.jobs.map fun j => (j.flow, j.task)) = [("first", 0), ("second", 3), ("fourth", 4)] ∧
      t'.cancelled = [1, 2] := by
  have hbefore : (ofThreeFlows.jobs.map fun j => (j.flow, j.task)) =
      [("first", 0), ("second", 1), ("third", 2)] := by decide +kernel
  have htold : ∀ f ∈ threeFlowsLater.world.store.allFlows,
      (intervalOf threeFlowsLater.world.store ofThreeFlows.units f.id).toOption.isSome = true := by
    decide +kernel
  have hafter : (ofThreeFlows.refresh threeFlowsLater.world.store).toOption.map
      (fun t' => (t'.jobs.map fun j => (j.flow, j.task), t'.cancelled)) =
      some ([("first", 0), ("second", 3), ("fourth", 4)], [1, 2]) := by decide +kernel
  obtain ⟨t', due, hr, -, hexact, -⟩ := (jobs_of_kept kept_threeFlows).2 fun f hf _ => by
    cases hi : intervalOf threeFlowsLater.world.store ofThreeFlows.units f.id with
    | error e => have := htold f hf; rw [hi] at this; cases this
    | ok d => exact ⟨d, rfl⟩
  rw [hr] at hafter
  obtain ⟨hjobs, hcancelled⟩ := Prod.mk.inj (Option.some.inj hafter)
  exact ⟨hbefore, t', hr, hexact, hjobs, hcancelled⟩

end Timetable

end Workflow
