import Std.Data.String.ToNat
import Workflow.Proofs.Records

/-!
# Runs among others

`Traced` is what holds of the runs in a world whatever is done next: no two of them are of one
execution or have one new step in hand, no id that is still to be drawn is in use, and what is on
record of every execution that was started is the history of a path of its run. A move of one of the
runs keeps it (`Traced.move`).
-/

namespace Workflow

theorem idOf_injective {m n : Nat} (h : idOf m = idOf n) : m = n :=
  Nat.repr_injective (String.append_right_inj _ |>.1 h)

theorem Message.execution?_stepMessage (s : Step) : (Run.stepMessage s).execution? = some s.execution := by
  simp [Message.execution?, Run.stepMessage, Step.toValue, Value.record, Value.field, Fields.get?,
    Value.text?]

theorem Message.execution?_endMessage (e : Execution) : (Run.endMessage e).execution? = some e.id := by
  simp [Message.execution?, Run.endMessage, Run.topicOfSteps, Run.topicOfEnds, Value.record, Value.field,
    Fields.get?, Value.text?]

/-- Whether an execution was started. -/
def Log.Started (log : Log) (x : String) : Prop := ∃ g, (x, .started g) ∈ log

theorem Log.Started.append {x : String} {log : Log} (h : log.Started x) (more : Log) :
    (log ++ more).Started x :=
  h.imp fun _ hg => List.mem_append_left _ hg

theorem Log.of_append (x : String) (log more : Log) : (log ++ more).of x = log.of x ++ more.of x := by
  simp [Log.of]

theorem Log.of_map_self (x : String) (evs : List Event) : Log.of x (evs.map (x, ·)) = evs := by
  induction evs with
  | nil => rfl
  | cons ev evs ih => simpa [Log.of] using ih

theorem Log.of_map_ne {x y : String} (h : y ≠ x) (evs : List Event) : Log.of y (evs.map (x, ·)) = [] := by
  induction evs with
  | nil => rfl
  | cons ev evs ih => simp [Log.of, Ne.symm h]

/-- Whether the store refused a write. -/
def Event.isRefused : Event → Bool
  | .refused => true
  | _ => false

theorem refused_notMem {evs : List Event} (h : evs.any Event.isRefused = false) : .refused ∉ evs :=
  fun hmem => by simpa [Event.isRefused] using List.any_eq_false.1 h _ hmem

namespace Run

variable {σ : Type} {actions : Registry σ} {r r' : Run} {eff : Effect} {evs : List Event} {h : History}

/-- The id of the step in hand, if it is not in the store yet. -/
def newId? (r : Run) : Option String :=
  match r.stage with
  | .recording v q => if q.isNew then some v.step.id else none
  | _ => none

/-- Two runs are of different executions and have different new steps in hand. -/
def Apart (r r' : Run) : Prop :=
  r.execution.id ≠ r'.execution.id ∧ ∀ id, r.newId? = some id → r'.newId? ≠ some id

theorem Apart.symm (h : Apart r r') : Apart r' r :=
  ⟨h.1.symm, fun id h' hr => h.2 id hr h'⟩

theorem Move.newId?_eq (hm : Move actions r eff evs r') : r'.newId? = eff.drawn? := by
  cases hm with
  | record hs => unfold Sequel.effect; split <;> rfl
  | @announce v q hs =>
    rcases orEnding_cases r (r.proceed v q) with ⟨f, -, ho⟩ | ⟨r', ho, ho'⟩
    · rw [ho]; rfl
    · rw [ho']
      cases q with
      | execute => cases ho; rfl
      | pass => cases ho; rfl
      | follow o =>
        obtain ⟨more, -, ho⟩ := Outcome.bind_eq_ok.1 ho
        cases ho
        rfl
      | stop f => cases ho
  | @conclude v a o w hs ho =>
    rcases orEnding_cases r (r.conclude v w.now o) with ⟨f, -, hr⟩ | ⟨r', hr, hr'⟩
    · rw [hr]; rfl
    · rw [hr']
      obtain ⟨no, s, -, -, rfl⟩ := conclude_ok hr
      cases he : no.error <;> simp [newId?, sequelOf, he, Sequel.isNew, Effect.drawn?]
  | @finish result now hs =>
    have : ∀ s, afterWalk r.execution now result = s → (r.moveTo s).newId? = none := by
      rintro s rfl
      unfold afterWalk
      split <;> rfl
    exact this _ rfl
  | _ => rfl

/-- A step is created only by a run that has it in hand. -/
theorem Move.create_newId? {step : Step} (hm : Move actions r (.create step) evs r') :
    r.newId? = some step.id := by
  generalize he : Effect.create step = eff at hm
  cases hm with
  | record hs =>
    unfold Sequel.effect at he
    split at he
    next hq => cases he; simp only [newId?, hs, if_pos hq]
    next => cases he
  | _ => cases he

theorem Move.not_started {g : FlowGraph} (hm : Move actions r eff evs r') : .started g ∉ evs := by
  cases hm <;> simp

end Run

/-! ### What is kept of the runs in a world -/

open Run

variable {σ : Type} {actions : Registry σ} {w w' : World σ} {delivered : List Message}
  {runs others : List Run} {log : Log} {r r' : Run} {eff : Effect} {evs : List Event}

/-- The history of an execution that was just started. -/
def History.start (g : FlowGraph) (e : Execution) : History :=
  { stored := some e, events := [.started g] }

/-- A run of an execution over a flow has come by a path to a history. -/
def Comes (actions : Registry σ) (g : FlowGraph) (x : String) (r : Run) (h : History) : Prop :=
  ∃ e payload, e.id = x ∧ e.status = .running ∧
    Path actions (.ofExecution g e payload) (.start g e) r h

namespace Comes

variable {g : FlowGraph} {x : String} {h : History}

theorem start {e : Execution} (payload : Value) (he : e.status = .running) :
    Comes actions g e.id (.ofExecution g e payload) (.start g e) :=
  ⟨e, payload, rfl, he, .start⟩

theorem keeps (hc : Comes actions g x r h) : r.graph = g ∧ r.execution.id = x := by
  obtain ⟨e, payload, rfl, -, hp⟩ := hc
  exact ⟨hp.keeps.1, congrArg Execution.id hp.keeps.2⟩

theorem consistent (hc : Comes actions g x r h) : Consistent r h := by
  obtain ⟨e, payload, rfl, he, hp⟩ := hc
  exact hp.consistent ⟨he, by simp [History.start], by simp [History.start], rfl, trivial⟩

theorem move (hc : Comes actions g x r h) (hm : Move actions r eff evs r') (ha : h.Admits eff) :
    Comes actions g x r' (h.after evs eff) := by
  obtain ⟨e, payload, hid, he, hp⟩ := hc
  exact ⟨e, payload, hid, he, hp.move hm ha⟩

/-- What holds of a run that was just started, and is kept by its moves. -/
theorem induction {P : Run → History → Prop} (hc : Comes actions g x r h)
    (start : ∀ e payload, e.status = .running → P (.ofExecution g e payload) (.start g e))
    (move : ∀ {r r' : Run} {h : History} {eff : Effect} {evs : List Event}, Comes actions g x r h →
      Move actions r eff evs r' → h.Admits eff → P r h → P r' (h.after evs eff)) : P r h := by
  obtain ⟨e, payload, hid, he, hp⟩ := hc
  induction hp with
  | start => exact start e payload he
  | move hp hm ha ih => exact move ⟨e, payload, hid, he, hp⟩ hm ha ih

end Comes

structure Traced (actions : Registry σ) (w : World σ) (delivered : List Message) (runs : List Run)
    (log : Log) : Prop where
  keyed : w.store.Keyed
  unused : ∀ n, w.drawn < n → w.store.Unused (idOf n) ∧ ∀ r ∈ runs, r.newId? ≠ some (idOf n)
  apart : runs.Pairwise Apart
  inHand : ∀ r ∈ runs, ∀ id, r.newId? = some id → id ∉ w.store.steps.map Step.id
  known : ∀ r ∈ runs, log.Started r.execution.id
  sourced : ∀ m ∈ delivered ++ w.sent, ∀ x, m.execution? = some x → log.Started x
  logged : ∀ p ∈ log, log.Started p.1
  /-- What is on record of an execution is the history of its run, which is over if it is not here. -/
  comes : ∀ x g, (x, .started g) ∈ log →
    ∃ r, Comes actions g x r (w.history delivered (log.of x) x) ∧
      (r ∈ runs ∨ r.isOver ∧ ∀ r' ∈ runs, r'.execution.id ≠ x)

namespace Traced

/-- The order in which the runs are listed does not matter. -/
theorem perm (ht : Traced actions w delivered runs log) (hp : runs.Perm others) :
    Traced actions w delivered others log where
  keyed := ht.keyed
  unused n hn := ⟨(ht.unused n hn).1, fun r hr => (ht.unused n hn).2 r (hp.mem_iff.2 hr)⟩
  apart := (hp.pairwise_iff Apart.symm).1 ht.apart
  inHand r hr := ht.inHand r (hp.mem_iff.2 hr)
  known r hr := ht.known r (hp.mem_iff.2 hr)
  sourced := ht.sourced
  logged := ht.logged
  comes x g hg := by
    obtain ⟨r, hc, hr⟩ := ht.comes x g hg
    exact ⟨r, hc, hr.imp hp.mem_iff.1 (And.imp_right fun hne r' hr' => hne r' (hp.mem_iff.2 hr'))⟩

/-- A run here has come to what is on record of its execution. -/
theorem comes_of_mem (ht : Traced actions w delivered (r :: others) log) :
    ∃ g, (r.execution.id, .started g) ∈ log ∧
      Comes actions g r.execution.id r
        (w.history delivered (log.of r.execution.id) r.execution.id) := by
  obtain ⟨g, hg⟩ := ht.known r (by simp)
  obtain ⟨q, hc, hq⟩ := ht.comes _ g hg
  refine ⟨g, hg, ?_⟩
  rcases hq with hq | ⟨-, hne⟩
  · rcases List.mem_cons.1 hq with rfl | hq
    · exact hc
    · exact absurd hc.keeps.2.symm ((List.pairwise_cons.1 ht.apart).1 q hq).1
  · exact absurd rfl (hne r (by simp))

/-- An execution that was started is in the store. -/
theorem stored (ht : Traced actions w delivered runs log) {x : String} (hx : log.Started x) :
    x ∈ w.store.executions.map Execution.id := by
  obtain ⟨g, hg⟩ := hx
  obtain ⟨q, hc, -⟩ := ht.comes x g hg
  obtain ⟨e, he⟩ := Option.isSome_iff_exists.1 hc.consistent.stored
  have he : w.store.execution? x = some e := he
  rw [ht.keyed.execution?_eq] at he
  exact List.mem_map.2 ⟨e, List.mem_of_find?_eq_some he, by simpa using List.find?_some he⟩

theorem execution_mem (ht : Traced actions w delivered (r :: others) log) :
    r.execution.id ∈ w.store.executions.map Execution.id := ht.stored (ht.known r (by simp))

/-- The effect of a move is one of the run's own execution. -/
theorem fits (ht : Traced actions w delivered (r :: others) log) (hm : Move actions r eff evs r') :
    eff.Fits r.execution.id w.store := by
  obtain ⟨g, -, hc⟩ := ht.comes_of_mem
  have hown := hc.consistent.own
  have hst := hc.consistent.stage
  have hmem : ∀ s ∈ w.store.stepsOf r.execution.id, s ∈ w.store.steps ∧ s.execution = r.execution.id := by
    intro s hs
    rw [ht.keyed.stepsOf_eq, List.mem_filter, beq_iff_eq] at hs
    exact hs
  cases hm with
  | @record v q hs =>
    rw [hs] at hst
    have hnew := ht.inHand r (by simp)
    simp only [newId?, hs] at hnew
    unfold Sequel.effect
    split
    next hq => exact ⟨hst.1, hnew _ (if_pos hq)⟩
    next hq =>
      obtain ⟨t, ht, hid⟩ := List.mem_map.1 (hst.2 (by simpa using hq))
      exact ⟨hst.1, t, (hmem t ht).1, hid, (hmem t ht).2⟩
  | announce hs =>
    rw [hs] at hst
    exact (Message.execution?_stepMessage _).trans (congrArg some (hown _ hst))
  | store hs =>
    rw [hs] at hst
    exact ⟨hst, ht.execution_mem⟩
  | tell hs =>
    rw [hs] at hst
    exact (Message.execution?_endMessage _).trans (congrArg some hst)
  | _ => trivial

theorem admits (ht : Traced actions w delivered (r :: others) log) (hm : Move actions r eff evs r')
    (events : List Event) : (w.history delivered events r.execution.id).Admits eff := by
  have hf := ht.fits hm
  cases eff with
  | create s =>
    intro hs
    refine hf.2 ?_
    obtain ⟨t, ht', hid⟩ := List.mem_map.1 hs
    have ht' : t ∈ w.store.stepsOf r.execution.id := ht'
    rw [ht.keyed.stepsOf_eq] at ht'
    exact List.mem_map.2 ⟨t, (List.mem_filter.1 ht').1, hid⟩
  | _ => trivial

/-- What is on record of the executions after a move of one of the runs. -/
theorem comes_move (ht : Traced actions w delivered (r :: others) log) (hm : Move actions r eff evs r')
    (hon : eff.On w w') {x : String} {g : FlowGraph}
    (hg : (x, .started g) ∈ log ++ evs.map (r.execution.id, ·)) :
    ∃ q, Comes actions g x q
        (w'.history delivered (Log.of x (log ++ evs.map (r.execution.id, ·))) x) ∧
      (q ∈ r' :: others ∨ q.isOver ∧ ∀ q' ∈ r' :: others, q'.execution.id ≠ x) := by
  have hf := ht.fits hm
  have hapart := (List.pairwise_cons.1 ht.apart).1
  have hg : (x, .started g) ∈ log := by
    rcases List.mem_append.1 hg with hg | hg
    · exact hg
    · obtain ⟨ev, hev, he⟩ := List.mem_map.1 hg
      cases he
      exact absurd hev hm.not_started
  obtain ⟨q, hc, hq⟩ := ht.comes x g hg
  rw [Log.of_append]
  by_cases hx : x = r.execution.id
  · subst hx
    rw [Log.of_map_self, hon.history_own ht.keyed hf]
    refine ⟨r', Comes.move ?_ hm (ht.admits hm _), .inl (by simp)⟩
    rcases hq with hq | ⟨-, hne⟩
    · rcases List.mem_cons.1 hq with rfl | hq
      · exact hc
      · exact absurd hc.keeps.2.symm (hapart q hq).1
    · exact absurd rfl (hne r (by simp))
  · rw [Log.of_map_ne hx, List.append_nil, hon.history_other ht.keyed hf hx]
    refine ⟨q, hc, hq.imp (fun hq => ?_) (And.imp_right fun hne q' hq' => ?_)⟩
    · rcases List.mem_cons.1 hq with rfl | hq
      · exact absurd hc.keeps.2.symm hx
      · simp [hq]
    · rcases List.mem_cons.1 hq' with rfl | hq'
      · rw [hm.keeps.2]; exact hne r (by simp)
      · exact hne q' (by simp [hq'])

/-- A move of one of the runs. -/
theorem move (ht : Traced actions w delivered (r :: others) log) (hm : Move actions r eff evs r')
    (hon : eff.On w w') :
    Traced actions w' delivered (r' :: others) (log ++ evs.map (r.execution.id, ·)) := by
  have hf := ht.fits hm
  have hid : r'.execution = r.execution := hm.keeps.2
  obtain ⟨hapart, hothers⟩ := List.pairwise_cons.1 ht.apart
  -- a step that is created is the new one that the run has in hand
  have hnew : ∀ step, eff = .create step → r.newId? = some step.id := by
    rintro step rfl
    exact hm.create_newId?
  have hdrawn : ∀ n, w'.drawn < n → w.drawn < n ∧ r'.newId? ≠ some (idOf n) := by
    intro n hn
    refine ⟨Nat.lt_of_le_of_lt hon.drawn_le hn, fun h => ?_⟩
    obtain ⟨hid, hw⟩ := hon.drawn (hm.newId?_eq.symm.trans h)
    rw [hw, idOf_injective hid] at hn
    exact Nat.lt_irrefl _ hn
  have hknown : log.Started r.execution.id := ht.known r (by simp)
  refine ⟨hon.keyed ht.keyed hf, fun n hn => ?_, List.pairwise_cons.2 ⟨fun q hq => ⟨?_, ?_⟩, hothers⟩,
    ?_, ?_, ?_, ?_, ?_⟩
  · obtain ⟨hu, hruns⟩ := ht.unused n (hdrawn n hn).1
    refine ⟨hon.unused ht.keyed hf hu (fun he => hu.executions (he ▸ ht.execution_mem)) ?_, ?_⟩
    · rintro step he hstep
      exact hruns r (by simp) ((hnew step he).trans (congrArg some hstep))
    · intro q hq
      rcases List.mem_cons.1 hq with rfl | hq
      · exact (hdrawn n hn).2
      · exact hruns q (by simp [hq])
  · rw [hid]; exact (hapart q hq).1
  · intro id hr' hq'
    obtain ⟨rfl, -⟩ := hon.drawn (hm.newId?_eq.symm.trans hr')
    exact (ht.unused _ (Nat.lt_succ_self _)).2 q (by simp [hq]) hq'
  · intro q hq id hq'
    rcases List.mem_cons.1 hq with rfl | hq
    · obtain ⟨rfl, hw⟩ := hon.drawn (hm.newId?_eq.symm.trans hq')
      rw [hw]
      exact (ht.unused _ (Nat.lt_succ_self _)).1.steps
    · refine hon.steps_ids ht.keyed hf (ht.inHand q (by simp [hq]) id hq') fun step he hstep => ?_
      exact (hapart q hq).2 step.id (hnew step he) (hstep ▸ hq')
  · intro q hq
    rcases List.mem_cons.1 hq with rfl | hq
    · rw [hid]; exact hknown.append _
    · exact (ht.known q (by simp [hq])).append _
  · intro m hmem x hx
    rcases hon.sent hf hmem with hmem | hmem
    · exact (ht.sourced m hmem x hx).append _
    · rw [hx] at hmem
      obtain rfl := Option.some.inj hmem
      exact hknown.append _
  · intro p hp
    rcases List.mem_append.1 hp with hp | hp
    · exact (ht.logged p hp).append _
    · obtain ⟨ev, -, rfl⟩ := List.mem_map.1 hp
      exact hknown.append _
  · exact fun x g hg => ht.comes_move hm hon hg

/-- One of the runs takes its next step. -/
theorem advance (ht : Traced actions w delivered (r :: others) log) :
    Traced actions (r.advance actions w).2 delivered ((r.advance actions w).1 :: others)
      (log ++ (r.events w).map (r.execution.id, ·)) := by
  by_cases h : r.isBlocked w = true ∨ r.isOver = true
  · obtain ⟨ha, he⟩ := advance_eq_self actions r w h
    rw [ha, he, List.map_nil, List.append_nil]
    exact ht
  · rw [not_or, Bool.not_eq_true, Bool.not_eq_true] at h
    obtain ⟨eff, hm, hon⟩ := moves_of_advance actions r w h.1 h.2
    exact ht.move hm hon

/-- A run that is over is no longer among the runs. -/
theorem drop (ht : Traced actions w delivered (r :: others) log) (ho : r.isOver = true) :
    Traced actions w delivered others log where
  keyed := ht.keyed
  unused n hn := ⟨(ht.unused n hn).1, fun q hq => (ht.unused n hn).2 q (by simp [hq])⟩
  apart := (List.pairwise_cons.1 ht.apart).2
  inHand q hq := ht.inHand q (by simp [hq])
  known q hq := ht.known q (by simp [hq])
  sourced := ht.sourced
  logged := ht.logged
  comes x g hg := by
    obtain ⟨q, hc, hq⟩ := ht.comes x g hg
    refine ⟨q, hc, ?_⟩
    rcases hq with hq | ⟨hq, hne⟩
    · rcases List.mem_cons.1 hq with rfl | hq
      · refine .inr ⟨ho, fun q' hq' => ?_⟩
        rw [← hc.keeps.2]
        exact ((List.pairwise_cons.1 ht.apart).1 q' hq').1.symm
      · exact .inl hq
    · exact .inr ⟨hq, fun q' hq' => hne q' (by simp [hq'])⟩

/-- A change of the world that leaves the records of executions and the messages as they are. -/
theorem of_world (ht : Traced actions w delivered runs log) {delivered' : List Message}
    (hk : w'.store.Keyed) (hs : w'.store.steps = w.store.steps)
    (he : w'.store.executions = w.store.executions)
    (hm : delivered' ++ w'.sent = delivered ++ w.sent) (hd : w.drawn ≤ w'.drawn) :
    Traced actions w' delivered' runs log where
  keyed := hk
  unused n hn := by
    obtain ⟨⟨h1, h2, h3⟩, hr⟩ := ht.unused n (Nat.lt_of_le_of_lt hd hn)
    exact ⟨⟨hs ▸ h1, he ▸ h2, hs ▸ h3⟩, hr⟩
  apart := ht.apart
  inHand r hr id hid := hs ▸ ht.inHand r hr id hid
  known := ht.known
  sourced := hm ▸ ht.sourced
  logged := ht.logged
  comes x g hg := by
    rw [World.history_congr ht.keyed hk hs he hm]
    exact ht.comes x g hg

/-- A new execution changes nothing of the others. -/
theorem history_other (ht : Traced actions w delivered runs log) {e : Execution} {x : String}
    (hk : w'.store.Keyed) (hex : w'.store.executions = w.store.executions ++ [e])
    (hs : w'.store.steps = w.store.steps) (hsent : w'.sent = w.sent) (hx : e.id ≠ x)
    (events : List Event) : w'.history delivered events x = w.history delivered events x := by
  simp only [World.history, hk.stepsOf_eq, ht.keyed.stepsOf_eq, hk.execution?_eq,
    ht.keyed.execution?_eq, hs, hex, hsent, List.find?_append]
  simp [hx]

/-- There is nothing on record of a new execution but itself. -/
theorem history_new (ht : Traced actions w delivered runs log) {g : FlowGraph} {e : Execution}
    (hk : w'.store.Keyed) (hex : w'.store.executions = w.store.executions ++ [e])
    (hs : w'.store.steps = w.store.steps) (hsent : w'.sent = w.sent) (hu : w.store.Unused e.id)
    (hnew : ¬ log.Started e.id) : w'.history delivered [.started g] e.id = .start g e := by
  have hsteps : w.store.steps.filter (·.execution == e.id) = [] := by
    simpa using hu.owners
  have hfind : w.store.executions.find? (·.id == e.id) = none := by
    simpa using hu.executions
  have htold : messagesOf e.id (delivered ++ w.sent) = [] :=
    List.filter_eq_nil_iff.2 fun m hm hx => hnew (ht.sourced m hm _ (beq_iff_eq.1 hx))
  simp only [World.history, History.start, hk.stepsOf_eq, hk.execution?_eq, hs, hex, hsent,
    List.find?_append, hsteps, hfind, htold]
  simp

/-- A new execution is started. -/
theorem start (ht : Traced actions w delivered runs log) {g : FlowGraph} {e : Execution}
    {store : Store} {i : String} (payload : Value) (hid : e.id = idOf (w.drawn + 1))
    (he : e.status = .running) (hc : Store.create e w.store = (.ok i, store))
    (hw : w'.store = store) (hsent : w'.sent = w.sent) (hdrawn : w'.drawn = w.drawn + 1) :
    Traced actions w' delivered (.ofExecution g e payload :: runs)
      (log ++ [(e.id, .started g)]) := by
  obtain ⟨hu, hruns⟩ := ht.unused _ (Nat.lt_succ_self w.drawn)
  rw [← hid] at hu hruns
  obtain ⟨hk, hex, hs⟩ := ht.keyed.create_ok hu.executions hc
  rw [← hw] at hk hex hs
  have hnew : ∀ x, log.Started x → e.id ≠ x := fun x hx h => hu.executions (h ▸ ht.stored hx)
  have hself : Log.Started (log ++ [(e.id, .started g)]) e.id := ⟨g, by simp⟩
  refine ⟨hk, fun n hn => ?_, List.pairwise_cons.2 ⟨fun q hq => ⟨?_, ?_⟩, ht.apart⟩, ?_, ?_, ?_, ?_, ?_⟩
  · rw [hdrawn] at hn
    obtain ⟨hun, hrn⟩ := ht.unused n (Nat.lt_of_succ_lt hn)
    have hne : e.id ≠ idOf n := fun h => Nat.lt_irrefl _ (idOf_injective (hid.symm.trans h) ▸ hn)
    refine ⟨⟨hs ▸ hun.steps, ?_, hs ▸ hun.owners⟩, ?_⟩
    · rw [hex, List.map_append, List.mem_append]
      rintro (h | h)
      · exact hun.executions h
      · exact hne (List.mem_singleton.1 h).symm
    · intro q hq
      rcases List.mem_cons.1 hq with rfl | hq
      · exact fun h => by cases h
      · exact hrn q hq
  · exact hnew _ (ht.known q hq)
  · exact fun id h => by cases h
  · intro q hq id hqid
    rcases List.mem_cons.1 hq with rfl | hq
    · cases hqid
    · exact hs ▸ ht.inHand q hq id hqid
  · intro q hq
    rcases List.mem_cons.1 hq with rfl | hq
    · exact hself
    · exact (ht.known q hq).append _
  · intro m hm x hx
    rw [hsent] at hm
    exact (ht.sourced m hm x hx).append _
  · intro p hp
    rcases List.mem_append.1 hp with hp | hp
    · exact (ht.logged p hp).append _
    · rw [List.mem_singleton.1 hp]; exact hself
  · intro x g' hg
    rcases List.mem_append.1 hg with hg | hg
    · have hx := hnew x ⟨g', hg⟩
      obtain ⟨q, hc, hq⟩ := ht.comes x g' hg
      have hlog : Log.of x (log ++ [(e.id, .started g)]) = log.of x := by simp [Log.of, hx]
      rw [hlog, ht.history_other hk hex hs hsent hx]
      refine ⟨q, hc, hq.imp (fun hq => by simp [hq]) (And.imp_right fun hne q' hq' => ?_)⟩
      rcases List.mem_cons.1 hq' with rfl | hq'
      · exact hx
      · exact hne q' hq'
    · cases List.mem_singleton.1 hg
      have hlog : Log.of e.id (log ++ [(e.id, .started g)]) = [.started g] := by
        have hnil : log.filter (·.1 == e.id) = [] :=
          List.filter_eq_nil_iff.2 fun p hp hid => hnew _ (ht.logged p hp) (beq_iff_eq.1 hid).symm
        simp [Log.of, List.filter_append, hnil]
      rw [hlog, ht.history_new hk hex hs hsent hu fun hst => hnew _ hst rfl]
      exact ⟨_, .start payload he, .inl (by simp)⟩

end Traced

end Workflow
