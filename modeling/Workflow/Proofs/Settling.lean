import Workflow.Proofs.Interleavings
import Workflow.Proofs.Order

/-!
# The engine comes to rest

Every job leaves less to do than it found, counted with `Job.weight` and the messages on their way, so
that `Engine.settle` does all jobs (`settle_ready`). It is one of the interleavings, and so is
`Engine.shutdown` while executions are in progress (`shutdown_interleaved`).
-/

namespace Workflow

namespace Run

variable {σ : Type} {actions : Registry σ} {r r' : Run} {eff : Effect} {evs : List Event}

/-- The messages that an effect sends. -/
def sends : Effect → Nat
  | .tell _ => 1
  | _ => 0

theorem afterWalk_weight_lt (g : FlowGraph) (e : Execution) (now : Instant) (result : Outcome Progress) :
    (afterWalk e now result).weight g < 7 := by
  unfold afterWalk
  split <;> simp [Stage.weight]

/-- A move leaves less to do, a message counted twice: for being sent and for its delivery. -/
theorem Move.weight_lt (hm : Move actions r eff evs r') : r'.weight + 2 * sends eff < r.weight := by
  cases hm with
  | @order l hs ho =>
    have := (FlowGraph.isOrder_of_order ho).perm.length_eq
    simp [weight, hs, Stage.weight, sends]
    omega
  | @record v q hs => cases q <;> simp [weight, hs, Stage.weight, Sequel.effect, Sequel.isNew, sends]
  | @announce v q hs =>
    rcases orEnding_cases r (r.proceed v q) with ⟨f, -, ho⟩ | ⟨r', ho, ho'⟩
    · rw [ho]
      cases q <;> simp [weight, hs, Stage.weight, sends]
    · rw [ho']
      cases q with
      | execute => cases ho; simp [weight, hs, Stage.weight, sends]
      | pass => cases ho; simp [weight, hs, Stage.weight, sends]
      | follow o =>
        obtain ⟨more, -, ho⟩ := Outcome.bind_eq_ok.1 ho
        cases ho
        simp [weight, hs, Stage.weight, sends]
      | stop f => cases ho
  | @conclude v a o w hs ho =>
    rcases orEnding_cases r (r.conclude v w.now o) with ⟨f, -, hr⟩ | ⟨r', hr, hr'⟩
    · rw [hr]; simp [weight, hs, Stage.weight, sends]
    · rw [hr']
      obtain ⟨no, s, -, -, rfl⟩ := conclude_ok hr
      cases he : no.error <;> simp [weight, hs, Stage.weight, sends, sequelOf, he]
  | @refuse v q f hs => cases q <;> simp [weight, hs, Stage.weight, sends]
  | interrupt message hs =>
    rcases hs with hs | ⟨a, hs⟩ <;> simp [weight, hs, Stage.weight, sends]
  | @finish result now hs =>
    have := afterWalk_weight_lt r.graph r.execution now result
    simpa [weight, hs, Stage.weight, sends] using this
  | disorder hs => simp [weight, hs, Stage.weight, sends]
  | complete hs => simp [weight, hs, Stage.weight, sends]
  | stop hs => simp [weight, hs, Stage.weight, sends]
  | unclear hs => simp [weight, hs, Stage.weight, sends]
  | enter id now hs => simp [weight, hs, Stage.weight, sends]; omega
  | skip id now hs => simp [weight, hs, Stage.weight, sends]; omega
  | execute hs => simp [weight, hs, Stage.weight, sends]
  | store hs => simp [weight, hs, Stage.weight, sends]
  | unstored hs => simp [weight, hs, Stage.weight, sends]
  | tell hs => simp [weight, hs, Stage.weight, sends]

theorem length_sent {w w' : World σ} (h : eff.On w w') :
    w'.sent.length = w.sent.length + sends eff := by
  cases h with
  | none _ hs => simp [hs, sends]
  | tell => simp [sends]
  | _ => simp [sends]

end Run

namespace Engine

open Run

variable {σ : Type} {actions : Registry σ} {log more : Log} {e e' : Engine σ} {r : Run}

/-- What is left to do. -/
def load (e : Engine σ) : Nat := e.world.sent.length + Job.totalWeight e.ready

theorem totalWeight_append (l m : List Job) :
    Job.totalWeight (l ++ m) = Job.totalWeight l + Job.totalWeight m := by
  induction l with
  | nil => simp [Job.totalWeight]
  | cons j l ih => simp [Job.totalWeight, ih, Nat.add_assoc]

theorem totalWeight_eraseIdx {l : List Job} {i : Nat} {j : Job} (h : l[i]? = some j) :
    Job.totalWeight l = j.weight + Job.totalWeight (l.eraseIdx i) := by
  induction l generalizing i with
  | nil => cases h
  | cons k l ih =>
    cases i with
    | zero => cases h; rfl
    | succ i =>
      simp only [List.eraseIdx_cons_succ, Job.totalWeight, ih h]
      omega

theorem totalWeight_place (e : Engine σ) (r : Run) :
    Job.totalWeight (e.place r).ready ≤ Job.totalWeight e.ready + r.weight ∧
      (r.isBlocked e.world = true ∨ r.isOver = true →
        Job.totalWeight (e.place r).ready < Job.totalWeight e.ready + r.weight) := by
  have hpos : 0 < r.weight := by
    unfold weight Stage.weight
    split <;> omega
  unfold place
  split
  next hs => simp [totalWeight_append, Job.totalWeight, Job.weight, weight, hs, Stage.weight]
  next hs => simp [totalWeight_append, Job.totalWeight, Job.weight, weight, hs, Stage.weight]
  next h1 h2 =>
    have ho : r.isOver = false := by
      unfold isOver
      split
      next o hs => cases o with
        | ok x => exact absurd hs (h1 x)
        | error f => exact absurd hs (h2 f)
      next => rfl
    split
    next hb => exact ⟨by simp, fun _ => by simpa using hpos⟩
    next hb =>
      refine ⟨by simp [Job.totalWeight, Job.weight]; omega, ?_⟩
      simp [hb, ho]

/-- A delivery is added only for a message that was sent. -/
theorem totalWeight_wake {w' : World σ} (hd : e.Delivering) (hs : e.world.sent <+: w'.sent) :
    Job.totalWeight ({ e with world := w' } : Engine σ).wake.ready + e.world.sent.length ≤
      Job.totalWeight e.ready + w'.sent.length := by
  have hany : e.ready.any Job.isDeliver = !(e.ready.filter Job.isDeliver).isEmpty := by
    rw [Bool.eq_iff_iff]; simp
  have hle := hs.length_le
  rw [Delivering] at hd
  unfold wake
  split
  next => simpa using hle
  next hne =>
    rw [hany, hd] at hne
    have hnil : e.world.sent = [] := by
      cases hse : e.world.sent with
      | nil => rfl
      | cons m ms => simp [hse] at hne
    have hpos : 0 < w'.sent.length := by
      simp [hnil] at hne
      exact List.length_pos_iff.2 hne
    simp only [totalWeight_append, Job.totalWeight, Job.weight, hnil, List.length_nil]
    omega

/-- Every job leaves less to do. -/
theorem load_stepAt_lt (hd : e.Delivering) {i : Nat} {j : Job} (hi : e.ready[i]? = some j) :
    (e.stepAt i).load < e.load := by
  have hw := totalWeight_eraseIdx hi
  cases j with
  | proceed r =>
    obtain ⟨hsent, -⟩ := advance_prefix_sent e.actions r e.world
    have hwake := totalWeight_wake (hd.eraseIdx hi rfl) hsent
    -- what the run does costs more than it leaves to be delivered, or the run waits or is over
    have hrun : (r.advance e.actions e.world).1 = r ∧ (r.advance e.actions e.world).2 = e.world ∧
          (r.isBlocked e.world = true ∨ r.isOver = true) ∨
        (r.advance e.actions e.world).1.weight + 2 * (r.advance e.actions e.world).2.sent.length <
          r.weight + 2 * e.world.sent.length := by
      by_cases h : r.isBlocked e.world = true ∨ r.isOver = true
      · obtain ⟨ha, -⟩ := advance_eq_self e.actions r e.world h
        exact .inl ⟨by rw [ha], by rw [ha], h⟩
      · right
        rw [not_or, Bool.not_eq_true, Bool.not_eq_true] at h
        obtain ⟨eff, hm, hon⟩ := moves_of_advance e.actions r e.world h.1 h.2
        have := hm.weight_lt
        rw [length_sent hon]
        omega
    have hstep := stepAt_proceed hi
    generalize (r.advance e.actions e.world).1 = r' at hrun hstep
    generalize (r.advance e.actions e.world).2 = w' at hrun hstep hwake
    rw [hstep, load, load, (place_keeps _ _).1, (wake_keeps _).1, hw, Job.weight]
    obtain ⟨hle, hlt⟩ :=
      totalWeight_place ({ e with ready := e.ready.eraseIdx i, world := w' } : Engine σ).wake r'
    rw [(wake_keeps _).1] at hlt
    simp only at hwake hle hlt ⊢
    rcases hrun with ⟨rfl, rfl, hbo⟩ | hlt'
    · have := hlt hbo
      omega
    · omega
  | deliver =>
    simp only [stepAt, hi, perform, deliver, load, hw, Job.weight]
    cases hse : e.world.sent with
    | nil => simp [hse]
    | cons m ms =>
      cases ms with
      | nil => simp; omega
      | cons m' ms => simp [Job.totalWeight, Job.weight]
  | forget x =>
    simp only [stepAt, hi, perform, load, hw, Job.weight]
    omega

/-! ### Doing all jobs -/

theorem step_happens {j : Job} {rest : List Job} (h : e.ready = j :: rest) :
    e.Happens (e.events j) e.step := .job 0 j (by rw [h]; rfl)

theorem steps_interleaved (n : Nat) (e : Engine σ) : Interleaved e (e.stepsLog n) (e.steps n) := by
  induction n generalizing e with
  | zero => exact .start
  | succ n ih =>
    cases hr : e.ready with
    | nil => simp only [steps, stepsLog, hr]; exact .start
    | cons j rest =>
      simp only [steps, stepsLog, hr]
      exact (Interleaved.step .start (step_happens hr)).trans (ih e.step)

/-- A call, and then a number of jobs. -/
theorem call_steps_interleaved (e : Engine σ) (c : Call σ) (n : Nat) :
    Interleaved e ((e.call c).1 ++ (e.call c).2.stepsLog n) ((e.call c).2.steps n) :=
  (Interleaved.step .start (.call c)).trans (steps_interleaved n _)

theorem steps_ready (n : Nat) (hs : e.Sound actions log) (hn : e.load < n) : (e.steps n).ready = [] := by
  induction n generalizing e log with
  | zero => omega
  | succ n ih =>
    cases hr : e.ready with
    | nil => simp only [steps, hr]; exact hr
    | cons j rest =>
      have hlt : e.step.load < e.load := load_stepAt_lt (i := 0) hs.delivering (by rw [hr]; rfl)
      simp only [steps, hr]
      exact ih ((step_happens hr).sound hs) (by omega)

/-- After `settle` no job is left. -/
theorem settle_ready (hs : e.Sound actions log) : e.settle.ready = [] :=
  steps_ready _ hs (Nat.lt_succ_self _)

/-- While nothing is left to do no message is on its way. -/
theorem Sound.sent_nil (hs : e.Sound actions log) (hr : e.ready = []) : e.world.sent = [] := by
  have hd := hs.delivering
  rw [Delivering, hr] at hd
  cases hse : e.world.sent with
  | nil => rfl
  | cons m ms => simp [hse] at hd

end Engine

end Workflow
