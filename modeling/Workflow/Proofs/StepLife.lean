import Mathlib.Data.List.Basic
import Workflow.Execution
import Workflow.Proofs.Unwritable

/-!
# The life of a step

A deed on a step sets its status and its times first and keeps the data second. A step that has ended
refuses every deed and stays as it is for good. On any other step a deed is refused just if its data cannot
be written, and then the status and the times are set all the same: only the data is missing
(`Moment.refusal_of_run`).
-/

namespace Workflow.Step

/-! ### Data -/

theorem dataText_eq_json {v : Value} (h : v ≠ .null) : dataText v = (v.json .record).map some := by
  cases v <;> first | rfl | exact absurd rfl h

/-- Data is refused just if some part or key of it cannot be written. -/
theorem dataText_fails_iff {v : Value} : (∃ f, dataText v = .error f) ↔ ∃ e, v.Unwritable .record e := by
  by_cases hv : v = .null
  · subst hv
    constructor
    · rintro ⟨f, h⟩
      cases h
    · rintro ⟨e, h⟩
      cases h with
      | self h => exact h.elim
  · rw [dataText_eq_json hv]
    constructor
    · rintro ⟨f, h⟩
      cases hj : v.json .record with
      | ok s => rw [hj] at h; cases h
      | error f =>
        obtain ⟨e, he, -⟩ := Value.unwritable_of_json hj
        exact ⟨e, he⟩
    · rintro ⟨e, he⟩
      cases hj : v.json .record with
      | ok s => exact (he.json_ne_ok s hj).elim
      | error f => exact ⟨f, rfl⟩

theorem unwritable_of_long {i : Int} (h : tenTo Numeral.digitLimit ≤ i.natAbs) :
    (Value.int i).Unwritable .record .longInteger := by
  have htext : intText? i = none := by
    unfold intText?
    exact if_neg (Nat.not_lt.2 h)
  have hfault : Json.intText i = .error .longInteger := by
    unfold Json.intText
    rw [htext]
  exact .self hfault

/-! ### Deeds -/

/-- What can be done to a step. -/
inductive Deed where
  | start (input : Value)
  | succeed (output : Value)
  | fail (error : Option String) (output : Value)
  | skip

namespace Deed

def perform (s : Step) (now : Instant) : Deed → Change
  | start input => s.start input now
  | succeed output => s.succeed output now
  | fail error output => s.fail error output now
  | skip => s.skip now

/-- The data that is to be kept with the step. -/
def data : Deed → Value
  | start input => input
  | succeed output => output
  | fail _ output => output
  | skip => .null

/-- A step that ends with a status. -/
def ended (s : Step) (status : StepStatus) (now : Instant) : Step :=
  { s with
    status, completed := some now
    duration := s.started.map fun started => millisecondsBetween started now }

/-- A step with what a deed says about its status, its times and its error, and the data it had before. -/
def marked (s : Step) (now : Instant) : Deed → Step
  | start _ => { s with status := .running, started := some now }
  | succeed _ => ended s .success now
  | fail error _ => { ended s .error now with error }
  | skip => ended s .skipped now

/-- A step with the text of the data of a deed. A start without data leaves the input as it is. -/
def kept (s : Step) (text : Option String) : Deed → Step
  | start _ => { s with input := text.or s.input }
  | succeed _ => { s with output := text }
  | fail _ _ => { s with output := text }
  | skip => s

variable {s : Step} {now : Instant} {d : Deed} {text : Option String} {f : Failure}

theorem perform_of_terminal (h : s.status.isTerminal = true) : d.perform s now = (s, some s.alreadyEnded) := by
  have hfinish : ∀ status, s.finish status now = .error s.alreadyEnded := fun _ => if_pos h
  cases d with
  | start input => exact if_pos h
  | succeed output => rw [perform, Step.succeed, hfinish]
  | fail error output => rw [perform, Step.fail, hfinish]
  | skip => rw [perform, Step.skip, hfinish]

/-- A step that has not ended is marked, whether its data can be kept or not. -/
theorem perform_of_open (h : s.status.isTerminal = false) : d.perform s now =
    match dataText d.data with
    | .ok text => (d.kept (d.marked s now) text, none)
    | .error f => (d.marked s now, some f) := by
  have hfinish : ∀ status, s.finish status now = .ok (ended s status now) := fun _ => if_neg (by simp [h])
  have hopen : ¬ s.status.isTerminal = true := by simp [h]
  cases d with
  | start input =>
    rw [perform, Step.start, if_neg hopen, data]
    by_cases hi : input = .null
    · subst hi
      rfl
    · rw [dataText_eq_json hi]
      cases input.json .record with
      | ok t => cases input <;> first | rfl | exact absurd rfl hi
      | error f => cases input <;> first | rfl | exact absurd rfl hi
  | succeed output =>
    rw [perform, Step.succeed, hfinish]
    rfl
  | fail error output =>
    rw [perform, Step.fail, hfinish]
    rfl
  | skip =>
    rw [perform, Step.skip, hfinish]
    rfl

/-- Which deeds a step refuses. -/
theorem refused_iff : (d.perform s now).2.isSome = true ↔
    s.status.isTerminal = true ∨ ∃ e, d.data.Unwritable .record e := by
  rw [← dataText_fails_iff]
  cases h : s.status.isTerminal with
  | true => simp [perform_of_terminal h]
  | false =>
    rw [perform_of_open h]
    cases dataText d.data with
    | ok text => simp
    | error f => simp

/-- What a refused deed leaves behind. -/
theorem step_of_refused (h : (d.perform s now).2.isSome = true) :
    (d.perform s now).1 = if s.status.isTerminal then s else d.marked s now := by
  cases ht : s.status.isTerminal with
  | true => simp [perform_of_terminal ht]
  | false =>
    rw [perform_of_open ht] at h ⊢
    cases hd : dataText d.data with
    | ok text => rw [hd] at h; cases h
    | error f => rfl

end Deed

/-! ### All events -/

inductive Event where
  | deed (d : Deed)
  /-- Time goes by, or a clock is set back. -/
  | pass (microseconds : Int)

/-- A step at a point in time. -/
structure Moment where
  step : Step
  now : Instant

namespace Moment

variable {m : Moment} {event : Event}

/-- What a refused deed has changed by then stays. -/
def after (m : Moment) : Event → Moment
  | .deed d => { m with step := (d.perform m.step m.now).1 }
  | .pass microseconds => { m with now := m.now.later microseconds }

def run (m : Moment) (events : List Event) : Moment := events.foldl after m

theorem step_after_of_terminal (h : m.step.status.isTerminal = true) : (m.after event).step = m.step := by
  cases event with
  | deed d => rw [after, Deed.perform_of_terminal h]
  | pass => rfl

/-- What has ended stays as it is. -/
theorem step_run_of_terminal (h : m.step.status.isTerminal = true) (events : List Event) :
    (m.run events).step = m.step := by
  induction events generalizing m with
  | nil => rfl
  | cons event events ih =>
    have hstep : (m.after event).step = m.step := step_after_of_terminal h
    exact (ih (hstep ▸ h)).trans hstep

/-- After any events on a step: once it has ended, it refuses every deed at any time and no event changes it
any more. As long as it has not ended, a deed is refused just if its data cannot be written; a refused deed
has set the status, the times and the error by then, and the data is as before. -/
theorem refusal_of_run (m : Moment) (events : List Event) (d : Deed) :
    let r := m.run events
    (r.step.status.isTerminal = true → ∀ later,
      (r.run later).step = r.step ∧
      d.perform (r.run later).step (r.run later).now = (r.step, some r.step.alreadyEnded)) ∧
    (r.step.status.isTerminal = false →
      ((d.perform r.step r.now).2.isSome ↔ ∃ e, d.data.Unwritable .record e) ∧
      ((d.perform r.step r.now).2.isSome → (d.perform r.step r.now).1 = d.marked r.step r.now) ∧
      ((d.perform r.step r.now).2 = none → ∃ text,
        dataText d.data = .ok text ∧ (d.perform r.step r.now).1 = d.kept (d.marked r.step r.now) text)) := by
  intro r
  -- what led to the step does not matter
  clear_value r
  constructor
  · intro h later
    have hlater : (r.run later).step = r.step := step_run_of_terminal h later
    rw [hlater]
    exact ⟨rfl, Deed.perform_of_terminal h⟩
  · intro h
    refine ⟨?_, fun hd => ?_, fun hd => ?_⟩
    · rw [Deed.refused_iff, h]
      simp
    · rw [Deed.step_of_refused hd, h]
      simp
    · rw [Deed.perform_of_open h] at hd ⊢
      cases ht : dataText d.data with
      | ok text => exact ⟨text, rfl, rfl⟩
      | error f => rw [ht] at hd; cases hd

/-- A step that runs and is to succeed with an integer of too many digits refuses, and has ended. -/
theorem marked_of_longOutput :
    let s := ((⟨{ id := "s" }, ⟨0⟩⟩ : Moment).run [.deed (.start .null)]).step
    let d : Deed := .succeed (.int (tenTo Numeral.digitLimit))
    s.status = .running ∧ s.completed = none ∧ (d.perform s ⟨0⟩).2.isSome ∧
      (d.perform s ⟨0⟩).1.status = .success ∧ (d.perform s ⟨0⟩).1.completed = some ⟨0⟩ ∧
      (d.perform s ⟨0⟩).1.output = none := by
  intro s d
  have hlong : d.data.Unwritable .record .longInteger :=
    unwritable_of_long (Nat.le_of_eq (Int.natAbs_natCast _).symm)
  have h := (refusal_of_run ⟨{ id := "s" }, ⟨0⟩⟩ [.deed (.start .null)] d).2 rfl
  have hd : (d.perform s ⟨0⟩).2.isSome := h.1.2 ⟨.longInteger, hlong⟩
  have hs : (d.perform s ⟨0⟩).1 = d.marked s ⟨0⟩ := h.2.1 hd
  rw [hs]
  exact ⟨rfl, rfl, hd, rfl, rfl, rfl⟩

end Moment

end Workflow.Step
