import Mathlib.Data.List.Basic
import Mathlib.Data.List.Induction
import Workflow.Execution

/-!
# The life of an execution

Whatever is done to an execution, in any order and with any time between, an execution that has ended
stays as it is: every deed but a start is refused and leaves it alone (`ended_of_run`). A start is never
refused, so that it opens an execution again that has ended; the time of its end stays then. Up to such a
start the time of the end is set just for an execution that has ended.
-/

namespace Workflow.Execution

/-- What can be done to an execution. -/
inductive Deed where
  | start
  | complete
  | fail (error : Option String)
  | cancel (reason : Option String)
deriving DecidableEq

namespace Deed

/-- The status that a deed is to lead to. -/
def aim : Deed → ExecutionStatus
  | start => .running
  | complete => .success
  | fail _ => .failed
  | cancel _ => .cancelled

def perform (e : Execution) (now : Instant) : Deed → Outcome Execution
  | start => .ok (e.start now)
  | complete => e.complete now
  | fail error => e.fail error now
  | cancel reason => e.cancel reason now

end Deed

inductive Event where
  | deed (d : Deed)
  /-- Time goes by, or a clock is set back. -/
  | pass (microseconds : Int)
deriving DecidableEq

/-- An execution at a point in time. -/
structure Moment where
  execution : Execution
  now : Instant

namespace Moment

variable {m : Moment} {events : List Event} {event : Event} {d : Deed}

/-- A deed that is refused leaves the execution as it is. -/
def after (m : Moment) : Event → Moment
  | .deed d => { m with execution := (d.perform m.execution m.now).toOption.getD m.execution }
  | .pass microseconds => { m with now := m.now.later microseconds }

def run (m : Moment) (events : List Event) : Moment := events.foldl after m

def HasEnded (m : Moment) : Prop := m.execution.status.isTerminal = true

/-- The time of an end is set. -/
def IsDated (m : Moment) : Prop := m.execution.completed.isSome = true

/-- Among the events is the start of an execution that has ended by then. -/
def Reopens (m : Moment) (events : List Event) : Prop :=
  ∃ before later, events = before ++ .deed .start :: later ∧ (m.run before).HasEnded

theorem run_append (m : Moment) (events more : List Event) : m.run (events ++ more) = (m.run events).run more :=
  List.foldl_append

theorem run_concat (m : Moment) (events : List Event) (event : Event) :
    m.run (events ++ [event]) = (m.run events).after event := by
  rw [run_append]
  rfl

/-! ### One event -/

theorem refuses_of_hasEnded (h : m.HasEnded) (hd : d ≠ .start) :
    d.perform m.execution m.now = .error (m.execution.alreadyEnded d.aim) := by
  have hfinish : ∀ status error, m.execution.finish status error m.now =
      .error (m.execution.alreadyEnded status) := fun _ _ => if_pos h
  cases d with
  | start => exact (hd rfl).elim
  | complete => exact hfinish _ _
  | fail error => exact hfinish _ _
  | cancel reason => exact hfinish _ _

theorem execution_after_of_hasEnded (h : m.HasEnded) (he : event ≠ .deed .start) :
    (m.after event).execution = m.execution := by
  cases event with
  | pass => rfl
  | deed d =>
    have hd : d ≠ .start := fun hd => he (congrArg Event.deed hd)
    rw [after, refuses_of_hasEnded h hd]
    rfl

/-- A deed other than a start ends what has not ended, and sets the time of the end. -/
theorem ends_of_not_hasEnded (h : ¬ m.HasEnded) (hd : d ≠ .start) :
    (m.after (.deed d)).HasEnded ∧ (m.after (.deed d)).IsDated := by
  have hfinish : ∀ status error, m.execution.finish status error m.now =
      .ok { m.execution with status, error, completed := some m.now } := fun _ _ => if_neg h
  cases d with
  | start => exact (hd rfl).elim
  | complete =>
    rw [after, Deed.perform, complete, hfinish]
    exact ⟨rfl, rfl⟩
  | fail error =>
    rw [after, Deed.perform, fail, hfinish]
    exact ⟨rfl, rfl⟩
  | cancel reason =>
    rw [after, Deed.perform, cancel, hfinish]
    exact ⟨rfl, rfl⟩

/-- The time of an end is set by an end alone, and no event takes it away. -/
theorem isDated_after (hm : m.HasEnded → m.IsDated) :
    (m.after event).IsDated ↔ (m.after event).HasEnded ∨ m.IsDated := by
  cases event with
  | pass => exact ⟨.inr, fun h => h.elim hm fun h => h⟩
  | deed d =>
    by_cases hd : d = .start
    · subst hd
      exact ⟨.inr, fun h => h.elim (fun h => by cases h) fun h => h⟩
    · by_cases h : m.HasEnded
      · have he : (m.after (.deed d)).execution = m.execution :=
          execution_after_of_hasEnded h fun he => hd (Event.deed.inj he)
        unfold IsDated HasEnded
        rw [he]
        exact ⟨.inr, fun h => h.elim hm fun h => h⟩
      · have := ends_of_not_hasEnded h hd
        exact ⟨fun _ => .inl this.1, fun _ => this.2⟩

/-- What has ended has ended after an event too, unless the event is a start. -/
theorem hasEnded_after (h : m.HasEnded) (he : event ≠ .deed .start) : (m.after event).HasEnded := by
  unfold HasEnded
  rw [execution_after_of_hasEnded h he]
  exact h

/-! ### All events -/

theorem Reopens.append (h : m.Reopens events) (more : List Event) : m.Reopens (events ++ more) := by
  obtain ⟨before, later, rfl, hended⟩ := h
  exact ⟨before, later ++ more, List.append_assoc _ _ _, hended⟩

theorem reopens_concat : m.Reopens (events ++ [event]) ↔
    m.Reopens events ∨ (event = .deed .start ∧ (m.run events).HasEnded) := by
  constructor
  · rintro ⟨before, later, h, hended⟩
    rcases List.eq_nil_or_concat' later with rfl | ⟨later, last, rfl⟩
    · obtain ⟨rfl, hlast⟩ := List.append_inj' h rfl
      exact .inr ⟨List.singleton_inj.1 hlast, hended⟩
    · rw [← List.cons_append, ← List.append_assoc] at h
      exact .inl ⟨before, later, (List.append_inj' h rfl).1, hended⟩
  · rintro (h | ⟨rfl, hended⟩)
    · exact h.append _
    · exact ⟨events, [], rfl, hended⟩

/-- The time of an end is set for what has ended and for what was opened again. -/
theorem isDated_run (hm : m.IsDated ↔ m.HasEnded) (events : List Event) :
    (m.run events).IsDated ↔ (m.run events).HasEnded ∨ m.Reopens events := by
  -- The induction is on the events from the last on, as each says something about the run before it.
  induction events using List.reverseRecOn with
  | nil =>
    refine hm.trans ⟨.inl, fun h => h.elim (fun h => h) ?_⟩
    rintro ⟨before, later, h, -⟩
    cases before <;> cases h
  | append_singleton events event ih =>
    rw [run_concat, isDated_after fun h => ih.2 (.inl h), ih, reopens_concat]
    constructor
    · rintro (h | h | h)
      · exact .inl h
      · by_cases he : event = .deed .start
        · exact .inr (.inr ⟨he, h⟩)
        · exact .inl (hasEnded_after h he)
      · exact .inr (.inl h)
    · rintro (h | h | ⟨-, h⟩)
      exacts [.inl h, .inr (.inr h), .inr (.inl h)]

theorem execution_run_of_hasEnded (h : m.HasEnded) (hevents : .deed .start ∉ events) :
    (m.run events).execution = m.execution := by
  induction events generalizing m with
  | nil => rfl
  | cons event events ih =>
    rw [List.mem_cons, not_or] at hevents
    have he : event ≠ .deed .start := Ne.symm hevents.1
    exact (ih (hasEnded_after h he) hevents.2).trans (execution_after_of_hasEnded h he)

/-- After any events on an execution whose end is dated just if it has ended: the end is dated just if the
execution has ended or was started after an end. Once it has ended, nothing changes it up to the next
start, and every deed but a start is refused; a start makes it run, and the rest of it stays. -/
theorem ended_of_run (m : Moment) (hm : m.execution.completed.isSome = m.execution.status.isTerminal)
    (events : List Event) :
    ((m.run events).execution.completed.isSome ↔
      (m.run events).execution.status.isTerminal ∨ m.Reopens events) ∧
    ((m.run events).execution.status.isTerminal →
      (∀ later, .deed .start ∉ later → ((m.run events).run later).execution = (m.run events).execution) ∧
      (∀ d : Deed, d ≠ .start → d.perform (m.run events).execution (m.run events).now =
        .error ((m.run events).execution.alreadyEnded d.aim)) ∧
      Deed.start.perform (m.run events).execution (m.run events).now =
        .ok { (m.run events).execution with status := .running, started := some (m.run events).now }) := by
  have hdated : m.IsDated ↔ m.HasEnded := by
    unfold IsDated HasEnded
    rw [hm]
  refine ⟨isDated_run hdated events, fun hended => ⟨fun later hlater => ?_, fun d hd => ?_, rfl⟩⟩
  · exact execution_run_of_hasEnded hended hlater
  · exact refuses_of_hasEnded hended hd

/-- A new execution that is started, completed and started again runs with an end in the past. -/
theorem dated_of_restart :
    let m : Moment := ⟨{ id := "e", created := ⟨0⟩ }, ⟨0⟩⟩
    let events : List Event := [.deed .start, .pass 5, .deed .complete, .deed .start]
    m.execution.completed.isSome = m.execution.status.isTerminal ∧
    (m.run events).execution.completed.isSome ∧ (m.run events).execution.status = .running :=
  ⟨rfl, (ended_of_run ⟨{ id := "e", created := ⟨0⟩ }, ⟨0⟩⟩ rfl _).1.2
    (.inr ⟨[.deed .start, .pass 5, .deed .complete], [], rfl, rfl⟩), rfl⟩

end Moment

end Workflow.Execution
