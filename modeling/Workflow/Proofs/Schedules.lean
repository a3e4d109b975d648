import Workflow.Proofs.Json
import Workflow.Proofs.Reconciliation
import Workflow.Proofs.Unwritable

/-!
# Schedules that stop a refresh

A schedule gives an interval if its unit is known and its count is a number (`Schedule.Gives`). Most others
count as zero, but no interval can be told if the unit is a container or the count is an integer that is too
large for a number (`Schedule.Faulty`). A refresh has no guard for a single flow, so one such flow
that is not disabled stops it for all others (`refresh_of_schedules`).
-/

namespace Workflow

theorem Double.lt_mul_zero (d : Double) : Double.zero.lt (d.mul Double.zero) = false := by
  cases d with
  | nan => rfl
  | number s a h =>
    have hzero : Double.zero = number false 0 (Nat.zero_le _) := rfl
    have hratio : (ratioOf 0).1 = 0 := by decide +kernel
    have hround : ∀ t den, ofRatio t 0 den = ofRank t 0 := fun t den => by rw [ofRatio, rankOfRatio, if_pos rfl]
    rw [hzero, mul]
    split
    next => rw [if_pos (by simp)]; rfl
    next =>
      rcases ratioOf a with ⟨n, e⟩
      rcases hq : ratioOf 0 with ⟨n', e'⟩
      obtain rfl : n' = 0 := by rwa [hq] at hratio
      simp only [Nat.mul_zero, hround]
      cases s <;> rfl
namespace Schedule

variable {units fields : Fields} {d : Double} {f : Failure}

/-- Why no interval can be told by a schedule. -/
inductive Faulty (fields : Fields) : Failure → Prop where
  | unit (h : ((Value.object fields).field "intervalUnit").isScalar = false) :
      Faulty fields (.unhashable ((Value.object fields).field "intervalUnit"))
  | count {i : Int} (hu : ((Value.object fields).field "intervalUnit").isScalar = true)
      (hi : (Value.object fields).field "intervalValue" = .int i) (h : Double.ofInt? i = none) :
      Faulty fields .integerOverflow

/-- A schedule has a positive interval: a number of known units. -/
inductive Gives (units fields : Fields) : Double → Prop where
  | intro {unit : String} {length count : Double}
      (hu : (Value.object fields).field "intervalUnit" = .text unit)
      (hl : Fields.get? unit units = some (.float length))
      (hc : (((Value.object fields).field "intervalValue").orElse (.int 0)).asDouble? = .ok (some count))
      (hpos : Double.zero.lt (count.mul length) = true) : Gives units fields (count.mul length)

theorem unitLength_text (units : Fields) (name : String) : unitLength units (.text name) = do
    return (← ((Fields.get? name units).getD (.float .zero)).asDouble?).getD .zero := rfl

theorem unitLength_error (units : Fields) {v : Value} (hv : v.isScalar = false) :
    unitLength units v = .error (.unhashable v) := by
  simp only [unitLength, hv, Bool.not_false, if_true]

/-- The length of a unit that is no container: that of a known unit, or zero. -/
theorem unitLength_ok (hu : ∀ p ∈ units, ∃ d, p.2 = .float d) {v : Value} (hv : v.isScalar = true) :
    ∃ length, unitLength units v = .ok length ∧
      ((∃ name, v = .text name ∧ Fields.get? name units = some (.float length)) ∨ length = .zero) := by
  cases v with
  | text name =>
    rw [unitLength_text]
    cases hl : Fields.get? name units with
    | none => exact ⟨.zero, rfl, .inr rfl⟩
    | some w =>
      obtain ⟨d, hd⟩ : ∃ d, w = .float d := hu _ (Value.get?_mem hl)
      rw [hd] at hl ⊢
      exact ⟨d, rfl, .inl ⟨name, rfl, hl⟩⟩
  | _ => exact ⟨.zero, by simp only [unitLength, hv]; rfl, .inr rfl⟩

theorem interval_cons (units : Fields) (p : Key × Value) (rest : Fields) :
    interval units (some (p :: rest)) = do
      let length ← unitLength units ((Value.object (p :: rest)).field "intervalUnit")
      match ← (((Value.object (p :: rest)).field "intervalValue").orElse (.int 0)).asDouble? with
      | none => return .zero
      | some count => return if Double.zero.lt (count.mul length) then count.mul length else .zero := rfl

theorem not_faulty_nil : ¬ Faulty [] f := fun h => by
  cases h with
  | unit h => exact absurd h (by decide)
  | count _ hi _ => cases hi

theorem not_gives_nil : ¬ Gives units [] d := fun h => by
  cases h with
  | intro hu _ _ _ => cases hu

/-- Why no interval can be told. -/
theorem interval_error_iff (hu : ∀ p ∈ units, ∃ d, p.2 = .float d) :
    interval units (some fields) = .error f ↔ Faulty fields f := by
  cases fields with
  | nil => exact ⟨nofun, fun h => absurd h not_faulty_nil⟩
  | cons p rest =>
    rw [interval_cons]
    generalize p :: rest = fields
    cases hs : ((Value.object fields).field "intervalUnit").isScalar with
    | false =>
      rw [unitLength_error units hs]
      constructor
      · intro h
        obtain rfl := Except.error.inj h
        exact .unit hs
      · rintro (_ | ⟨hs', -, -⟩)
        · rfl
        · cases hs.symm.trans hs'
    | true =>
      obtain ⟨length, hl, -⟩ := unitLength_ok hu hs
      rw [hl]
      have hcount : (((Value.object fields).field "intervalValue").orElse (.int 0)).asDouble? = .error f ↔
          Faulty fields f := by
        rw [Value.asDouble?_orElse_error_iff]
        constructor
        · rintro ⟨i, hi, ho, rfl⟩
          exact .count hs hi ho
        · rintro (hs' | ⟨-, hi, ho⟩)
          · cases hs.symm.trans hs'
          · exact ⟨_, hi, ho, rfl⟩
      rw [← hcount]
      cases (((Value.object fields).field "intervalValue").orElse (.int 0)).asDouble? with
      | error e =>
        constructor <;> intro h <;> obtain rfl := Except.error.inj h <;> rfl
      | ok count => cases count <;> exact ⟨nofun, nofun⟩

/-- The schedules that have a positive interval. -/
theorem interval_ok_iff (hu : ∀ p ∈ units, ∃ d, p.2 = .float d) :
    interval units (some fields) = .ok d ∧ Double.zero.lt d = true ↔ Gives units fields d := by
  have hzero : Double.zero.lt Double.zero = false := rfl
  cases fields with
  | nil =>
    refine ⟨fun ⟨h, hpos⟩ => ?_, fun h => absurd h not_gives_nil⟩
    cases h
    cases hzero.symm.trans hpos
  | cons p rest =>
    rw [interval_cons]
    generalize p :: rest = fields
    constructor
    · rintro ⟨h, hpos⟩
      obtain ⟨length, hl, h⟩ := Outcome.bind_eq_ok.1 h
      obtain ⟨count?, hc, h⟩ := Outcome.bind_eq_ok.1 h
      cases count? with
      | none =>
        cases h
        cases hzero.symm.trans hpos
      | some count =>
        replace h : Except.ok (if Double.zero.lt (count.mul length) then count.mul length else .zero) =
          Except.ok d := h
        have hd : d = count.mul length ∧ Double.zero.lt (count.mul length) = true := by
          by_cases hp : Double.zero.lt (count.mul length) = true
          · rw [if_pos hp] at h
            exact ⟨(Except.ok.inj h).symm, hp⟩
          · rw [if_neg hp] at h
            cases h
            cases hzero.symm.trans hpos
        obtain ⟨rfl, hpos⟩ := hd
        cases hs : ((Value.object fields).field "intervalUnit").isScalar with
        | false =>
          rw [unitLength_error units hs] at hl
          cases hl
        | true =>
          obtain ⟨length', hl', hknown⟩ := unitLength_ok hu hs
          obtain rfl := Except.ok.inj (hl.symm.trans hl')
          rcases hknown with ⟨name, hname, hget⟩ | rfl
          · exact .intro hname hget hc hpos
          · cases (Double.lt_mul_zero count).symm.trans hpos
    · rintro ⟨hunit, hl, hc, hpos⟩
      refine ⟨?_, hpos⟩
      rw [hc, hunit]
      simp only [unitLength, hl]
      show Except.ok _ = Except.ok _
      rw [Option.getD_some, if_pos hpos]

end Schedule

/-! ### The schedule of a flow -/

/-- The schedule of a trigger that is started by the clock. -/
def Node.schedule? (n : Node) : Option Fields :=
  match n.parsedConfig with
  | .trigger startMode schedule =>
    if startMode.text? == some StartMode.schedule.name then some (schedule.getD []) else none
  | _ => none

/-- The schedule of the first such trigger; it is empty if there is none. -/
def FlowGraph.schedule (g : FlowGraph) : Fields := (g.triggers.findSome? Node.schedule?).getD []

namespace Timetable

variable {t t' : Timetable} {s : Store} {units : Fields} {x : String} {d : Double} {f : Failure}

theorem intervalOfNodes_eq (units : Fields) (l : List Node) :
    intervalOfNodes units l = Schedule.interval units (some ((l.findSome? Node.schedule?).getD [])) := by
  have hnone : Schedule.interval units none = Schedule.interval units (some []) := rfl
  induction l with
  | nil => rfl
  | cons n l ih =>
    rw [intervalOfNodes, List.findSome?_cons, Node.schedule?]
    cases n.parsedConfig with
    | trigger startMode schedule =>
      simp only
      cases startMode.text? == some StartMode.schedule.name with
      | true => cases schedule <;> rfl
      | false => exact ih
    | _ => exact ih

theorem intervalOf_eq {g : FlowGraph} (hg : s.graph? x = some g) :
    intervalOf s units x = Schedule.interval units (some g.schedule) := by
  rw [intervalOf, hg]
  exact intervalOfNodes_eq units g.triggers

theorem intervalOf_error_iff (hu : ∀ p ∈ units, ∃ d, p.2 = .float d) :
    intervalOf s units x = .error f ↔ ∃ g, s.graph? x = some g ∧ Schedule.Faulty g.schedule f := by
  cases hg : s.graph? x with
  | none =>
    rw [intervalOf, hg]
    exact ⟨nofun, fun ⟨_, h, _⟩ => nomatch h⟩
  | some g =>
    rw [intervalOf_eq hg, Schedule.interval_error_iff hu]
    simp

theorem wants_iff (hu : ∀ p ∈ units, ∃ d, p.2 = .float d) {flow : Flow} :
    Wants s units flow d ↔ flow.status ≠ "disabled" ∧
      ∃ g, s.graph? flow.id = some g ∧ Schedule.Gives units g.schedule d := by
  have hgives : intervalOf s units flow.id = .ok d ∧ Double.zero.lt d = true ↔
      ∃ g, s.graph? flow.id = some g ∧ Schedule.Gives units g.schedule d := by
    cases hg : s.graph? flow.id with
    | none =>
      rw [intervalOf, hg]
      refine ⟨fun ⟨h, hpos⟩ => ?_, fun ⟨_, h, _⟩ => nomatch h⟩
      cases h
      cases hpos
    | some g =>
      rw [intervalOf_eq hg, Schedule.interval_ok_iff hu]
      simp
  rw [← hgives]
  exact ⟨fun h => ⟨h.enabled, h.interval, h.positive⟩, fun ⟨h₁, h₂, h₃⟩ => ⟨h₁, h₂, h₃⟩⟩

/-- A refresh fails just if a page of the flows cannot be listed or the schedule of some flow that is not
disabled is faulty, whatever the others are. If it succeeds, the flows with a job are those whose schedule gives an
interval, each with this interval. -/
theorem refresh_of_schedules (hu : ∀ p ∈ t.units, ∃ d, p.2 = .float d) :
    ((∃ f, t.refresh s = .error f) ↔
      ¬ s.Lists ∨ ∃ flow ∈ s.allFlows, flow.status ≠ "disabled" ∧
        ∃ f g, s.graph? flow.id = some g ∧ Schedule.Faulty g.schedule f) ∧
    ∀ t', t.refresh s = .ok t' → ∀ x d,
      (t'.job? x).map TimetableJob.interval = some d ↔
        ∃ flow ∈ s.allFlows, flow.id = x ∧ flow.status ≠ "disabled" ∧
          ∃ g, s.graph? flow.id = some g ∧ Schedule.Gives t.units g.schedule d := by
  constructor
  · rw [refresh_error_iff, intervals_error_iff]
    simp only [intervalOf_error_iff hu]
  · intro t' hr x d
    rw [(job?_refresh hr x).1, interval?_eq_some]
    simp only [wants_iff hu]

/-- A store that keeps a flow with a container for a unit beside one that starts every minute. -/
def storeBeside (status : String) : Store where
  records := .memory { graphs := [("odd", every 1 (.list [.text "minutes"]) "odd" status),
    ("good", every 1 (.text "minutes") "good")] }

/-- A flow that has a container for a unit stops the refresh, unless it is disabled. -/
theorem refresh_of_oddUnit :
    (∃ f, ({ refreshInterval := .zero } : Timetable).refresh (storeBeside "active") = .error f) ∧
    ∃ t', ({ refreshInterval := .zero } : Timetable).refresh (storeBeside "disabled") = .ok t' ∧
      (t'.job? "good").map TimetableJob.interval = some ((Double.roundInt 1).mul (.roundInt 60)) := by
  have hu : ∀ p ∈ Schedule.units, ∃ d, p.2 = .float d := by
    intro p hp
    rcases List.mem_cons.1 hp with rfl | hp
    · exact ⟨_, rfl⟩
    · rcases List.mem_cons.1 hp with rfl | hp
      · exact ⟨_, rfl⟩
      · exact ⟨_, congrArg Prod.snd (List.mem_singleton.1 hp)⟩
  obtain ⟨hfails, -⟩ := refresh_of_schedules (t := { refreshInterval := .zero }) (s := storeBeside "active") hu
  obtain ⟨-, hjobs⟩ := refresh_of_schedules (t := { refreshInterval := .zero }) (s := storeBeside "disabled") hu
  refine ⟨hfails.2 (.inr ⟨_, .head _, by decide, _, _, rfl, .unit rfl⟩), ?_⟩
  have hok : (({ refreshInterval := .zero } : Timetable).refresh (storeBeside "disabled")).toOption.isSome =
      true := by decide +kernel
  cases hr : ({ refreshInterval := .zero } : Timetable).refresh (storeBeside "disabled") with
  | error f => rw [hr] at hok; cases hok
  | ok t' =>
    refine ⟨t', rfl, (hjobs t' hr "good" _).2 ⟨_, .tail _ (.head _), rfl, by decide, _, rfl, ?_⟩⟩
    exact .intro rfl rfl rfl (by decide +kernel)

end Timetable

end Workflow
