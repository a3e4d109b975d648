import Workflow.Engine
import Workflow.Flow.Schedule

/-!
# The timetable

Flows whose first scheduled trigger has a positive interval are started again and again. A job starts
one such flow each time its interval has gone by. A refresh brings the jobs in line with the flows in
the store: a job whose flow keeps its interval stays, all others are given up or made anew.
-/
namespace Workflow

/-- The starts of one flow. -/
structure TimetableJob where
  flow : String
  /-- In seconds. -/
  interval : Double
  /-- When the flow is started next. -/
  due : Double
  /-- The number of the task that waits for it. -/
  task : Nat

structure Timetable where
  /-- The seconds of each unit of an interval. -/
  units : Fields := Schedule.units
  /-- The seconds between two refreshes. -/
  refreshInterval : Double
  /-- The seconds gone by. -/
  now : Double := .zero
  jobs : List TimetableJob := []
  /-- When the next refresh takes place, if they do. -/
  refreshDue : Option Double := none
  /-- How many tasks were made, and which of them were cancelled. -/
  made : Nat := 0
  cancelled : List Nat := []

namespace Timetable

/-- The flows that are listed at once. -/
def pageSize : Nat := 100

/-- The interval of the first scheduled trigger among nodes; zero if there is none. -/
def intervalOfNodes (units : Fields) : List Node → Outcome Double
  | [] => .ok .zero
  | node :: rest =>
    match node.parsedConfig with
    | .trigger startMode schedule =>
      if startMode.text? == some StartMode.schedule.name then Schedule.interval units schedule
      else intervalOfNodes units rest
    | _ => intervalOfNodes units rest

/-- The interval of a flow in the store. -/
def intervalOf (store : Store) (units : Fields) (flow : String) : Outcome Double :=
  match store.graph? flow with
  | none => .ok .zero
  | some g => intervalOfNodes units g.triggers

/-- The flows with their positive intervals; flows that are disabled have none. -/
def positiveIntervals (store : Store) (units : Fields) : List Flow → Outcome (Shelf Double)
  | [] => .ok []
  | f :: rest => do
    let interval ← if f.status == "disabled" then pure .zero else intervalOf store units f.id
    let others ← positiveIntervals store units rest
    return if Double.zero.lt interval then (f.id, interval) :: others else others

/-- Reads the store page by page, at most `fuel` pages. -/
def scan (store : Store) (units : Fields) : Nat → Nat → Outcome (Shelf Double)
  | 0, _ => .ok []
  | fuel + 1, offset => do
    let flows ← store.flows ⟨offset, pageSize⟩ {}
    let first ← positiveIntervals store units flows
    if flows.length < pageSize then return first
    else return first ++ (← scan store units fuel (offset + pageSize))

/-- The intervals of all flows in the store that have one. -/
def intervals (store : Store) (units : Fields) : Outcome (Shelf Double) :=
  scan store units (store.flowCount / pageSize + 1) 0

def job? (t : Timetable) (flow : String) : Option TimetableJob := t.jobs.find? (·.flow == flow)

/-- A new task for a flow. -/
def newJob (t : Timetable) (flow : String) (interval : Double) : TimetableJob :=
  ⟨flow, interval, t.now.add interval, t.made⟩

/-- Gives a flow a job with an interval, unless it has one. -/
def schedule (t : Timetable) (entry : String × Double) : Timetable :=
  let (flow, interval) := entry
  match t.job? flow with
  | none => { t with jobs := t.jobs ++ [t.newJob flow interval], made := t.made + 1 }
  | some old =>
    if old.interval.beq interval then t
    else { t with
      jobs := t.jobs.map fun j => if j.flow == flow then t.newJob flow interval else j
      made := t.made + 1
      cancelled := t.cancelled ++ [old.task] }

/-- Gives up the jobs of all flows but some. -/
def keepOnly (t : Timetable) (flows : List String) : Timetable :=
  { t with
    jobs := t.jobs.filter fun j => flows.contains j.flow
    cancelled := t.cancelled ++ (t.jobs.filter fun j => !flows.contains j.flow).map (·.task) }

/-- Brings the jobs in line with intervals. -/
def reconcile (t : Timetable) (intervals : Shelf Double) : Timetable :=
  (intervals.foldl schedule t).keepOnly intervals.names

/-- Brings the jobs in line with the store. -/
def refresh (t : Timetable) (store : Store) : Outcome Timetable := do
  return t.reconcile (← intervals store t.units)

/-- Refreshes at once, and from then on after every refresh interval. -/
def start (t : Timetable) (store : Store) : Outcome Timetable := do
  let t ← t.refresh store
  return { t with refreshDue := t.refreshDue.orElse fun _ => some (t.now.add t.refreshInterval) }

/-- Gives up all jobs and refreshes. -/
def stop (t : Timetable) : Timetable :=
  { t with jobs := [], refreshDue := none, cancelled := t.cancelled ++ t.jobs.map (·.task) }

/-- Starts a flow; that it cannot be started is passed over. -/
def runFlow {σ : Type} (flow : String) (e : Engine σ) : Engine σ :=
  (Engine.run flow StartMode.schedule.name .null e).2

/-- The earlier of two times, the first if they are equal. -/
def earlier (a b : Option Double) : Option Double :=
  match a, b with
  | some a, some b => if b.lt a then some b else some a
  | some a, none => some a
  | none, b => b

/-- When the next job is due. -/
def nextDue (t : Timetable) : Option Double :=
  t.jobs.foldl (fun due j => earlier due (some j.due)) none

/-- Does the first of the jobs that are due at a time. -/
def fire {σ : Type} (due : Double) : List TimetableJob → Engine σ → List TimetableJob × Engine σ
  | [], e => ([], e)
  | j :: rest, e =>
    if j.due.le due then
      ({ j with due := j.due.add j.interval } :: rest, (runFlow j.flow e).settle)
    else
      let (rest, e) := fire due rest e
      (j :: rest, e)

/-- Lets time go by until `target`, through at most `fuel` starts and refreshes. -/
def sleepUntil {σ : Type} (target : Double) : Nat → Timetable → Engine σ → Timetable × Engine σ
  | 0, t, e => ({ t with now := target }, e)
  | fuel + 1, t, e =>
    match earlier t.nextDue t.refreshDue with
    | none => ({ t with now := target }, e)
    | some due =>
      if due.le target then
        let t := { t with now := due }
        if t.nextDue.any (·.le due) then
          let (jobs, e) := fire due t.jobs e
          sleepUntil target fuel { t with jobs } e
        else
          let t := (t.refresh e.world.store).toOption.getD t
          sleepUntil target fuel { t with refreshDue := some (due.add t.refreshInterval) } e
      else ({ t with now := target }, e)

end Timetable

end Workflow
