import Workflow.Proofs.Outcomes

/-!
# What a run records by itself

If the results of actions depend on their parameters alone (`Registry.Steady`), then the steps of a run
and how it ends are told by its flow, the data of its trigger and the gates that are open: `recount` goes
over the nodes and gives the account of them, without an engine. At every stage of a run the steps so far
and the account of the nodes that are left make up the account of the whole (`Run.Recounted`), unless the
run is disturbed: it is asked to stop, cancelled from without, or refused a write. Every step that is taken
keeps this (`Run.Move.recounted`).
-/

namespace Workflow

variable {σ : Type}

/-! ### Actions whose results depend on their parameters -/

/-- What an executor replies, and whether it asks all executions to stop, depends on the parameters alone. -/
def Executor.Steady (e : Executor σ) : Prop :=
  ∀ params s s', (e.perform params s).1.reply = (e.perform params s').1.reply ∧
    (e.perform params s).1.cancels = (e.perform params s').1.cancels

def Registry.Steady (actions : Registry σ) : Prop := ∀ p ∈ actions.executors, p.2.Steady

theorem Registry.Steady.perform {actions : Registry σ} (h : actions.Steady) (type : Option String)
    (params : Fields) (s s' : σ) :
    (actions.perform type params s).1.reply = (actions.perform type params s').1.reply ∧
      (actions.perform type params s).1.cancels = (actions.perform type params s').1.cancels := by
  unfold Registry.perform
  split
  next => exact ⟨rfl, rfl⟩
  next e he =>
    obtain ⟨name, -, hget⟩ := Option.bind_eq_some_iff.1 he
    obtain ⟨l₁, l₂, hl, -⟩ := List.lookup_eq_some_iff.1 hget
    obtain ⟨hreply, hcancels⟩ := h (name, e) (by simp [hl]) params s s'
    rcases hs : e.perform params s with ⟨p, t⟩
    rcases hs' : e.perform params s' with ⟨p', t'⟩
    simp only [hs, hs'] at hreply hcancels
    simp only [hreply]
    cases p'.reply with
    | failure f => by_cases hf : f.kind = .cancelled <;> simp [hf, hreply, hcancels]
    | _ => simp [hreply, hcancels]

/-! ### The account of a run -/

/-- What a step tells of its node, but for when it was taken and its ids. -/
structure Line where
  node : String
  status : StepStatus
  input : Option String := none
  output : Option String := none
  error : Option String := none
deriving DecidableEq

def Step.line (s : Step) : Line := ⟨s.node, s.status, s.input, s.output, s.error⟩

namespace Line

def running (n : Node) : Line := { node := n.id, status := .running }

def skipped (n : Node) : Line := { node := n.id, status := .skipped }

/-- The line of a node that was executed. -/
def closed (n : Node) (o : NodeOutcome) : Outcome Line := do
  let input ← Step.dataText o.input
  let output ← Step.dataText o.output
  return ⟨n.id, if o.error.isSome then .error else .success, input, output, o.error⟩

end Line

/-- The steps of a run, how its walk ends unless it waits, and whether one of its actions asks all
executions to stop. -/
structure Account where
  lines : List Line := []
  result : Option (Outcome Run.Progress)
  asks : Bool := false

namespace Account

def ofEnd (result : Outcome Run.Progress) : Account := { result := some result }

/-- An account that goes on from steps before. -/
def after (lines : List Line) (a : Account) : Account := { a with lines := lines ++ a.lines }

def asking (b : Bool) (a : Account) : Account := { a with asks := b || a.asks }

variable {a b : Account} {l m : List Line} {asked : Prop}

@[simp] theorem after_after : (a.after m).after l = a.after (l ++ m) := by
  simp [after]

@[simp] theorem asking_false : a.asking false = a := by
  simp [asking]

/-- An account is another one, but that executions may have been asked to stop before. -/
def Upto (asked : Prop) (a b : Account) : Prop := ∃ before : Bool, (before → asked) ∧ a = b.asking before

theorem Upto.refl (asked : Prop) (a : Account) : a.Upto asked a := ⟨false, by simp, by simp⟩

theorem Upto.asking {before : Bool} (h : a.Upto asked (b.asking before)) (hb : before → asked) :
    a.Upto asked b := by
  obtain ⟨earlier, he, rfl⟩ := h
  refine ⟨earlier || before, fun h => (Bool.or_eq_true _ _ ▸ h).elim he hb, ?_⟩
  simp [Account.asking, Bool.or_assoc]

theorem Upto.told (h : a.Upto asked b) : a.lines = b.lines ∧ a.result = b.result := by
  obtain ⟨_, -, rfl⟩ := h
  exact ⟨rfl, rfl⟩

theorem Upto.ended {result : Outcome Run.Progress} (h : a.Upto asked ((ofEnd result).after l)) :
    a.lines = l ∧ a.result = some result := by
  obtain ⟨hlines, hresult⟩ := h.told
  exact ⟨by simpa [after, ofEnd] using hlines, hresult⟩

/-- Without a request to stop before, it is the same account. -/
theorem Upto.eq (h : a.Upto asked b) (hno : ¬ asked) : a = b := by
  obtain ⟨before, hb, rfl⟩ := h
  rw [Bool.eq_false_iff.2 (mt hb hno), asking_false]

/-- An account is of steps and of the end of a walk, unless that has ended otherwise. -/
def Tells (otherwise : Outcome Run.Progress → Prop) (a : Account) (steps : List Step)
    (result : Outcome Run.Progress) : Prop :=
  otherwise result ∨ a.Upto (otherwise (.ok .stopped)) ((ofEnd result).after (steps.map Step.line))

/-- The status and the error of an execution with an account. -/
def verdict (a : Account) : ExecutionStatus × Option String :=
  match a.result with
  | some result => Run.verdict result
  | none => (.running, none)

end Account

namespace Run

/-- The attempt at a node, and whether it asks all executions to stop. -/
def attempted (actions : Registry σ) (s : σ) (c : RunContext) (n : Node) : Attempt × Bool :=
  match n.parsedConfig with
  | .trigger _ _ => (.done (.ok (triggered c)), false)
  | .action type params =>
    match Template.renderFields c.root (params.getD []) with
    | .ok params =>
      let p := (actions.perform type params s).1
      (.ofReply params p.reply, p.cancels)
    | .error f => (.done (.ok { error := some (f.describe "") }), false)
  | .condition raw => (.done (.ok (decided raw c)), false)
  | .other _ => (.done (.ok {}), false)

/-- The account from the outcome of a node on. -/
def concluded (n : Node) (next : NodeOutcome → Account) : Outcome NodeOutcome → Account
  | .error f => { lines := [.running n], result := some (.error f) }
  | .ok o =>
    match Line.closed n o with
    | .error f => { lines := [.running n], result := some (.error f) }
    | .ok line =>
      match o.error with
      | some message => { lines := [line], result := some (.error (nodeFailure n message)) }
      | none => (next o).after [line]

/-- The account from an attempt on, which may wait. -/
def awaited (w : World σ) (n : Node) (next : NodeOutcome → Account) (a : Attempt) : Account :=
  match a.outcome? w with
  | some o => concluded n next o
  | none => { lines := [.running n], result := none }

/-- The account of nodes, from a context and the places of the edges that are followed. -/
def recount (actions : Registry σ) (w : World σ) (g : FlowGraph) :
    List Node → RunContext → List Nat → Account
  | [], _, _ => .ofEnd (.ok .completed)
  | n :: rest, c, followed =>
    match reached g followed n with
    | .error f => .ofEnd (.error f)
    | .ok false => (recount actions w g rest c followed).after [.skipped n]
    | .ok true =>
      let next := fun o : NodeOutcome =>
        match followedFrom g n.id o.branch with
        | .error f => .ofEnd (.error f)
        | .ok more => recount actions w g rest (c.record n.id o.output) (followed ++ more)
      let a := attempted actions w.surroundings c n
      (awaited w n next a.1).asking a.2

/-- The account of a whole run. -/
def account (actions : Registry σ) (w : World σ) (g : FlowGraph) (c : RunContext) : Account :=
  match g.order with
  | .error f => .ofEnd (.error f)
  | .ok l => recount actions w g l c []

/-- The account behind a node that has succeeded. -/
def onward (actions : Registry σ) (w : World σ) (r : Run) (n : Node) (rest : List Node)
    (o : NodeOutcome) : Account :=
  match followedFrom r.graph n.id o.branch with
  | .error f => .ofEnd (.error f)
  | .ok more => recount actions w r.graph rest (r.context.record n.id o.output) (r.followed ++ more)

/-- The account from a node that is executed on. -/
def atNode (actions : Registry σ) (w : World σ) (r : Run) (n : Node) (rest : List Node) : Account :=
  (awaited w n (onward actions w r n rest) (attempted actions w.surroundings r.context n).1).asking
    (attempted actions w.surroundings r.context n).2

variable {actions : Registry σ} {w w' : World σ} {r r' : Run} {n : Node} {rest : List Node}
  {A : Account} {h : History} {eff : Effect} {evs : List Event} {v : Visit} {q : Sequel}

theorem recount_cons (actions : Registry σ) (w : World σ) (r : Run) (n : Node) (rest : List Node) :
    recount actions w r.graph (n :: rest) r.context r.followed =
      match r.isReached n with
      | .error f => .ofEnd (.error f)
      | .ok false => (recount actions w r.graph rest r.context r.followed).after [.skipped n]
      | .ok true => atNode actions w r n rest := rfl

/-! ### Attempts -/

theorem attempted_steady (hs : actions.Steady) (s s' : σ) (c : RunContext) (n : Node) :
    attempted actions s c n = attempted actions s' c n := by
  unfold attempted
  split
  next => rfl
  next type params hc =>
    split
    next params _ =>
      obtain ⟨hreply, hcancels⟩ := hs.perform type params s s'
      simp only [hreply, hcancels]
    next => rfl
  next => rfl
  next => rfl

theorem attempt_eq (actions : Registry σ) (r : Run) (n : Node) (w : World σ) :
    ∃ w', r.attempt actions n w = (.ok (attempted actions w.surroundings r.context n).1, w') ∧
      w'.stopping = if (attempted actions w.surroundings r.context n).2 then w.stopping ++ w.running
        else w.stopping := by
  cases hc : n.parsedConfig with
  | trigger _ _ => exact ⟨w, by simp only [attempt, attempted, hc]; rfl, by simp [attempted, hc]⟩
  | action type params =>
    cases hp : Template.renderFields r.context.root (params.getD []) with
    | error f => exact ⟨w, by simp only [attempt, attempted, hc, hp]; rfl, by simp [attempted, hc, hp]⟩
    | ok params =>
      refine ⟨(perform actions type params w).2, by simp only [attempt, attempted, hc, hp]; rfl, ?_⟩
      simp only [attempted, hc, hp, perform]
      split <;> rfl
  | condition _ => exact ⟨w, by simp only [attempt, attempted, hc]; rfl, by simp [attempted, hc]⟩
  | other _ => exact ⟨w, by simp only [attempt, attempted, hc]; rfl, by simp [attempted, hc]⟩

theorem attempt_steady (hs : actions.Steady) {a : Attempt} (ha : (r.attempt actions n w).1 = .ok a)
    (s : σ) : a = (attempted actions s r.context n).1 := by
  obtain ⟨w', heq, -⟩ := attempt_eq actions r n w
  rw [heq] at ha
  rw [← Except.ok.inj ha, attempted_steady hs w.surroundings s]

theorem outcome?_unique {a : Attempt} {o o' : Outcome NodeOutcome} (h : a.outcome? w = some o)
    (h' : a.outcome? w' = some o') : o = o' := by
  cases a with
  | done o => cases h; cases h'; rfl
  | held gate params result =>
    simp only [Attempt.outcome?] at h h'
    split at h <;> cases h
    split at h' <;> cases h'
    rfl

/-! ### At every stage -/

variable {otherwise : Outcome Progress → Prop}

/-- The account from a step in hand on, once it is recorded. -/
def Sequel.Leads (actions : Registry σ) (w : World σ) (asked : Prop) (A : Account) (r : Run)
    (lines : List Line) (v : Visit) : Sequel → Prop
  | .execute => v.step.line = .running v.node ∧
    A.Upto asked ((atNode actions w r v.node v.rest).after lines)
  | .pass =>
    A.Upto asked ((recount actions w r.graph v.rest r.context r.followed).after (lines ++ [v.step.line]))
  | .follow o => A.Upto asked ((onward actions w r v.node v.rest o).after (lines ++ [v.step.line]))
  | .stop f => A.Upto asked ((Account.ofEnd (.error f)).after (lines ++ [v.step.line]))

theorem Sequel.leads_moveTo {asked : Prop} {lines : List Line} {s : Stage} :
    q.Leads actions w asked A (r.moveTo s) lines v ↔ q.Leads actions w asked A r lines v := by
  cases q <;> rfl

/-- The steps so far and the account of what is left make up an account, at a stage before the end. -/
def Stage.Recounts (actions : Registry σ) (w : World σ) (asked : Prop) (A : Account) (r : Run)
    (steps : List Step) : Stage → Prop
  | .fresh => steps = [] ∧ r.followed = [] ∧ A.Upto asked (account actions w r.graph r.context)
  | .before rest =>
    A.Upto asked ((recount actions w r.graph rest r.context r.followed).after (steps.map Step.line))
  | .recording v q =>
    q.Leads actions w asked A r ((if q.isNew then steps else steps.dropLast).map Step.line) v
  | .announcing v q => q.Leads actions w asked A r (steps.dropLast.map Step.line) v
  | .executing v => v.step.line = .running v.node ∧
    A.Upto asked ((atNode actions w r v.node v.rest).after (steps.dropLast.map Step.line))
  | .performed v a => v.step.line = .running v.node ∧
    A.Upto asked ((awaited w v.node (onward actions w r v.node v.rest) a).after
      (steps.dropLast.map Step.line))
  | _ => True

theorem Stage.recounts_of_isClosing {asked : Prop} {stage : Stage} {steps : List Step}
    (h : stage.isClosing = true) : stage.Recounts actions w asked A r steps := by
  cases stage <;> trivial

/-- A run goes by an account, unless its walk ends otherwise. -/
structure Recounted (actions : Registry σ) (w : World σ) (otherwise : Outcome Progress → Prop)
    (A : Account) (r : Run) (h : History) : Prop where
  stage : r.stage.Recounts actions w (otherwise (.ok .stopped)) A r h.steps
  ends : r.stage.Ends (A.Tells otherwise h.steps) r.execution h

/-- The line of a step in progress after its node was executed; what fails is that its data cannot be
written. -/
theorem line_of_closed {s : Step} {o : NodeOutcome} {now : Instant} (hl : s.line = .running n) :
    Line.closed n o = (closed s o now).map Step.line := by
  simp only [Step.line, Line.running, Line.mk.injEq] at hl
  obtain ⟨hnode, hstatus, hinput, -, herror⟩ := hl
  have hs : s.status.isTerminal = false := by rw [hstatus]; rfl
  cases hi : Step.dataText o.input with
  | error f => simp only [Line.closed, closed, hi, bind, Except.bind, Except.map]
  | ok input =>
    rw [closed_eq hs hi, Step.withOutput]
    cases ht : Step.dataText o.output with
    | error f => simp only [Line.closed, hi, ht, bind, Except.bind, changed, Except.map]
    | ok text =>
      simp only [Line.closed, hi, ht, bind, Except.bind, changed, Except.map, Step.line, hnode, hinput,
        herror, Option.or_none]
      rfl

theorem concluded_of_ok {now : Instant} {o : NodeOutcome} {s : Step} (hl : v.step.line = .running v.node)
    (hc : closed v.step o now = .ok s) (next : NodeOutcome → Account) :
    concluded v.node next (.ok o) =
      match o.error with
      | some message => { lines := [s.line], result := some (.error (nodeFailure v.node message)) }
      | none => (next o).after [s.line] := by
  have hline : Line.closed v.node o = (closed v.step o now).map Step.line := line_of_closed hl
  rw [hc] at hline
  simp only [concluded, hline, Except.map]

theorem concluded_of_error {now : Instant} {o : Outcome NodeOutcome} {f : Failure}
    (hl : v.step.line = .running v.node) (hc : r.conclude v now o = .error f)
    (next : NodeOutcome → Account) :
    concluded v.node next o = { lines := [.running v.node], result := some (.error f) } := by
  unfold conclude at hc
  cases o with
  | error g => cases hc; rfl
  | ok o =>
    have hline : Line.closed v.node o = (closed v.step o now).map Step.line := line_of_closed hl
    cases hs : closed v.step o now with
    | error g =>
      rw [hs] at hline
      simp only [bind, Except.bind, hs] at hc
      cases hc
      simp only [concluded, hline, Except.map]
    | ok s => simp only [bind, Except.bind, hs] at hc; cases hc

variable {pre : List Step} {asked : Prop}

theorem proceed_recounted (hq : q.Leads actions w (otherwise (.ok .stopped)) A r (pre.map Step.line) v)
    (hsteps : h.steps = pre ++ [v.step]) :
    Recounted actions w otherwise A (r.orEnding (r.proceed v q)) h := by
  have hlines : pre.map Step.line ++ [v.step.line] = h.steps.map Step.line := by simp [hsteps]
  have hlast : h.steps.dropLast = pre := by simp [hsteps]
  cases q with
  | execute => exact ⟨⟨hq.1, hlast ▸ hq.2⟩, trivial⟩
  | pass =>
    have hq : A.Upto _ ((recount actions w r.graph v.rest r.context r.followed).after
        (pre.map Step.line ++ [v.step.line])) := hq
    rw [hlines] at hq
    exact ⟨hq, trivial⟩
  | follow o =>
    have hq : A.Upto _ ((onward actions w r v.node v.rest o).after
        (pre.map Step.line ++ [v.step.line])) := hq
    rw [hlines, onward] at hq
    cases hf : followedFrom r.graph v.node.id o.branch with
    | error f =>
      rw [hf] at hq
      simp only [proceed, hf, bind, Except.bind, orEnding]
      exact ⟨trivial, .inr hq⟩
    | ok more =>
      rw [hf] at hq
      simp only [proceed, hf, bind, Except.bind, orEnding]
      exact ⟨hq, trivial⟩
  | stop f =>
    have hq : A.Upto _ ((Account.ofEnd (.error f)).after (pre.map Step.line ++ [v.step.line])) := hq
    rw [hlines] at hq
    exact ⟨trivial, .inr hq⟩

theorem conclude_recounted {now : Instant} {o : Outcome NodeOutcome} (hl : v.step.line = .running v.node)
    (hsteps : h.steps = pre ++ [v.step])
    (hA : A.Upto (otherwise (.ok .stopped))
      ((concluded v.node (onward actions w r v.node v.rest) o).after (pre.map Step.line))) :
    Recounted actions w otherwise A (r.orEnding (r.conclude v now o)) h := by
  rcases orEnding_cases r (r.conclude v now o) with ⟨f, hr, hr'⟩ | ⟨r', hr, hr'⟩ <;> rw [hr']
  · rw [concluded_of_error hl hr] at hA
    refine ⟨trivial, .inr ?_⟩
    rw [hsteps, List.map_append, List.map_singleton, hl]
    simpa [Account.after, Account.ofEnd] using hA
  · obtain ⟨no, s, rfl, hc, rfl⟩ := closed_of_conclude hr
    rw [concluded_of_ok hl hc] at hA
    have hlast : h.steps.dropLast = pre := by simp [hsteps]
    refine ⟨?_, trivial⟩
    cases he : no.error with
    | some message =>
      rw [he] at hA
      simp only [stage_moveTo, sequelOf, he, Stage.Recounts, Sequel.isNew, hlast, Sequel.Leads]
      simpa [Account.after, Account.ofEnd] using hA
    | none =>
      rw [he, Account.after_after] at hA
      simp only [stage_moveTo, sequelOf, he, Stage.Recounts, Sequel.isNew, hlast, Sequel.Leads]
      exact hA

/-- A step of a run keeps its account, as long as the gates are open that it needs to go on; when the run
is disturbed, its walk may end otherwise. -/
theorem Move.recounted (hs : actions.Steady) (hm : Move actions r eff evs r') (hc : Consistent r h)
    (hr : Reported r h) (hal : Along r h) (hA : Recounted actions w otherwise A r h)
    (hint : .interrupted ∈ evs → ∀ message, otherwise (.error ⟨.cancelled, message⟩))
    (href : .refused ∈ evs → ∀ f, otherwise (.error f))
    (hstop : .interrupted ∉ evs → ∀ l, r.stage = .before l → r'.stage = .ending (.ok .stopped) →
      otherwise (.ok .stopped))
    (hasks : .interrupted ∉ evs → ∀ v, r.stage = .executing v →
      (attempted actions w.surroundings r.context v.node).2 = true → otherwise (.ok .stopped))
    (hopen : .interrupted ∉ evs → ∀ v a, r.stage = .performed v a → (a.outcome? w).isSome) :
    Recounted actions w otherwise A r' (h.after evs eff) := by
  have hal := hal.stage
  have hst := hA.stage
  by_cases hcl : r.stage.isClosing = true
  · -- the walk is over: no step is added, and the end that is kept is the one it had
    obtain ⟨hcl', hsteps, he⟩ := hm.ends hc hr hcl hA.ends
    exact ⟨Stage.recounts_of_isClosing hcl', by rw [hsteps]; exact he⟩
  cases hm with
  | order hs ho =>
    rw [hs] at hst
    obtain ⟨hsteps, hfollowed, hst⟩ := hst
    rw [account, ho] at hst
    refine ⟨?_, trivial⟩
    show A.Upto _ ((recount actions w r.graph _ r.context r.followed).after (h.steps.map Step.line))
    rw [hsteps, hfollowed]
    exact hst
  | disorder hs ho =>
    rw [hs] at hst
    obtain ⟨hsteps, -, hst⟩ := hst
    rw [account, ho] at hst
    refine ⟨trivial, .inr ?_⟩
    show A.Upto _ ((Account.ofEnd (.error _)).after (h.steps.map Step.line))
    rw [hsteps]
    exact hst
  | complete hs => rw [hs] at hst; exact ⟨trivial, .inr hst⟩
  | stop hs => exact ⟨trivial, .inl (hstop (by simp) _ hs rfl)⟩
  | unclear hs hr =>
    rw [hs] at hst
    have hst : A.Upto _ _ := hst
    rw [recount_cons, hr] at hst
    exact ⟨trivial, .inr hst⟩
  | enter id now hs hr =>
    rw [hs] at hst
    have hst : A.Upto _ _ := hst
    rw [recount_cons, hr] at hst
    exact ⟨⟨rfl, hst⟩, trivial⟩
  | skip id now hs hr =>
    rw [hs] at hst
    have hst : A.Upto _ _ := hst
    rw [recount_cons, hr, Account.after_after] at hst
    exact ⟨hst, trivial⟩
  | @record v q hs =>
    rw [hs] at hst hal
    obtain ⟨-, hal⟩ := hal
    refine ⟨?_, trivial⟩
    simp only [Stage.Recounts] at hst
    simp only [stage_moveTo, Stage.Recounts, Sequel.leads_moveTo]
    unfold Sequel.effect
    split at hal
    next hnew =>
      rw [if_pos hnew] at hst ⊢
      simpa [History.after] using hst
    next hnew =>
      rw [if_neg hnew] at hst ⊢
      obtain ⟨-, pre, s, hsteps, hid, -⟩ := hal
      rw [show (h.after [.wrote v.step] (.update v.step)).steps = replaceRow Step.id v.step h.steps from rfl,
        hsteps, replaceRow_last (hsteps ▸ hc.nodup) hid]
      simpa [hsteps] using hst
  | refuse f hs => exact ⟨trivial, .inl (href (List.mem_singleton_self _) f)⟩
  | @announce v q hs =>
    rw [hs] at hst hal
    obtain ⟨-, pre, hsteps, -⟩ := hal
    have hst : q.Leads actions w _ A r (h.steps.dropLast.map Step.line) v := hst
    rw [hsteps, List.dropLast_concat] at hst
    exact proceed_recounted hst hsteps
  | @execute v a w' hs ha =>
    rw [hs] at hst
    obtain ⟨hl, hst⟩ := hst
    rw [atNode, ← attempt_steady ‹_› ha w.surroundings] at hst
    -- the account of what is left no longer says whether this node has asked to stop
    exact ⟨⟨hl, hst.asking (hasks (by simp) v hs)⟩, trivial⟩
  | @conclude v a o w' hs ho =>
    rw [hs] at hst hal
    obtain ⟨hl, hst⟩ := hst
    obtain ⟨-, -, pre, hsteps, -⟩ := hal
    -- the account does not wait where the run has gone on
    obtain ⟨o', ho'⟩ := Option.isSome_iff_exists.1 (hopen (by simp) v a hs)
    rw [awaited, ho', outcome?_unique ho' ho, hsteps, List.dropLast_concat] at hst
    exact conclude_recounted hl hsteps hst
  | interrupt message hs => exact ⟨trivial, .inl (hint (List.mem_singleton_self _) message)⟩
  | finish now hs => rw [hs] at hcl; exact absurd rfl hcl
  | store hs => rw [hs] at hcl; exact absurd rfl hcl
  | unstored hs => rw [hs] at hcl; exact absurd rfl hcl
  | tell hs => rw [hs] at hcl; exact absurd rfl hcl

end Run

end Workflow
