import Workflow.Proofs.Settling

/-!
# What subscribers receive

Subscribers receive of an execution the versions of its steps as they were written to the store, in
that order, and then the end of the execution as it is stored, and nothing after it
(`received_of_interleaved`). `Run.Reported` is the invariant: what was told is what was written, but for
a step whose message is just due.
-/

namespace Workflow

/-- The versions of steps that events tell of. -/
def versions (evs : List Event) : List Step :=
  evs.filterMap fun
    | .wrote step => some step
    | _ => none

theorem versions_append (l m : List Event) : versions (l ++ m) = versions l ++ versions m :=
  List.filterMap_append ..

/-- The steps with a new version: in the place of the old one, or at the end. -/
def putVersion (steps : List Step) (s : Step) : List Step :=
  if s.id ∈ steps.map Step.id then replaceRow Step.id s steps else steps ++ [s]

/-- The latest version of each step. -/
def latest (vs : List Step) : List Step := vs.foldl putVersion []

theorem latest_concat (vs : List Step) (s : Step) : latest (vs ++ [s]) = putVersion (latest vs) s := by
  simp [latest]

namespace Run

variable {σ : Type} {actions : Registry σ} {r r' : Run} {h : History} {eff : Effect} {evs : List Event}

/-- All that was written of the steps of an execution was told, and it is stored as it was begun. -/
structure UpToDate (x : Execution) (h : History) : Prop where
  stored : h.stored = some x
  told : h.told = (versions h.events).map stepMessage

/-- What was told of an execution and is stored of it, while its run is at a stage. -/
def Stage.Reported (x : Execution) (h : History) : Stage → Prop
  | .announcing v _ => h.stored = some x ∧
    ∃ vs, versions h.events = vs ++ [v.step] ∧ h.told = vs.map stepMessage
  | .storing e _ => UpToDate x h ∧ ∃ now result, e = ended x now result
  | .telling e _ => (h.stored = some e ∨ .refused ∈ h.events) ∧
    h.told = (versions h.events).map stepMessage ∧ ∃ now result, e = ended x now result
  | .atEnd _ => ∃ e, (h.stored = some e ∨ .refused ∈ h.events) ∧
    h.told = (versions h.events).map stepMessage ++ [endMessage e] ∧
    ∃ now result, e = ended x now result
  | _ => UpToDate x h

/-- The store and the messages of an execution agree with its events. -/
structure Reported (r : Run) (h : History) : Prop where
  stage : r.stage.Reported r.execution h
  steps : h.steps = latest (versions h.events)

namespace Reported

variable {s : Stage}

/-- A move that writes and tells nothing, from a stage where all is told to another. -/
theorem quiet (hr : Reported r h) (hu : UpToDate r.execution h) (hv : versions evs = [])
    (hx : r'.execution = r.execution)
    (hs : ∀ h', UpToDate r.execution h' → r'.stage.Reported r.execution h') :
    Reported r' { h with events := h.events ++ evs } := by
  have hv' : versions (h.events ++ evs) = versions h.events := by
    rw [versions_append, hv, List.append_nil]
  refine ⟨?_, by rw [hv']; exact hr.steps⟩
  rw [hx]
  exact hs _ ⟨hu.stored, by rw [hv']; exact hu.told⟩

end Reported

theorem proceed_upToDate {v : Visit} {q : Sequel} {x : Execution} {h : History} (hu : UpToDate x h) :
    (r.orEnding (r.proceed v q)).stage.Reported x h := by
  rcases orEnding_cases r (r.proceed v q) with ⟨f, -, ho⟩ | ⟨r', ho, ho'⟩
  · rw [ho]; exact hu
  · rw [ho']
    cases q with
    | execute => cases ho; exact hu
    | pass => cases ho; exact hu
    | follow o =>
      obtain ⟨more, -, ho⟩ := Outcome.bind_eq_ok.1 ho
      cases ho
      exact hu
    | stop f => cases ho

theorem conclude_upToDate {v : Visit} {now : Instant} {o : Outcome NodeOutcome} {x : Execution}
    {h : History} (hu : UpToDate x h) : (r.orEnding (r.conclude v now o)).stage.Reported x h := by
  rcases orEnding_cases r (r.conclude v now o) with ⟨f, -, hr⟩ | ⟨r', hr, hr'⟩
  · rw [hr]; exact hu
  · rw [hr']
    obtain ⟨no, s, -, -, rfl⟩ := conclude_ok hr
    exact hu

theorem Move.reported (hm : Move actions r eff evs r') (hc : Consistent r h) (ha : h.Admits eff)
    (hr : Reported r h) : Reported r' (h.after evs eff) := by
  have hst := hr.stage
  have hex := hm.keeps.2
  cases hm with
  | order hs => rw [hs] at hst; exact hr.quiet hst rfl rfl fun _ hu => hu
  | disorder hs => rw [hs] at hst; exact hr.quiet hst rfl rfl fun _ hu => hu
  | complete hs => rw [hs] at hst; exact hr.quiet hst rfl rfl fun _ hu => hu
  | stop hs => rw [hs] at hst; exact hr.quiet hst rfl rfl fun _ hu => hu
  | unclear hs => rw [hs] at hst; exact hr.quiet hst rfl rfl fun _ hu => hu
  | enter id now hs => rw [hs] at hst; exact hr.quiet hst rfl rfl fun _ hu => hu
  | skip id now hs => rw [hs] at hst; exact hr.quiet hst rfl rfl fun _ hu => hu
  | @record v q hs =>
    rw [hs] at hst
    have hown := hc.stage
    rw [hs] at hown
    have hv : versions (h.events ++ [.wrote v.step]) = versions h.events ++ [v.step] := versions_append ..
    unfold Sequel.effect at ha ⊢
    split at ha
    next hq =>
      rw [if_pos hq]
      refine ⟨⟨hst.stored, _, hv, hst.told⟩, ?_⟩
      simp only [History.after, hv, latest_concat, ← hr.steps, putVersion]
      rw [if_neg ha]
    next hq =>
      rw [if_neg hq]
      refine ⟨⟨hst.stored, _, hv, hst.told⟩, ?_⟩
      simp only [History.after, hv, latest_concat, ← hr.steps, putVersion]
      rw [if_pos (hown.2 (by simpa using hq))]
  | refuse f hs => rw [hs] at hst; exact hr.quiet hst rfl rfl fun _ hu => hu
  | @announce v q hs =>
    rw [hs] at hst
    obtain ⟨hstored, vs, hvs, htold⟩ := hst
    refine ⟨?_, by simpa [History.after] using hr.steps⟩
    rw [hex]
    refine proceed_upToDate ⟨hstored, ?_⟩
    simp only [History.after, List.append_nil, hvs, htold, List.map_append, List.map_cons, List.map_nil]
  | execute hs => rw [hs] at hst; exact hr.quiet hst rfl rfl fun _ hu => hu
  | conclude hs ho => rw [hs] at hst; exact hr.quiet hst rfl hex fun _ hu => conclude_upToDate hu
  | interrupt message hs =>
    have hu : UpToDate r.execution h := by
      rcases hs with hs | ⟨a, hs⟩ <;> rw [hs] at hst <;> exact hst
    exact hr.quiet hu rfl rfl fun _ hu => hu
  | @finish result now hs =>
    rw [hs] at hst
    obtain ⟨res, he⟩ := afterWalk_running hc.running now result
    exact hr.quiet hst rfl rfl fun _ hu => by rw [he]; exact ⟨hu, now, result, rfl⟩
  | store hs =>
    rw [hs] at hst
    refine ⟨⟨.inl rfl, ?_, hst.2⟩, by simpa [History.after] using hr.steps⟩
    simpa [History.after] using hst.1.told
  | unstored hs =>
    rw [hs] at hst
    have hv : versions (h.events ++ [.refused]) = versions h.events := by simp [versions]
    refine ⟨⟨.inr (by simp [History.after]), ?_, hst.2⟩, ?_⟩
    · simpa [History.after, hv] using hst.1.told
    · simpa [History.after, hv] using hr.steps
  | tell hs =>
    rw [hs] at hst
    obtain ⟨hstored, htold, hend⟩ := hst
    refine ⟨⟨_, ?_, ?_, hend⟩, by simpa [History.after] using hr.steps⟩
    · simpa [History.after] using hstored
    · simp [History.after, htold]

theorem Reported.start (g : FlowGraph) (e : Execution) (payload : Value) :
    Reported (.ofExecution g e payload) (.start g e) :=
  ⟨⟨rfl, rfl⟩, rfl⟩

end Run

open Run

variable {σ : Type} {e₀ e e' : Engine σ} {log more : Log} {x : String} {g : FlowGraph}

/-- The run of an execution that was started, with what is on record of it. -/
theorem Engine.Interleaved.run_of_started (h : e₀.Interleaved log e) (h₀ : e₀.Idle)
    (hx : (x, .started g) ∈ log) :
    ∃ r, Comes e₀.actions g x r (e.world.history e.delivered (log.of x) x) ∧
      (r ∈ e.runs ∨ r.isOver ∧ ∀ r' ∈ e.runs, r'.execution.id ≠ x) :=
  (h.sound h₀).traced.comes x g hx

theorem Comes.reported {actions : Registry σ} {r : Run} {hist : History}
    (hc : Comes actions g x r hist) : Reported r hist :=
  hc.induction (fun e payload _ => .start g e payload) fun hc hm ha hr =>
    hm.reported hc.consistent ha hr

end Workflow
