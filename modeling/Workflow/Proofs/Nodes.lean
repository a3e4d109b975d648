import Workflow.Proofs.History

/-!
# What comes of a node

What the execution of a node leads to (`attempt_fits`): a failure only if the run was cancelled, and of
the nodes that succeed the conditions alone have a branch, which is told by their output. The edges
that are followed from a node are those that `Edge.isFollowed` picks, and a node is reached by a
followed edge or as the trigger (`reached_ok`). No failure in this is one of `FailureKind.execution`.
-/

namespace Workflow

theorem Edge.check_error {e : Edge} {f : Failure} (h : e.check = .error f) : f.kind = .wrongType := by
  unfold Edge.check at h
  simp only [List.forIn_cons, List.forIn_nil] at h
  cases h₁ : e.sourceHandle.isScalar <;> cases h₂ : e.targetHandle.isScalar <;>
    cases h₃ : e.label.isScalar <;>
    simp [h₁, h₂, h₃, Failure.unhashable, bind, Except.bind, pure, Except.pure, throw, throwThe,
      MonadExceptOf.throw] at h <;> simp [← h]

theorem Value.json_error {style : JsonStyle} {v : Value} {f : Failure} (h : v.json style = .error f) :
    f.kind ≠ .execution := by
  unfold Value.json at h
  cases hw : Json.write style v with
  | ok text => rw [hw] at h; cases h
  | error fault => rw [hw] at h; cases h; cases fault <;> simp [JsonFault.toFailure, Failure.longInteger]

theorem Step.dataText_error {v : Value} {f : Failure} (h : dataText v = .error f) :
    f.kind ≠ .execution := by
  unfold dataText at h
  split at h
  next => cases h
  next =>
    cases hv : Value.json .record v with
    | ok text => rw [hv] at h; cases h
    | error g => rw [hv] at h; cases h; exact Value.json_error hv

/-- The text of a condition's output. -/
def resultText (b : Bool) : String :=
  if b then "\x7b\"result\": true\x7d" else "\x7b\"result\": false\x7d"

theorem resultText_inj {a b : Bool} (h : resultText a = resultText b) : a = b := by
  revert a b
  decide

theorem dataText_result (b : Bool) :
    Step.dataText (.record [("result", .bool b)]) = .ok (some (resultText b)) := by
  cases b <;> rfl

namespace Run

variable {σ : Type} {actions : Registry σ} {r : Run} {n : Node} {a : Attempt}

/-! ### Attempts -/

/-- The branch of a node that was executed: of a condition its result, which is its output. -/
def Branched (n : Node) (o : NodeOutcome) : Prop :=
  if n.isCondition then ∃ b, o.branch = some b ∧ o.output = .record [("result", .bool b)]
  else o.branch = none

/-- An outcome of a node: a failure only if the run was cancelled. -/
def Fits (n : Node) : Outcome NodeOutcome → Prop
  | .error f => f.kind = .cancelled
  | .ok o => o.error = none → Branched n o

theorem fits_of_error {n : Node} {o : NodeOutcome} {message : String} (h : o.error = some message) :
    Fits n (.ok o) := fun hn => by rw [h] at hn; cases hn

theorem fits_settle (hn : n.isCondition = false) {o : Outcome NodeOutcome}
    (ho : ∀ no, o = .ok no → no.branch = none) : Fits n (settle o) := by
  cases o with
  | ok no => intro _; rw [Branched, hn]; exact ho no rfl
  | error f =>
    by_cases h : f.kind = .cancelled
    · simp only [settle, h, if_true]; exact h
    · simp only [settle, h, if_false]; exact fits_of_error rfl

theorem outcomeOf_branch {params : Fields} {result : ActionResult} {o : NodeOutcome}
    (h : outcomeOf params result = .ok o) : o.branch = none := by
  unfold outcomeOf at h
  split at h
  next => cases h; rfl
  next =>
    obtain ⟨text, -, h⟩ := Outcome.bind_eq_ok.1 h
    cases h
    rfl

theorem isCondition_of_parsedConfig {raw : Value} (h : n.parsedConfig = .condition raw) :
    n.isCondition = true := by
  unfold Node.parsedConfig NodeConfig.ofFields at h
  split at h
  next => cases h
  next =>
    split at h
    next => cases h
    next =>
      split at h
      next hc => exact hc
      next => cases h

theorem not_isCondition_of_parsedConfig (h : ∀ raw, n.parsedConfig ≠ .condition raw) :
    n.isCondition = false := by
  by_contra hc
  rw [Bool.not_eq_false, Node.isCondition, beq_iff_eq] at hc
  refine h ((Value.object (configFields n.config)).field "condition") ?_
  simp [Node.parsedConfig, NodeConfig.ofFields, hc]

/-- What an attempt at a node leads to. -/
def Attempt.Fits (n : Node) : Attempt → Prop
  | done o => Run.Fits n o
  | held _ params result => Run.Fits n (settle (outcomeOf params result))

theorem Attempt.Fits.outcome {w : World σ} {o : Outcome NodeOutcome} (hf : a.Fits n)
    (ho : a.outcome? w = some o) : Run.Fits n o := by
  cases a with
  | done o' => cases ho; exact hf
  | held gate params result =>
    simp only [Attempt.outcome?] at ho
    split at ho
    next => cases ho; exact hf
    next => cases ho

theorem attempt_fits {w : World σ} (ha : (r.attempt actions n w).1 = .ok a) : a.Fits n := by
  cases hc : n.parsedConfig with
  | trigger startMode schedule =>
    have hn : n.isCondition = false := not_isCondition_of_parsedConfig (by simp [hc])
    simp only [attempt, hc] at ha
    cases ha
    intro _
    rw [Branched, hn]
    rfl
  | action type params =>
    have hn : n.isCondition = false := not_isCondition_of_parsedConfig (by simp [hc])
    cases hp : Template.renderFields r.context.root (params.getD []) with
    | error f =>
      simp only [attempt, hc, hp] at ha
      cases ha
      exact fits_of_error rfl
    | ok params =>
      simp only [attempt, hc, hp, Stateful.bind_apply, perform] at ha
      cases ha
      cases (actions.perform type params w.surroundings).1.reply with
      | result res => exact fits_settle hn fun _ => outcomeOf_branch
      | failure f => exact fits_settle hn fun _ h => by cases h
      | waiting gate res => exact fits_settle hn fun _ => outcomeOf_branch
  | condition raw =>
    have hn : n.isCondition = true := isCondition_of_parsedConfig hc
    simp only [attempt, hc] at ha
    cases ha
    cases hb : Condition.evaluate raw r.context.root with
    | ok b =>
      simp only [decided, hb]
      intro _
      rw [Branched, hn]
      exact ⟨b, rfl, rfl⟩
    | error f =>
      simp only [decided, hb]
      exact fits_of_error rfl
  | other raw =>
    have hn : n.isCondition = false := not_isCondition_of_parsedConfig (by simp [hc])
    simp only [attempt, hc] at ha
    cases ha
    intro _
    rw [Branched, hn]
    rfl

/-- A node that fails is told by its name, unless the name cannot be written. -/
theorem nodeFailure_cases (n : Node) (message : String) :
    (∃ name, (n.label.orElse (.text n.id)).plain = .ok name ∧ nodeFailure n message = .ofNode name message) ∨
    (n.label.orElse (.text n.id)).plain = .error .longInteger ∧ nodeFailure n message = .longInteger := by
  unfold nodeFailure
  cases hp : (n.label.orElse (.text n.id)).plain with
  | ok name => exact .inl ⟨name, rfl, rfl⟩
  | error f =>
    right
    unfold Value.plain at hp
    split at hp
    next => cases hp
    next => cases hp; exact ⟨rfl, rfl⟩

/-! ### Followed edges -/

section Edges

variable {g : FlowGraph} {id : String} {e : Edge} {place : Nat} {followed : List Nat}

theorem mem_outgoingPlaces :
    (e, place) ∈ outgoingPlaces g id ↔ g.edges[place]? = some e ∧ e.source = id := by
  simp [outgoingPlaces, List.mem_zipIdx_iff_getElem?]

theorem mem_incomingPlaces :
    (e, place) ∈ incomingPlaces g id ↔ g.edges[place]? = some e ∧ e.target = id := by
  simp [incomingPlaces, List.mem_zipIdx_iff_getElem?]

theorem checkedPlaces (l : List (Edge × Nat)) :
    (∃ f, (l.mapM fun (e, place) => do e.check; return place) = .error f ∧
      ∃ p ∈ l, p.1.check = .error f) ∨
    (l.mapM fun (e, place) => do e.check; return place) = .ok (l.map Prod.snd) := by
  induction l with
  | nil => exact .inr rfl
  | cons p l ih =>
    obtain ⟨e, place⟩ := p
    simp only [List.mapM_cons, bind, Except.bind, pure, Except.pure]
    cases hc : e.check with
    | error f => exact .inl ⟨f, rfl, (e, place), by simp, hc⟩
    | ok u =>
      rcases ih with ⟨f, hf, q, hq, hcheck⟩ | hl
      · simp only [bind, Except.bind, pure, Except.pure] at hf
        exact .inl ⟨f, by simp only [hf], q, by simp [hq], hcheck⟩
      · simp only [bind, Except.bind, pure, Except.pure] at hl
        exact .inr (by simp only [hl, List.map_cons])

/-- What fails in following edges is that the texts of one are none. -/
theorem followedFrom_error {branch : Option Bool} {f : Failure}
    (h : followedFrom g id branch = .error f) : ∃ d ∈ g.edges, d.check = .error f := by
  rcases checkedPlaces ((outgoingPlaces g id).filter (·.1.isFollowed branch)) with
    ⟨f', hf, p, hp, hcheck⟩ | hl
  · obtain rfl := Except.error.inj (hf.symm.trans h)
    exact ⟨p.1, List.mem_of_getElem? (mem_outgoingPlaces.1 (List.mem_filter.1 hp).1).1, hcheck⟩
  · exact absurd (hl.symm.trans h) (by simp)

theorem mem_of_followedFrom {branch : Option Bool} {places : List Nat}
    (h : followedFrom g id branch = .ok places) (he : g.edges[place]? = some e) :
    place ∈ places ↔ e.source = id ∧ e.isFollowed branch = true := by
  rcases checkedPlaces ((outgoingPlaces g id).filter (·.1.isFollowed branch)) with ⟨f', hf, -⟩ | hl
  · exact absurd (hf.symm.trans h) (by simp)
  · rw [← Except.ok.inj (hl.symm.trans h)]
    simp only [List.mem_map, List.mem_filter, Prod.exists, exists_eq_right, mem_outgoingPlaces, he,
      Option.some.injEq]
    constructor
    · rintro ⟨e', ⟨rfl, hs⟩, hf⟩
      exact ⟨hs, hf⟩
    · rintro ⟨hs, hf⟩
      exact ⟨e, ⟨rfl, hs⟩, hf⟩

theorem anyFollowed_cases (followed : List Nat) (l : List (Edge × Nat)) :
    (∃ f, anyFollowed followed l = .error f ∧ ∃ p ∈ l, p.1.check = .error f) ∨
    anyFollowed followed l = .ok (l.any fun p => followed.contains p.2) := by
  induction l with
  | nil => exact .inr rfl
  | cons p l ih =>
    obtain ⟨e, place⟩ := p
    cases hc : e.check with
    | error f => exact .inl ⟨f, by rw [anyFollowed, hc]; rfl, (e, place), by simp, hc⟩
    | ok u =>
      have hstep : anyFollowed followed ((e, place) :: l) =
          if followed.contains place then .ok true else anyFollowed followed l := by
        rw [anyFollowed, hc]
        rfl
      rw [hstep, List.any_cons]
      split
      next hp => exact .inr (by rw [hp, Bool.true_or])
      next hp =>
        rw [Bool.not_eq_true _ |>.mp hp, Bool.false_or]
        exact ih.imp_left fun ⟨f, hf, q, hq, hcheck⟩ => ⟨f, hf, q, by simp [hq], hcheck⟩

/-- Whether a node is executed, by the places of the followed edges. -/
def reached (g : FlowGraph) (followed : List Nat) (n : Node) : Outcome Bool :=
  if (g.triggers.take 1).any (·.id == n.id) then .ok true
  else anyFollowed followed (incomingPlaces g n.id)

theorem reached_error {f : Failure} (h : reached g followed n = .error f) :
    ∃ d ∈ g.edges, d.check = .error f := by
  unfold reached at h
  split at h
  next => cases h
  next =>
    rcases anyFollowed_cases followed (incomingPlaces g n.id) with ⟨f', hf, p, hp, hcheck⟩ | hl
    · obtain rfl := Except.error.inj (hf.symm.trans h)
      exact ⟨p.1, List.mem_of_getElem? (mem_incomingPlaces.1 hp).1, hcheck⟩
    · exact absurd (hl.symm.trans h) (by simp)

/-- A node is reached as the trigger, or by an edge that is followed. -/
theorem reached_ok {b : Bool} (h : reached g followed n = .ok b) :
    b = true ↔ (∃ t ∈ g.triggers.take 1, t.id = n.id) ∨
      ∃ place e, g.edges[place]? = some e ∧ e.target = n.id ∧ place ∈ followed := by
  unfold reached at h
  split at h
  next ht =>
    cases h
    refine iff_of_true rfl (.inl ?_)
    simpa using ht
  next ht =>
    have ht : ¬ ∃ t ∈ g.triggers.take 1, t.id = n.id := by simpa using ht
    rcases anyFollowed_cases followed (incomingPlaces g n.id) with ⟨f', hf, -⟩ | hl
    · exact absurd (hf.symm.trans h) (by simp)
    · rw [← Except.ok.inj (hl.symm.trans h), or_iff_right ht, List.any_eq_true]
      constructor
      · rintro ⟨⟨e, place⟩, hp, hc⟩
        obtain ⟨he, htarget⟩ := mem_incomingPlaces.1 hp
        exact ⟨place, e, he, htarget, by simpa using hc⟩
      · rintro ⟨place, e, he, htarget, hc⟩
        exact ⟨(e, place), mem_incomingPlaces.2 ⟨he, htarget⟩, by simpa using hc⟩

end Edges

end Run

end Workflow
