import Workflow.Proofs.History

/-!
# What is on record of an execution in a world

`World.history` reads the history of an execution off a world. What an effect does to the rows of the
store is said once (`Effect.On.rows`). From it, an effect that belongs to one execution changes its
history as `History.after` says (`Effect.On.history_own`), and that of no other
(`Effect.On.history_other`).
-/

namespace Workflow

variable {σ : Type} {w w' : World σ} {x y : String} {eff : Effect} {delivered : List Message}
  {events evs : List Event}

theorem messagesOf_append (x : String) (l m : List Message) :
    messagesOf x (l ++ m) = messagesOf x l ++ messagesOf x m := List.filter_append ..

/-- The history of an execution, with what was delivered and what the log tells. -/
def World.history (w : World σ) (delivered : List Message) (events : List Event) (x : String) :
    History where
  steps := w.store.stepsOf x
  stored := w.store.execution? x
  told := messagesOf x (delivered ++ w.sent)
  events := events

/-- The history of an execution is told by the rows of the store and the messages. -/
theorem World.history_congr {delivered' : List Message} (hk : w.store.Keyed) (hk' : w'.store.Keyed)
    (hs : w'.store.steps = w.store.steps) (he : w'.store.executions = w.store.executions)
    (hm : delivered' ++ w'.sent = delivered ++ w.sent) :
    w'.history delivered' events x = w.history delivered events x := by
  simp only [World.history, hk'.stepsOf_eq, hk.stepsOf_eq, hk'.execution?_eq, hk.execution?_eq, hs, he, hm]

/-- That an effect belongs to an execution, and fits what the store keeps. -/
def Effect.Fits (x : String) (s : Store) : Effect → Prop
  | .create step => step.execution = x ∧ step.id ∉ s.steps.map Step.id
  | .update step => step.execution = x ∧ ∃ t ∈ s.steps, t.id = step.id ∧ t.execution = x
  | .finish e => e.id = x ∧ x ∈ s.executions.map Execution.id
  | .tell m => m.execution? = some x
  | _ => True

/-- The rows of steps after an effect. -/
def Effect.steps (rows : List Step) : Effect → List Step
  | .create step => rows ++ [step]
  | .update step => replaceRow Step.id step rows
  | _ => rows

/-- The rows of executions after an effect. -/
def Effect.executions (rows : List Execution) : Effect → List Execution
  | .finish e => replaceRow Execution.id e rows
  | _ => rows

/-- The messages that an effect sends. -/
def Effect.messages : Effect → List Message
  | .tell m => [m]
  | _ => []

/-- An id that nothing in the store is known by. -/
structure Store.Unused (s : Store) (id : String) : Prop where
  steps : id ∉ s.steps.map Step.id
  executions : id ∉ s.executions.map Execution.id
  owners : ∀ step ∈ s.steps, step.execution ≠ id

/-- The id that an effect draws. -/
def Effect.drawn? (eff : Effect) : Option String :=
  match eff with
  | .draw id => some id
  | _ => Option.none

namespace Effect.On

theorem drawn (h : On w eff w') {id : String} (hd : eff.drawn? = some id) :
    id = idOf (w.drawn + 1) ∧ w' = { w with drawn := w.drawn + 1 } := by
  cases h with
  | draw => exact ⟨(Option.some.inj hd).symm, rfl⟩
  | _ => cases hd

theorem drawn_le (h : On w eff w') : w.drawn ≤ w'.drawn := by
  cases h with
  | none _ _ hd => exact hd.ge
  | draw => exact Nat.le_succ _
  | _ => exact Nat.le_refl _

theorem steps_of_records {s s' : Store} (h : s'.records = s.records) : s'.steps = s.steps := by
  simp only [Store.steps, h]

theorem executions_of_records {s s' : Store} (h : s'.records = s.records) :
    s'.executions = s.executions := by
  simp only [Store.executions, h]

/-- What an effect does to the store. -/
theorem rows (h : On w eff w') (hk : w.store.Keyed) (hf : eff.Fits x w.store) :
    w'.store.Keyed ∧ w'.store.steps = eff.steps w.store.steps ∧
      w'.store.executions = eff.executions w.store.executions := by
  cases h with
  | none hr => exact ⟨hk.of_records hr, steps_of_records hr, executions_of_records hr⟩
  | create h => exact hk.createStep_ok hf.2 h
  | update h =>
    obtain ⟨hx, t, ht, hid, hxt⟩ := hf
    exact hk.updateStep_ok ⟨t, ht, hid, hxt.trans hx.symm⟩ h
  | finish h =>
    obtain ⟨hk', he, hs⟩ := hk.update_ok (hf.1 ▸ hf.2) h
    exact ⟨hk', hs, he⟩
  | _ => exact ⟨hk, rfl, rfl⟩

theorem keyed (h : On w eff w') (hk : w.store.Keyed) (hf : eff.Fits x w.store) : w'.store.Keyed :=
  (h.rows hk hf).1

theorem sent_eq (h : On w eff w') : w'.sent = w.sent ++ eff.messages := by
  cases h with
  | none _ hs => exact hs.trans (List.append_nil _).symm
  | tell => rfl
  | _ => exact (List.append_nil _).symm

/-- A message that is sent is of the execution. -/
theorem sent (h : On w eff w') (hf : eff.Fits x w.store) {m : Message}
    (hm : m ∈ delivered ++ w'.sent) : m ∈ delivered ++ w.sent ∨ m.execution? = some x := by
  rw [h.sent_eq, ← List.append_assoc] at hm
  rcases List.mem_append.1 hm with hm | hm
  · exact .inl hm
  · cases eff with
    | tell => exact .inr (List.mem_singleton.1 hm ▸ hf)
    | _ => cases hm

/-- All rows with the id of a step are of the execution of the step. -/
theorem execution_eq {s : Store} {step : Step} (hk : s.Keyed)
    (hf : (Effect.update step).Fits x s) {b : Step} (hb : b ∈ s.steps) (hid : b.id = step.id) :
    b.execution = x := by
  obtain ⟨-, t, ht, hid', hxt⟩ := hf
  rw [List.inj_on_of_nodup_map hk.steps hb ht (hid.trans hid'.symm), hxt]

/-- The steps of the execution that an effect belongs to. -/
theorem stepsOf_own (h : On w eff w') (hk : w.store.Keyed) (hf : eff.Fits x w.store) :
    w'.store.stepsOf x = eff.steps (w.store.stepsOf x) := by
  obtain ⟨hk', hs, -⟩ := h.rows hk hf
  rw [hk'.stepsOf_eq, hk.stepsOf_eq, hs]
  cases eff with
  | create step =>
    have hx : step.execution = x := hf.1
    simp [Effect.steps, hx]
  | update step =>
    refine filter_replaceRow fun b hb hid => ?_
    rw [execution_eq hk hf hb hid, hf.1]
  | _ => rfl

theorem stepsOf_other (h : On w eff w') (hk : w.store.Keyed) (hf : eff.Fits x w.store) (hy : y ≠ x) :
    w'.store.stepsOf y = w.store.stepsOf y := by
  obtain ⟨hk', hs, -⟩ := h.rows hk hf
  rw [hk'.stepsOf_eq, hk.stepsOf_eq, hs]
  cases eff with
  | create step =>
    have hx : step.execution = x := hf.1
    simp [Effect.steps, hx, Ne.symm hy]
  | update step =>
    have hown : ∀ b ∈ w.store.steps, b.id = step.id → b.execution = x := fun b => execution_eq hk hf
    rw [Effect.steps, filter_replaceRow fun b hb hid => by rw [hown b hb hid, hf.1]]
    refine replaceRow_of_ne fun b hb hid => ?_
    rw [List.mem_filter, beq_iff_eq] at hb
    exact hy (hb.2.symm.trans (hown b hb.1 hid))
  | _ => rfl

theorem execution?_finish {e : Execution} (h : On w (.finish e) w') (hk : w.store.Keyed)
    (hf : (Effect.finish e).Fits x w.store) (y : String) :
    w'.store.execution? y = if y = x then some e else w.store.execution? y := by
  obtain ⟨hk', -, he⟩ := h.rows hk hf
  obtain ⟨rfl, hmem⟩ := hf
  rw [hk'.execution?_eq, hk.execution?_eq, he, Effect.executions, find?_replaceRow]
  cases hfind : w.store.executions.find? (·.id == y) with
  | none =>
    split
    next hy =>
      obtain ⟨a, ha, hid⟩ := List.mem_map.1 hmem
      have := List.find?_eq_none.1 hfind a ha
      simp [hid, hy] at this
    next => rfl
  | some a =>
    have ha : a.id = y := by simpa using List.find?_some hfind
    by_cases hy : y = e.id
    · simp [ha, hy]
    · simp [ha, hy]

/-- Only what ends an execution changes what is stored of it. -/
theorem execution?_eq (h : On w eff w') (hk : w.store.Keyed) (hf : eff.Fits x w.store)
    (he : ∀ e, eff ≠ .finish e) : w'.store.execution? y = w.store.execution? y := by
  obtain ⟨hk', -, hrows⟩ := h.rows hk hf
  rw [hk'.execution?_eq, hk.execution?_eq, hrows]
  cases eff with
  | finish e => exact absurd rfl (he e)
  | _ => rfl

theorem messagesOf_messages (hf : eff.Fits x w.store) :
    messagesOf y eff.messages = if y = x then eff.messages else [] := by
  cases eff with
  | tell m =>
    have hx : m.execution? = some x := hf
    by_cases hy : y = x
    · simp [messagesOf, Effect.messages, hx, hy]
    · simp [messagesOf, Effect.messages, hx, hy, Ne.symm hy]
  | _ => simp [messagesOf, Effect.messages]

/-- The history of the execution that an effect belongs to. -/
theorem history_own (h : On w eff w') (hk : w.store.Keyed) (hf : eff.Fits x w.store) :
    w'.history delivered (events ++ evs) x = (w.history delivered events x).after evs eff := by
  have htold : messagesOf x (delivered ++ w'.sent) =
      messagesOf x (delivered ++ w.sent) ++ eff.messages := by
    rw [h.sent_eq, ← List.append_assoc, messagesOf_append, messagesOf_messages hf, if_pos rfl]
  simp only [World.history, h.stepsOf_own hk hf, htold]
  cases eff with
  | finish e =>
    rw [h.execution?_finish hk hf, if_pos rfl]
    simp [History.after, Effect.steps, Effect.messages]
  | _ =>
    rw [h.execution?_eq hk hf (by simp)]
    simp [History.after, Effect.steps, Effect.messages]

/-- The history of another execution. -/
theorem history_other (h : On w eff w') (hk : w.store.Keyed) (hf : eff.Fits x w.store) (hy : y ≠ x) :
    w'.history delivered events y = w.history delivered events y := by
  have htold : messagesOf y (delivered ++ w'.sent) = messagesOf y (delivered ++ w.sent) := by
    rw [h.sent_eq, ← List.append_assoc, messagesOf_append, messagesOf_messages hf, if_neg hy,
      List.append_nil]
  have hstored : w'.store.execution? y = w.store.execution? y := by
    cases eff with
    | finish e => rw [h.execution?_finish hk hf, if_neg hy]
    | _ => exact h.execution?_eq hk hf (by simp)
  simp only [World.history, h.stepsOf_other hk hf hy, hstored, htold]

/-- No id of a step comes into the store but that of a step that is created. -/
theorem steps_ids (h : On w eff w') (hk : w.store.Keyed) (hf : eff.Fits x w.store) {id : String}
    (hid : id ∉ w.store.steps.map Step.id) (hnew : ∀ step, eff = .create step → step.id ≠ id) :
    id ∉ w'.store.steps.map Step.id := by
  rw [(h.rows hk hf).2.1]
  cases eff with
  | create step =>
    rw [Effect.steps, List.map_append, List.mem_append]
    rintro (hmem | hmem)
    · exact hid hmem
    · exact hnew step rfl (List.mem_singleton.1 hmem).symm
  | update step => rwa [Effect.steps, map_key_replaceRow]
  | _ => exact hid

theorem executions_ids (h : On w eff w') (hk : w.store.Keyed) (hf : eff.Fits x w.store) :
    w'.store.executions.map Execution.id = w.store.executions.map Execution.id := by
  rw [(h.rows hk hf).2.2]
  cases eff with
  | finish e => exact map_key_replaceRow
  | _ => rfl

theorem owners (h : On w eff w') (hk : w.store.Keyed) (hf : eff.Fits x w.store) {s : Step}
    (hs : s ∈ w'.store.steps) : s.execution = x ∨ s ∈ w.store.steps := by
  rw [(h.rows hk hf).2.1] at hs
  cases eff with
  | create step =>
    rcases List.mem_append.1 hs with hs | hs
    · exact .inr hs
    · exact .inl (List.mem_singleton.1 hs ▸ hf.1)
  | update step =>
    rcases mem_replaceRow hs with rfl | ⟨hs, -⟩
    · exact .inl hf.1
    · exact .inr hs
  | _ => exact .inr hs

theorem unused (h : On w eff w') (hk : w.store.Keyed) (hf : eff.Fits x w.store) {id : String}
    (hu : w.store.Unused id) (hx : id ≠ x) (hnew : ∀ step, eff = .create step → step.id ≠ id) :
    w'.store.Unused id where
  steps := h.steps_ids hk hf hu.steps hnew
  executions := by rw [h.executions_ids hk hf]; exact hu.executions
  owners s hs := (h.owners hk hf hs).elim (fun he => he ▸ hx.symm) (hu.owners s)

end Effect.On

end Workflow
