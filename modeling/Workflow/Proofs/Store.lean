import Mathlib.Data.List.Nodup
import Mathlib.Data.List.Range
import Workflow.Proofs.Stateful
import Workflow.Store

/-!
# What a store keeps

A store of either kind keeps a list of steps and a list of executions, each in the order in which
they came, and a `Keyed` one shows of them what it is asked for (`Keyed.stepsOf_eq`,
`Keyed.execution?_eq`). A write that succeeds adds a row at the end or replaces the one with its id;
a write that is refused changes no record.
-/

namespace Workflow

/-! ### Rows of a list -/

section Rows

variable {α : Type} {key : α → String} {a : α} {l : List α}

/-- Replacing a row changes nothing that is the same for all rows with its key. -/
theorem map_replaceRow {β : Type} {f : α → β} (h : ∀ b ∈ l, key b = key a → f b = f a) :
    (replaceRow key a l).map f = l.map f := by
  rw [replaceRow, List.map_map]
  refine List.map_congr_left fun b hb => ?_
  simp only [Function.comp_apply]
  split
  next hk => exact (h b hb (beq_iff_eq.1 hk)).symm
  next => rfl

theorem map_key_replaceRow : (replaceRow key a l).map key = l.map key :=
  map_replaceRow fun _ _ h => h

theorem replaceRow_append {m : List α} :
    replaceRow key a (l ++ m) = replaceRow key a l ++ replaceRow key a m := by
  simp [replaceRow]

theorem replaceRow_of_ne (h : ∀ b ∈ l, key b ≠ key a) : replaceRow key a l = l := by
  rw [replaceRow]
  refine (List.map_congr_left fun b hb => ?_).trans l.map_id
  simp [h b hb]

theorem replaceRow_concat {b : α} (h : ∀ c ∈ l, key c ≠ key a) (hb : key b = key a) :
    replaceRow key a (l ++ [b]) = l ++ [a] := by
  rw [replaceRow_append, replaceRow_of_ne h, replaceRow, List.map_singleton, if_pos (beq_iff_eq.2 hb)]

/-- Replacing the row at the end, where no two rows share a key. -/
theorem replaceRow_last {b : α} (hn : ((l ++ [b]).map key).Nodup) (hb : key b = key a) :
    replaceRow key a (l ++ [b]) = l ++ [a] := by
  rw [List.map_append] at hn
  refine replaceRow_concat (fun c hc he => ?_) hb
  exact (List.nodup_append.1 hn).2.2 _ (List.mem_map_of_mem hc) _ (by simp) (he.trans hb.symm)

theorem mem_replaceRow {b : α} (h : b ∈ replaceRow key a l) : b = a ∨ b ∈ l ∧ key b ≠ key a := by
  obtain ⟨c, hc, rfl⟩ := List.mem_map.1 h
  split
  next => exact .inl rfl
  next hne => exact .inr ⟨hc, by simpa using hne⟩

theorem mem_replaceRow_self (h : key a ∈ l.map key) : a ∈ replaceRow key a l := by
  obtain ⟨b, hb, hk⟩ := List.mem_map.1 h
  exact List.mem_map.2 ⟨b, hb, if_pos (beq_iff_eq.2 hk)⟩

/-- Replacing the row of a key where a property is the same for both rows. -/
theorem filter_replaceRow {p : α → Bool} (h : ∀ b ∈ l, key b = key a → p b = p a) :
    (replaceRow key a l).filter p = replaceRow key a (l.filter p) := by
  induction l with
  | nil => rfl
  | cons b l ih =>
    have ih := ih fun c hc => h c (by simp [hc])
    have hb := h b (by simp)
    rw [replaceRow, List.map_cons, ← replaceRow, List.filter_cons, ih, List.filter_cons]
    by_cases hk : key b = key a
    · cases hp : p b <;> simp [hk, ← hb hk, hp, replaceRow]
    · cases hp : p b <;> simp [hk, hp, replaceRow]

theorem find?_replaceRow {id : String} :
    (replaceRow key a l).find? (key · == id) =
      (l.find? (key · == id)).map fun b => if key b == key a then a else b := by
  rw [replaceRow, List.find?_map]
  congr 2
  funext b
  simp only [Function.comp_apply]
  split
  next h => rw [beq_iff_eq.1 h]
  next => rfl

end Rows

/-! ### Shelves -/

namespace Shelf

variable {α : Type} {key : α → String} {s : Shelf α} {a : α} {name : String}

/-- Every value stands under its key. -/
def Keyed (key : α → String) (s : Shelf α) : Prop := ∀ p ∈ s, p.1 = key p.2

theorem Keyed.put (h : s.Keyed key) : (s.put (key a) a).Keyed key := by
  unfold Shelf.put
  split
  next =>
    intro p hp
    obtain ⟨q, hq, rfl⟩ := List.mem_map.1 hp
    split
    next => rfl
    next => exact h q hq
  next =>
    intro p hp
    rcases List.mem_append.1 hp with hp | hp
    · exact h p hp
    · rw [List.mem_singleton.1 hp]

theorem Keyed.has_iff (h : s.Keyed key) : s.has name = true ↔ ∃ a ∈ s.values, key a = name := by
  simp only [has, values, List.any_eq_true, beq_iff_eq, List.mem_map]
  constructor
  · rintro ⟨p, hp, rfl⟩
    exact ⟨p.2, ⟨p, hp, rfl⟩, (h p hp).symm⟩
  · rintro ⟨_, ⟨p, hp, rfl⟩, rfl⟩
    exact ⟨p, hp, h p hp⟩

theorem Keyed.values_put (h : s.Keyed key) :
    (s.put (key a) a).values =
      if s.has (key a) then replaceRow key a s.values else s.values ++ [a] := by
  unfold Shelf.put
  split
  next =>
    simp only [values, replaceRow, List.map_map]
    refine List.map_congr_left fun p hp => ?_
    simp only [Function.comp_apply, h p hp]
    split <;> rfl
  next => simp [values]

theorem Keyed.get?_eq (h : s.Keyed key) : s.get? name = s.values.find? (key · == name) := by
  unfold Keyed at h
  induction s with
  | nil => rfl
  | cons p s ih =>
    have ih := ih fun q hq => h q (by simp [hq])
    simp only [get?, values, List.map_cons, List.find?_cons] at ih ⊢
    rw [← h p (by simp)]
    split
    next => rfl
    next => exact ih

end Shelf

/-! ### Tables -/

namespace Tables

variable {t t' : Tables} {s : Step} {e : Execution}

theorem insertRow_ok {α κ : Type} [BEq κ] {key : α → κ} {row : α} {rows rows' : List α}
    (h : insertRow key row rows = .ok rows') : rows' = rows ++ [row] := by
  unfold insertRow at h
  split at h
  next => cases h
  next => exact (Except.ok.inj h).symm

theorem key_ne_of_insertRow {α : Type} {key : α → String} {row : α} {rows rows' : List α}
    (h : insertRow key row rows = .ok rows') {r : α} (hr : r ∈ rows) : key r ≠ key row := by
  unfold insertRow at h
  split at h
  next => cases h
  next hnew => exact fun hk => hnew (List.any_eq_true.2 ⟨r, hr, beq_iff_eq.2 hk⟩)

theorem create_ok (h : t.create e = .ok t') : t' = { t with executions := t.executions ++ [e] } := by
  obtain ⟨-, -, h⟩ := Outcome.bind_eq_ok.1 h
  obtain ⟨rows, hr, h⟩ := Outcome.bind_eq_ok.1 h
  cases h
  rw [insertRow_ok hr]

/-- An execution that is created has an id of its own. -/
theorem id_ne_of_create (h : t.create e = .ok t') {y : Execution} (hy : y ∈ t.executions) :
    y.id ≠ e.id := by
  obtain ⟨-, -, h⟩ := Outcome.bind_eq_ok.1 h
  obtain ⟨rows, hr, -⟩ := Outcome.bind_eq_ok.1 h
  exact key_ne_of_insertRow hr hy

theorem createStep_ok (h : t.createStep s = .ok t') :
    t' = { t with steps := t.steps ++
      [⟨(t.steps.filter (·.step.execution == s.execution)).length, s⟩] } := by
  obtain ⟨-, -, h⟩ := Outcome.bind_eq_ok.1 h
  obtain ⟨rows, hr, h⟩ := Outcome.bind_eq_ok.1 h
  cases h
  rw [insertRow_ok hr]

theorem update_ok {b : Bool} (h : t.update e = .ok (t', b)) (he : e.id ∈ t.executions.map Execution.id) :
    t' = { t with executions := replaceRow Execution.id e t.executions } := by
  have hany : t.executions.any (·.id == e.id) = true := by simpa using he
  obtain ⟨-, -, h⟩ := Outcome.bind_eq_ok.1 h
  rw [if_pos hany] at h
  obtain ⟨-, -, h⟩ := Outcome.bind_eq_ok.1 h
  cases h
  rfl

theorem updateStep_ok {b : Bool} (h : t.updateStep s = .ok (t', b))
    (hs : s.id ∈ t.steps.map (·.step.id)) :
    t' = { t with steps := t.steps.map fun r =>
      if r.step.id == s.id then { r with step := { s with execution := r.step.execution } } else r } := by
  have hany : t.steps.any (·.step.id == s.id) = true := by simpa using hs
  obtain ⟨-, -, h⟩ := Outcome.bind_eq_ok.1 h
  rw [if_pos hany] at h
  obtain ⟨-, -, h⟩ := Outcome.bind_eq_ok.1 h
  cases h
  rfl

theorem saveGraph_ok {g : FlowGraph} {now : Instant} (h : t.saveGraph g now = .ok t') :
    t'.steps = t.steps ∧ t'.executions = t.executions := by
  obtain ⟨_, -, h⟩ := Outcome.bind_eq_ok.1 h
  obtain ⟨_, -, h⟩ := Outcome.bind_eq_ok.1 h
  obtain ⟨_, -, h⟩ := Outcome.bind_eq_ok.1 h
  cases h
  exact ⟨rfl, rfl⟩

end Tables

/-! ### Stores -/

namespace Store

/-- The steps that a store keeps, the oldest first. -/
def steps (s : Store) : List Step :=
  match s.records with
  | .memory m => m.steps.values
  | .tables t => t.steps.map StepRow.step

/-- The executions that a store keeps, the oldest first. -/
def executions (s : Store) : List Execution :=
  match s.records with
  | .memory m => m.executions.values
  | .tables t => t.executions

/-- Records are kept under their ids, and the steps of an execution are numbered as they came. -/
def Numbered : Records → Prop
  | .memory m => m.steps.Keyed Step.id ∧ m.executions.Keyed Execution.id
  | .tables t => ∀ x, ∃ n,
      (t.steps.filter (·.step.execution == x)).map StepRow.sequence = List.range n

/-- No two records of a kind share an id. -/
structure Keyed (s : Store) : Prop where
  steps : (s.steps.map Step.id).Nodup
  executions : (s.executions.map Execution.id).Nodup
  numbered : Numbered s.records

variable {s s' : Store} {step : Step} {e : Execution} {i : String} {α : Type}

theorem Keyed.of_records (h : s.Keyed) (hr : s'.records = s.records) : s'.Keyed := by
  obtain ⟨h1, h2, h3⟩ := h
  refine ⟨?_, ?_, ?_⟩
  · simpa only [Store.steps, hr] using h1
  · simpa only [Store.executions, hr] using h2
  · rw [hr]; exact h3

theorem Keyed.stepsOf_eq (h : s.Keyed) (x : String) :
    s.stepsOf x = s.steps.filter (·.execution == x) := by
  have hn := h.numbered
  cases hr : s.records with
  | memory m => simp only [stepsOf, Store.steps, hr, Memory.stepsOf]
  | tables t =>
    rw [hr] at hn
    obtain ⟨n, hn⟩ := hn x
    have hsorted : (t.steps.filter (·.step.execution == x)).Pairwise fun a b =>
        decide (a.sequence ≤ b.sequence) = true := by
      have := hn ▸ List.pairwise_le_range (n := n)
      simpa [List.pairwise_map] using this
    simp only [stepsOf, Store.steps, hr, Tables.stepsOf, List.mergeSort_of_pairwise hsorted,
      List.filter_map]
    rfl

theorem Keyed.execution?_eq (h : s.Keyed) (x : String) :
    s.execution? x = s.executions.find? (·.id == x) := by
  have hn := h.numbered
  cases hr : s.records with
  | memory m =>
    rw [hr] at hn
    simpa only [execution?, Store.executions, hr, Memory.execution?] using hn.2.get?_eq
  | tables t => simp only [execution?, Store.executions, hr, Tables.execution?]

theorem attempt_records (w : Write) (s : Store) : (attempt w s).2.records = s.records := by
  simp only [attempt, Stateful.bind_apply, Stateful.get_apply, Stateful.set_apply]
  cases s.outages.find? (Outage.isDue w) <;> rfl

theorem attempt_calm (hs : s.outages = []) (w : Write) : attempt w s = (.ok (), s) := by
  obtain ⟨records, outages, listing⟩ := s
  cases hs
  rfl

section Write

variable {w : Write} {f : Memory → Memory × α} {g : Tables → Outcome (Tables × α)} {a : α}

theorem write_ok (h : write w f g s = (.ok a, s')) :
    (∃ m, s.records = .memory m ∧ s'.records = .memory (f m).1) ∨
    (∃ t t', s.records = .tables t ∧ g t = .ok (t', a) ∧ s'.records = .tables t') := by
  have hr := attempt_records w s
  rw [write, Stateful.bind_apply] at h
  generalize attempt w s = r at h hr
  rw [← hr]
  rcases r with ⟨_ | _, s₁⟩
  · cases h
  · simp only [Stateful.bind_apply, Stateful.get_apply] at h
    cases hs : s₁.records with
    | memory m =>
      simp only [hs, Stateful.bind_apply, Stateful.set_apply, Stateful.pure_apply] at h
      cases h
      exact .inl ⟨m, rfl, rfl⟩
    | tables t =>
      cases ht : g t <;> simp only [hs, ht, Stateful.bind_apply, Stateful.ofExcept_apply] at h <;>
        cases h
      exact .inr ⟨t, _, rfl, ht, rfl⟩

theorem write_error {e : Failure} (h : write w f g s = (.error e, s')) : s'.records = s.records := by
  have hr := attempt_records w s
  rw [write, Stateful.bind_apply] at h
  generalize attempt w s = r at h hr
  rw [← hr]
  rcases r with ⟨_ | _, s₁⟩
  · cases h; rfl
  · simp only [Stateful.bind_apply, Stateful.get_apply] at h
    cases hs : s₁.records with
    | memory m =>
      simp only [hs, Stateful.bind_apply, Stateful.set_apply, Stateful.pure_apply] at h
      cases h
    | tables t =>
      cases ht : g t <;> simp only [hs, ht, Stateful.bind_apply, Stateful.ofExcept_apply] at h <;>
        cases h
      exact hs

end Write

/-! ### Writes of executions and steps -/

theorem nodup_concat {l : List String} {id : String} (hl : l.Nodup) (h : id ∉ l) : (l ++ [id]).Nodup := by
  refine List.nodup_append.2 ⟨hl, by simp, ?_⟩
  rintro a ha b hb rfl
  exact h (List.mem_singleton.1 hb ▸ ha)

theorem numbered_concat {rows : List StepRow} {row : StepRow} {n : Nat} {x : String}
    (h : (rows.filter (·.step.execution == x)).map StepRow.sequence = List.range n)
    (hrow : row.sequence = (rows.filter (·.step.execution == row.step.execution)).length) :
    ∃ n, ((rows ++ [row]).filter (·.step.execution == x)).map StepRow.sequence = List.range n := by
  rw [List.filter_append, List.map_append, h]
  by_cases hx : row.step.execution = x
  · refine ⟨n + 1, ?_⟩
    have hlen := congrArg List.length h
    rw [List.length_map, List.length_range] at hlen
    simp [hrow, hx, hlen, List.range_succ]
  · exact ⟨n, by simp [hx]⟩

theorem numbered_map {rows : List StepRow} {f : StepRow → StepRow}
    (hf : ∀ r, (f r).step.execution = r.step.execution ∧ (f r).sequence = r.sequence) (x : String) :
    ((rows.map f).filter (·.step.execution == x)).map StepRow.sequence =
      (rows.filter (·.step.execution == x)).map StepRow.sequence := by
  have hp : ((·.step.execution == x) ∘ f : StepRow → Bool) = (·.step.execution == x) :=
    funext fun r => by rw [Function.comp_apply, (hf r).1]
  rw [List.filter_map, List.map_map, hp]
  exact List.map_congr_left fun r _ => (hf r).2

/-- A new step comes at the end. -/
theorem Keyed.createStep_ok (hk : s.Keyed) (hf : step.id ∉ s.steps.map Step.id)
    (h : createStep step s = (.ok i, s')) :
    s'.Keyed ∧ s'.steps = s.steps ++ [step] ∧ s'.executions = s.executions := by
  have hn := hk.numbered
  have hadd : s'.steps = s.steps ++ [step] ∧ s'.executions = s.executions ∧ Numbered s'.records := by
    rcases write_ok h with ⟨m, hm, hm'⟩ | ⟨t, t', ht, hok, ht'⟩
    · rw [hm] at hn
      have hnew : m.steps.has step.id ≠ true := fun hhas => by
        simp only [Store.steps, hm] at hf
        exact hf (List.mem_map.2 (hn.1.has_iff.1 hhas))
      simp only [Store.steps, Store.executions, hm, hm', Memory.createStep, hn.1.values_put, if_neg hnew]
      exact ⟨trivial, trivial, hn.1.put, hn.2⟩
    · rw [ht] at hn
      cases hc : t.createStep step <;> rw [hc] at hok <;> cases hok
      obtain rfl := Tables.createStep_ok hc
      simp only [Store.steps, Store.executions, ht, ht', List.map_append, List.map_cons, List.map_nil]
      exact ⟨trivial, trivial, fun x => numbered_concat (hn x).choose_spec rfl⟩
  obtain ⟨hs, he, hn'⟩ := hadd
  refine ⟨⟨?_, he ▸ hk.executions, hn'⟩, hs, he⟩
  rw [hs, List.map_append]
  exact nodup_concat hk.steps hf

/-- Another version of a step comes in its place. -/
theorem Keyed.updateStep_ok {b : Bool} (hk : s.Keyed)
    (hs : ∃ t ∈ s.steps, t.id = step.id ∧ t.execution = step.execution)
    (h : updateStep step s = (.ok b, s')) :
    s'.Keyed ∧ s'.steps = replaceRow Step.id step s.steps ∧ s'.executions = s.executions := by
  have hn := hk.numbered
  have hput : s'.steps = replaceRow Step.id step s.steps ∧ s'.executions = s.executions ∧
      Numbered s'.records := by
    rcases write_ok h with ⟨m, hm, hm'⟩ | ⟨t, t', ht, hok, ht'⟩
    · rw [hm] at hn
      have hhas : m.steps.has step.id = true := hn.1.has_iff.2 <| by
        obtain ⟨t, ht, hid, -⟩ := hs
        exact ⟨t, by simpa only [Store.steps, hm] using ht, hid⟩
      simp only [Memory.updateStep, if_pos hhas, Memory.createStep] at hm'
      simp only [Store.steps, Store.executions, hm, hm', hn.1.values_put, if_pos hhas]
      exact ⟨trivial, trivial, hn.1.put, hn.2⟩
    · rw [ht] at hn
      have hsteps : s.steps = t.steps.map StepRow.step := by simp only [Store.steps, ht]
      have hids : step.id ∈ t.steps.map (·.step.id) := by
        obtain ⟨u, hu, hid, -⟩ := hs
        obtain ⟨r, hr, rfl⟩ := List.mem_map.1 (hsteps ▸ hu)
        exact List.mem_map.2 ⟨r, hr, hid⟩
      obtain rfl := Tables.updateStep_ok hok hids
      have hsteps' : s'.steps = replaceRow Step.id step s.steps := by
        rw [hsteps]
        simp only [Store.steps, ht', replaceRow, List.map_map]
        refine List.map_congr_left fun r hr => ?_
        simp only [Function.comp_apply]
        split
        next hid =>
          -- the row of the step is the one that is known to belong to its execution
          have hown : r.step.execution = step.execution := by
            obtain ⟨u, hu, hid', hx⟩ := hs
            have hr' : r.step ∈ s.steps := hsteps ▸ List.mem_map_of_mem hr
            rw [List.inj_on_of_nodup_map hk.steps hr' hu ((beq_iff_eq.1 hid).trans hid'.symm), hx]
          rw [hown]
        next => rfl
      simp only [ht']
      refine ⟨hsteps', by simp only [Store.executions, ht, ht'], fun x => ?_⟩
      rw [numbered_map fun r => by split <;> exact ⟨rfl, rfl⟩]
      exact hn x
  obtain ⟨hs, he, hn'⟩ := hput
  refine ⟨⟨?_, he ▸ hk.executions, hn'⟩, hs, he⟩
  rw [hs, map_key_replaceRow]
  exact hk.steps

/-- A new execution comes at the end. -/
theorem Keyed.create_ok (hk : s.Keyed) (hf : e.id ∉ s.executions.map Execution.id)
    (h : create e s = (.ok i, s')) :
    s'.Keyed ∧ s'.executions = s.executions ++ [e] ∧ s'.steps = s.steps := by
  have hn := hk.numbered
  have hadd : s'.executions = s.executions ++ [e] ∧ s'.steps = s.steps ∧ Numbered s'.records := by
    rcases write_ok h with ⟨m, hm, hm'⟩ | ⟨t, t', ht, hok, ht'⟩
    · rw [hm] at hn
      have hnew : m.executions.has e.id ≠ true := fun hhas => by
        simp only [Store.executions, hm] at hf
        exact hf (List.mem_map.2 (hn.2.has_iff.1 hhas))
      simp only [Store.steps, Store.executions, hm, hm', Memory.create, hn.2.values_put, if_neg hnew]
      exact ⟨trivial, trivial, hn.1, hn.2.put⟩
    · rw [ht] at hn
      cases hc : t.create e <;> rw [hc] at hok <;> cases hok
      obtain rfl := Tables.create_ok hc
      simp only [Store.steps, Store.executions, ht, ht']
      exact ⟨trivial, trivial, hn⟩
  obtain ⟨he, hs, hn'⟩ := hadd
  refine ⟨⟨hs ▸ hk.steps, ?_, hn'⟩, he, hs⟩
  rw [he, List.map_append]
  exact nodup_concat hk.executions hf

/-- Another version of an execution comes in its place. -/
theorem Keyed.update_ok {b : Bool} (hk : s.Keyed) (he : e.id ∈ s.executions.map Execution.id)
    (h : update e s = (.ok b, s')) :
    s'.Keyed ∧ s'.executions = replaceRow Execution.id e s.executions ∧ s'.steps = s.steps := by
  have hn := hk.numbered
  have hput : s'.executions = replaceRow Execution.id e s.executions ∧ s'.steps = s.steps ∧
      Numbered s'.records := by
    rcases write_ok h with ⟨m, hm, hm'⟩ | ⟨t, t', ht, hok, ht'⟩
    · rw [hm] at hn
      have hhas : m.executions.has e.id = true := hn.2.has_iff.2 <| by
        simpa only [Store.executions, hm, List.mem_map] using he
      simp only [Memory.update, if_pos hhas, Memory.create] at hm'
      simp only [Store.steps, Store.executions, hm, hm', hn.2.values_put, if_pos hhas]
      exact ⟨trivial, trivial, hn.1, hn.2.put⟩
    · rw [ht] at hn
      obtain rfl := Tables.update_ok hok (by simpa only [Store.executions, ht] using he)
      simp only [Store.steps, Store.executions, ht, ht']
      exact ⟨trivial, trivial, hn⟩
  obtain ⟨he, hs, hn'⟩ := hput
  refine ⟨⟨hs ▸ hk.steps, ?_, hn'⟩, he, hs⟩
  rw [he, map_key_replaceRow]
  exact hk.executions

/-- Saving a flow leaves steps and executions as they are. -/
theorem Keyed.saveGraph (hk : s.Keyed) (g : FlowGraph) (now : Instant) :
    (Store.saveGraph g now s).2.Keyed ∧ (Store.saveGraph g now s).2.steps = s.steps ∧
      (Store.saveGraph g now s).2.executions = s.executions := by
  have hn := hk.numbered
  obtain ⟨hs, he, hn'⟩ : (Store.saveGraph g now s).2.steps = s.steps ∧
      (Store.saveGraph g now s).2.executions = s.executions ∧
      Numbered (Store.saveGraph g now s).2.records := by
    cases hr : s.records with
    | memory m =>
      rw [hr] at hn
      simp only [Store.saveGraph, Stateful.bind_apply, Stateful.get_apply, hr, Stateful.set_apply,
        Stateful.pure_apply, Store.steps, Store.executions]
      exact ⟨rfl, rfl, hn⟩
    | tables t =>
      rw [hr] at hn
      cases hg : t.saveGraph g now with
      | error f =>
        simp only [Store.saveGraph, Stateful.bind_apply, Stateful.get_apply, hr,
          Stateful.ofExcept_apply, hg]
        exact ⟨trivial, trivial, hr ▸ hn⟩
      | ok t' =>
        have ht := Tables.saveGraph_ok hg
        simp only [Store.saveGraph, Stateful.bind_apply, Stateful.get_apply, hr,
          Stateful.ofExcept_apply, hg, Stateful.set_apply, Stateful.pure_apply, Store.steps,
          Store.executions, ht]
        exact ⟨trivial, trivial, fun x => ht.1 ▸ hn x⟩
  exact ⟨⟨hs ▸ hk.steps, he ▸ hk.executions, hn'⟩, hs, he⟩

end Store

end Workflow
