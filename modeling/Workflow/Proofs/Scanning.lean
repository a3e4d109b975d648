import Workflow.Proofs.Calls
import Workflow.Timetable

/-!
# What a scan finds

A scan reads the flows of a store page by page until a page is short. If every page can be listed, it
gives what one look at all flows would give (`scan_eq`): no page is left out and none is read twice,
however many flows there are. It fails if a page cannot be listed, or for the first flow that is not
disabled and whose interval cannot be told (`intervals_error_iff`).
-/

namespace Workflow

namespace Store

/-- The flows of a store, in the order in which they are listed. -/
def allFlows (s : Store) : List Flow :=
  match s.records with
  | .memory m => m.graphs.values.map FlowGraph.flow
  | .tables t => newestFirst Flow.created (t.flows.map FlowRow.toFlow)

variable {s : Store} {l : List Flow}

theorem length_allFlows (s : Store) : s.allFlows.length = s.flowCount := by
  rw [allFlows, flowCount]
  cases s.records with
  | memory m => simp [Shelf.values]
  | tables t => simp [newestFirst, List.length_mergeSort]

theorem filter_admits_all (l : List Flow) : l.filter (FlowFilter.admits {}) = l :=
  List.filter_eq_self.2 fun _ _ => rfl

theorem flows_ok {offset limit : Nat} (h : s.flows ⟨offset, limit⟩ {} = .ok l) :
    l = (s.allFlows.drop offset).take limit := by
  have hwindow : ∀ items : List Flow,
      Page.window ⟨offset, limit⟩ items = (items.drop offset).take limit := fun items => by
    rw [Page.window, if_neg (by simp), Int.toNat_natCast, Int.toNat_natCast]
  unfold flows at h
  unfold allFlows
  split at h
  next => cases h
  next m _ hm =>
    simp only [hm]
    rw [← Except.ok.inj h, Memory.flows, Page.slice_eq_window (by simp) (by simp), filter_admits_all, hwindow]
  next t _ ht =>
    simp only [ht]
    rw [Page.forTables_of_nonneg (by simp) (by simp)] at h
    split at h
    next =>
      rw [← Except.ok.inj h]
      simp only [Tables.listFlows, filter_admits_all, hwindow]
    next => cases h

/-- Every page of the flows can be listed, up to the one that is short. -/
def Lists (s : Store) : Prop :=
  ∀ k ≤ s.flowCount / Timetable.pageSize,
    ∃ l, s.flows ⟨(k * Timetable.pageSize : Nat), Timetable.pageSize⟩ {} = .ok l

theorem Lists.of_memory {m : Memory} (hr : s.records = .memory m) (hl : s.listing = none) : s.Lists :=
  fun _ _ => ⟨_, by rw [flows, hl, hr]⟩

end Store

namespace Timetable

variable {s : Store} {units : Fields} {l l' : List Flow} {r : Shelf Double} {f : Flow} {x : String}
  {d : Double}

/-! ### The flows of a list -/

/-- A flow is to be started at an interval. -/
structure Wants (s : Store) (units : Fields) (f : Flow) (d : Double) : Prop where
  enabled : f.status ≠ "disabled"
  interval : intervalOf s units f.id = .ok d
  positive : Double.zero.lt d = true

theorem positiveIntervals_cons (s : Store) (units : Fields) (f : Flow) (l : List Flow) :
    positiveIntervals s units (f :: l) =
      (if f.status = "disabled" then .ok .zero else intervalOf s units f.id) >>= fun interval =>
      positiveIntervals s units l >>= fun others =>
      .ok (if Double.zero.lt interval then (f.id, interval) :: others else others) := by
  simp only [positiveIntervals, beq_iff_eq]
  split <;> rfl

theorem positiveIntervals_append (s : Store) (units : Fields) (l l' : List Flow) :
    positiveIntervals s units (l ++ l') =
      positiveIntervals s units l >>= fun r => positiveIntervals s units l' >>= fun r' => .ok (r ++ r') := by
  induction l with
  | nil =>
    rw [List.nil_append]
    cases h : positiveIntervals s units l' <;> rfl
  | cons f l ih =>
    rw [List.cons_append, positiveIntervals_cons, ih, positiveIntervals_cons]
    rcases (if f.status = "disabled" then .ok .zero else intervalOf s units f.id : Outcome Double)
      with e | d
    · rfl
    · cases positiveIntervals s units l with
      | error e => rfl
      | ok r =>
        cases positiveIntervals s units l' with
        | error e => rfl
        | ok r' =>
          show Except.ok _ = Except.ok _
          split <;> rfl

theorem mem_positiveIntervals (h : positiveIntervals s units l = .ok r) :
    (x, d) ∈ r ↔ ∃ f ∈ l, f.id = x ∧ Wants s units f d := by
  induction l generalizing r with
  | nil => cases h; simp
  | cons f l ih =>
    rw [positiveIntervals_cons] at h
    obtain ⟨i, hi, h⟩ := Outcome.bind_eq_ok.1 h
    obtain ⟨r', hr', h⟩ := Outcome.bind_eq_ok.1 h
    obtain rfl := Except.ok.inj h
    have hf : f.id = x ∧ Wants s units f d ↔ Double.zero.lt i = true ∧ (x, d) = (f.id, i) := by
      by_cases hd : f.status = "disabled"
      · rw [if_pos hd] at hi
        obtain rfl := Except.ok.inj hi
        have hno : Double.zero.lt Double.zero = false := rfl
        rw [hno]
        exact ⟨fun hw => absurd hd hw.2.enabled, nofun⟩
      · rw [if_neg hd] at hi
        constructor
        · rintro ⟨rfl, hw⟩
          obtain rfl := Except.ok.inj (hi.symm.trans hw.interval)
          exact ⟨hw.positive, rfl⟩
        · rintro ⟨hp, he⟩
          cases he
          exact ⟨rfl, hd, hi, hp⟩
    rw [List.exists_mem_cons_iff, ← ih hr', hf]
    split
    next hp => simp only [List.mem_cons, hp, true_and]
    next hp => simp only [hp, Bool.false_eq_true, false_and, false_or]

/-- The flows of a list can be looked at just if the intervals of all those that are not disabled can be
told. -/
theorem positiveIntervals_error_iff : (∃ e, positiveIntervals s units l = .error e) ↔
    ∃ f ∈ l, f.status ≠ "disabled" ∧ ∃ e, intervalOf s units f.id = .error e := by
  induction l with
  | nil => simp [positiveIntervals]
  | cons f l ih =>
    rw [List.exists_mem_cons_iff, ← ih, positiveIntervals_cons]
    by_cases hd : f.status = "disabled"
    · simp only [hd, if_true, ne_eq, not_true_eq_false, false_and, false_or]
      cases positiveIntervals s units l <;> simp [bind, Except.bind]
    · simp only [hd, if_false, ne_eq, not_false_eq_true, true_and]
      cases intervalOf s units f.id <;> cases positiveIntervals s units l <;> simp [bind, Except.bind]

/-! ### The flows of a store -/

theorem scan_succ (s : Store) (units : Fields) (fuel offset : Nat) :
    scan s units (fuel + 1) offset = do
      let flows ← s.flows ⟨offset, pageSize⟩ {}
      let first ← positiveIntervals s units flows
      if flows.length < pageSize then return first
      else return first ++ (← scan s units fuel (offset + pageSize)) := rfl

/-- From an offset on, all pages can be listed that a scan reads. -/
theorem scan_eq_from {fuel offset : Nat}
    (hp : ∀ k, offset + k * pageSize ≤ s.flowCount →
      ∃ l, s.flows ⟨(offset + k * pageSize : Nat), pageSize⟩ {} = .ok l)
    (ho : offset ≤ s.flowCount) (hf : s.flowCount < offset + fuel * pageSize) :
    scan s units fuel offset = positiveIntervals s units (s.allFlows.drop offset) := by
  have hsize : pageSize = 100 := rfl
  have hlength := s.length_allFlows
  induction fuel generalizing offset with
  | zero => omega
  | succ fuel ih =>
    obtain ⟨l, hl⟩ := hp 0 (by omega)
    rw [Nat.zero_mul, Nat.add_zero] at hl
    have hpage := Store.flows_ok hl
    rw [scan_succ, hl]
    simp only [bind, Except.bind]
    by_cases hshort : l.length < pageSize
    · -- the last page: the rest of the flows
      have hrest : l = s.allFlows.drop offset := by
        rw [hpage, List.length_take] at hshort
        rw [hpage]
        exact List.take_of_length_le (by omega)
      rw [← hrest]
      cases positiveIntervals s units l with
      | error e => rfl
      | ok r => simp only [if_pos hshort]; rfl
    · have hnext : offset + pageSize ≤ s.flowCount := by
        rw [hpage, List.length_take, List.length_drop] at hshort
        omega
      have hpages : ∀ k, offset + pageSize + k * pageSize ≤ s.flowCount →
          ∃ l, s.flows ⟨(offset + pageSize + k * pageSize : Nat), pageSize⟩ {} = .ok l := by
        intro k hk
        have := hp (k + 1) (by rw [Nat.succ_mul]; omega)
        rwa [Nat.succ_mul, Nat.add_comm (k * pageSize), ← Nat.add_assoc] at this
      have ih := ih hpages hnext (by rw [Nat.succ_mul] at hf; omega)
      rw [← List.take_append_drop pageSize (s.allFlows.drop offset), ← hpage, List.drop_drop,
        positiveIntervals_append, ih]
      simp only [if_neg hshort]
      rfl

/-- A scan of a store that can be listed is one look at all flows. -/
theorem scan_eq (h : s.Lists) : intervals s units = positiveIntervals s units s.allFlows := by
  have hlast : s.flowCount < 0 + (s.flowCount / pageSize + 1) * pageSize := by
    rw [Nat.zero_add, Nat.mul_comm]
    exact Nat.lt_mul_div_succ _ (by decide)
  rw [intervals, scan_eq_from (fun k hk => ?_) (Nat.zero_le _) hlast, List.drop_zero]
  rw [Nat.zero_add] at hk ⊢
  exact h k ((Nat.le_div_iff_mul_le (by decide)).2 hk)

/-- A scan that succeeds has listed all pages. -/
theorem lists_of_scan {fuel offset : Nat} (h : scan s units fuel offset = .ok r) {k : Nat} (hk : k < fuel)
    (hle : offset + k * pageSize ≤ s.flowCount) :
    ∃ l, s.flows ⟨(offset + k * pageSize : Nat), pageSize⟩ {} = .ok l := by
  have hsize : pageSize = 100 := rfl
  have hlength := s.length_allFlows
  induction fuel generalizing offset k r with
  | zero => omega
  | succ fuel ih =>
    rw [scan_succ] at h
    obtain ⟨l, hl, h⟩ := Outcome.bind_eq_ok.1 h
    obtain ⟨first, -, h⟩ := Outcome.bind_eq_ok.1 h
    cases k with
    | zero => exact ⟨l, by simpa using hl⟩
    | succ k =>
      rw [Nat.succ_mul] at hle ⊢
      have hfull : ¬ l.length < pageSize := by
        rw [Store.flows_ok hl, List.length_take, List.length_drop]
        omega
      rw [if_neg hfull] at h
      obtain ⟨rest, hrest, -⟩ := Outcome.bind_eq_ok.1 h
      have := ih hrest (k := k) (by omega) (by omega)
      rwa [Nat.add_assoc, Nat.add_comm pageSize] at this

theorem intervals_error_iff : (∃ e, intervals s units = .error e) ↔
    ¬ s.Lists ∨ ∃ f ∈ s.allFlows, f.status ≠ "disabled" ∧ ∃ e, intervalOf s units f.id = .error e := by
  by_cases h : s.Lists
  · rw [scan_eq h, positiveIntervals_error_iff]
    simp only [h, not_true_eq_false, false_or]
  · simp only [h, not_false_eq_true, true_or, iff_true]
    cases hi : intervals s units with
    | error e => exact ⟨e, rfl⟩
    | ok r =>
      refine absurd (fun k hk => ?_) h
      have hle : 0 + k * pageSize ≤ s.flowCount := by
        rw [Nat.zero_add]
        exact (Nat.le_div_iff_mul_le (by decide)).1 hk
      have := lists_of_scan hi (Nat.lt_succ_of_le hk) hle
      rwa [Nat.zero_add] at this

theorem lists_of_intervals (h : intervals s units = .ok r) : s.Lists := by
  by_contra hl
  obtain ⟨e, he⟩ : ∃ e, intervals s units = .error e := intervals_error_iff.2 (.inl hl)
  cases h.symm.trans he

/-- What a scan finds: the flows that are to be started at an interval, each with it. -/
theorem mem_intervals (h : intervals s units = .ok r) :
    (x, d) ∈ r ↔ ∃ f ∈ s.allFlows, f.id = x ∧ Wants s units f d := by
  rw [scan_eq (lists_of_intervals h)] at h
  exact mem_positiveIntervals h

end Timetable

/-- The interval at which a flow is to be started: none if no flow with this id is stored that is not
disabled, or its interval is not positive. -/
def Store.interval? (s : Store) (units : Fields) (x : String) : Option Double :=
  if s.allFlows.any fun f => f.id == x && f.status != "disabled" then
    (Timetable.intervalOf s units x).toOption.filter Double.zero.lt
  else none

namespace Timetable

theorem interval?_eq_some {s : Store} {units : Fields} {x : String} {d : Double} :
    s.interval? units x = some d ↔ ∃ f ∈ s.allFlows, f.id = x ∧ Wants s units f d := by
  rw [Store.interval?]
  constructor
  · intro h
    split at h
    next hany =>
      obtain ⟨f, hf, hp⟩ := List.any_eq_true.1 hany
      obtain ⟨rfl, hd⟩ : f.id = x ∧ f.status ≠ "disabled" := by simpa using hp
      obtain ⟨ho, hpos⟩ := Option.filter_eq_some_iff.1 h
      refine ⟨f, hf, rfl, hd, ?_, hpos⟩
      cases hi : intervalOf s units f.id with
      | error e => rw [hi] at ho; cases ho
      | ok i => rw [hi] at ho; rw [Option.some.inj ho]
    next => cases h
  · rintro ⟨f, hf, rfl, hw⟩
    rw [if_pos (List.any_eq_true.2 ⟨f, hf, by simp [hw.enabled]⟩), hw.interval]
    exact Option.filter_eq_some_iff.2 ⟨rfl, hw.positive⟩

end Timetable

end Workflow
