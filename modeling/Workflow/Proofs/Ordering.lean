import Mathlib.Order.Defs.LinearOrder
import Workflow.Proofs.Comparability

/-!
# The order behind the comparisons

Two values stand to each other in one of three ways: the left one comes first, neither does, or the right
one does. Finite numbers do by their places, texts by their code points, and values by their numbers if
both have one, else by their texts (`Value.order`). Each of the six relations holds for some of the three
ways (`Relation.admits`), so that one order decides all comparisons of two values (`compare_eq_order`):
they fail together, and otherwise agree with each other (`compare_coherent`).
-/

namespace Workflow

/-! ### Relations -/

namespace Relation

/-- Whether the relation holds between two things that stand to each other in this way. -/
def admits : Relation → Ordering → Bool
  | eq, o => o.isEq
  | neq, o => o.isNe
  | gt, o => o.isGT
  | gte, o => o.isGE
  | lt, o => o.isLT
  | lte, o => o.isLE

/-- The relation that holds just when this one does not. -/
def complement : Relation → Relation
  | eq => neq
  | neq => eq
  | gt => lte
  | gte => lt
  | lt => gte
  | lte => gt

/-- The relation of the right value to the left one. -/
def converse : Relation → Relation
  | eq => eq
  | neq => neq
  | gt => lt
  | gte => lte
  | lt => gt
  | lte => gte

theorem admits_complement (r : Relation) (o : Ordering) : r.complement.admits o = !r.admits o := by
  cases r <;> cases o <;> rfl

theorem admits_swap (r : Relation) (o : Ordering) : r.admits o.swap = r.converse.admits o := by
  cases r <;> cases o <;> rfl

end Relation

/-! ### Numbers -/

namespace Double

variable {x y : Double}

/-- How two numbers stand to each other; both zeros have one place. -/
def order : Double → Double → Ordering
  | number s a _, number t b _ => Ord.compare (place s a) (place t b)
  | _, _ => .eq

theorem order_swap (x y : Double) : y.order x = (x.order y).swap := by
  cases x with
  | nan => cases y <;> rfl
  | number s a _ =>
    cases y with
    | nan => rfl
    | number t b _ => exact Std.OrientedOrd.eq_swap

theorem lt_eq_isLT (x y : Double) : x.lt y = (x.order y).isLT := by
  cases x with
  | nan => rfl
  | number s a _ =>
    cases y with
    | nan => rfl
    | number t b _ =>
      rw [lt, order, Bool.eq_iff_iff, decide_eq_true_eq, Ordering.isLT_iff_eq_lt, Int.compare_eq_lt]

theorem beq_eq_isEq (hx : x.isFinite = true) (hy : y.isFinite = true) : x.beq y = (x.order y).isEq := by
  cases x with
  | nan => cases hx
  | number s a _ =>
    cases y with
    | nan => cases hy
    | number t b _ => rw [beq, order, Bool.eq_iff_iff, beq_iff_eq, Ordering.isEq_iff_eq_eq, Int.compare_eq_eq]

theorem le_eq_isLE (hx : x.isFinite = true) (hy : y.isFinite = true) : x.le y = (x.order y).isLE := by
  cases x with
  | nan => cases hx
  | number s a _ =>
    cases y with
    | nan => cases hy
    | number t b _ => rw [le, order, Bool.eq_iff_iff, decide_eq_true_eq, Int.isLE_compare]

end Double

/-- Of two finite numbers one is below the other, or they are equal. -/
theorem Relation.holdsOfNumbers_eq (r : Relation) {x y : Double} (hx : x.isFinite = true)
    (hy : y.isFinite = true) : r.holdsOfNumbers x y = r.admits (x.order y) := by
  have hge : y.le x = (x.order y).swap.isLE := by rw [Double.le_eq_isLE hy hx, Double.order_swap]
  have hgt : y.lt x = (x.order y).swap.isLT := by rw [Double.lt_eq_isLT, Double.order_swap]
  cases r <;> simp only [holdsOfNumbers, Double.beq_eq_isEq hx hy, Double.le_eq_isLE hx hy,
    Double.lt_eq_isLT x y, hge, hgt, admits] <;> cases x.order y <;> rfl

/-! ### Texts -/

namespace Text

/-- How two texts stand to each other, by their code points. -/
def order (s t : String) : Ordering := Ord.compare (codes s.toList) (codes t.toList)

theorem order_swap (s t : String) : order t s = (order s t).swap := Std.OrientedOrd.eq_swap

theorem precedes_go_eq (as bs : List Nat) : precedes.go as bs = (Ord.compare as bs).isLT := by
  induction as generalizing bs with
  | nil => cases bs <;> rfl
  | cons a as ih =>
    cases bs with
    | nil => rfl
    | cons b bs =>
      rw [precedes.go, ih, List.compare_cons_cons]
      rcases lt_trichotomy a b with h | h | h
      · simp [Nat.compare_eq_lt.2 h, h]
      · simp [h]
      · simp [Nat.compare_eq_gt.2 h, h.ne', h.le]

theorem precedes_eq (s t : String) : precedes s.toList t.toList = (order s t).isLT := precedes_go_eq _ _

theorem codes_beq (s t : String) : (codes s.toList == codes t.toList) = (order s t).isEq := by
  rw [Bool.eq_iff_iff, beq_iff_eq, order, Ordering.isEq_iff_eq_eq, Std.compare_eq_iff_eq]

end Text

theorem Relation.holdsOfTexts_eq (r : Relation) (s t : String) :
    r.holdsOfTexts s t = r.admits (Text.order s t) := by
  have hlt := Text.precedes_eq s t
  have hgt := Text.precedes_eq t s
  rw [Text.order_swap] at hgt
  have heq := Text.codes_beq s t
  cases r <;> simp only [holdsOfTexts, bne, hlt, hgt, heq, admits] <;> cases Text.order s t <;> rfl

/-! ### Values -/

namespace Value

variable {x y : Value}

def orderOfTexts (x y : Value) : Outcome Ordering := do
  return Text.order (← x.toText) (← y.toText)

/-- How two values stand to each other: by their numbers if both have one, else by their texts. -/
def order (x y : Value) : Outcome Ordering := do
  match ← x.toNumber, ← y.toNumber with
  | some a, some b => return a.order b
  | _, _ => orderOfTexts x y

theorem orderOfTexts_map (r : Relation) (x y : Value) :
    (orderOfTexts x y).map r.admits = (do return r.holdsOfTexts (← x.toText) (← y.toText)) := by
  unfold orderOfTexts
  cases x.toText with
  | error f => rfl
  | ok s =>
    cases y.toText with
    | error f => rfl
    | ok t => exact congrArg Except.ok (r.holdsOfTexts_eq s t).symm

/-- The number of a value is finite. -/
theorem isFinite_of_toNumber {d : Double} (h : x.toNumber = .ok (some d)) : d.isFinite = true := by
  cases x with
  | bool b => cases b <;> cases h <;> decide
  | int i =>
    cases hi : Double.ofInt? i with
    | none => simp [toNumber, hi] at h
    | some d' =>
      simp only [toNumber, hi, Except.ok.injEq, Option.some.injEq] at h
      simp only [Double.ofInt?, Option.ite_none_right_eq_some, Option.some.injEq] at hi
      exact h ▸ hi.2 ▸ hi.1
  | float d' =>
    simp only [toNumber, Except.ok.injEq, Option.ite_none_right_eq_some, Option.some.injEq] at h
    exact h.2 ▸ h.1
  | text s =>
    simp only [toNumber, Except.ok.injEq, Option.filter_eq_some_iff] at h
    exact h.2
  | _ => cases h

/-- All comparisons of two values are decided by their order, and fail just if that cannot be told. -/
theorem compare_eq_order (r : Relation) (x y : Value) : compare r x y = (x.order y).map r.admits := by
  unfold compare order
  cases hx : x.toNumber with
  | error f => rfl
  | ok m =>
    cases hy : y.toNumber with
    | error f => rfl
    | ok n =>
      cases m with
      | none => exact (orderOfTexts_map r x y).symm
      | some a =>
        cases n with
        | none => exact (orderOfTexts_map r x y).symm
        | some b =>
          exact congrArg Except.ok (r.holdsOfNumbers_eq (isFinite_of_toNumber hx) (isFinite_of_toNumber hy))

/-- A conversion of the value overflows: it is an integer beyond the floating-point numbers, or has one in
it that is too long to be written. -/
def Overflows (x : Value) : Prop := x.isWide = true ∨ x.HasLongInteger

theorem not_incomparable (hx : ¬ x.Overflows) (hy : ¬ y.Overflows) (f : Failure) : ¬ x.Incomparable y f := by
  intro h
  cases h with
  | wide h => exact h.elim (fun h => hx (.inl h)) fun h => hy (.inl h)
  | long _ _ _ h => exact h.elim (fun h => hx (.inr h)) fun h => hy (.inr h)

theorem Incomparable.symm {f : Failure} (h : x.Incomparable y f) : y.Incomparable x f := by
  cases h with
  | wide h => exact .wide h.symm
  | long hx hy hn h => exact .long hy hx hn.symm h.symm

theorem order_eq_error_iff {f : Failure} (hx : x.Data) (hy : y.Data) :
    x.order y = .error f ↔ x.Incomparable y f := by
  have hcompare : compare .eq x y = .error f ↔ x.Incomparable y f := compare_eq_error_iff hx hy
  rw [← hcompare, compare_eq_order]
  cases x.order y <;> simp [Except.map]

theorem orderOfTexts_swap {o : Ordering} (h : orderOfTexts x y = .ok o) : orderOfTexts y x = .ok o.swap := by
  obtain ⟨s, hs, h⟩ := Outcome.bind_eq_ok.1 h
  obtain ⟨t, ht, h⟩ := Outcome.bind_eq_ok.1 h
  cases h
  rw [orderOfTexts, hs, ht]
  exact congrArg Except.ok (Text.order_swap s t)

theorem order_swap_of_ok {o : Ordering} (h : x.order y = .ok o) : y.order x = .ok o.swap := by
  obtain ⟨m, hm, h⟩ := Outcome.bind_eq_ok.1 h
  obtain ⟨n, hn, h⟩ := Outcome.bind_eq_ok.1 h
  rw [order, hm, hn]
  cases m with
  | none => cases n <;> exact orderOfTexts_swap h
  | some a =>
    cases n with
    | none => exact orderOfTexts_swap h
    | some b =>
      cases h
      exact congrArg Except.ok (Double.order_swap a b)

/-- The other way round two values stand to each other the other way, or fail to in the same way. -/
theorem order_swap (hx : x.Data) (hy : y.Data) : y.order x = (x.order y).map Ordering.swap := by
  cases h : x.order y with
  | ok o => exact order_swap_of_ok h
  | error f => exact (order_eq_error_iff hy hx).2 ((order_eq_error_iff hx hy).1 h).symm

theorem compare_converse (r : Relation) (hx : x.Data) (hy : y.Data) :
    compare r y x = compare r.converse x y := by
  rw [compare_eq_order, compare_eq_order, order_swap hx hy]
  cases x.order y with
  | error f => rfl
  | ok o => exact congrArg Except.ok (r.admits_swap o)

/-- Comparisons of two values agree with each other. The other way round every relation holds just as its
converse does, and fails just as it does. Unless a conversion of one of the values overflows, every
comparison comes out; of below, equal and above just one holds; and at least is above or equal, at most
is below or equal. -/
theorem compare_coherent (hx : x.Data) (hy : y.Data) :
    (∀ r : Relation, compare r y x = compare r.converse x y) ∧
    (¬ x.Overflows → ¬ y.Overflows →
      (∀ r, ∃ b, compare r x y = .ok b) ∧
      (∃ r ∈ [Relation.lt, .eq, .gt], compare r x y = .ok true ∧
        ∀ s ∈ [Relation.lt, .eq, .gt], s ≠ r → compare s x y = .ok false) ∧
      (compare .gte x y = .ok true ↔ compare .gt x y = .ok true ∨ compare .eq x y = .ok true) ∧
      (compare .lte x y = .ok true ↔ compare .lt x y = .ok true ∨ compare .eq x y = .ok true)) := by
  refine ⟨fun r => compare_converse r hx hy, fun hox hoy => ?_⟩
  obtain ⟨o, ho⟩ : ∃ o, x.order y = .ok o := by
    cases ho : x.order y with
    | ok o => exact ⟨o, rfl⟩
    | error f => exact absurd ((order_eq_error_iff hx hy).1 ho) (not_incomparable hox hoy f)
  have hcompare (r : Relation) : compare r x y = .ok (r.admits o) := by
    rw [compare_eq_order, ho]
    rfl
  simp only [hcompare]
  refine ⟨fun r => ⟨_, rfl⟩, ?_, ?_, ?_⟩
  · cases o with
    | lt => exact ⟨.lt, by decide⟩
    | eq => exact ⟨.eq, by decide⟩
    | gt => exact ⟨.gt, by decide⟩
  · cases o <;> decide
  · cases o <;> decide

/-- A list has no number, so that it is compared by its text, even with a truth value. -/
theorem coherent_of_mixed :
    let x : Value := .list [.float .nan, .int (-7)]
    let y : Value := .bool true
    compare .gt y x = compare .lt x y ∧ ∃ r ∈ [Relation.lt, .eq, .gt], compare r x y = .ok true ∧
      ∀ s ∈ [Relation.lt, .eq, .gt], s ≠ r → compare s x y = .ok false := by
  have hx : (Value.list [.float .nan, .int (-7)]).Data := .list (by simpa using ⟨.float _, .int _⟩)
  have hox : ¬ (Value.list [.float .nan, .int (-7)]).Overflows := by
    rintro (h | h)
    · cases h
    · cases h with
      | item hv h =>
        rcases List.mem_pair.1 hv with rfl | rfl
        · cases h
        · exact not_hasLongInteger_of_isWide (by decide) h
  have hoy : ¬ (Value.bool true).Overflows := by
    rintro (h | h) <;> cases h
  obtain ⟨hconverse, hways⟩ := compare_coherent hx (.bool true)
  exact ⟨hconverse .gt, (hways hox hoy).2.1⟩

end Value

end Workflow
