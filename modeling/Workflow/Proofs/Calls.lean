import Mathlib.Algebra.Order.Ring.Int
import Workflow.Proofs.Store

/-!
# Calls on a store

`Store.answers` is what a store answers to calls that come one after the other, and `Store.after` what it
is then. A write takes place where no write is to fail and, if the records are in tables, these accept it
(`Store.write_total`): the texts can be written as bytes (`Text.Whole`) and no row has the key of a new one.
-/

namespace Workflow

namespace Store

variable {κ α : Type} {perform : κ → Access α} {s : Store} {c : κ} {cs : List κ}

/-- What a store answers to calls, one after the other; a call that fails is followed by the others. -/
def answers (perform : κ → Access α) : List κ → Store → List (Outcome α)
  | [], _ => []
  | c :: cs, s => (perform c s).1 :: answers perform cs (perform c s).2

/-- What a store is after calls. -/
def after (perform : κ → Access α) (cs : List κ) (s : Store) : Store :=
  cs.foldl (fun s c => (perform c s).2) s

theorem answers_cons {r : Outcome α} {s' : Store} (h : perform c s = (r, s')) :
    answers perform (c :: cs) s = r :: answers perform cs s' := by
  rw [answers, h]

theorem after_cons {r : Outcome α} {s' : Store} (h : perform c s = (r, s')) :
    after perform (c :: cs) s = after perform cs s' := by
  rw [after, List.foldl_cons, h, after]

end Store

/-! ### Texts that fit a column -/

/-- No code point of the text is half of a surrogate pair, so that it can be written as bytes. -/
def Text.Whole (s : String) : Prop := ∀ code ∈ Text.codes s.toList, Text.isHalf code = false

instance (s : String) : Decidable (Text.Whole s) :=
  inferInstanceAs (Decidable (∀ code ∈ Text.codes s.toList, Text.isHalf code = false))

theorem Text.refusedHalves?_eq_none {codes : List Nat} (h : ∀ code ∈ codes, Text.isHalf code = false)
    (place : Nat) : Text.refusedHalves? Text.isHalf place codes = none := by
  induction codes generalizing place with
  | nil => rfl
  | cons code rest ih =>
    rw [refusedHalves?, if_neg (by simp [h code])]
    exact ih (fun c hc => h c (by simp [hc])) _

theorem Text.Whole.ofHalves? {s : String} (h : Text.Whole s) : Failure.ofHalves? s = none := by
  rw [Failure.ofHalves?, Text.refusedHalves?_eq_none h, Option.map_none]

theorem fitColumns_of_whole {texts : List String} (h : ∀ s ∈ texts, Text.Whole s) :
    fitColumns texts = .ok () := by
  have hnone : texts.findSome? Failure.ofHalves? = none :=
    List.findSome?_eq_none_iff.2 fun s hs => (h s hs).ofHalves?
  rw [fitColumns, hnone]

theorem textColumn_of_whole {s : String} (h : Text.Whole s) : textColumn s = .ok s := by
  rw [textColumn, h.ofHalves?]

theorem insertRow_of_new {α κ : Type} [BEq κ] [LawfulBEq κ] {key : α → κ} {row : α} {rows : List α}
    (h : ∀ r ∈ rows, key r ≠ key row) : insertRow key row rows = .ok (rows ++ [row]) := by
  have hany : ¬ rows.any (key · == key row) = true := by simpa using h
  rw [insertRow, if_neg hany]

/-! ### Shelves -/

namespace Shelf

variable {α : Type} {key : α → String} {s : Shelf α}

theorem Keyed.has_eq (h : s.Keyed key) (name : String) : s.has name = s.values.any (key · == name) := by
  rw [Bool.eq_iff_iff, h.has_iff]
  simp

theorem Keyed.remove (h : s.Keyed key) (name : String) : (s.remove name).Keyed key := fun p hp =>
  h p (List.mem_filter.1 hp).1

theorem Keyed.values_remove (h : s.Keyed key) (name : String) :
    (s.remove name).values = s.values.filter (key · != name) := by
  rw [values, Shelf.remove, values, List.filter_map]
  exact congrArg _ (List.filter_congr fun p hp => by rw [h p hp, Function.comp_apply])

theorem get?_put (s : Shelf α) (name x : String) (a : α) :
    (s.put name a).get? x = if name = x then some a else s.get? x := by
  have hkey : ∀ e : String × α, (if e.1 == name then (name, a) else e).1 = e.1 := by
    intro e
    split
    next h => exact (beq_iff_eq.1 h).symm
    next => rfl
  unfold put
  split
  next hhas =>
    simp only [get?, List.find?_map, Function.comp_def, hkey, Option.map_map]
    cases hf : s.find? (·.1 == x) with
    | none =>
      obtain ⟨e, he, hname⟩ := List.any_eq_true.1 hhas
      have hx : name ≠ x := fun hx => List.find?_eq_none.1 hf e he (hx ▸ hname)
      rw [if_neg hx]
      rfl
    | some e =>
      have hex : e.1 = x := beq_iff_eq.1 (List.find?_some (p := fun e : String × α => e.1 == x) hf)
      by_cases hx : name = x
      · simp [hex, hx]
      · simp [hex, hx, Ne.symm hx]
  next hnew =>
    have hnone : s.find? (·.1 == name) = none :=
      List.find?_eq_none.2 fun e he hname => hnew (List.any_eq_true.2 ⟨e, he, hname⟩)
    by_cases hx : name = x
    · simp [get?, List.find?_append, ← hx, hnone]
    · simp [get?, List.find?_append, hx]

theorem get?_remove (s : Shelf α) (name x : String) :
    (s.remove name).get? x = if name = x then none else s.get? x := by
  rw [get?, remove, List.find?_filter]
  by_cases hx : name = x
  · rw [if_pos hx, List.find?_eq_none.2 fun e _ => by simp [hx]]
    rfl
  · rw [if_neg hx, get?]
    congr 2
    funext e
    by_cases he : e.1 = x
    · simp [he, Ne.symm hx]
    · simp [he]

end Shelf

/-! ### Pages -/

/-- A page that does not count from the end is the window of a query. -/
theorem Page.slice_eq_window {α : Type} {p : Page} (ho : 0 ≤ p.offset) (hl : 0 ≤ p.limit) (items : List α) :
    p.slice items = p.window items := by
  obtain ⟨⟨o, ho⟩, l, hl⟩ : (∃ o : Nat, p.offset = o) ∧ ∃ l : Nat, p.limit = l :=
    ⟨Int.eq_ofNat_of_zero_le ho, Int.eq_ofNat_of_zero_le hl⟩
  have hplace : ∀ n : Nat, Page.place items.length n = min n items.length := fun n => by
    rw [place, if_neg (by omega), Int.toNat_natCast]
  rw [slice, window, ho, hl, ← Int.natCast_add, hplace, hplace, if_neg (by omega), Int.toNat_natCast,
    Int.toNat_natCast, ← List.take_eq_take_min, List.drop_take]
  rcases Nat.le_total o items.length with h | h
  · rw [Nat.min_eq_left h, Nat.add_sub_cancel_left]
  · rw [Nat.min_eq_right h, List.drop_length, List.drop_eq_nil_of_le h, List.take_nil, List.take_nil]

/-- A page with room for all items has them all. -/
theorem Page.window_eq_self {α : Type} {p : Page} {items : List α} (ho : p.offset = 0)
    (hl : items.length ≤ p.limit) : p.window items = items := by
  rw [window, ho, if_neg (by omega)]
  exact List.take_of_length_le (by simp; omega)

theorem columnInteger?_of_nonneg {i : Int} (h : 0 ≤ i) :
    columnInteger? i = if i < 2 ^ 63 then some i else none := by
  have hpow : (twoTo 63 : Int) = 2 ^ 63 := by decide
  have hlow : -(2 ^ 63 : Int) ≤ i := by omega
  simp only [columnInteger?, hpow, hlow, decide_true, Bool.true_and, decide_eq_true_eq]

theorem Page.forTables_of_nonneg {p : Page} (ho : 0 ≤ p.offset) (hl : 0 ≤ p.limit) :
    p.forTables = if p.offset < 2 ^ 63 ∧ p.limit < 2 ^ 63 then .ok p else .error .wideInteger := by
  rw [forTables, columnInteger?_of_nonneg ho, columnInteger?_of_nonneg hl]
  by_cases h : p.offset < 2 ^ 63 <;> by_cases h' : p.limit < 2 ^ 63 <;>
    simp only [h, h', and_self, and_true, and_false, if_true, if_false]

namespace Store

/-! ### Writes that take place -/

section Write

variable {s s' : Store} {w : Write} {α : Type} {f : Memory → Memory × α} {g : Tables → Outcome (Tables × α)}
  {a : α}

/-- A write that no outage meets and that the tables accept. -/
theorem write_total (hs : s.outages = []) (hf : ∀ m, s.records = .memory m → (f m).2 = a)
    (hg : ∀ t, s.records = .tables t → ∃ t', g t = .ok (t', a)) :
    ∃ s', write w f g s = (.ok a, s') ∧ s'.outages = [] := by
  cases hr : s.records with
  | memory m =>
    refine ⟨{ s with records := .memory (f m).1 }, ?_, hs⟩
    simp only [write, Stateful.bind_apply, attempt_calm hs, Stateful.get_apply, hr, Stateful.set_apply,
      Stateful.pure_apply, hf m hr]
  | tables t =>
    obtain ⟨t', ht⟩ := hg t hr
    refine ⟨{ s with records := .tables t' }, ?_, hs⟩
    simp only [write, Stateful.bind_apply, attempt_calm hs, Stateful.get_apply, hr, ht,
      Stateful.ofExcept_apply, Stateful.set_apply, Stateful.pure_apply]

/-- Whether the records are in tables. -/
def inTables (s : Store) : Bool :=
  match s.records with
  | .memory _ => false
  | .tables _ => true

theorem inTables_of_write (h : write w f g s = (.ok a, s')) : s'.inTables = s.inTables := by
  rcases write_ok h with ⟨m, hm, hm'⟩ | ⟨t, t', ht, -, ht'⟩
  · rw [inTables, hm', inTables, hm]
  · rw [inTables, ht', inTables, ht]

end Write

end Store

end Workflow
