import Mathlib.Data.List.Basic
import Workflow.Value.Number

/-!
# Values that cannot be written or counted

A value has no text in a sentence just if an integer in it has too many digits, be it a part or a key
(`plain_error_iff`). It has no JSON text just if some part or key of it cannot be written; the fault is then
that of one of them (`unwritable_of_json`, `Unwritable.json_ne_ok`). It has no number only if it is an
integer that is too large for one (`asDouble?_error_iff`).
-/

namespace Workflow

/-- Induction over the parts of a value. -/
@[elab_as_elim]
theorem Value.byParts {motive : Value → Prop} (null : motive .null) (bool : ∀ b, motive (.bool b))
    (int : ∀ i, motive (.int i)) (float : ∀ d, motive (.float d)) (text : ∀ s, motive (.text s))
    (list : ∀ items, (∀ v ∈ items, motive v) → motive (.list items))
    (pair : ∀ a b, motive a → motive b → motive (.pair a b))
    (object : ∀ fields : Fields, (∀ p ∈ fields, motive p.2) → motive (.object fields))
    (foreign : ∀ f, motive (.foreign f)) (v : Value) : motive v := by
  induction hn : sizeOf v using Nat.strongRecOn generalizing v with
  | _ n ih =>
    subst hn
    cases v with
    | null => exact null
    | bool b => exact bool b
    | int i => exact int i
    | float d => exact float d
    | text s => exact text s
    | list items =>
      refine list items fun v hv => ih _ ?_ v rfl
      have := List.sizeOf_lt_of_mem hv
      simp only [Value.list.sizeOf_spec]
      omega
    | pair a b =>
      refine pair a b (ih _ ?_ a rfl) (ih _ ?_ b rfl) <;>
        simp only [Value.pair.sizeOf_spec] <;> omega
    | object fields =>
      refine object fields fun p hp => ih _ ?_ p.2 rfl
      have := List.sizeOf_lt_of_mem hp
      obtain ⟨k, v⟩ := p
      simp only [Value.object.sizeOf_spec, Prod.mk.sizeOf_spec] at this ⊢
      omega
    | foreign f => exact foreign f

namespace Value

/-- Some part of a value is of a kind, or some key in it. -/
inductive Holds (part : Value → Prop) (key : Key → Prop) : Value → Prop where
  | self {v : Value} (h : part v) : Holds part key v
  | item {items : List Value} {v : Value} (hv : v ∈ items) (h : Holds part key v) :
      Holds part key (.list items)
  | first {a b : Value} (h : Holds part key a) : Holds part key (.pair a b)
  | second {a b : Value} (h : Holds part key b) : Holds part key (.pair a b)
  | key {fields : Fields} {p : Key × Value} (hp : p ∈ fields) (h : key p.1) :
      Holds part key (.object fields)
  | field {fields : Fields} {p : Key × Value} (hp : p ∈ fields) (h : Holds part key p.2) :
      Holds part key (.object fields)

/-- An integer in the value, or in a key of it, has more digits than are written. -/
def HoldsLong : Value → Prop :=
  Holds (fun v => ∃ i, v = .int i ∧ intText? i = none) fun k => ∃ i, k = .int i ∧ intText? i = none

variable {v : Value} {items : List Value} {fields : Fields}

/-! ### Texts in a sentence -/

theorem itemsQuoted?_eq_none_iff : itemsQuoted? items = none ↔ ∃ v ∈ items, v.quoted? = none := by
  induction items with
  | nil => simp [itemsQuoted?]
  | cons v rest ih =>
    rw [List.exists_mem_cons_iff, ← ih, itemsQuoted?]
    cases v.quoted? <;> cases itemsQuoted? rest <;> simp

theorem fieldsQuoted?_eq_none_iff :
    fieldsQuoted? fields = none ↔ ∃ p ∈ fields, p.1.quoted? = none ∨ p.2.quoted? = none := by
  induction fields with
  | nil => simp [fieldsQuoted?]
  | cons p rest ih =>
    obtain ⟨key, v⟩ := p
    rw [List.exists_mem_cons_iff, ← ih, fieldsQuoted?]
    cases key.quoted? <;> cases v.quoted? <;> cases fieldsQuoted? rest <;> simp

theorem key_quoted?_eq_none_iff {k : Key} : k.quoted? = none ↔ ∃ i, k = .int i ∧ intText? i = none := by
  cases k <;> simp [Key.quoted?]

theorem holdsLong_of_quoted? (h : v.quoted? = none) : v.HoldsLong := by
  induction v using Value.byParts with
  | int i => exact .self ⟨i, rfl, by simpa only [quoted?] using h⟩
  | list items ih =>
    rw [quoted?, Option.map_eq_none_iff, itemsQuoted?_eq_none_iff] at h
    obtain ⟨w, hw, hq⟩ := h
    exact .item hw (ih w hw hq)
  | pair a b iha ihb =>
    cases ha : a.quoted? with
    | none => exact .first (iha ha)
    | some s =>
      cases hb : b.quoted? with
      | none => exact .second (ihb hb)
      | some t => simp [quoted?, ha, hb] at h
  | object fields ih =>
    rw [quoted?, Option.map_eq_none_iff, fieldsQuoted?_eq_none_iff] at h
    obtain ⟨p, hp, hk | hq⟩ := h
    · exact .key hp (key_quoted?_eq_none_iff.1 hk)
    · exact .field hp (ih p hp hq)
  | _ => simp [quoted?] at h

theorem quoted?_eq_none_iff : v.quoted? = none ↔ v.HoldsLong := by
  refine ⟨holdsLong_of_quoted?, fun h => ?_⟩
  induction h with
  | self h =>
    obtain ⟨i, rfl, hi⟩ := h
    simpa only [quoted?] using hi
  | item hv _ ih => rw [quoted?, itemsQuoted?_eq_none_iff.2 ⟨_, hv, ih⟩, Option.map_none]
  | first _ ih => simp [quoted?, ih]
  | @second a b _ ih => cases ha : a.quoted? <;> simp [quoted?, ha, ih]
  | key hp h =>
    rw [quoted?, fieldsQuoted?_eq_none_iff.2 ⟨_, hp, .inl (key_quoted?_eq_none_iff.2 h)⟩, Option.map_none]
  | field hp _ ih => rw [quoted?, fieldsQuoted?_eq_none_iff.2 ⟨_, hp, .inr ih⟩, Option.map_none]

theorem plain?_eq_none_iff : v.plain? = none ↔ v.HoldsLong := by
  rw [← quoted?_eq_none_iff]
  cases v <;> simp [plain?, quoted?]

theorem plain_error_iff {f : Failure} : v.plain = .error f ↔ v.HoldsLong ∧ f = .longInteger := by
  rw [← plain?_eq_none_iff, plain]
  cases v.plain? with
  | none => simp [eq_comm]
  | some s => simp

/-- What holds an integer that is too long counts as given. -/
theorem HoldsLong.isGiven (h : v.HoldsLong) : v.isGiven = true := by
  cases h with
  | self h =>
    obtain ⟨i, rfl, hi⟩ := h
    have hne : i ≠ 0 := by
      rintro rfl
      exact absurd hi (by decide +kernel)
    simpa [Value.isGiven] using hne
  | item hv _ => simpa [Value.isGiven] using List.ne_nil_of_mem hv
  | first _ => rfl
  | second _ => rfl
  | key hp _ => simpa [Value.isGiven] using List.ne_nil_of_mem hp
  | field hp _ => simpa [Value.isGiven] using List.ne_nil_of_mem hp

theorem not_holdsLong_text (s : String) : ¬ (Value.text s).HoldsLong := fun h => by
  cases h with
  | self h => obtain ⟨i, hi, -⟩ := h; cases hi

/-! ### JSON text -/

/-- A scalar that cannot be written. -/
def IsFault (style : JsonStyle) (e : JsonFault) : Value → Prop
  | .int i => Json.intText i = .error e
  | .foreign f => Json.foreignText style f = .error e
  | _ => False

/-- Some part or key of a value cannot be written. -/
def Unwritable (style : JsonStyle) (e : JsonFault) : Value → Prop :=
  Holds (IsFault style e) fun k => Json.keyText style k = .error e

end Value

namespace Json

variable {style : JsonStyle} {level : Nat} {v : Value} {items : List Value} {fields : Fields} {e : JsonFault}

theorem writeItems_fault (h : writeItems style level items = .error e) :
    ∃ v ∈ items, writeAt style level v = .error e := by
  induction items with
  | nil => cases h
  | cons v rest ih =>
    rw [writeItems] at h
    cases hv : writeAt style level v with
    | error f =>
      rw [hv] at h
      cases h
      exact ⟨v, by simp, hv⟩
    | ok s =>
      cases hr : writeItems style level rest with
      | error f =>
        rw [hv, hr] at h
        cases h
        obtain ⟨w, hw, hf⟩ := ih hr
        exact ⟨w, by simp [hw], hf⟩
      | ok parts => rw [hv, hr] at h; cases h

theorem writeFields_fault (h : writeFields style level fields = .error e) :
    ∃ p ∈ fields, keyText style p.1 = .error e ∨ writeAt style level p.2 = .error e := by
  induction fields with
  | nil => cases h
  | cons p rest ih =>
    obtain ⟨key, v⟩ := p
    rw [writeFields] at h
    cases hk : keyText style key with
    | error f =>
      rw [hk] at h
      cases h
      exact ⟨(key, v), List.mem_cons_self, .inl hk⟩
    | ok name =>
      cases hv : writeAt style level v with
      | error f =>
        rw [hk, hv] at h
        cases h
        exact ⟨(key, v), List.mem_cons_self, .inr hv⟩
      | ok s =>
        cases hr : writeFields style level rest with
        | error f =>
          rw [hk, hv, hr] at h
          cases h
          obtain ⟨q, hq, hf⟩ := ih hr
          exact ⟨q, by simp [hq], hf⟩
        | ok parts => rw [hk, hv, hr] at h; cases h

theorem writeItems_ok {parts : List String} (h : writeItems style level items = .ok parts) :
    ∀ v ∈ items, ∃ s, writeAt style level v = .ok s := by
  induction items generalizing parts with
  | nil => simp
  | cons v rest ih =>
    rw [writeItems] at h
    cases hv : writeAt style level v with
    | error f => rw [hv] at h; cases h
    | ok s =>
      cases hr : writeItems style level rest with
      | error f => rw [hv, hr] at h; cases h
      | ok others => exact List.forall_mem_cons.2 ⟨⟨s, hv⟩, ih hr⟩

theorem writeFields_ok {parts : List String} (h : writeFields style level fields = .ok parts) :
    ∀ p ∈ fields, (∃ s, keyText style p.1 = .ok s) ∧ ∃ s, writeAt style level p.2 = .ok s := by
  induction fields generalizing parts with
  | nil => simp
  | cons p rest ih =>
    obtain ⟨key, v⟩ := p
    rw [writeFields] at h
    cases hk : keyText style key with
    | error f => rw [hk] at h; cases h
    | ok name =>
      cases hv : writeAt style level v with
      | error f => rw [hk, hv] at h; cases h
      | ok s =>
        cases hr : writeFields style level rest with
        | error f => rw [hk, hv, hr] at h; cases h
        | ok others => exact List.forall_mem_cons.2 ⟨⟨⟨name, hk⟩, s, hv⟩, ih hr⟩

/-- The fault of a value is that of a part or key of it. -/
theorem unwritable_of_writeAt (h : writeAt style level v = .error e) : v.Unwritable style e := by
  induction v using Value.byParts generalizing level with
  | int i =>
    rw [writeAt] at h
    exact .self h
  | foreign f =>
    rw [writeAt] at h
    exact .self h
  | list items ih =>
    rw [writeAt] at h
    cases hp : writeItems style (level + 1) items with
    | ok parts => rw [hp] at h; cases h
    | error f =>
      rw [hp] at h
      cases h
      obtain ⟨w, hw, hf⟩ := writeItems_fault hp
      exact .item hw (ih w hw hf)
  | pair a b iha ihb =>
    rw [writeAt] at h
    cases ha : writeAt style (level + 1) a with
    | error f =>
      rw [ha] at h
      cases h
      exact .first (iha ha)
    | ok s =>
      cases hb : writeAt style (level + 1) b with
      | error f =>
        rw [ha, hb] at h
        cases h
        exact .second (ihb hb)
      | ok t => rw [ha, hb] at h; cases h
  | object fields ih =>
    rw [writeAt] at h
    cases hp : writeFields style (level + 1) fields with
    | ok parts => rw [hp] at h; cases h
    | error f =>
      rw [hp] at h
      cases h
      obtain ⟨p, hp, hk | hf⟩ := writeFields_fault hp
      · exact .key hp hk
      · exact .field hp (ih p hp hf)
  | _ => rw [writeAt] at h; cases h

/-- A value with a part or key that cannot be written is not written. -/
theorem writeAt_ne_ok (h : v.Unwritable style e) (level : Nat) (s : String) :
    writeAt style level v ≠ .ok s := by
  intro hs
  induction h generalizing level s with
  | @self v h =>
    cases v with
    | int i => rw [writeAt, show intText i = .error e from h] at hs; cases hs
    | foreign f => rw [writeAt, show foreignText style f = .error e from h] at hs; cases hs
    | _ => exact h
  | @item items v hv _ ih =>
    rw [writeAt] at hs
    cases hp : writeItems style (level + 1) items with
    | error f => rw [hp] at hs; cases hs
    | ok parts =>
      obtain ⟨t, ht⟩ := writeItems_ok hp v hv
      exact ih _ _ ht
  | @first a b _ ih =>
    rw [writeAt] at hs
    cases ha : writeAt style (level + 1) a with
    | error f => rw [ha] at hs; cases hs
    | ok t => exact ih _ _ ha
  | @second a b _ ih =>
    rw [writeAt] at hs
    cases ha : writeAt style (level + 1) a with
    | error f => rw [ha] at hs; cases hs
    | ok t =>
      cases hb : writeAt style (level + 1) b with
      | error f => rw [ha, hb] at hs; cases hs
      | ok u => exact ih _ _ hb
  | @key fields p hp h =>
    rw [writeAt] at hs
    cases hw : writeFields style (level + 1) fields with
    | error f => rw [hw] at hs; cases hs
    | ok parts =>
      obtain ⟨⟨t, ht⟩, -⟩ := writeFields_ok hw p hp
      cases h.symm.trans ht
  | @field fields p hp _ ih =>
    rw [writeAt] at hs
    cases hw : writeFields style (level + 1) fields with
    | error f => rw [hw] at hs; cases hs
    | ok parts =>
      obtain ⟨-, t, ht⟩ := writeFields_ok hw p hp
      exact ih _ _ ht

end Json

namespace Value

variable {v : Value} {style : JsonStyle}

theorem unwritable_of_json {f : Failure} (h : v.json style = .error f) :
    ∃ e, v.Unwritable style e ∧ f = e.toFailure := by
  rw [json, Json.write] at h
  cases hw : Json.writeAt style 0 v with
  | ok s => rw [hw] at h; cases h
  | error e =>
    rw [hw] at h
    exact ⟨e, Json.unwritable_of_writeAt hw, (Except.error.inj h).symm⟩

theorem Unwritable.json_ne_ok {e : JsonFault} (h : v.Unwritable style e) (s : String) :
    v.json style ≠ .ok s := by
  rw [json, Json.write]
  cases hw : Json.writeAt style 0 v with
  | ok t => exact absurd hw (Json.writeAt_ne_ok h 0 t)
  | error f => nofun

/-! ### Numbers -/

theorem asDouble?_error_iff {f : Failure} :
    v.asDouble? = .error f ↔ ∃ i, v = .int i ∧ Double.ofInt? i = none ∧ f = .integerOverflow := by
  constructor
  · intro h
    unfold Value.asDouble? at h
    split at h
    next i =>
      split at h
      next => cases h
      next hi => exact ⟨i, rfl, hi, (Except.error.inj h).symm⟩
    all_goals cases h
  · rintro ⟨i, rfl, hi, rfl⟩
    simp only [Value.asDouble?, hi]

/-- Where what is not given counts as zero. -/
theorem asDouble?_orElse_error_iff {f : Failure} : (v.orElse (.int 0)).asDouble? = .error f ↔
    ∃ i, v = .int i ∧ Double.ofInt? i = none ∧ f = .integerOverflow := by
  have hzero : Double.ofInt? 0 ≠ none := by decide +kernel
  rw [asDouble?_error_iff, orElse]
  split
  next => rfl
  next hg =>
    -- neither the zero nor what is not given is too large
    constructor
    · rintro ⟨i, hi, ho, -⟩
      cases hi
      exact absurd ho hzero
    · rintro ⟨i, rfl, ho, -⟩
      obtain rfl : i = 0 := by simpa [isGiven] using hg
      exact absurd ho hzero

end Value

end Workflow
