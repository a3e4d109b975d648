import Mathlib.Algebra.Order.Ring.Nat
import Mathlib.Data.List.Induction
import Workflow.Json.Reader
import Workflow.Proofs.Stateful

/-!
# JSON values

Of the values that there are, JSON text can hold those without foreign scalars and pairs, whose
objects have text keys and whose integers are short enough to be written (`Value.isJson`). What is
read from JSON text is such a value (`Value.isJson_of_read`), and every such value can be written in
every style (`Value.exists_json`).
-/

namespace Workflow

theorem tenTo_le_tenTo {m n : Nat} (h : m ≤ n) : tenTo m ≤ tenTo n :=
  Nat.pow_le_pow_right (by decide) h

theorem tenTo_pos (n : Nat) : 0 < tenTo n := Nat.pow_pos (by decide)

theorem tenTo_succ (n : Nat) : tenTo (n + 1) = tenTo n * 10 := rfl

def Key.isText : Key → Bool
  | .text _ => true
  | _ => false

namespace Value

mutual

/-- Whether JSON text can hold a value. -/
def isJson : Value → Bool
  | .int i => (intText? i).isSome
  | .list items => itemsJson items
  | .object fields => fieldsJson fields
  | .pair _ _ => false
  | .foreign _ => false
  | _ => true

def itemsJson : List Value → Bool
  | [] => true
  | v :: rest => v.isJson && itemsJson rest

def fieldsJson : List (Key × Value) → Bool
  | [] => true
  | (key, v) :: rest => key.isText && v.isJson && fieldsJson rest

end

theorem isJson_int {i : Int} (h : i.natAbs < tenTo Numeral.digitLimit) :
    (Value.int i).isJson = true := by
  simp only [isJson, intText?, if_pos h, Option.isSome_some]

theorem itemsJson_iff {items : List Value} :
    itemsJson items = true ↔ ∀ v ∈ items, v.isJson = true := by
  induction items with
  | nil => simp [itemsJson]
  | cons v rest ih => simp [itemsJson, ih]

theorem fieldsJson_iff {fields : Fields} :
    fieldsJson fields = true ↔ ∀ p ∈ fields, p.1.isText = true ∧ p.2.isJson = true := by
  induction fields with
  | nil => simp [fieldsJson]
  | cons p rest ih => simp [fieldsJson, ih, and_assoc]

theorem get?_mem {name : String} {v : Value} : ∀ {fields : Fields},
    Fields.get? name fields = some v → (.text name, v) ∈ fields
  | (key, w) :: rest, h => by
    unfold Fields.get? at h
    split at h
    next hk =>
      cases h
      subst hk
      exact List.mem_cons_self
    next => exact List.mem_cons_of_mem _ (get?_mem h)

theorem isJson_field? {name : String} {v w : Value} (h : v.isJson = true)
    (hw : v.field? name = some w) : w.isJson = true := by
  cases v with
  | object fields => exact (fieldsJson_iff.1 h _ (get?_mem hw)).2
  | _ => cases hw

theorem field_eq (name : String) (v : Value) : v.field name = (v.field? name).getD .null := by
  cases v <;> rfl

theorem isJson_field {v : Value} (h : v.isJson = true) (name : String) :
    (v.field name).isJson = true := by
  rw [field_eq]
  cases hw : v.field? name with
  | none => rfl
  | some w => exact isJson_field? h hw

theorem isJson_orElse {v w : Value} (hv : v.isJson = true) (hw : w.isJson = true) :
    (v.orElse w).isJson = true := by
  unfold orElse
  split
  · exact hv
  · exact hw

theorem isJson_ofOption_text (o : Option String) : (Value.ofOption .text o).isJson = true := by
  cases o <;> rfl

theorem isJson_record {entries : List (String × Value)}
    (h : ∀ p ∈ entries, p.2.isJson = true) : (Value.record entries).isJson = true := by
  refine fieldsJson_iff.2 fun p hp => ?_
  obtain ⟨q, hq, rfl⟩ := List.mem_map.1 hp
  exact ⟨rfl, h q hq⟩

end Value

/-! ### What is read -/

namespace Json

open Value

theorem mem_set {key : Key} {v : Value} {p : Key × Value} : ∀ {fields : Fields},
    p ∈ Fields.set key v fields → p ∈ fields ∨ p.2 = v ∧ (p.1 = key ∨ ∃ q ∈ fields, p.1 = q.1)
  | [], h => by
    rw [Fields.set, List.mem_singleton] at h
    exact .inr ⟨by rw [h], .inl (by rw [h])⟩
  | (k, w) :: rest, h => by
    unfold Fields.set at h
    split at h <;> rcases List.mem_cons.1 h with rfl | h
    · exact .inr ⟨rfl, .inr ⟨_, List.mem_cons_self, rfl⟩⟩
    · exact .inl (List.mem_cons_of_mem _ h)
    · exact .inl List.mem_cons_self
    · rcases mem_set h with h | ⟨hv, hk | ⟨q, hq, hk⟩⟩
      · exact .inl (List.mem_cons_of_mem _ h)
      · exact .inr ⟨hv, .inl hk⟩
      · exact .inr ⟨hv, .inr ⟨q, List.mem_cons_of_mem _ hq, hk⟩⟩

theorem fieldsJson_set {key : Key} {v : Value} {fields : Fields} (hk : key.isText = true)
    (hv : v.isJson = true) (h : fieldsJson fields = true) :
    fieldsJson (Fields.set key v fields) = true := by
  rw [fieldsJson_iff] at h ⊢
  intro p hp
  rcases mem_set hp with hp | ⟨hv', hk' | ⟨q, hq, hk'⟩⟩
  · exact h p hp
  · exact ⟨hk' ▸ hk, hv' ▸ hv⟩
  · exact ⟨hk' ▸ (h q hq).1, hv' ▸ hv⟩

theorem fieldsJson_ofList {entries : Fields} (h : fieldsJson entries = true) :
    fieldsJson (Fields.ofList entries) = true := by
  suffices ∀ fields : Fields, fieldsJson fields = true → fieldsJson
      (entries.foldl (fun fields (p : Key × Value) => Fields.set p.1 p.2 fields) fields) = true from
    this [] rfl
  induction entries with
  | nil => exact fun fields hf => hf
  | cons p rest ih =>
    intro fields hf
    rw [fieldsJson_iff, List.forall_mem_cons, ← fieldsJson_iff] at h
    exact ih h.2 _ (fieldsJson_set h.1.1 h.1.2 hf)

theorem ofDigits_lt {ds : List Nat} (h : ∀ d ∈ ds, d < 10) :
    Numeral.ofDigits ds < tenTo ds.length := by
  induction ds using List.reverseRecOn with
  | nil => decide
  | append_singleton ds d ih =>
    have hd : d < 10 := h d (by simp)
    have hlt := ih fun d hd => h d (by simp [hd])
    simp only [Numeral.ofDigits, List.foldl_append, List.foldl_cons, List.foldl_nil,
      List.length_append, List.length_singleton, tenTo_succ] at hlt ⊢
    omega

theorem mem_digits {cs : List Char} {d : Nat} (h : d ∈ (digits cs).1) : d < 10 := by
  obtain ⟨c, hc, rfl⟩ := List.mem_map.1 h
  have hdigit : c.isDigit = true := by simpa using List.all_eq_true.1 List.all_takeWhile c hc
  have hnine : c.toNat ≤ '9'.toNat := by
    simp only [Char.isDigit, Bool.and_eq_true, decide_eq_true_eq] at hdigit
    exact hdigit.2
  have : '9'.toNat = 57 := rfl
  omega

theorem isJson_numeral {ds : List Nat} {negative : Bool} (hd : ∀ d ∈ ds, d < 10)
    (hlen : ds.length ≤ Numeral.digitLimit) :
    (Value.int (if negative then -(Numeral.ofDigits ds : Int) else Numeral.ofDigits ds)).isJson
      = true := by
  have hlt : Numeral.ofDigits ds < tenTo Numeral.digitLimit :=
    lt_of_lt_of_le (ofDigits_lt hd) (tenTo_le_tenTo hlen)
  refine isJson_int ?_
  split
  · rwa [Int.natAbs_neg, Int.natAbs_natCast]
  · rwa [Int.natAbs_natCast]

variable {cs rest : List Char} {v : Value} {fuel depth : Nat}

theorem isJson_number {negative : Bool} (h : number .document negative cs = .ok (v, rest)) :
    v.isJson = true := by
  unfold number at h
  split at h
  rename_i whole tail hw
  have hwhole : ∀ d ∈ whole, d < 10 := by
    intro d hd
    split at hw
    · cases hw
      rw [List.mem_singleton.1 hd]
      decide
    · exact mem_digits (by rw [hw]; exact hd)
  split at h
  · cases h
  split at h
  · split at h
    · cases h
    next hlen =>
      cases h
      exact isJson_numeral hwhole (by simpa [JsonLimits.document] using hlen)
  · cases h
    rfl
  · split at h <;> cases h <;> rfl

theorem isJson_named {w : String} {u : Value} (hu : u.isJson = true)
    (h : scalar.named cs w u = .ok (v, rest)) : v.isJson = true := by
  unfold scalar.named at h
  split at h <;> cases h
  exact hu

theorem isJson_scalar (h : scalar .document cs = .ok (v, rest)) : v.isJson = true := by
  unfold scalar at h
  split at h
  · exact isJson_named rfl h
  · exact isJson_named rfl h
  · exact isJson_named rfl h
  · exact isJson_named rfl h
  · exact isJson_named rfl h
  · split at h
    · cases h
      rfl
    · exact isJson_number h
  · exact isJson_number h

mutual

theorem isJson_valueAt : ∀ {fuel depth : Nat} {cs rest : List Char} {v : Value},
    valueAt .document fuel depth cs = .ok (v, rest) → v.isJson = true
  | fuel + 1, depth, cs, rest, v, h => by
    unfold valueAt at h
    split at h
    · split at h <;> cases h
      rfl
    · split at h
      · cases h
      split at h
      · cases h
        rfl
      · exact isJson_itemsAt rfl h
    · split at h
      · cases h
      split at h
      · cases h
        rfl
      · exact isJson_fieldsAt rfl h
    · exact isJson_scalar h

theorem isJson_itemsAt : ∀ {fuel depth : Nat} {seen : List Value} {cs rest : List Char} {v : Value},
    itemsJson seen = true → itemsAt .document fuel depth seen cs = .ok (v, rest) → v.isJson = true
  | fuel + 1, depth, seen, cs, rest, v, hseen, h => by
    unfold itemsAt at h
    split at h
    · cases h
    next w tail hw =>
      have hseen' : itemsJson (w :: seen) = true := by
        rw [itemsJson, isJson_valueAt hw, hseen]
        rfl
      split at h
      · exact isJson_itemsAt hseen' h
      · cases h
        rw [isJson, itemsJson_iff]
        exact fun u hu => itemsJson_iff.1 hseen' u (List.mem_reverse.1 hu)
      · cases h

theorem isJson_fieldsAt : ∀ {fuel depth : Nat} {seen : Fields} {cs rest : List Char} {v : Value},
    fieldsJson seen = true → fieldsAt .document fuel depth seen cs = .ok (v, rest) →
    v.isJson = true
  | fuel + 1, depth, seen, cs, rest, v, hseen, h => by
    unfold fieldsAt at h
    split at h
    next tail _ =>
      split at h
      · cases h
      next name tail' _ =>
        split at h
        · split at h
          · cases h
          next w tail'' hw =>
            have hseen' : fieldsJson ((.text name, w) :: seen) = true := by
              rw [fieldsJson, isJson_valueAt hw, hseen]
              rfl
            simp only at h
            split at h
            · exact isJson_fieldsAt hseen' h
            · cases h
              refine fieldsJson_ofList (fieldsJson_iff.2 fun p hp => ?_)
              exact fieldsJson_iff.1 hseen' p (List.mem_reverse.1 hp)
            · cases h
        · cases h
    · cases h

end

end Json

/-- Reading a text whose characters are known. -/
theorem Json.read_of_toList {s : String} {cs : List Char} (h : s.toList = cs) :
    Json.read s =
      match Json.valueAt .document (2 * cs.length + 2) 0 (Json.skip cs) with
      | .error e => .error e
      | .ok (v, rest) => if (Json.skip rest).isEmpty then .ok v else .error .malformed := by
  subst h
  rfl

/-- What is read from JSON text is a JSON value. -/
theorem Value.isJson_of_read {s : String} {v : Value} (h : Json.read s = .ok v) :
    v.isJson = true := by
  unfold Json.read Json.readWith at h
  simp only at h
  split at h
  · cases h
  next hv =>
    split at h <;> cases h
    exact Json.isJson_valueAt hv

/-! ### What is written -/

namespace Json

open Value

theorem exists_intText {i : Int} (h : (Value.int i).isJson = true) : ∃ s, intText i = .ok s := by
  rw [isJson, Option.isSome_iff_exists] at h
  obtain ⟨s, hs⟩ := h
  refine ⟨s, ?_⟩
  unfold intText
  rw [hs]

mutual

theorem exists_writeAt (style : JsonStyle) (level : Nat) : ∀ v : Value, v.isJson = true →
    ∃ s, writeAt style level v = .ok s
  | .null => fun _ => ⟨_, by rw [writeAt]⟩
  | .bool _ => fun _ => ⟨_, by rw [writeAt]⟩
  | .int i => fun h => by
    rw [writeAt]
    exact exists_intText h
  | .float _ => fun _ => ⟨_, by rw [writeAt]⟩
  | .text _ => fun _ => ⟨_, by rw [writeAt]⟩
  | .list items => fun h => by
    rw [isJson] at h
    obtain ⟨parts, hp⟩ := exists_writeItems style (level + 1) items h
    exact ⟨bracket style level "[" "]" parts, by rw [writeAt, hp]; rfl⟩
  | .pair _ _ => fun h => absurd h Bool.false_ne_true
  | .object fields => fun h => by
    rw [isJson] at h
    obtain ⟨parts, hp⟩ := exists_writeFields style (level + 1) fields h
    exact ⟨bracket style level "\x7b" "\x7d" parts, by rw [writeAt, hp]; rfl⟩
  | .foreign _ => fun h => absurd h Bool.false_ne_true

theorem exists_writeItems (style : JsonStyle) (level : Nat) : ∀ items : List Value,
    itemsJson items = true → ∃ parts, writeItems style level items = .ok parts
  | [] => fun _ => ⟨[], by rw [writeItems]⟩
  | v :: rest => fun h => by
    rw [itemsJson, Bool.and_eq_true] at h
    obtain ⟨s, hs⟩ := exists_writeAt style level v h.1
    obtain ⟨parts, hp⟩ := exists_writeItems style level rest h.2
    exact ⟨s :: parts, by rw [writeItems, hs, hp]; rfl⟩

theorem exists_writeFields (style : JsonStyle) (level : Nat) : ∀ fields : List (Key × Value),
    fieldsJson fields = true → ∃ parts, writeFields style level fields = .ok parts
  | [] => fun _ => ⟨[], by rw [writeFields]⟩
  | (key, v) :: rest => fun h => by
    rw [fieldsJson, Bool.and_eq_true, Bool.and_eq_true] at h
    obtain ⟨name, rfl⟩ : ∃ name, key = .text name := by
      cases key with
      | text name => exact ⟨name, rfl⟩
      | _ => exact absurd h.1.1 Bool.false_ne_true
    obtain ⟨s, hs⟩ := exists_writeAt style level v h.1.2
    obtain ⟨parts, hp⟩ := exists_writeFields style level rest h.2
    exact ⟨_, by rw [writeFields, keyText, hs, hp]; rfl⟩

end

end Json

/-- A JSON value can be written. -/
theorem Value.exists_json (style : JsonStyle) {v : Value} (h : v.isJson = true) :
    ∃ s, v.json style = .ok s := by
  obtain ⟨s, hs⟩ := Json.exists_writeAt style 0 v h
  exact ⟨s, by rw [Value.json, Json.write, hs]; rfl⟩

/-! ### Equality -/

namespace Value

mutual

/-- Whether two values are the same. -/
def beq : Value → Value → Bool
  | .null, .null => true
  | .bool a, .bool b => a == b
  | .int a, .int b => a == b
  | .float a, .float b => decide (a = b)
  | .text a, .text b => a == b
  | .list a, .list b => itemsBeq a b
  | .pair a a', .pair b b' => beq a b && beq a' b'
  | .object a, .object b => fieldsBeq a b
  | .foreign a, .foreign b => decide (a = b)
  | _, _ => false

def itemsBeq : List Value → List Value → Bool
  | [], [] => true
  | a :: as, b :: bs => beq a b && itemsBeq as bs
  | _, _ => false

def fieldsBeq : List (Key × Value) → List (Key × Value) → Bool
  | [], [] => true
  | (k, a) :: as, (l, b) :: bs => decide (k = l) && beq a b && fieldsBeq as bs
  | _, _ => false

end

mutual

theorem beq_iff : ∀ a b : Value, beq a b = true ↔ a = b
  | .null, b => by cases b <;> simp [beq]
  | .bool _, b => by cases b <;> simp [beq]
  | .int _, b => by cases b <;> simp [beq]
  | .float _, b => by cases b <;> simp [beq]
  | .text _, b => by cases b <;> simp [beq]
  | .list as, b => by cases b <;> simp [beq, itemsBeq_iff as]
  | .pair a a', b => by cases b <;> simp [beq, beq_iff a, beq_iff a']
  | .object as, b => by cases b <;> simp [beq, fieldsBeq_iff as]
  | .foreign _, b => by cases b <;> simp [beq]

theorem itemsBeq_iff : ∀ as bs : List Value, itemsBeq as bs = true ↔ as = bs
  | [], bs => by cases bs <;> simp [itemsBeq]
  | a :: as, [] => by simp [itemsBeq]
  | a :: as, b :: bs => by rw [itemsBeq, Bool.and_eq_true, beq_iff, itemsBeq_iff, List.cons.injEq]

theorem fieldsBeq_iff : ∀ as bs : List (Key × Value), fieldsBeq as bs = true ↔ as = bs
  | [], bs => by cases bs <;> simp [fieldsBeq]
  | (k, a) :: as, [] => by simp [fieldsBeq]
  | (k, a) :: as, (l, b) :: bs => by
    rw [fieldsBeq, Bool.and_eq_true, Bool.and_eq_true, decide_eq_true_eq, beq_iff, fieldsBeq_iff,
      List.cons.injEq, Prod.mk.injEq]

end

instance : DecidableEq Value := fun a b => decidable_of_iff _ (beq_iff a b)

end Value

end Workflow
