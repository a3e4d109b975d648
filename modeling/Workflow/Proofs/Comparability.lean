import Mathlib.Algebra.Order.Ring.Nat
import Workflow.Proofs.Locality
import Workflow.Proofs.WrittenForm

/-!
# When conditions cannot be evaluated

Of the values that JSON text is made of, with integers of any size, two can be compared unless one is an
integer beyond the floating-point numbers, or they are compared by their texts and an integer in one of
them is too long to be written (`Value.compare_eq_error_iff`). The evaluation of a condition fails just
where it comes to such a comparison (`Condition.evaluate_eq_error_iff`); any other one holds or does not.
-/

namespace Workflow

/-! ### Large integers -/

theorem twoTo_pos (n : Nat) : 0 < twoTo n := Nat.two_pow_pos n

theorem twoTo_add (m n : Nat) : twoTo (m + n) = twoTo m * twoTo n := Nat.pow_add 2 m n

theorem twoTo_le_tenTo {m n : Nat} (h : m ≤ n) : twoTo m ≤ tenTo n :=
  le_trans (Nat.pow_le_pow_left (by decide) m) (tenTo_le_tenTo h)

theorem twoTo_le_iff {k n : Nat} (hn : n ≠ 0) : twoTo k ≤ n ↔ k ≤ Nat.log2 n := (Nat.le_log2 hn).symm

namespace Double

theorem floorLog2_one {n : Nat} (hn : n ≠ 0) : floorLog2 n 1 = Nat.log2 n := by
  have hlog : Nat.log2 1 = 0 := rfl
  have h0 : twoTo 0 = 1 := rfl
  simp [floorLog2, hlog, h0, (twoTo_le_iff hn).2 le_rfl]

theorem div_le_roundQuotient (num den : Nat) : num / den ≤ roundQuotient num den := by
  unfold roundQuotient
  simp only
  split_ifs <;> omega

theorem infinityRank_le_rankOfRatio {n : Nat} (h : twoTo 1024 ≤ n) : infinityRank ≤ rankOfRatio n 1 := by
  have hn : n ≠ 0 := Nat.ne_of_gt (lt_of_lt_of_le (twoTo_pos 1024) h)
  obtain ⟨k, hk⟩ : ∃ k, Nat.log2 n = k + 1024 := Nat.exists_eq_add_of_le' ((twoTo_le_iff hn).1 h)
  have h0 : twoTo 0 = 1 := rfl
  -- the mantissa has its leading bit
  have hm : twoTo 52 ≤ roundQuotient (n * twoTo 0) (1 * twoTo (k + 972)) := by
    have hmul : twoTo 52 * (1 * twoTo (k + 972)) ≤ n * twoTo 0 := by
      rw [one_mul, ← twoTo_add, h0, mul_one, twoTo_le_iff hn, hk]
      omega
    exact le_trans ((Nat.le_div_iff_mul_le (Nat.mul_pos one_pos (twoTo_pos _))).2 hmul)
      (div_le_roundQuotient _ _)
  have hq : max ((Nat.log2 n : Int) - 52) (-1074) = (k + 972 : Nat) := by omega
  have hneg : (-((k + 972 : Nat) : Int)).toNat = 0 := by omega
  have hpos : (((k + 972 : Nat) : Int) + 1074).toNat = k + 2046 := by omega
  simp only [rankOfRatio, if_neg hn, floorLog2_one hn, hq, hneg, hpos, Int.toNat_natCast]
  calc infinityRank = 2046 * twoTo 52 + twoTo 52 := rfl
    _ ≤ (k + 2046) * twoTo 52 + twoTo 52 := Nat.add_le_add_right (Nat.mul_le_mul_right _ (by omega)) _
    _ ≤ _ := Nat.add_le_add_left hm _

theorem ofInt?_eq_none {i : Int} (h : twoTo 1024 ≤ i.natAbs) : ofInt? i = none := by
  have hinf : (roundInt i).isFinite = false := by
    simp [roundInt, ofRatio, ofRank, isFinite, Nat.min_eq_right (infinityRank_le_rankOfRatio h)]
  simp [ofInt?, hinf]

end Double

/-! ### What JSON is made of -/

namespace Value

/-- A value made of what JSON text is made of, its integers being of any size. -/
inductive Data : Value → Prop where
  | null : Data .null
  | bool (b : Bool) : Data (.bool b)
  | int (i : Int) : Data (.int i)
  | float (d : Double) : Data (.float d)
  | text (s : String) : Data (.text s)
  | list {items : List Value} (h : ∀ v ∈ items, Data v) : Data (.list items)
  | object {fields : Fields} (keys : ∀ p ∈ fields, p.1.isText = true) (h : ∀ p ∈ fields, Data p.2) :
      Data (.object fields)

/-- An integer in the value has more digits than are written. -/
inductive HasLongInteger : Value → Prop where
  | int {i : Int} (h : intText? i = none) : HasLongInteger (.int i)
  | item {items : List Value} {v : Value} (hv : v ∈ items) (h : HasLongInteger v) :
      HasLongInteger (.list items)
  | field {fields : Fields} {p : Key × Value} (hp : p ∈ fields) (h : HasLongInteger p.2) :
      HasLongInteger (.object fields)

/-- An integer beyond the range of floating-point numbers. -/
def isWide : Value → Bool
  | .int i => (Double.ofInt? i).isNone
  | _ => false

theorem HasLongInteger.not_isJson {v : Value} (h : v.HasLongInteger) : v.isJson = false := by
  induction h with
  | int h => simp [isJson, h]
  | item hv _ ih =>
    rw [isJson, Bool.eq_false_iff, ne_eq, itemsJson_iff]
    exact fun hall => Bool.false_ne_true (ih.symm.trans (hall _ hv))
  | field hp _ ih =>
    rw [isJson, Bool.eq_false_iff, ne_eq, fieldsJson_iff]
    exact fun hall => Bool.false_ne_true (ih.symm.trans (hall _ hp).2)

theorem Data.isJson {v : Value} (h : v.Data) (hl : ¬ v.HasLongInteger) : v.isJson = true := by
  induction h with
  | int i =>
    cases hi : intText? i with
    | none => exact absurd (.int hi) hl
    | some s => simp [Value.isJson, hi]
  | list _ ih => exact itemsJson_iff.2 fun v hv => ih v hv fun h => hl (.item hv h)
  | object keys _ ih =>
    exact fieldsJson_iff.2 fun p hp => ⟨keys p hp, ih p hp fun h => hl (.field hp h)⟩
  | _ => rfl

theorem Data.field? {v w : Value} {name : String} (h : v.Data) (hw : v.field? name = some w) : w.Data := by
  obtain ⟨fields, rfl⟩ := object_of_field? hw
  cases h with
  | object _ h => exact h _ (get?_mem hw)

theorem Data.field {v : Value} (h : v.Data) (name : String) : (v.field name).Data := by
  rw [field_eq]
  cases hw : v.field? name with
  | none => exact .null
  | some w => exact h.field? hw

theorem Data.step {v : Value} (h : v.Data) (segment : String) : (Path.step v segment).Data := by
  unfold Path.step
  split
  next fields => exact h.field segment
  next items =>
    cases h with
    | list h =>
      split
      next index _ =>
        cases hi : Path.item? items index with
        | none => exact .null
        | some v =>
          refine h v ?_
          unfold Path.item? at hi
          split_ifs at hi <;> exact List.mem_of_getElem? hi
      next => exact .null
  next => exact .null

/-- What a path leads to in data is data. -/
theorem Data.at {v : Value} (h : v.Data) (path : String) : (v.at path).Data := by
  unfold Value.at
  induction Path.segments path generalizing v with
  | nil => exact h
  | cons segment rest ih => exact ih (h.step segment)

theorem Data.orElse {v w : Value} (hv : v.Data) (hw : w.Data) : (v.orElse w).Data := by
  unfold Value.orElse
  split
  · exact hv
  · exact hw

theorem Data.set {fields : Fields} {name : String} {v : Value} (h : (Value.object fields).Data)
    (hv : v.Data) : (Value.object (Fields.set (.text name) v fields)).Data := by
  cases h with
  | object keys h =>
    refine .object (fun p hp => ?_) fun p hp => ?_
    · rcases Json.mem_set hp with hp | ⟨-, hk | ⟨q, hq, hk⟩⟩
      · exact keys p hp
      · rw [hk]
        rfl
      · exact hk ▸ keys q hq
    · rcases Json.mem_set hp with hp | ⟨hv', -⟩
      · exact h p hp
      · exact hv' ▸ hv

end Value

theorem Reference.data_resolve {root : Value} (h : root.Data) (r : Reference) : (r.resolve root).Data := by
  cases r with
  | literal l => cases l <;> constructor
  | context path => exact h.at path
  | node id path => exact (((h.at "nodes").field id).field "output").at path

/-! ### Texts -/

namespace Json

open Value

variable {style : JsonStyle} {level : Nat}

theorem writeItems_error {items : List Value} (hf : itemsJson items = false)
    (h : ∀ v ∈ items, v.isJson = false → writeAt style level v = .error .longInteger) :
    writeItems style level items = .error .longInteger := by
  induction items with
  | nil => cases hf
  | cons v rest ih =>
    rw [List.forall_mem_cons] at h
    cases hv : v.isJson with
    | false => rw [writeItems, h.1 hv]; rfl
    | true =>
      rw [itemsJson, hv, Bool.true_and] at hf
      obtain ⟨s, hs⟩ := exists_writeAt style level v hv
      rw [writeItems, hs, ih hf h.2]
      rfl

theorem writeFields_error {fields : Fields} (keys : ∀ p ∈ fields, p.1.isText = true)
    (hf : fieldsJson fields = false)
    (h : ∀ p ∈ fields, p.2.isJson = false → writeAt style level p.2 = .error .longInteger) :
    writeFields style level fields = .error .longInteger := by
  induction fields with
  | nil => cases hf
  | cons p rest ih =>
    obtain ⟨key, v⟩ := p
    rw [List.forall_mem_cons] at h keys
    obtain ⟨name, rfl⟩ : ∃ name, key = .text name := by
      cases key with
      | text name => exact ⟨name, rfl⟩
      | _ => cases keys.1
    cases hv : v.isJson with
    | false => rw [writeFields, h.1 hv]; rfl
    | true =>
      rw [fieldsJson, hv, keys.1, Bool.true_and, Bool.true_and] at hf
      obtain ⟨s, hs⟩ := exists_writeAt style level v hv
      rw [writeFields, hs, ih keys.2 hf h.2]
      rfl

/-- The only data that are not written are those with an integer that is too long. -/
theorem writeAt_error {v : Value} (hv : v.Data) (h : v.isJson = false) :
    writeAt style level v = .error .longInteger := by
  induction hv generalizing level with
  | int i =>
    rw [isJson, Option.isSome_eq_false_iff, Option.isNone_iff_eq_none] at h
    rw [writeAt]
    unfold intText
    rw [h]
  | list _ ih =>
    rw [writeAt, writeItems_error h fun v hv => ih v hv]
    rfl
  | object keys _ ih =>
    rw [writeAt, writeFields_error keys h fun p hp => ih p hp]
    rfl
  | _ => cases h

end Json

namespace Value

variable {x y : Value} {f : Failure}

/-- An integer with a number next to it is short enough to be written. -/
theorem not_hasLongInteger_of_isWide {i : Int} (h : (Value.int i).isWide = false) :
    ¬ (Value.int i).HasLongInteger := by
  rintro ⟨hi⟩
  obtain ⟨d, hd⟩ := Option.isSome_iff_exists.1 (Option.isNone_eq_false_iff.1 h)
  have hlt : i.natAbs < twoTo 1024 := by
    by_contra hle
    rw [Double.ofInt?_eq_none (Nat.not_lt.1 hle)] at hd
    cases hd
  rw [intText?, if_pos (lt_of_lt_of_le hlt (twoTo_le_tenTo (by decide)))] at hi
  cases hi

theorem toNumber_wide (h : x.isWide = true) : x.toNumber = .error .integerOverflow := by
  cases x with
  | int i => simp [toNumber, Option.isNone_iff_eq_none.1 h]
  | _ => cases h

theorem exists_toNumber (h : x.isWide = false) : ∃ n, x.toNumber = .ok n := by
  cases x with
  | int i =>
    obtain ⟨d, hd⟩ := Option.isSome_iff_exists.1 (Option.isNone_eq_false_iff.1 h)
    exact ⟨some d, by simp [toNumber, hd]⟩
  | _ => exact ⟨_, rfl⟩

theorem toText_long (hx : x.Data) (hw : x.isWide = false) (h : x.HasLongInteger) :
    x.toText = .error .longInteger := by
  cases hx with
  | int i => exact absurd h (not_hasLongInteger_of_isWide hw)
  | list hd =>
    rw [toText, json, Json.write, Json.writeAt_error (.list hd) h.not_isJson]
    rfl
  | object keys hd =>
    rw [toText, json, Json.write, Json.writeAt_error (.object keys hd) h.not_isJson]
    rfl
  | _ => cases h

theorem exists_toText (hx : x.Data) (h : ¬ x.HasLongInteger) : ∃ s, x.toText = .ok s := by
  have hjson := hx.isJson h
  cases hx with
  | int i =>
    rw [isJson] at hjson
    obtain ⟨s, hs⟩ := Option.isSome_iff_exists.1 hjson
    exact ⟨s, by simp only [toText, plain, plain?, quoted?, hs]⟩
  | float d =>
    cases hd : d.isInteger with
    | true => exact ⟨toString d.truncate, by simp [toText, hd]⟩
    | false => exact ⟨d.text, by simp [toText, hd]⟩
  | list hd => exact exists_json .compact hjson
  | object keys hd => exact exists_json .compact hjson
  | _ => exact ⟨_, rfl⟩

/-- Two values of which no comparison comes to an end, and why. -/
inductive Incomparable (x y : Value) : Failure → Prop where
  | wide (h : x.isWide = true ∨ y.isWide = true) : Incomparable x y .integerOverflow
  /-- Not both have a number, so that their texts are compared, of which one cannot be written. -/
  | long (hx : x.isWide = false) (hy : y.isWide = false)
      (hn : x.toNumber = .ok none ∨ y.toNumber = .ok none)
      (h : x.HasLongInteger ∨ y.HasLongInteger) : Incomparable x y .longInteger

theorem compare_wide {r : Relation} (h : x.isWide = true ∨ y.isWide = true) :
    compare r x y = .error .integerOverflow := by
  cases hx : x.isWide with
  | true => rw [compare, toNumber_wide hx]; rfl
  | false =>
    obtain ⟨n, hn⟩ := exists_toNumber hx
    rw [compare, hn, toNumber_wide (h.resolve_left (by simp [hx]))]
    rfl

/-- Values with numbers are compared by them. -/
theorem compare_numbers {r : Relation} {a b : Double} (hx : x.toNumber = .ok (some a))
    (hy : y.toNumber = .ok (some b)) : compare r x y = .ok (r.holdsOfNumbers a b) := by
  rw [compare, hx, hy]
  rfl

/-- Of two values of which one has no number the texts are compared. -/
theorem compare_texts {r : Relation} (hx : x.isWide = false) (hy : y.isWide = false)
    (hn : x.toNumber = .ok none ∨ y.toNumber = .ok none) :
    compare r x y = (do return r.holdsOfTexts (← x.toText) (← y.toText)) := by
  obtain ⟨m, hm⟩ := exists_toNumber hx
  obtain ⟨n, hn'⟩ := exists_toNumber hy
  rw [compare, hm, hn']
  rcases hn with h | h
  · cases hm.symm.trans h
    rfl
  · cases hn'.symm.trans h
    cases m <;> rfl

theorem compare_eq_error_iff {r : Relation} (hx : x.Data) (hy : y.Data) :
    compare r x y = .error f ↔ Incomparable x y f := by
  constructor
  · intro h
    by_cases hw : x.isWide = true ∨ y.isWide = true
    · rw [compare_wide hw] at h
      cases h
      exact .wide hw
    · obtain ⟨hwx, hwy⟩ : x.isWide = false ∧ y.isWide = false := by simpa using hw
      obtain ⟨m, hm⟩ := exists_toNumber hwx
      obtain ⟨n, hn⟩ := exists_toNumber hwy
      by_cases hnum : x.toNumber = .ok none ∨ y.toNumber = .ok none
      · rw [compare_texts hwx hwy hnum] at h
        by_cases hlx : x.HasLongInteger
        · rw [toText_long hx hwx hlx] at h
          cases h
          exact .long hwx hwy hnum (.inl hlx)
        · obtain ⟨s, hs⟩ := exists_toText hx hlx
          by_cases hly : y.HasLongInteger
          · rw [hs, toText_long hy hwy hly] at h
            cases h
            exact .long hwx hwy hnum (.inr hly)
          · obtain ⟨t, ht⟩ := exists_toText hy hly
            rw [hs, ht] at h
            cases h
      · -- both have a number
        cases m with
        | none => exact absurd (.inl hm) hnum
        | some a =>
          cases n with
          | none => exact absurd (.inr hn) hnum
          | some b =>
            rw [compare_numbers hm hn] at h
            cases h
  · intro h
    cases h with
    | wide hw => exact compare_wide hw
    | long hwx hwy hn hl =>
      rw [compare_texts hwx hwy hn]
      by_cases hlx : x.HasLongInteger
      · rw [toText_long hx hwx hlx]
        rfl
      · obtain ⟨s, hs⟩ := exists_toText hx hlx
        rw [hs, toText_long hy hwy (hl.resolve_left hlx)]
        rfl

end Value

/-! ### Conditions -/

namespace Condition

/-- The evaluation of a condition comes to a comparison of values that cannot be compared: the parts of
`and` before it hold, those of `or` do not. -/
inductive Fails (root : Value) : Condition → Failure → Prop where
  | compare {left right : Reference} {relation : Relation} {f : Failure}
      (h : (left.resolve root).Incomparable (right.resolve root) f) :
      Fails root (.compare left relation right) f
  | all {parts before after : List Condition} {c : Condition} {f : Failure}
      (hp : parts = before ++ c :: after) (hb : ∀ d ∈ before, d.holds root = .ok true)
      (h : Fails root c f) : Fails root (.all parts) f
  | any {parts before after : List Condition} {c : Condition} {f : Failure}
      (hp : parts = before ++ c :: after) (hb : ∀ d ∈ before, d.holds root = .ok false)
      (h : Fails root c f) : Fails root (.any parts) f

variable {root : Value} {f : Failure}

/-- Parts that are looked at in order as long as they come out as `b`. -/
theorem join_eq_error_iff {join : List Condition → Outcome Bool} {b : Bool} (hnil : join [] = .ok b)
    (hgo : ∀ c rest, c.holds root = .ok b → join (c :: rest) = join rest)
    (hstop : ∀ c rest, c.holds root = .ok (!b) → join (c :: rest) = .ok (!b))
    (herror : ∀ c rest e, c.holds root = .error e → join (c :: rest) = .error e)
    {parts : List Condition} :
    join parts = .error f ↔ ∃ before c after, parts = before ++ c :: after ∧
      (∀ d ∈ before, d.holds root = .ok b) ∧ c.holds root = .error f := by
  induction parts with
  | nil => simp [hnil]
  | cons c rest ih =>
    constructor
    · intro h
      cases hc : c.holds root with
      | error e =>
        rw [herror c rest e hc] at h
        cases h
        exact ⟨[], c, rest, rfl, by simp, hc⟩
      | ok b' =>
        rcases Bool.eq_or_eq_not b' b with rfl | rfl
        · rw [hgo c rest hc] at h
          obtain ⟨before, d, after, rfl, hb, hd⟩ := ih.1 h
          exact ⟨c :: before, d, after, rfl, List.forall_mem_cons.2 ⟨hc, hb⟩, hd⟩
        · rw [hstop c rest hc] at h
          cases h
    · rintro ⟨before, d, after, hp, hb, hd⟩
      cases before with
      | nil =>
        cases hp
        exact herror _ _ _ hd
      | cons c' before =>
        cases hp
        rw [List.forall_mem_cons] at hb
        rw [hgo _ _ hb.1]
        exact ih.2 ⟨before, d, after, rfl, hb.2, hd⟩

theorem allHold_eq_error_iff {parts : List Condition} :
    allHold root parts = .error f ↔ ∃ before c after, parts = before ++ c :: after ∧
      (∀ d ∈ before, d.holds root = .ok true) ∧ c.holds root = .error f :=
  join_eq_error_iff rfl (fun c rest h => by rw [allHold, h]; rfl) (fun c rest h => by rw [allHold, h]; rfl)
    fun c rest e h => by rw [allHold, h]; rfl

theorem anyHolds_eq_error_iff {parts : List Condition} :
    anyHolds root parts = .error f ↔ ∃ before c after, parts = before ++ c :: after ∧
      (∀ d ∈ before, d.holds root = .ok false) ∧ c.holds root = .error f :=
  join_eq_error_iff rfl (fun c rest h => by rw [anyHolds, h]; rfl) (fun c rest h => by rw [anyHolds, h]; rfl)
    fun c rest e h => by rw [anyHolds, h]; rfl

mutual

theorem holds_eq_error_iff (hroot : root.Data) :
    ∀ {c : Condition} {f : Failure}, c.holds root = .error f ↔ c.Fails root f
  | compare left relation right, f => by
    rw [holds, Value.compare_eq_error_iff (left.data_resolve hroot) (right.data_resolve hroot)]
    exact ⟨.compare, fun h => by cases h; assumption⟩
  | all parts, f => by
    rw [holds, allHold_eq_error_iff]
    constructor
    · rintro ⟨before, c, after, hp, hb, hc⟩
      exact .all hp hb ((parts_eq_error_iff hroot parts c (by simp [hp])).1 hc)
    · intro h
      cases h with
      | all hp hb h =>
        exact ⟨_, _, _, hp, hb, (parts_eq_error_iff hroot parts _ (by simp [hp])).2 h⟩
  | any parts, f => by
    rw [holds, anyHolds_eq_error_iff]
    constructor
    · rintro ⟨before, c, after, hp, hb, hc⟩
      exact .any hp hb ((parts_eq_error_iff hroot parts c (by simp [hp])).1 hc)
    · intro h
      cases h with
      | any hp hb h =>
        exact ⟨_, _, _, hp, hb, (parts_eq_error_iff hroot parts _ (by simp [hp])).2 h⟩

theorem parts_eq_error_iff (hroot : root.Data) :
    ∀ (parts : List Condition) (c : Condition), c ∈ parts →
      ∀ {f : Failure}, c.holds root = .error f ↔ c.Fails root f
  | [], _, hc => by simp at hc
  | d :: rest, c, hc => by
    rcases List.mem_cons.1 hc with hcd | hc
    · rw [hcd]
      exact holds_eq_error_iff hroot
    · exact parts_eq_error_iff hroot rest c hc

end

theorem mem_allReferences {parts : List Condition} {r : Reference} :
    r ∈ allReferences parts ↔ ∃ c ∈ parts, r ∈ c.references := by
  induction parts with
  | nil => simp [allReferences]
  | cons c rest ih => simp [allReferences, ih]

/-- An evaluation that fails has come to a comparison of two references that stand in the condition. -/
theorem Fails.exists_incomparable {c : Condition} (h : c.Fails root f) :
    ∃ r ∈ c.references, ∃ s ∈ c.references, (r.resolve root).Incomparable (s.resolve root) f := by
  induction h with
  | @compare left right relation f h =>
    exact ⟨left, by simp [references], right, by simp [references], h⟩
  | all hp _ _ ih =>
    obtain ⟨r, hr, s, hs, h⟩ := ih
    exact ⟨r, mem_allReferences.2 ⟨_, by simp [hp], hr⟩, s, mem_allReferences.2 ⟨_, by simp [hp], hs⟩, h⟩
  | any hp _ _ ih =>
    obtain ⟨r, hr, s, hs, h⟩ := ih
    exact ⟨r, mem_allReferences.2 ⟨_, by simp [hp], hr⟩, s, mem_allReferences.2 ⟨_, by simp [hp], hs⟩, h⟩

/-- What a condition is evaluated in: data, or what the context of a run shows if it holds data. -/
inductive IsRoot : Value → Prop where
  | data {v : Value} (h : v.Data) : IsRoot v
  | run {c : RunContext} (trigger : c.trigger.Data) (nodes : (Value.object c.nodes).Data)
      (assigned : (Value.object c.assigned).Data) : IsRoot c.root

theorem IsRoot.isData {v : Value} (h : IsRoot v) : v.Data := by
  cases h with
  | data h => exact h
  | run trigger nodes assigned => exact (assigned.set trigger).set nodes

/-- The evaluation of a condition fails just where it comes to a comparison of values that cannot be
compared, because an integer is beyond the floating-point numbers or too long to be written. If nothing
that the condition refers to is or holds such an integer, it holds or does not. -/
theorem evaluate_eq_error_iff {raw root : Value} (hroot : IsRoot root) :
    (∀ f, evaluate raw root = .error f ↔
      ∃ c, parse? raw = some c ∧ c.Fails (root.orElse (.object [])) f) ∧
    (∀ f, evaluate raw root = .error f → f = .integerOverflow ∨ f = .longInteger) ∧
    ((∀ c, parse? raw = some c → ∀ r ∈ c.references,
        (r.resolve (root.orElse (.object []))).isWide = false ∧
          ¬ (r.resolve (root.orElse (.object []))).HasLongInteger) →
      ∃ b, evaluate raw root = .ok b) := by
  have hdata : (root.orElse (.object [])).Data := hroot.isData.orElse (.object (by simp) (by simp))
  have hiff : ∀ f, evaluate raw root = .error f ↔
      ∃ c, parse? raw = some c ∧ c.Fails (root.orElse (.object [])) f := by
    intro f
    unfold evaluate
    cases parse? raw with
    | none => simp
    | some c => simp [holds_eq_error_iff hdata]
  refine ⟨hiff, fun f h => ?_, fun h => ?_⟩
  · obtain ⟨c, -, hc⟩ := (hiff f).1 h
    obtain ⟨r, -, s, -, hrs⟩ := hc.exists_incomparable
    cases hrs with
    | wide => exact .inl rfl
    | long => exact .inr rfl
  · cases he : evaluate raw root with
    | ok b => exact ⟨b, rfl⟩
    | error f =>
      obtain ⟨c, hp, hc⟩ := (hiff f).1 he
      obtain ⟨r, hr, s, hs, hrs⟩ := hc.exists_incomparable
      obtain ⟨hwr, hlr⟩ := h c hp r hr
      obtain ⟨hws, hls⟩ := h c hp s hs
      cases hrs with
      | wide hw => simp [hwr, hws] at hw
      | long _ _ _ hl => exact absurd hl (by simp [hlr, hls])

/-- A comparison of an integer of 401 digits with one. -/
def unmeasured : Value :=
  .record [("type", .text "compare"), ("left", .record [("type", .text "literal"), ("value", .int (tenTo 400))]),
    ("operator", .text "eq"), ("right", .record [("type", .text "literal"), ("value", .int 1)])]

theorem fails_of_unmeasured :
    IsRoot (.object []) ∧ evaluate unmeasured (.object []) = .error .integerOverflow := by
  have hroot : IsRoot (.object []) := .data (.object (by simp) (by simp))
  have hwide : (Value.int (tenTo 400)).isWide = true := by
    have hle : twoTo 1024 ≤ (tenTo 400 : Int).natAbs := by decide +kernel
    simp [Value.isWide, Double.ofInt?_eq_none hle]
  refine ⟨hroot, ((evaluate_eq_error_iff hroot).1 _).2 ⟨_, rfl, .compare (.wide (.inl hwide))⟩⟩

end Condition

end Workflow
