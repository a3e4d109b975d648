import Mathlib.Data.List.Forall2
import Workflow.Condition
import Workflow.Proofs.Json

/-!
# The written form of conditions

What stands for a condition in a configuration is an object with at least the fields of its type
(`Condition.WrittenAs`); other fields do not count. `Condition.parse?` reads just these forms, up to
its limit of levels (`parse?_eq_some_iff`). Of the forms of one condition only that which
`Condition.toValue` writes has no other fields, and the fields in their order (`eq_toValue_iff`).
-/

namespace Workflow

/-! ### Forms -/

/-- A value is a form of a reference. The id of a node stands under `nodeId`, or if there is no such
field under `node_id`. -/
inductive Reference.WrittenAs : Reference → Value → Prop where
  | literal {l : Literal} {v : Value} (type : v.field? "type" = some (.text "literal"))
      (value : v.field? "value" = some l.toValue) : WrittenAs (.literal l) v
  | context {path : String} {v : Value} (type : v.field? "type" = some (.text "context"))
      (hp : v.field? "path" = some (.text path)) : WrittenAs (.context path) v
  | node {id path : String} {v : Value} (type : v.field? "type" = some (.text "node"))
      (hid : (v.field? "nodeId").or (v.field? "node_id") = some (.text id))
      (hp : v.field? "path" = some (.text path)) : WrittenAs (.node id path) v

namespace Condition

/-- A value is a form of a condition. -/
inductive WrittenAs : Condition → Value → Prop where
  | compare {left right : Reference} {relation : Relation} {l r v : Value}
      (type : v.field? "type" = some (.text "compare")) (hl : v.field? "left" = some l)
      (operator : v.field? "operator" = some (.text relation.name)) (hr : v.field? "right" = some r)
      (left_written : left.WrittenAs l) (right_written : right.WrittenAs r) :
      WrittenAs (.compare left relation right) v
  | all {parts : List Condition} {items : List Value} {v : Value}
      (type : v.field? "type" = some (.text "and"))
      (conditions : v.field? "conditions" = some (.list items)) (nonempty : items ≠ [])
      (written : List.Forall₂ WrittenAs parts items) : WrittenAs (.all parts) v
  | any {parts : List Condition} {items : List Value} {v : Value}
      (type : v.field? "type" = some (.text "or"))
      (conditions : v.field? "conditions" = some (.list items)) (nonempty : items ≠ [])
      (written : List.Forall₂ WrittenAs parts items) : WrittenAs (.any parts) v

mutual

/-- The levels of `and` and `or` above the comparisons. -/
def levels : Condition → Nat
  | compare _ _ _ => 0
  | all parts => levelsOf parts + 1
  | any parts => levelsOf parts + 1

def levelsOf : List Condition → Nat
  | [] => 0
  | c :: rest => max (levels c) (levelsOf rest)

end

theorem levelsOf_lt {parts : List Condition} {n : Nat} (h : parts ≠ []) :
    levelsOf parts < n ↔ ∀ c ∈ parts, c.levels < n := by
  induction parts with
  | nil => exact absurd rfl h
  | cons c rest ih =>
    rw [levelsOf, Nat.max_lt, List.forall_mem_cons]
    cases rest with
    | nil =>
      simp only [levelsOf, List.not_mem_nil, false_imp_iff, implies_true, and_true]
      exact ⟨And.left, fun hlt => ⟨hlt, Nat.zero_lt_of_lt hlt⟩⟩
    | cons d rest => rw [ih (by simp)]

end Condition

/-! ### Reading -/

theorem Value.object_of_field? {name : String} {v w : Value} (h : v.field? name = some w) :
    ∃ fields, v = .object fields := by
  cases v with
  | object fields => exact ⟨fields, rfl⟩
  | _ => cases h

theorem Value.text?_eq_some_iff {v : Value} {s : String} : v.text? = some s ↔ v = .text s := by
  cases v <;> simp [text?]

theorem Literal.parse?_eq_some_iff {v : Value} {l : Literal} : parse? v = some l ↔ v = l.toValue := by
  cases v <;> cases l <;> simp [parse?, toValue]

theorem Relation.ofName?_eq_some_iff {s : String} {r : Relation} : ofName? s = some r ↔ s = r.name := by
  constructor
  · intro h
    unfold ofName? at h
    have hname := List.find?_some h
    exact (beq_iff_eq.1 hname).symm
  · rintro rfl
    cases r <;> rfl

theorem Fields.textAt_eq_some_iff {fields : Fields} {name s : String} :
    (Fields.get? name fields).bind Value.text? = some s ↔
      Fields.get? name fields = some (.text s) := by
  simp [Option.bind_eq_some_iff, Value.text?_eq_some_iff]

namespace Reference

theorem nodeId?_eq_some_iff {fields : Fields} {id : String} :
    nodeId? fields = some id ↔
      (Fields.get? "nodeId" fields).or (Fields.get? "node_id" fields) = some (.text id) := by
  unfold nodeId?
  split
  next v hv => rw [hv, Option.some_or, Option.some_inj, Value.text?_eq_some_iff]
  next hv => rw [hv, Option.none_or, Fields.textAt_eq_some_iff]

theorem parseFields?_eq_some_iff {fields : Fields} {r : Reference} :
    parseFields? fields = some r ↔ r.WrittenAs (.object fields) := by
  unfold parseFields?
  constructor
  · intro h
    split at h
    next type =>
      simp only [Option.map_eq_some_iff, Option.bind_eq_some_iff, Literal.parse?_eq_some_iff] at h
      obtain ⟨l, ⟨_, value, rfl⟩, rfl⟩ := h
      exact .literal type value
    next type =>
      simp only [Option.map_eq_some_iff, Fields.textAt_eq_some_iff] at h
      obtain ⟨path, hp, rfl⟩ := h
      exact .context type hp
    next type =>
      obtain ⟨id, hid, h⟩ := Option.bind_eq_some_iff.1 h
      obtain ⟨path, hp, h⟩ := Option.bind_eq_some_iff.1 h
      cases h
      exact .node type (nodeId?_eq_some_iff.1 hid) (Fields.textAt_eq_some_iff.1 hp)
    next => cases h
  · intro h
    cases h with
    | literal type value =>
      rw [Value.field?] at type value
      simp only [type, value, Option.bind_some, Literal.parse?_eq_some_iff.2 rfl, Option.map_some]
    | context type hp =>
      rw [Value.field?] at type hp
      simp only [type, Fields.textAt_eq_some_iff.2 hp, Option.map_some]
    | node type hid hp =>
      rw [Value.field?] at type hp
      simp only [type, nodeId?_eq_some_iff.2 hid, Fields.textAt_eq_some_iff.2 hp, Option.bind_eq_bind,
        Option.bind_some]
      rfl

theorem parse?_eq_some_iff {v : Value} {r : Reference} : parse? v = some r ↔ r.WrittenAs v := by
  unfold parse?
  rw [Option.bind_eq_some_iff]
  constructor
  · rintro ⟨fields, hv, h⟩
    obtain rfl : v = .object fields := by cases v <;> cases hv; rfl
    exact parseFields?_eq_some_iff.1 h
  · intro h
    obtain ⟨fields, rfl⟩ : ∃ fields, v = .object fields := by
      cases h with
      | literal type => exact Value.object_of_field? type
      | context type => exact Value.object_of_field? type
      | node type => exact Value.object_of_field? type
    exact ⟨fields, rfl, parseFields?_eq_some_iff.2 h⟩

end Reference

namespace Condition

theorem mapM_eq_some_iff {α β : Type} {f : α → Option β} {xs : List α} {ys : List β} :
    xs.mapM f = some ys ↔ List.Forall₂ (fun y x => f x = some y) ys xs := by
  induction xs generalizing ys with
  | nil => simp [List.forall₂_nil_right_iff, eq_comm]
  | cons x xs ih =>
    simp only [List.mapM_cons, Option.bind_eq_bind, Option.bind_eq_some_iff, ih, Option.pure_def,
      Option.some_inj, List.forall₂_cons_right_iff]
    constructor
    · rintro ⟨y, hy, ys', hys, rfl⟩
      exact ⟨y, ys', hy, hys, rfl⟩
    · rintro ⟨y, ys', hy, hys, rfl⟩
      exact ⟨y, hy, ys', hys, rfl⟩

theorem parseJoined?_eq_some_iff {read : Value → Option Condition} {fields : Fields}
    {parts : List Condition} :
    parseJoined? read fields = some parts ↔ ∃ items, Fields.get? "conditions" fields = some (.list items) ∧
      items ≠ [] ∧ List.Forall₂ (fun c v => read v = some c) parts items := by
  unfold parseJoined?
  constructor
  · intro h
    split at h
    next v rest hc => exact ⟨v :: rest, hc, by simp, mapM_eq_some_iff.1 h⟩
    next => cases h
  · rintro ⟨items, hc, hne, h⟩
    obtain ⟨v, rest, rfl⟩ := List.exists_cons_of_ne_nil hne
    rw [hc]
    exact mapM_eq_some_iff.2 h

theorem relation?_eq_some_iff {fields : Fields} {r : Relation} :
    relation? fields = some r ↔ Fields.get? "operator" fields = some (.text r.name) := by
  simp [relation?, Option.bind_eq_some_iff, Value.text?_eq_some_iff, Relation.ofName?_eq_some_iff]

theorem parseCompare?_eq_some_iff {fields : Fields} {c : Condition}
    (type : Fields.get? "type" fields = some (.text "compare")) :
    parseCompare? fields = some c ↔ c.WrittenAs (.object fields) ∧ c.levels = 0 := by
  unfold parseCompare?
  constructor
  · intro h
    obtain ⟨left, hl, h⟩ := Option.bind_eq_some_iff.1 h
    obtain ⟨relation, operator, h⟩ := Option.bind_eq_some_iff.1 h
    obtain ⟨right, hr, h⟩ := Option.bind_eq_some_iff.1 h
    cases h
    obtain ⟨l, hl, hwl⟩ := Option.bind_eq_some_iff.1 hl
    obtain ⟨r, hr, hwr⟩ := Option.bind_eq_some_iff.1 hr
    exact ⟨.compare type hl (relation?_eq_some_iff.1 operator) hr (Reference.parse?_eq_some_iff.1 hwl)
      (Reference.parse?_eq_some_iff.1 hwr), rfl⟩
  · rintro ⟨h, hlevels⟩
    cases h with
    | compare _ hl operator hr hwl hwr =>
      rw [Value.field?] at hl hr
      simp only [hl, hr, relation?_eq_some_iff.2 operator, Option.bind_eq_bind, Option.bind_some,
        Reference.parse?_eq_some_iff.2 hwl, Reference.parse?_eq_some_iff.2 hwr]
      rfl
    | all => cases hlevels
    | any => cases hlevels

section Level

variable {read : Value → Option Condition} {n : Nat} {v : Value} {c : Condition}

/-- Reading the parts of a condition, if each is read up to fewer than `n` levels. -/
theorem parseJoined?_iff_written {fields : Fields} {parts : List Condition}
    (hread : ∀ v c, read v = some c ↔ c.WrittenAs v ∧ c.levels < n) :
    parseJoined? read fields = some parts ↔ ∃ items, Fields.get? "conditions" fields = some (.list items) ∧
      items ≠ [] ∧ List.Forall₂ WrittenAs parts items ∧ levelsOf parts < n := by
  rw [parseJoined?_eq_some_iff]
  refine exists_congr fun items => and_congr_right fun _ => and_congr_right fun hne => ?_
  have hparts : List.Forall₂ WrittenAs parts items → parts ≠ [] := by
    rintro h rfl
    exact hne (List.forall₂_nil_left_iff.1 h)
  simp only [hread, and_comm (b := Condition.levels _ < n), List.forall₂_and_left]
  constructor
  · rintro ⟨hlt, h⟩
    exact ⟨h, (levelsOf_lt (hparts h)).2 hlt⟩
  · rintro ⟨h, hlt⟩
    exact ⟨(levelsOf_lt (hparts h)).1 hlt, h⟩

theorem parseLevel?_eq_some_iff (hread : ∀ v c, read v = some c ↔ c.WrittenAs v ∧ c.levels < n) :
    parseLevel? read v = some c ↔ c.WrittenAs v ∧ c.levels ≤ n := by
  constructor
  · intro h
    unfold parseLevel? at h
    split at h
    next fields =>
      split at h
      next type =>
        obtain ⟨hw, hl⟩ := (parseCompare?_eq_some_iff type).1 h
        exact ⟨hw, hl ▸ Nat.zero_le n⟩
      next type =>
        obtain ⟨parts, hp, rfl⟩ := Option.map_eq_some_iff.1 h
        obtain ⟨items, hc, hne, hw, hlt⟩ := (parseJoined?_iff_written hread).1 hp
        exact ⟨.all type hc hne hw, hlt⟩
      next type =>
        obtain ⟨parts, hp, rfl⟩ := Option.map_eq_some_iff.1 h
        obtain ⟨items, hc, hne, hw, hlt⟩ := (parseJoined?_iff_written hread).1 hp
        exact ⟨.any type hc hne hw, hlt⟩
      next => cases h
    next => cases h
  · rintro ⟨hw, hl⟩
    cases hw with
    | compare type hl' operator hr hwl hwr =>
      obtain ⟨fields, rfl⟩ := Value.object_of_field? type
      have hc := (parseCompare?_eq_some_iff type).2 ⟨.compare type hl' operator hr hwl hwr, rfl⟩
      rw [Value.field?] at type
      simp only [parseLevel?, type, hc]
    | all type hc hne hw =>
      obtain ⟨fields, rfl⟩ := Value.object_of_field? type
      have hp := (parseJoined?_iff_written hread).2 ⟨_, hc, hne, hw, hl⟩
      rw [Value.field?] at type
      simp only [parseLevel?, type, hp, Option.map_some]
    | any type hc hne hw =>
      obtain ⟨fields, rfl⟩ := Value.object_of_field? type
      have hp := (parseJoined?_iff_written hread).2 ⟨_, hc, hne, hw, hl⟩
      rw [Value.field?] at type
      simp only [parseLevel?, type, hp, Option.map_some]

theorem parseWithin?_eq_some_iff :
    parseWithin? n v = some c ↔ c.WrittenAs v ∧ c.levels ≤ n := by
  induction n generalizing v c with
  | zero => exact parseLevel?_eq_some_iff fun v c => by simp
  | succ n ih =>
    exact parseLevel?_eq_some_iff fun v c => by rw [ih, Nat.lt_succ_iff]

theorem parse?_eq_some_iff : parse? v = some c ↔ c.WrittenAs v ∧ c.levels ≤ depthLimit :=
  parseWithin?_eq_some_iff

end Level

end Condition

/-! ### Writing -/

/-- The keys of an object of some type, in their order. -/
def Value.keysOf : String → List String
  | "literal" => ["type", "value"]
  | "context" => ["type", "path"]
  | "node" => ["type", "nodeId", "path"]
  | "compare" => ["type", "left", "operator", "right"]
  | "and" => ["type", "conditions"]
  | "or" => ["type", "conditions"]
  | _ => []

/-- Every object in a value has just the keys of its type, in their order. -/
inductive Value.Bare : Value → Prop where
  | scalar {v : Value} (h : v.isScalar = true) : Bare v
  | list {items : List Value} (h : ∀ v ∈ items, Bare v) : Bare (.list items)
  | object (type : String) {fields : Fields} (htype : Fields.get? "type" fields = some (.text type))
      (keys : fields.map Prod.fst = (keysOf type).map Key.text) (h : ∀ p ∈ fields, Bare p.2) :
      Bare (.object fields)

/-- Fields with known keys are known by what stands under the keys. -/
theorem Fields.eq_of_keys {names : List String} (hn : names.Nodup) : ∀ {fields : Fields},
    fields.map Prod.fst = names.map Key.text →
    fields = names.map fun name => (.text name, (Fields.get? name fields).getD .null) := by
  induction names with
  | nil =>
    intro fields keys
    exact List.map_eq_nil_iff.1 keys
  | cons name names ih =>
    intro fields keys
    obtain ⟨hnotin, hn⟩ := List.nodup_cons.1 hn
    obtain ⟨p, rest, rfl, hp, hkeys⟩ := List.map_eq_cons_iff.1 keys
    obtain ⟨k, v⟩ := p
    obtain rfl : k = .text name := hp
    have hrest : ∀ other ∈ names, Fields.get? other ((.text name, v) :: rest) = Fields.get? other rest := by
      intro other hother
      rw [Fields.get?, if_neg]
      rintro ⟨rfl⟩
      exact hnotin hother
    rw [List.map_cons, Fields.get?, if_pos rfl, Option.getD_some]
    congr 1
    refine (ih hn hkeys).trans (List.map_congr_left fun other hother => ?_)
    rw [hrest other hother]

namespace Value

theorem Bare.eq_map {fields : Fields} {type : String} (h : (Value.object fields).Bare)
    (htype : Fields.get? "type" fields = some (.text type)) (hn : (keysOf type).Nodup) :
    fields = (keysOf type).map fun name => (.text name, (Fields.get? name fields).getD .null) := by
  cases h with
  | scalar h => cases h
  | object _ htype' keys =>
    rw [htype', Option.some_inj, Value.text.injEq] at htype
    subst htype
    exact Fields.eq_of_keys hn keys

theorem Bare.field? {v w : Value} {name : String} (h : v.Bare) (hw : v.field? name = some w) : w.Bare := by
  obtain ⟨fields, rfl⟩ := object_of_field? hw
  cases h with
  | scalar h => cases h
  | object _ _ _ h => exact h _ (get?_mem hw)

theorem Bare.items {items : List Value} (h : (Value.list items).Bare) : ∀ v ∈ items, v.Bare := by
  cases h with
  | scalar h => cases h
  | list h => exact h

end Value

namespace Reference

variable {r : Reference} {v : Value}

theorem written_toValue (r : Reference) : r.WrittenAs r.toValue := by
  cases r with
  | literal l => exact .literal rfl rfl
  | context path => exact .context rfl rfl
  | node id path => exact .node rfl rfl rfl

theorem bare_toValue (r : Reference) : r.toValue.Bare := by
  have htext (s : String) : (Value.text s).Bare := .scalar rfl
  cases r with
  | literal l =>
    have hl : l.toValue.Bare := .scalar (by cases l <;> rfl)
    exact .object "literal" rfl rfl (by simpa using ⟨htext _, hl⟩)
  | context path => exact .object "context" rfl rfl (by simpa using ⟨htext _, htext _⟩)
  | node id path =>
    exact .object "node" rfl rfl (by simpa using ⟨htext _, htext _, htext _⟩)

theorem WrittenAs.eq_toValue (h : r.WrittenAs v) (hb : v.Bare) : v = r.toValue := by
  cases h with
  | literal type value =>
    obtain ⟨fields, rfl⟩ := Value.object_of_field? type
    rw [Value.field?] at type value
    rw [hb.eq_map type (by decide)]
    simp [Value.keysOf, type, value, toValue, Value.record]
  | context type hp =>
    obtain ⟨fields, rfl⟩ := Value.object_of_field? type
    rw [Value.field?] at type hp
    rw [hb.eq_map type (by decide)]
    simp [Value.keysOf, type, hp, toValue, Value.record]
  | @node id path _ type hid hp =>
    obtain ⟨fields, rfl⟩ := Value.object_of_field? type
    simp only [Value.field?] at type hid hp
    have heq := hb.eq_map type (by decide)
    -- a bare form has the field `nodeId`, so that `node_id` is not looked at
    have hid' : (Fields.get? "nodeId" fields).getD .null = .text id := by
      rw [heq] at hid
      simpa [Value.keysOf, Fields.get?] using hid
    rw [heq]
    simp [Value.keysOf, type, hid', hp, toValue, Value.record]

end Reference

namespace Condition

mutual

theorem bare_toValue : ∀ c : Condition, c.toValue.Bare
  | compare left relation right => by
    have htext (s : String) : (Value.text s).Bare := .scalar rfl
    rw [toValue]
    exact .object "compare" rfl rfl
      (by simpa using ⟨htext _, left.bare_toValue, htext _, right.bare_toValue⟩)
  | all parts => by
    rw [toValue]
    exact .object "and" rfl rfl (by simpa using ⟨.scalar rfl, .list (bare_toValues parts)⟩)
  | any parts => by
    rw [toValue]
    exact .object "or" rfl rfl (by simpa using ⟨.scalar rfl, .list (bare_toValues parts)⟩)

theorem bare_toValues : ∀ parts : List Condition, ∀ v ∈ toValues parts, v.Bare
  | [] => by simp [toValues]
  | c :: rest => by
    rw [toValues, List.forall_mem_cons]
    exact ⟨bare_toValue c, bare_toValues rest⟩

end

theorem toValues_ne_nil {parts : List Condition} {items : List Value}
    (h : List.Forall₂ WrittenAs parts items) (hne : items ≠ []) : toValues parts ≠ [] := by
  cases h with
  | nil => exact absurd rfl hne
  | cons => simp [toValues]

mutual

/-- A condition that has a form at all is written in one. -/
theorem written_toValue : ∀ {c : Condition} {v : Value}, c.WrittenAs v → c.WrittenAs c.toValue
  | compare left relation right, _, _ => by
    rw [toValue]
    exact .compare rfl rfl rfl rfl left.written_toValue right.written_toValue
  | all parts, _, .all _ _ hne hw => by
    rw [toValue]
    exact .all rfl rfl (toValues_ne_nil hw hne) (written_toValues hw)
  | any parts, _, .any _ _ hne hw => by
    rw [toValue]
    exact .any rfl rfl (toValues_ne_nil hw hne) (written_toValues hw)

theorem written_toValues : ∀ {parts : List Condition} {items : List Value},
    List.Forall₂ WrittenAs parts items → List.Forall₂ WrittenAs parts (toValues parts)
  | [], _, _ => by
    rw [toValues]
    exact .nil
  | c :: rest, _, .cons h hs => by
    rw [toValues]
    exact .cons (written_toValue h) (written_toValues hs)

end

mutual

theorem WrittenAs.eq_toValue : ∀ {c : Condition} {v : Value}, c.WrittenAs v → v.Bare → v = c.toValue
  | compare left relation right, v, .compare type hl operator hr hwl hwr, hb => by
    have hl' := hwl.eq_toValue (hb.field? hl)
    have hr' := hwr.eq_toValue (hb.field? hr)
    obtain ⟨fields, rfl⟩ := Value.object_of_field? type
    simp only [Value.field?] at type hl operator hr
    rw [hb.eq_map type (by decide)]
    simp [Value.keysOf, type, hl, operator, hr, hl', hr', toValue, Value.record]
  | all parts, v, .all type hc _ hw, hb => by
    have hitems := eq_toValues hw (hb.field? hc).items
    obtain ⟨fields, rfl⟩ := Value.object_of_field? type
    simp only [Value.field?] at type hc
    rw [hb.eq_map type (by decide)]
    simp [Value.keysOf, type, hc, hitems, toValue, Value.record]
  | any parts, v, .any type hc _ hw, hb => by
    have hitems := eq_toValues hw (hb.field? hc).items
    obtain ⟨fields, rfl⟩ := Value.object_of_field? type
    simp only [Value.field?] at type hc
    rw [hb.eq_map type (by decide)]
    simp [Value.keysOf, type, hc, hitems, toValue, Value.record]

theorem eq_toValues : ∀ {parts : List Condition} {items : List Value},
    List.Forall₂ WrittenAs parts items → (∀ v ∈ items, v.Bare) → items = toValues parts
  | [], _, .nil, _ => by rw [toValues]
  | c :: rest, v :: items, .cons h hs, hb => by
    rw [List.forall_mem_cons] at hb
    rw [toValues, ← WrittenAs.eq_toValue h hb.1, ← eq_toValues hs hb.2]

end

/-- The form that is written is the only bare one. -/
theorem eq_toValue_iff {c : Condition} {v w : Value} (h : c.WrittenAs v) :
    w = c.toValue ↔ c.WrittenAs w ∧ w.Bare := by
  constructor
  · rintro rfl
    exact ⟨written_toValue h, bare_toValue c⟩
  · rintro ⟨hw, hb⟩
    exact hw.eq_toValue hb

/-- The values that are read are the forms of conditions with at most 252 levels, each as the condition
of which it is a form. A condition that has been read is written in its only bare form, and read from
that form again. -/
theorem read_iff_written (raw : Value) :
    (∀ c, parse? raw = some c ↔ c.WrittenAs raw ∧ c.levels ≤ 252) ∧
      ∀ c, parse? raw = some c →
        (∀ w, w = c.toValue ↔ c.WrittenAs w ∧ w.Bare) ∧ parse? c.toValue = some c := by
  refine ⟨fun c => parse?_eq_some_iff, fun c h => ?_⟩
  obtain ⟨hw, hl⟩ := parse?_eq_some_iff.1 h
  exact ⟨fun w => eq_toValue_iff hw, parse?_eq_some_iff.2 ⟨written_toValue hw, hl⟩⟩

/-- A form with a title, the id of a node under its other key, and the fields in another order. -/
def aliased : Value :=
  .record [("title", .text "answered"), ("conditions", .list [.record [("operator", .text "gte"),
    ("left", .record [("node_id", .text "fetch"), ("path", .text "status"), ("type", .text "node")]),
    ("right", .record [("value", .int 400), ("type", .text "literal")]), ("type", .text "compare")]]),
    ("type", .text "and")]

theorem written_of_aliased :
    let c := all [compare (.node "fetch" "status") .gte (.literal (.int 400))]
    parse? aliased = some c ∧ c.WrittenAs aliased ∧ c.levels ≤ 252 ∧ parse? c.toValue = some c := by
  intro c
  have h : parse? aliased = some c := rfl
  obtain ⟨hw, hl⟩ := ((read_iff_written aliased).1 c).1 h
  exact ⟨h, hw, hl, ((read_iff_written aliased).2 c h).2⟩

end Condition

end Workflow
