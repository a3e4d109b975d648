import Workflow.Proofs.Composing
import Workflow.Proofs.PlainScalars

/-!
# The values of the nodes of an exported document

The node of a value has the value as it is spelt in YAML text: a number whose text has no point is a text
(`Composition.values`), and the document is checked without a fault (`Composition.check_ok`).
-/

namespace Workflow

/-- A value as its JSON text reads as YAML: a number whose text has no point is a text. -/
def Value.spelt (v : Value) : Value :=
  v.withFloats fun d => if d.isPointed then .float d.reread else .text (Json.floatText d)

namespace Yaml

open Value (node itemNodes fieldNodes)

/-! ### Scalars -/

theorem value_float (d : Double) : Scalar.value (Resolution.plainTag (Json.floatText d)) (Json.floatText d) =
    .ok (Value.float d).spelt := by
  have hname (name : String) (h : Json.floatText d = name) (htag : Resolution.plainTag name = .text)
      (hpoint : name.toList.contains '.' = false) :
      Scalar.value (Resolution.plainTag (Json.floatText d)) (Json.floatText d) = .ok (Value.float d).spelt := by
    have hd : d.isPointed = false := by rw [Double.isPointed, h, hpoint]
    rw [Value.spelt, Value.withFloats, hd, h, htag]
    rfl
  rcases d.floatText_cases with ⟨w, hw, hd, -⟩ | ⟨h, -⟩ | ⟨h, -⟩ | ⟨h, -⟩
  · have htext : Json.floatText d = String.ofList w.chars := by rw [← hw, String.ofList_toList]
    have hpointed : d.isPointed = !w.fraction.isEmpty := by rw [Double.isPointed, hw, w.contains_chars]
    rw [Value.spelt, Value.withFloats, hpointed]
    by_cases hf : w.fraction = []
    · rw [htext, Resolution.plainTag_chars, if_pos hf, hf]
      rfl
    · rw [htext, Resolution.plainTag_chars, if_neg hf, if_pos (by simpa using hf), ← hd]
      exact Scalar.float_chars w
  · exact hname "NaN" h (by decide) (by decide)
  · exact hname "Infinity" h (by decide) (by decide)
  · exact hname "-Infinity" h (by decide) (by decide)

/-- Whether a value is written without brackets. -/
def isScalar : Value → Bool
  | .list _ => false
  | .object _ => false
  | _ => true

theorem isCollection_of_value {tag : Tag} {text : String} {v : Value} (h : Scalar.value tag text = .ok v) :
    tag.isCollection = false := by
  cases tag <;> first | rfl | cases h

theorem exists_scalar {v : Value} (hj : v.isJson = true) (hv : isScalar v = true) (next : Nat) :
    ∃ tag text, v.node next = .scalar tag text ∧ Scalar.value tag text = .ok v.spelt := by
  cases v with
  | null => exact ⟨_, _, rfl, by decide⟩
  | bool b => cases b <;> exact ⟨_, _, rfl, by decide⟩
  | int i =>
    obtain ⟨s, htext⟩ := Json.exists_intText hj
    refine ⟨Resolution.plainTag (plainText (.int i)), plainText (.int i), rfl, ?_⟩
    rw [plainText_int htext, Scalar.plainTag_intText htext]
    exact Scalar.int_intText htext
  | float d => exact ⟨_, _, rfl, value_float d⟩
  | text s => exact ⟨_, _, rfl, rfl⟩
  | list items => cases hv
  | object fields => cases hv
  | pair a b => cases hj
  | foreign f => cases hj

/-! ### Values -/

/-! ### Nodes of parts -/

theorem mapM_eq_ok {ε α β : Type} {f : α → Except ε β} {xs : List α} {ys : List β}
    (h : List.Forall₂ (fun x y => f x = .ok y) xs ys) : xs.mapM f = .ok ys := by
  induction h with
  | nil => rfl
  | @cons x y xs ys hx _ ih =>
    rw [List.mapM_cons, hx]
    change xs.mapM f >>= (fun ys => Except.ok (y :: ys)) = _
    rw [ih]
    rfl

theorem forall₂_itemNodes {R : Node → Value → Prop} {items : List Value} {next : Nat}
    (h : ∀ v ∈ items, ∀ n ≥ next, R (v.node n) v) : List.Forall₂ R (itemNodes next items) items := by
  induction items generalizing next with
  | nil => exact .nil
  | cons v items ih =>
    rw [List.forall_mem_cons] at h
    exact .cons (h.1 next le_rfl) (ih fun w hw n hn => h.2 w hw n (Nat.le_of_add_right_le hn))

theorem forall₂_fieldNodes {R : Node × Node → Key × Value → Prop} {fields : Fields} {next : Nat}
    (h : ∀ f ∈ fields, ∀ n ≥ next, R (.scalar .text (nameOf f.1), f.2.node n) f) :
    List.Forall₂ R (fieldNodes next fields) fields := by
  induction fields generalizing next with
  | nil => exact .nil
  | cons f fields ih =>
    rw [List.forall_mem_cons] at h
    exact .cons (h.1 next le_rfl) (ih fun w hw n hn => h.2 w hw n (Nat.le_of_add_right_le hn))

theorem mem_itemNodes {items : List Value} {next : Nat} {n : Node} (hn : n ∈ itemNodes next items) :
    ∃ v ∈ items, ∃ k, n = v.node k := by
  induction items generalizing next with
  | nil => cases hn
  | cons v items ih =>
    rcases List.mem_cons.1 hn with rfl | hn
    · exact ⟨v, List.mem_cons_self, next, rfl⟩
    · obtain ⟨w, hw, hk⟩ := ih hn
      exact ⟨w, List.mem_cons_of_mem _ hw, hk⟩

theorem mem_fieldNodes {fields : Fields} {next : Nat} {entry : Node × Node} (he : entry ∈ fieldNodes next fields) :
    ∃ f ∈ fields, ∃ k, entry = (.scalar .text (nameOf f.1), f.2.node k) := by
  induction fields generalizing next with
  | nil => cases he
  | cons f fields ih =>
    rcases List.mem_cons.1 he with rfl | he
    · exact ⟨f, List.mem_cons_self, next, rfl⟩
    · obtain ⟨g, hg, hk⟩ := ih he
      exact ⟨g, List.mem_cons_of_mem _ hg, hk⟩

namespace Composition

variable {around : List Nat} {next fuel : Nat}

/-- The node has the value, inside whatever earlier containers. -/
def Values (v : Value) : Prop :=
  ∀ {around : List Nat} {next fuel : Nat}, (∀ k ∈ around, k < next) → v.nesting < fuel →
    value [] [] fuel around (v.node next) = .ok v.spelt

theorem value_scalar {n : Node} {tag : Tag} {text : String} (h : n = .scalar tag text) (hf : 0 < fuel) :
    value [] [] fuel around n = Scalar.value tag text := by
  obtain ⟨fuel, rfl⟩ : ∃ k, fuel = k + 1 := ⟨fuel - 1, by omega⟩
  rw [h]
  rfl

theorem present_fieldNodes (number : Nat) (fields : Fields) :
    Node.present [] number (fieldNodes next fields) = fieldNodes next fields := by
  refine (List.map_congr_left fun entry he => ?_).trans (List.map_id _)
  obtain ⟨f, -, k, rfl⟩ := mem_fieldNodes he
  rfl

theorem joinNan_fieldNodes (fields : Fields) : Node.joinNan (fieldNodes next fields) = fieldNodes next fields := by
  have hnan : (fieldNodes next fields).filter (fun entry => entry.1.isNan) = [] := by
    refine List.filter_eq_nil_iff.2 fun entry he => ?_
    obtain ⟨f, -, k, rfl⟩ := mem_fieldNodes he
    exact Bool.false_ne_true
  rw [Node.joinNan, hnan]
  rfl

theorem spelt_list (items : List Value) : (Value.list items).spelt = .list (items.map Value.spelt) := by
  rw [Value.spelt, Value.withFloats, Value.itemsWithFloats_eq]
  rfl

theorem spelt_object (fields : Fields) :
    (Value.object fields).spelt = .object (Fields.ofList (fields.map fun f => (f.1, f.2.spelt))) := by
  rw [Value.spelt, Value.withFloats, Value.fieldsWithFloats_eq]
  rfl

theorem forall_inside {n : Nat} (ha : ∀ k ∈ around, k < next) (hn : n ≥ next + 1) : ∀ k ∈ next :: around, k < n :=
  List.forall_mem_cons.2 ⟨hn, fun k hk => Nat.lt_trans (ha k hk) hn⟩

theorem text_nameOf {key : Key} (h : key.isText = true) : .text (nameOf key) = key := by
  cases key <;> first | rfl | cases h

theorem contains_eq_false (ha : ∀ k ∈ around, k < next) : around.contains next = false := by
  rw [List.contains_eq_any_beq, List.any_eq_false]
  intro k hk heq
  exact Nat.lt_irrefl next (ha next (beq_iff_eq.1 heq ▸ hk))

theorem values {v : Value} (hj : v.isJson = true) : Values v := by
  induction v using Value.byParts with
  | list items ih =>
    intro around next fuel ha hf
    have hj := Value.itemsJson_iff.1 hj
    rw [Value.nesting] at hf
    obtain ⟨fuel, rfl⟩ : ∃ k, fuel = k + 1 := ⟨fuel - 1, by omega⟩
    have hitems : (itemNodes (next + 1) items).mapM (fun item => value [] [] fuel (next :: around) item) =
        .ok (items.map Value.spelt) := by
      refine mapM_eq_ok (List.forall₂_map_right_iff.2 (forall₂_itemNodes fun v hv n hn => ?_))
      have := Value.nesting_lt_of_mem hv
      exact ih v hv (hj v hv) (forall_inside ha hn) (by rw [Value.nesting] at this; omega)
    rw [Value.node, value, spelt_list]
    change (if around.contains next then Except.ok (Value.foreign (.loop false)) else do
      return Value.list (← (itemNodes (next + 1) items).mapM fun item => value [] [] fuel (next :: around) item)) = _
    rw [contains_eq_false ha, if_neg Bool.false_ne_true, hitems]
    rfl
  | object fields ih =>
    intro around next fuel ha hf
    have hj := Value.fieldsJson_iff.1 hj
    rw [Value.nesting] at hf
    obtain ⟨fuel, rfl⟩ : ∃ k, fuel = k + 1 := ⟨fuel - 1, by omega⟩
    have hfields : (fieldNodes (next + 1) fields).mapM
        (fun entry => do return (← key entry.1, ← value [] [] fuel (next :: around) entry.2)) =
          .ok (fields.map fun f => (f.1, f.2.spelt)) := by
      refine mapM_eq_ok (List.forall₂_map_right_iff.2 (forall₂_fieldNodes fun f hmem n hn => ?_))
      have := Value.nesting_lt_of_mem_fields hmem
      have hvalue : value [] [] fuel (next :: around) (f.2.node n) = .ok f.2.spelt :=
        ih f hmem (hj f hmem).2 (forall_inside ha hn) (by rw [Value.nesting] at this; omega)
      change (do return (Key.text (nameOf f.1), ← value [] [] fuel (next :: around) (f.2.node n))) = _
      rw [hvalue, text_nameOf (hj f hmem).1]
      rfl
    rw [Value.node, value, spelt_object]
    change (if around.contains next then Except.ok (Value.foreign (.loop true)) else do
      let entries := Node.joinNan (Node.present [] next (fieldNodes (next + 1) fields))
      let fields ← entries.mapM fun entry => do return (← key entry.1, ← value [] [] fuel (next :: around) entry.2)
      return Value.object (Fields.ofList fields)) = _
    rw [contains_eq_false ha, if_neg Bool.false_ne_true, present_fieldNodes, joinNan_fieldNodes]
    simp only [hfields]
    rfl
  | pair a b => cases hj
  | foreign f => cases hj
  | _ =>
    intro around next fuel _ hf
    obtain ⟨tag, text, hnode, hvalue⟩ := exists_scalar hj rfl next
    rw [value_scalar hnode (Nat.lt_of_le_of_lt (Nat.zero_le _) hf), hvalue]

end Composition

/-! ### Checks -/

namespace Node

/-- Whether a node is the node of a value. -/
def IsOf (n : Node) : Prop := ∃ (v : Value) (k : Nat), v.isJson = true ∧ n = v.node k

variable {α β : Type} {m : Merged} {n : Node} {steps seen fuel : Nat}

theorem forM_ok {f : α → Merging PUnit} {xs : List α} (h : ∀ x ∈ xs, f x m = .ok (⟨⟩, m)) :
    xs.forM f m = .ok (⟨⟩, m) := by
  induction xs with
  | nil => rfl
  | cons x xs ih =>
    rw [List.forall_mem_cons] at h
    change (f x >>= fun _ => xs.forM f) m = _
    rw [bind_ok h.1]
    exact ih h.2

theorem mapM_ok {f : α → Merging β} {p : β → Prop} {xs : List α} (h : ∀ x ∈ xs, ∃ y, f x m = .ok (y, m) ∧ p y) :
    ∃ ys, xs.mapM f m = .ok (ys, m) ∧ ∀ y ∈ ys, p y := by
  induction xs with
  | nil => exact ⟨[], rfl, fun _ hy => by cases hy⟩
  | cons x xs ih =>
    rw [List.forall_mem_cons] at h
    obtain ⟨⟨y, hy, hp⟩, hxs⟩ := h
    obtain ⟨ys, hys, hps⟩ := ih hxs
    refine ⟨y :: ys, ?_, List.forall_mem_cons.2 ⟨hp, hps⟩⟩
    rw [List.mapM_cons, bind_ok hy, bind_ok hys]
    rfl

theorem scalarValue_scalar (tag : Tag) (text : String) : (scalar tag text).scalarValue tag = Scalar.value tag text := by
  have htext : (scalar tag text).scalarText = .ok text := by rw [scalarText]
  have hbind (f : String → Except Fault Value) : (Except.ok text >>= f) = f text := rfl
  rw [scalarValue, htext, hbind]
  split
  next h => cases h
  next => rfl

theorem check_ok (hn : n.IsOf) : n.check = .ok ⟨⟩ := by
  obtain ⟨v, k, hj, rfl⟩ := hn
  by_cases hv : isScalar v = true
  · obtain ⟨tag, text, hnode, hvalue⟩ := exists_scalar hj hv k
    have hdeferred : (scalar tag text).isDeferred = false := isCollection_of_value hvalue
    rw [hnode, check, hdeferred, if_neg Bool.false_ne_true]
    change ((scalar tag text).scalarValue tag).map (fun _ => ()) = _
    rw [scalarValue_scalar, hvalue]
    rfl
  · cases v <;> first | exact absurd rfl hv | rfl

theorem flatten_fieldNodes {fields : Fields} {next number : Nat} {tag : Tag} (hs : 0 < steps) :
    flatten [] steps (mapping number tag (fieldNodes next fields)) [] = .ok (fieldNodes next fields, []) := by
  obtain ⟨steps, rfl⟩ : ∃ k, steps = k + 1 := ⟨steps - 1, by omega⟩
  have hmerge : (fieldNodes next fields).any (·.1.isMerge) = false := by
    refine List.any_eq_false.2 fun entry he => ?_
    obtain ⟨f, -, k, rfl⟩ := mem_fieldNodes he
    exact Bool.false_ne_true
  have hpresent : present [] number (fieldNodes next fields) = fieldNodes next fields :=
    Composition.present_fieldNodes number fields
  rw [flatten]
  change (if (present [] number (fieldNodes next fields)).any (·.1.isMerge) = true then _ else
    (pure (present [] number (fieldNodes next fields)) : Merging (List (Node × Node)))) [] = _
  rw [hpresent, hmerge, if_neg Bool.false_ne_true]
  rfl

theorem checkEntry_ok {name : String} (hn : n.IsOf) : checkEntry (scalar .text name, n) = .ok ⟨⟩ := by
  change (do n.check) = _
  exact check_ok hn

/-- What a collection of a document holds is looked at without a fault. -/
theorem checkWithin_ok (hn : n.IsOf) (hd : n.isDeferred = true) (hs : 0 < steps) :
    ∃ inside, checkWithin [] steps n [] = .ok (inside, []) ∧ ∀ m ∈ inside, m.IsOf := by
  obtain ⟨v, k, hj, rfl⟩ := hn
  cases v with
  | list items =>
    have hitems : ∀ n ∈ itemNodes (k + 1) items, n.IsOf := fun n hn => by
      obtain ⟨v, hv, j, rfl⟩ := mem_itemNodes hn
      exact ⟨v, j, Value.itemsJson_iff.1 hj v hv, rfl⟩
    refine ⟨itemNodes (k + 1) items, ?_, hitems⟩
    change ((itemNodes (k + 1) items).forM (fun item => (liftM item.check : Merging Unit)) >>= fun _ => pure _) [] = _
    rw [bind_ok (forM_ok fun n hn => by rw [check_ok (hitems n hn)]; rfl)]
    rfl
  | object fields =>
    have hvalues : ∀ entry ∈ fieldNodes (k + 1) fields, ∃ name, entry.1 = scalar .text name ∧ entry.2.IsOf :=
      fun entry he => by
        obtain ⟨f, hf, j, rfl⟩ := mem_fieldNodes he
        exact ⟨_, rfl, f.2, j, (Value.fieldsJson_iff.1 hj f hf).2, rfl⟩
    refine ⟨(fieldNodes (k + 1) fields).map (·.2), ?_, List.forall_mem_map.2 fun entry he => ?_⟩
    · change (do
        let entries ← flatten [] steps (Value.node k (.object fields))
        entries.forM fun entry => (liftM (checkEntry entry) : Merging Unit)
        return entries.map (·.2) : Merging (List Node)) [] = _
      rw [Value.node, bind_ok (flatten_fieldNodes hs)]
      rw [bind_ok (forM_ok fun entry he => by
        obtain ⟨name, hname, hof⟩ := hvalues entry he
        obtain ⟨key, v⟩ := entry
        obtain rfl : key = scalar .text name := hname
        rw [checkEntry_ok hof]
        rfl)]
      rfl
    · obtain ⟨_, -, hof⟩ := hvalues entry he
      exact hof
  | pair a b => cases hj
  | foreign f => cases hj
  | _ =>
    obtain ⟨tag, text, hnode, hvalue⟩ := exists_scalar hj rfl k
    have hdeferred : (scalar tag text).isDeferred = false := isCollection_of_value hvalue
    rw [hnode, hdeferred] at hd
    cases hd

theorem mem_collections {ns : List Node} (h : n ∈ (collections seen ns).1) : n ∈ ns ∧ n.isDeferred = true := by
  induction ns generalizing seen with
  | nil => cases h
  | cons m ns ih =>
    rw [collections] at h
    split at h
    · exact ⟨List.mem_cons_of_mem _ (ih h).1, (ih h).2⟩
    next hm =>
      rw [Bool.or_eq_true, not_or] at hm
      rcases List.mem_cons.1 h with rfl | h
      · exact ⟨List.mem_cons_self, by simpa using hm.1⟩
      · exact ⟨List.mem_cons_of_mem _ (ih h).1, (ih h).2⟩

/-- Looking at the levels of a document finds no fault. -/
theorem checkLevels_ok {level : List Node} (hs : 0 < steps) (h : ∀ n ∈ level, n.IsOf ∧ n.isDeferred = true) :
    checkLevels [] fuel steps seen level [] = .ok (⟨⟩, []) := by
  induction fuel generalizing seen level with
  | zero => rfl
  | succ fuel ih =>
    obtain ⟨inside, hinside, hof⟩ := mapM_ok (p := fun ns => ∀ n ∈ ns, IsOf n) fun n hn =>
      checkWithin_ok (h n hn).1 (h n hn).2 hs
    rw [checkLevels, bind_ok hinside]
    have hnext : ∀ n ∈ (collections seen inside.flatten).1, n.IsOf ∧ n.isDeferred = true := fun n hn => by
      obtain ⟨hmem, hd⟩ := mem_collections hn
      obtain ⟨ns, hns, hn⟩ := List.mem_flatten.1 hmem
      exact ⟨hof ns hns n hn, hd⟩
    generalize hnext' : collections seen inside.flatten = found at hnext ⊢
    obtain ⟨next, seen'⟩ := found
    cases next with
    | nil => rfl
    | cons n ns => exact ih hnext

end Node

/-- The document of an exported value is checked without a fault. -/
theorem Composition.check_ok {v : Value} {k size : Nat} (hj : v.isJson = true) (root : Option Node) :
    Composition.check ⟨root, [], size⟩ (v.node k) = .ok [] := by
  have hof : (v.node k).IsOf := ⟨v, k, hj, rfl⟩
  have hlevel : ∀ n ∈ (Node.collections 0 [v.node k]).1, n.IsOf ∧ n.isDeferred = true := fun n hn => by
    obtain ⟨hmem, hd⟩ := Node.mem_collections hn
    exact ⟨List.mem_singleton.1 hmem ▸ hof, hd⟩
  have hlevels : Node.checkLevels [] (size + 1) (Nat.pow (size + 1) 3) (Node.collections 0 [v.node k]).2
      (Node.collections 0 [v.node k]).1 [] = .ok (⟨⟩, []) :=
    Node.checkLevels_ok (Nat.pow_pos (Nat.succ_pos size)) hlevel
  have hroot : (if (v.node k).isDeferred then do
      return (← (Node.checkLevels [] (size + 1) (Nat.pow (size + 1) 3) (Node.collections 0 [v.node k]).2
        (Node.collections 0 [v.node k]).1).run []).2
      else return []) = Except.ok ([] : Node.Merged) := by
    split
    · change (Node.checkLevels [] (size + 1) (Nat.pow (size + 1) 3) (Node.collections 0 [v.node k]).2
        (Node.collections 0 [v.node k]).1 [] >>= fun r => Except.ok r.2) = _
      rw [hlevels]
      rfl
    · rfl
  rw [Composition.check, Node.check_ok hof]
  exact hroot

/-! ### Readers that look at some fields -/

theorem filterMapM_eq_ok {ε α β : Type} {f : α → Except ε (Option β)} {xs : List α} {ys : List β}
    (h : List.Forall₂ (fun x y => f x = .ok (some y)) xs ys) : xs.filterMapM f = .ok ys := by
  induction h with
  | nil => rfl
  | @cons x y xs ys hx _ ih =>
    rw [List.filterMapM_cons, hx]
    change xs.filterMapM f >>= (fun ys => Except.ok (y :: ys)) = _
    rw [ih]
    rfl

theorem target_node {v : Value} (hj : v.isJson = true) (k : Nat) : (v.node k).target [] = v.node k := by
  by_cases hv : isScalar v = true
  · obtain ⟨tag, text, hnode, -⟩ := exists_scalar hj hv k
    rw [hnode]
    rfl
  · cases v <;> first | exact absurd rfl hv | rfl

namespace Composition

variable {size fuel k : Nat} {v : Value}

theorem shaped_whole (hj : v.isJson = true) (hn : v.nesting < size) :
    shaped [] [] size fuel .whole (v.node k) = .ok v.spelt := by
  have hvalue : value [] [] size [] (v.node k) = .ok v.spelt := values hj (fun _ h => by cases h) hn
  cases fuel with
  | zero => exact hvalue
  | succ fuel =>
    rw [shaped, target_node hj]
    · exact hvalue
    · exact fun _ _ _ h => by cases h
    · exact fun _ _ _ h => by cases h

theorem shaped_items {items : List Value} {shape : Shape}
    (h : ∀ v ∈ items, ∀ k, shaped [] [] size fuel shape (v.node k) = .ok v.spelt) :
    shaped [] [] size (fuel + 1) (.items shape) ((Value.list items).node k) = .ok (Value.list items).spelt := by
  have hitems : (itemNodes (k + 1) items).mapM (fun item => shaped [] [] size fuel shape item) =
      .ok (items.map Value.spelt) :=
    mapM_eq_ok (List.forall₂_map_right_iff.2 (forall₂_itemNodes fun v hv n _ => h v hv n))
  have htarget : ((Value.list items).node k).target [] = .sequence k .list (itemNodes (k + 1) items) := rfl
  unfold shaped
  simp only [htarget, hitems, spelt_list]
  rfl

theorem shaped_fields {fields : Fields} {shapes : List (String × Shape)} (hj : (Value.object fields).isJson = true)
    (h : ∀ f ∈ fields, ∃ shape, shapes.lookup (nameOf f.1) = some shape ∧
      ∀ k, shaped [] [] size fuel shape (f.2.node k) = .ok f.2.spelt) :
    shaped [] [] size (fuel + 1) (.fields shapes) ((Value.object fields).node k) = .ok (Value.object fields).spelt := by
  have htarget : ((Value.object fields).node k).target [] = .mapping k .object (fieldNodes (k + 1) fields) := rfl
  unfold shaped
  simp only [htarget, present_fieldNodes, spelt_object]
  refine (congrArg (· >>= _) (@filterMapM_eq_ok _ _ _ _ _ (fields.map fun f => (f.1, f.2.spelt))
    (List.forall₂_map_right_iff.2 (forall₂_fieldNodes fun f hf n _ => ?_)))).trans rfl
  obtain ⟨shape, hshape, hvalue⟩ := h f hf
  have hkey : key (Node.scalar .text (nameOf f.1)) = .ok (.text (nameOf f.1)) := rfl
  have hname := text_nameOf (Value.fieldsJson_iff.1 hj f hf).1
  simp only [hkey, bind, Except.bind, hshape, hvalue]
  exact congrArg (fun key => Except.ok (some (key, f.2.spelt))) hname

end Composition

/-! ### Reading -/

theorem length_lt_enclosedTokens (opening closing : Token) {part : List Token} {parts : List (List Token)}
    (h : part ∈ parts) : part.length < (enclosedTokens opening closing parts).length := by
  have hothers : ∀ {parts : List (List Token)}, part ∈ parts → part.length < (otherTokens closing parts).length := by
    intro parts h
    induction parts with
    | nil => cases h
    | cons p ps ih =>
      rw [otherTokens, List.length_cons, List.length_append]
      rcases List.mem_cons.1 h with rfl | h
      · omega
      · have := ih h
        omega
  cases parts with
  | nil => cases h
  | cons p ps =>
    rw [enclosedTokens, List.length_cons, List.length_append]
    rcases List.mem_cons.1 h with rfl | h
    · omega
    · have := hothers h
      omega

theorem length_enclosedTokens_pos (opening closing : Token) (parts : List (List Token)) :
    0 < (enclosedTokens opening closing parts).length := by
  cases parts <;> exact Nat.succ_pos _

theorem nesting_le_length {v : Value} (hj : v.isJson = true) : v.nesting ≤ v.tokens.length := by
  induction v using Value.byParts with
  | list items ih =>
    have hpos := length_enclosedTokens_pos .flowSequenceStart .flowSequenceEnd (items.map Value.tokens)
    rw [Value.tokens, Value.itemsTokens_eq, ← Nat.sub_add_cancel hpos, Value.nesting, Nat.add_le_add_iff_right]
    refine Value.itemsNesting_le fun v hv => ?_
    have hlen := length_lt_enclosedTokens .flowSequenceStart .flowSequenceEnd
      (List.mem_map_of_mem (f := Value.tokens) hv)
    have := ih v hv (Value.itemsJson_iff.1 hj v hv)
    omega
  | object fields ih =>
    have hpos := length_enclosedTokens_pos .flowMappingStart .flowMappingEnd
      (fields.map fun f => fieldTokens f.1 f.2.tokens)
    rw [Value.tokens, Value.fieldsTokens_eq, ← Nat.sub_add_cancel hpos, Value.nesting, Nat.add_le_add_iff_right]
    refine Value.fieldsNesting_le fun f hf => ?_
    have hlen := length_lt_enclosedTokens .flowMappingStart .flowMappingEnd
      (List.mem_map_of_mem (f := fun f : Key × Value => fieldTokens f.1 f.2.tokens) hf)
    have := ih f hf (Value.fieldsJson_iff.1 hj f hf).2
    rw [fieldTokens, List.length_cons, List.length_cons, List.length_cons] at hlen
    omega
  | pair a b => cases hj
  | _ => exact Nat.zero_le _

/-- An exported object is read as it is spelt, by a reader that looks at all its fields. -/
theorem read_of_json {fields : Fields} {text : String} {shape : Shape} (hj : (Value.object fields).isJson = true)
    (hn : (Value.object fields).hasShortNames = true) (hd : (Value.object fields).nesting ≤ Compose.depthLimit)
    (h : (Value.object fields).json .indented = .ok text) (hallowed : (Text.codes text.toList).all isAllowed = true)
    (hb : Lexer.IsBroken text.toList)
    (hshape : ∀ size fuel, (Value.object fields).nesting < size →
      Composition.shaped [] [] size fuel shape ((Value.object fields).node 0) = .ok (Value.object fields).spelt) :
    read shape text = .ok (Value.object fields).spelt := by
  have htokens := tokens_of_json hj hn h hallowed hb
  have hlen := nesting_le_length hj
  rw [read, compose_of_tokens hj hd htokens]
  change (do
    let merged ← Composition.check ⟨some ((Value.object fields).node 0), [], (Value.object fields).tokens.length + 1⟩
      ((Value.object fields).node 0)
    Composition.shaped [] merged ((Value.object fields).tokens.length + 1 + 1)
      ((Value.object fields).tokens.length + 1 + 1) shape ((Value.object fields).node 0)) = _
  rw [Composition.check_ok hj]
  exact hshape _ _ (by omega)

end Yaml

end Workflow
