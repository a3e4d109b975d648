import Workflow.Proofs.Lexing
import Workflow.Yaml.Document

/-!
# The nodes of an exported document

From the tokens of an exported value its node is composed (`compose_of_tokens`), if not too many containers
stand inside each other.
-/

namespace Workflow

/-! ### The nodes of values -/

/-- The node of a number or a name. -/
def Yaml.plainNode (v : Value) : Yaml.Node := .scalar (Resolution.plainTag (plainText v)) (plainText v)

namespace Value

mutual

/-- The count of containers in a value. -/
def containers : Value → Nat
  | .list items => itemsContainers items + 1
  | .object fields => fieldsContainers fields + 1
  | _ => 0

def itemsContainers : List Value → Nat
  | [] => 0
  | v :: rest => v.containers + itemsContainers rest

def fieldsContainers : List (Key × Value) → Nat
  | [] => 0
  | (_, v) :: rest => v.containers + fieldsContainers rest

end

mutual

/-- The node of a value whose containers are numbered from a number on. -/
def node (next : Nat) : Value → Yaml.Node
  | .null => Yaml.plainNode .null
  | .bool b => Yaml.plainNode (.bool b)
  | .int i => Yaml.plainNode (.int i)
  | .float d => Yaml.plainNode (.float d)
  | .text s => .scalar .text s
  | .list items => .sequence next .list (itemNodes (next + 1) items)
  | .object fields => .mapping next .object (fieldNodes (next + 1) fields)
  | .pair _ _ => .empty
  | .foreign _ => .empty

def itemNodes (next : Nat) : List Value → List Yaml.Node
  | [] => []
  | v :: rest => v.node next :: itemNodes (next + v.containers) rest

def fieldNodes (next : Nat) : List (Key × Value) → List (Yaml.Node × Yaml.Node)
  | [] => []
  | (key, v) :: rest => (.scalar .text (Yaml.nameOf key), v.node next) :: fieldNodes (next + v.containers) rest

end

end Value

namespace Yaml

/-! ### Steps -/

theorem bind_ok {σ ε α β : Type} {m : StateT σ (Except ε) α} {k : α → StateT σ (Except ε) β} {s s' : σ} {a : α}
    (h : m s = .ok (a, s')) : (m >>= k) s = k a s' := by
  simp only [bind, StateT.bind, h, Except.bind]

namespace Compose

variable {α : Type} {s' : Composer} {t t' : Token} {ts more : List Token} {n n' d fuel : Nat}
  {block indentless first : Bool}

/-- The composer before tokens, without anchors. -/
def flowing (ts : List Token) (next depth : Nat) : Composer := ⟨ts, [], [], next, usualHandles, depth⟩

/-- Whether a token begins a node that is no alias and has no properties. -/
def opensNode : Token → Bool
  | .scalar _ _ => true
  | .flowSequenceStart => true
  | .flowMappingStart => true
  | _ => false

/-- Whether a token stands inside containers in brackets. -/
def isFlow : Token → Bool
  | .flowSequenceEnd => true
  | .flowMappingEnd => true
  | .flowEntry => true
  | .key => true
  | .value => true
  | t => opensNode t

theorem look_flowing (ht : isFlow t = true) : look (flowing (t :: ts) n d) = .ok (t, flowing (t :: ts) n d) := by
  cases t <;> first | rfl | cases ht

theorem drop_flowing : drop (flowing (t :: ts) n d) = .ok (⟨⟩, flowing ts n d) := rfl

theorem accept_self (ht : isFlow t = true) : accept t (flowing (t :: ts) n d) = .ok (true, flowing ts n d) := by
  rw [accept, bind_ok (look_flowing ht), beq_self_eq_true]
  rfl

theorem accept_ne (ht : isFlow t = true) (hne : t ≠ t') :
    accept t' (flowing (t :: ts) n d) = .ok (false, flowing (t :: ts) n d) := by
  rw [accept, bind_ok (look_flowing ht), beq_eq_false_iff_ne.2 hne]
  rfl

theorem expect_self (ht : isFlow t = true) : expect t (flowing (t :: ts) n d) = .ok (⟨⟩, flowing ts n d) := by
  rw [expect, bind_ok (look_flowing ht), beq_self_eq_true]
  rfl

theorem collection_none {read : Nat → Compose Node} {node : Node}
    (h : read n (flowing ts (n + 1) d) = .ok (node, s')) : collection none read (flowing ts n d) = .ok (node, s') := by
  change (read n >>= fun node => pure node) (flowing ts (n + 1) d) = _
  rw [bind_ok h]
  rfl

theorem nested_flowing {read : Compose α} {a : α} (hd : d < depthLimit)
    (h : read (flowing ts n (d + 1)) = .ok (a, flowing more n' (d + 1))) :
    nested read (flowing ts n d) = .ok (a, flowing more n' d) := by
  have hdepth : ¬ d ≥ depthLimit := Nat.not_le.2 hd
  change (if d ≥ depthLimit then (throw tooDeep : Compose α) else _) (flowing ts n d) = _
  rw [if_neg hdepth]
  change (do
    let a ← read
    modify fun s => { s with depth := s.depth - 1 }
    return a : Compose α) (flowing ts n (d + 1)) = _
  rw [bind_ok h]
  rfl

/-! ### Nodes -/

theorem node_plain {text : String} (hf : 0 < fuel) :
    node fuel block indentless (flowing (.scalar text true :: ts) n d) =
      .ok (.scalar (Resolution.plainTag text) text, flowing ts n d) := by
  obtain ⟨fuel, rfl⟩ : ∃ k, fuel = k + 1 := ⟨fuel - 1, by omega⟩
  rw [node, bind_ok (look_flowing rfl)]
  rfl

theorem node_quoted {text : String} (hf : 0 < fuel) :
    node fuel block indentless (flowing (.scalar text false :: ts) n d) = .ok (.scalar .text text, flowing ts n d) := by
  obtain ⟨fuel, rfl⟩ : ∃ k, fuel = k + 1 := ⟨fuel - 1, by omega⟩
  rw [node, bind_ok (look_flowing rfl)]
  rfl

theorem node_sequence {items : List Node} (hd : d < depthLimit)
    (h : flowItems fuel true (flowing ts (n + 1) (d + 1)) = .ok (items, flowing more n' (d + 1))) :
    node (fuel + 1) block indentless (flowing (.flowSequenceStart :: ts) n d) =
      .ok (.sequence n .list items, flowing more n' d) := by
  rw [node, bind_ok (look_flowing rfl)]
  change (collection none fun number => do
    return .sequence number (collectionTag none .list) (← nested (flowItems fuel true))) (flowing ts n d) = _
  refine collection_none ?_
  rw [bind_ok (nested_flowing hd h)]
  rfl

theorem node_mapping {entries : List (Node × Node)} (hd : d < depthLimit)
    (h : flowEntries fuel true (flowing ts (n + 1) (d + 1)) = .ok (entries, flowing more n' (d + 1))) :
    node (fuel + 1) block indentless (flowing (.flowMappingStart :: ts) n d) =
      .ok (.mapping n .object entries, flowing more n' d) := by
  rw [node, bind_ok (look_flowing rfl)]
  change (collection none fun number => do
    return .mapping number (collectionTag none .object) (← nested (flowEntries fuel true))) (flowing ts n d) = _
  refine collection_none ?_
  rw [bind_ok (nested_flowing hd h)]
  rfl

/-- The composer makes the node of a value from its tokens. -/
def Composes (v : Value) : Prop :=
  ∀ {more : List Token} {n d fuel : Nat} {block indentless : Bool},
    v.tokens.length ≤ fuel → d + v.nesting ≤ depthLimit →
    node fuel block indentless (flowing (v.tokens ++ more) n d) = .ok (v.node n, flowing more (n + v.containers) d)

theorem flowItems_end (hf : 0 < fuel) :
    flowItems fuel first (flowing (.flowSequenceEnd :: ts) n d) = .ok ([], flowing ts n d) := by
  obtain ⟨fuel, rfl⟩ : ∃ k, fuel = k + 1 := ⟨fuel - 1, by omega⟩
  rw [flowItems, bind_ok (accept_self rfl)]
  rfl

theorem flowEntries_end (hf : 0 < fuel) :
    flowEntries fuel first (flowing (.flowMappingEnd :: ts) n d) = .ok ([], flowing ts n d) := by
  obtain ⟨fuel, rfl⟩ : ∃ k, fuel = k + 1 := ⟨fuel - 1, by omega⟩
  rw [flowEntries, bind_ok (accept_self rfl)]
  rfl

/-- An item, behind a separator unless it is the first. -/
theorem flowItems_item {item : Node} {items : List Node} (ht : opensNode t = true)
    (hitem : node fuel false false (flowing (t :: ts) n d) = .ok (item, flowing more n' d))
    (hrest : flowItems fuel false (flowing more n' d) = .ok (items, s')) :
    flowItems (fuel + 1) first (flowing ((if first then [] else [.flowEntry]) ++ t :: ts) n d) =
      .ok (item :: items, s') := by
  have hflow : isFlow t = true := by cases t <;> first | rfl | cases ht
  have hnode : (do
      let item ← node fuel false false
      return item :: (← flowItems fuel false) : Compose (List Node)) (flowing (t :: ts) n d) =
        .ok (item :: items, s') := by
    rw [bind_ok hitem, bind_ok hrest]
    rfl
  have hne : t ≠ .flowSequenceEnd := by
    rintro rfl
    cases ht
  cases first with
  | true =>
    rw [if_pos rfl, List.nil_append, flowItems, bind_ok (accept_ne hflow hne), if_neg Bool.false_ne_true,
      if_neg (show ¬ (!true) = true from Bool.false_ne_true)]
    refine (bind_ok (look_flowing hflow)).trans ?_
    cases t <;> first | exact hnode | cases ht
  | false =>
    rw [if_neg Bool.false_ne_true, flowItems, List.singleton_append, bind_ok (accept_ne rfl (by decide)),
      if_neg Bool.false_ne_true, if_pos (show (!false) = true from rfl)]
    refine (bind_ok (expect_self rfl)).trans ((bind_ok (look_flowing hflow)).trans ?_)
    cases t <;> first | exact hnode | cases ht

/-- A field, behind a separator unless it is the first. -/
theorem flowEntries_field {name : String} {value : Node} {entries : List (Node × Node)} (hf : 0 < fuel)
    (ht : opensNode t = true) (hvalue : node fuel false false (flowing (t :: ts) n d) = .ok (value, flowing more n' d))
    (hrest : flowEntries fuel false (flowing more n' d) = .ok (entries, s')) :
    flowEntries (fuel + 1) first
        (flowing ((if first then [] else [.flowEntry]) ++ .key :: .scalar name false :: .value :: t :: ts) n d) =
      .ok ((.scalar .text name, value) :: entries, s') := by
  have hflow : isFlow t = true := by cases t <;> first | rfl | cases ht
  have hends : (t == .flowEntry || t == .flowMappingEnd) = false := by cases t <;> first | rfl | cases ht
  have hnode : (do
      drop
      let ends (t : Token) : Bool := t == .flowEntry || t == .flowMappingEnd
      let next ← look
      let key ← if next == .value || ends next then pure Node.empty else node fuel false false
      let value ←
        if ← accept .value then
          if ends (← look) then pure Node.empty else node fuel false false
        else pure Node.empty
      return (key, value) :: (← flowEntries fuel false) : Compose (List (Node × Node)))
        (flowing (.key :: .scalar name false :: .value :: t :: ts) n d) =
          .ok ((.scalar .text name, value) :: entries, s') := by
    rw [bind_ok drop_flowing]
    refine (bind_ok (look_flowing rfl)).trans ((bind_ok (node_quoted hf)).trans ?_)
    refine (bind_ok (accept_self rfl)).trans ((bind_ok (look_flowing hflow)).trans ?_)
    have hgoes : ¬ (t == .flowEntry || t == .flowMappingEnd) = true := by rw [hends]; exact Bool.false_ne_true
    refine (congrFun (if_neg hgoes) _).trans ?_
    exact (bind_ok hvalue).trans (bind_ok hrest)
  cases first with
  | true =>
    rw [if_pos rfl, List.nil_append, flowEntries, bind_ok (accept_ne rfl (by decide)), if_neg Bool.false_ne_true,
      if_neg (show ¬ (!true) = true from Bool.false_ne_true)]
    exact (bind_ok (look_flowing rfl)).trans hnode
  | false =>
    rw [if_neg Bool.false_ne_true, flowEntries, List.singleton_append, bind_ok (accept_ne rfl (by decide)),
      if_neg Bool.false_ne_true, if_pos (show (!false) = true from rfl)]
    exact (bind_ok (expect_self rfl)).trans ((bind_ok (look_flowing rfl)).trans hnode)

theorem exists_tokens {v : Value} (hj : v.isJson = true) : ∃ t ts, v.tokens = t :: ts ∧ opensNode t = true := by
  have henclosed (opening closing : Token) (parts : List (List Token)) (h : opensNode opening = true) :
      ∃ t ts, enclosedTokens opening closing parts = t :: ts ∧ opensNode t = true := by
    cases parts <;> exact ⟨_, _, rfl, h⟩
  cases v with
  | list items => exact henclosed _ _ _ rfl
  | object fields => exact henclosed _ _ _ rfl
  | pair a b => cases hj
  | foreign f => cases hj
  | _ => exact ⟨_, _, rfl, rfl⟩

variable {items : List Value} {fields : Fields}

/-- An item that is a value. -/
theorem flowItems_value (first : Bool) {v : Value} {rest : List Node} (hj : v.isJson = true) (hv : Composes v)
    (hf : v.tokens.length ≤ fuel) (hd : d + v.nesting ≤ depthLimit)
    (hrest : flowItems fuel false (flowing more (n + v.containers) d) = .ok (rest, s')) :
    flowItems (fuel + 1) first (flowing ((if first then [] else [.flowEntry]) ++ (v.tokens ++ more)) n d) =
      .ok (v.node n :: rest, s') := by
  obtain ⟨t, ts, htokens, ht⟩ := exists_tokens hj
  have hnode : node fuel false false (flowing (v.tokens ++ more) n d) = _ := hv hf hd
  rw [htokens, List.cons_append] at hnode ⊢
  exact flowItems_item ht hnode hrest

/-- A field with a value. -/
theorem flowEntries_value (first : Bool) {key : Key} {v : Value} {rest : List (Node × Node)}
    (hj : v.isJson = true) (hv : Composes v) (hf : v.tokens.length ≤ fuel) (hd : d + v.nesting ≤ depthLimit)
    (hrest : flowEntries fuel false (flowing more (n + v.containers) d) = .ok (rest, s')) :
    flowEntries (fuel + 1) first
        (flowing ((if first then [] else [.flowEntry]) ++ (fieldTokens key v.tokens ++ more)) n d) =
      .ok ((.scalar .text (nameOf key), v.node n) :: rest, s') := by
  obtain ⟨t, ts, htokens, ht⟩ := exists_tokens hj
  have hnode : node fuel false false (flowing (v.tokens ++ more) n d) = _ := hv hf hd
  rw [htokens] at hf
  rw [htokens, List.cons_append] at hnode
  rw [fieldTokens, htokens]
  exact flowEntries_field (Nat.lt_of_lt_of_le (Nat.succ_pos _) hf) ht hnode hrest

theorem length_otherTokens_pos (closing : Token) (parts : List (List Token)) :
    0 < (otherTokens closing parts).length := by
  cases parts <;> exact Nat.succ_pos _

theorem flowItems_others (hj : ∀ v ∈ items, v.isJson = true) (hv : ∀ v ∈ items, Composes v)
    (hd : d + Value.itemsNesting items ≤ depthLimit)
    (hf : (otherTokens .flowSequenceEnd (Value.itemsTokens items)).length ≤ fuel) :
    flowItems fuel false (flowing (otherTokens .flowSequenceEnd (Value.itemsTokens items) ++ more) n d) =
      .ok (Value.itemNodes n items, flowing more (n + Value.itemsContainers items) d) := by
  induction items generalizing n fuel with
  | nil => exact flowItems_end hf
  | cons v items ih =>
    rw [List.forall_mem_cons] at hj hv
    rw [Value.itemsNesting] at hd
    rw [Value.itemsTokens, otherTokens, List.length_cons, List.length_append] at hf
    obtain ⟨fuel, rfl⟩ : ∃ k, fuel = k + 1 := ⟨fuel - 1, by omega⟩
    have hrest : flowItems fuel false
        (flowing (otherTokens .flowSequenceEnd (Value.itemsTokens items) ++ more) (n + v.containers) d) = _ :=
      ih hj.2 hv.2 (by omega) (by omega)
    rw [Nat.add_assoc] at hrest
    rw [Value.itemsTokens, otherTokens, List.cons_append, List.append_assoc]
    exact flowItems_value false hj.1 hv.1 (by omega) (by omega) hrest

theorem flowEntries_others (hj : ∀ f ∈ fields, f.2.isJson = true) (hv : ∀ f ∈ fields, Composes f.2)
    (hd : d + Value.fieldsNesting fields ≤ depthLimit)
    (hf : (otherTokens .flowMappingEnd (Value.fieldsTokens fields)).length ≤ fuel) :
    flowEntries fuel false (flowing (otherTokens .flowMappingEnd (Value.fieldsTokens fields) ++ more) n d) =
      .ok (Value.fieldNodes n fields, flowing more (n + Value.fieldsContainers fields) d) := by
  induction fields generalizing n fuel with
  | nil => exact flowEntries_end hf
  | cons f fields ih =>
    obtain ⟨key, v⟩ := f
    rw [List.forall_mem_cons] at hj hv
    rw [Value.fieldsNesting] at hd
    rw [Value.fieldsTokens, otherTokens, List.length_cons, List.length_append, fieldTokens, List.length_cons,
      List.length_cons, List.length_cons] at hf
    obtain ⟨fuel, rfl⟩ : ∃ k, fuel = k + 1 := ⟨fuel - 1, by omega⟩
    have hrest : flowEntries fuel false
        (flowing (otherTokens .flowMappingEnd (Value.fieldsTokens fields) ++ more) (n + v.containers) d) = _ :=
      ih hj.2 hv.2 (by omega) (by omega)
    rw [Nat.add_assoc] at hrest
    rw [Value.fieldsTokens, otherTokens, List.cons_append, List.append_assoc]
    exact flowEntries_value false hj.1 hv.1 (by omega) (by omega) hrest

theorem flowItems_within (hj : ∀ v ∈ items, v.isJson = true) (hv : ∀ v ∈ items, Composes v)
    (hd : d + Value.itemsNesting items ≤ depthLimit)
    (hf : (enclosedTokens .flowSequenceStart .flowSequenceEnd (Value.itemsTokens items)).length ≤ fuel + 1) :
    ∃ ts, enclosedTokens .flowSequenceStart .flowSequenceEnd (Value.itemsTokens items) = .flowSequenceStart :: ts ∧
      flowItems fuel true (flowing (ts ++ more) n d) =
        .ok (Value.itemNodes n items, flowing more (n + Value.itemsContainers items) d) := by
  cases items with
  | nil => exact ⟨_, rfl, flowItems_end (Nat.le_of_succ_le_succ hf)⟩
  | cons v items =>
    rw [Value.itemsTokens, enclosedTokens, List.length_cons, List.length_append] at hf
    rw [List.forall_mem_cons] at hj hv
    rw [Value.itemsNesting] at hd
    have hpos := length_otherTokens_pos .flowSequenceEnd (Value.itemsTokens items)
    obtain ⟨t, ts, htokens, -⟩ := exists_tokens hj.1
    have hlen : 0 < v.tokens.length := by rw [htokens]; exact Nat.succ_pos _
    obtain ⟨fuel, rfl⟩ : ∃ k, fuel = k + 1 := ⟨fuel - 1, by omega⟩
    refine ⟨_, rfl, ?_⟩
    rw [List.append_assoc, Value.itemsContainers, ← Nat.add_assoc]
    exact flowItems_value true hj.1 hv.1 (by omega) (by omega)
      (flowItems_others hj.2 hv.2 (by omega) (by omega))

theorem flowEntries_within (hj : ∀ f ∈ fields, f.2.isJson = true) (hv : ∀ f ∈ fields, Composes f.2)
    (hd : d + Value.fieldsNesting fields ≤ depthLimit)
    (hf : (enclosedTokens .flowMappingStart .flowMappingEnd (Value.fieldsTokens fields)).length ≤ fuel + 1) :
    ∃ ts, enclosedTokens .flowMappingStart .flowMappingEnd (Value.fieldsTokens fields) = .flowMappingStart :: ts ∧
      flowEntries fuel true (flowing (ts ++ more) n d) =
        .ok (Value.fieldNodes n fields, flowing more (n + Value.fieldsContainers fields) d) := by
  cases fields with
  | nil => exact ⟨_, rfl, flowEntries_end (Nat.le_of_succ_le_succ hf)⟩
  | cons f fields =>
    obtain ⟨key, v⟩ := f
    rw [Value.fieldsTokens, enclosedTokens, List.length_cons, List.length_append, fieldTokens, List.length_cons,
      List.length_cons, List.length_cons] at hf
    rw [List.forall_mem_cons] at hj hv
    rw [Value.fieldsNesting] at hd
    have hpos := length_otherTokens_pos .flowMappingEnd (Value.fieldsTokens fields)
    obtain ⟨fuel, rfl⟩ : ∃ k, fuel = k + 1 := ⟨fuel - 1, by omega⟩
    refine ⟨_, rfl, ?_⟩
    rw [List.append_assoc, Value.fieldsContainers, ← Nat.add_assoc]
    exact flowEntries_value true hj.1 hv.1 (by omega) (by omega)
      (flowEntries_others hj.2 hv.2 (by omega) (by omega))

/-- The tokens of a value give its node. -/
theorem composes {v : Value} (hj : v.isJson = true) : Composes v := by
  induction v using Value.byParts with
  | list items ih =>
    intro more n d fuel block indentless hf hd
    have hj := Value.itemsJson_iff.1 hj
    rw [Value.nesting] at hd
    rw [Value.tokens] at hf ⊢
    obtain ⟨fuel, rfl⟩ : ∃ k, fuel = k + 1 := ⟨fuel - 1, by
      cases items <;> rw [Value.itemsTokens, enclosedTokens, List.length_cons] at hf <;> omega⟩
    obtain ⟨ts, htokens, hitems⟩ : ∃ ts, _ = Token.flowSequenceStart :: ts ∧
        flowItems fuel true (flowing (ts ++ more) (n + 1) (d + 1)) = _ :=
      flowItems_within hj (fun v hv => ih v hv (hj v hv)) (by omega) hf
    rw [Nat.add_right_comm] at hitems
    rw [htokens]
    exact node_sequence (by omega) hitems
  | object fields ih =>
    intro more n d fuel block indentless hf hd
    have hj := fun f hf => (Value.fieldsJson_iff.1 hj f hf).2
    rw [Value.nesting] at hd
    rw [Value.tokens] at hf ⊢
    obtain ⟨fuel, rfl⟩ : ∃ k, fuel = k + 1 := ⟨fuel - 1, by
      cases fields <;> rw [Value.fieldsTokens, enclosedTokens, List.length_cons] at hf <;> omega⟩
    obtain ⟨ts, htokens, hfields⟩ : ∃ ts, _ = Token.flowMappingStart :: ts ∧
        flowEntries fuel true (flowing (ts ++ more) (n + 1) (d + 1)) = _ :=
      flowEntries_within hj (fun f hf => ih f hf (hj f hf)) (by omega) hf
    rw [Nat.add_right_comm] at hfields
    rw [htokens]
    exact node_mapping (by omega) hfields
  | text s => exact fun hf _ => node_quoted hf
  | pair a b => cases hj
  | foreign f => cases hj
  | _ => exact fun hf _ => node_plain hf

theorem skipEnds_end (fuel : Nat) :
    skipEnds fuel (flowing [.streamEnd] n d) = .ok (⟨⟩, flowing [.streamEnd] n d) := by
  cases fuel <;> rfl

/-- A text that holds one value has its node for its document. -/
theorem single_of_node {root : Node} (ht : opensNode t = true)
    (h : node fuel true false (flowing (t :: ts) n d) = .ok (root, flowing [.streamEnd] n' d)) :
    single fuel (flowing (t :: ts) n d) = .ok (some root, flowing [.streamEnd] n' d) := by
  have hflow : isFlow t = true := by cases t <;> first | rfl | cases ht
  have hstart : startsExplicitly t = false := by cases t <;> first | rfl | cases ht
  rw [single, bind_ok (look_flowing hflow), hstart, if_neg Bool.false_ne_true]
  have hroot : (some <$> node fuel true false) (flowing (t :: ts) n d) =
      .ok (some root, flowing [.streamEnd] n' d) := by
    change (node fuel true false >>= fun root => pure (some root)) _ = _
    rw [bind_ok h]
    rfl
  exact (bind_ok hroot).trans (bind_ok (skipEnds_end fuel))

end Compose

/-- From the tokens of an exported value its node is composed. -/
theorem compose_of_tokens {v : Value} {text : String} (hj : v.isJson = true) (hd : v.nesting ≤ Compose.depthLimit)
    (h : tokens text = v.tokens ++ [.streamEnd]) :
    compose text = .ok ⟨some (v.node 0), [], v.tokens.length + 1⟩ := by
  obtain ⟨t, ts, htokens, ht⟩ := Compose.exists_tokens hj
  have hlen : (v.tokens ++ [Token.streamEnd]).length = v.tokens.length + 1 := List.length_append
  have hnode : Compose.node (4 * (v.tokens.length + 1) + 8) true false
      (Compose.flowing (v.tokens ++ [.streamEnd]) 0 0) = _ :=
    Compose.composes hj (by omega) (by omega)
  rw [htokens, List.cons_append] at hnode
  have hsingle := Compose.single_of_node ht hnode
  rw [← List.cons_append, ← htokens] at hsingle
  rw [compose, h]
  simp only [hlen]
  split
  next he => cases he.symm.trans hsingle; rfl
  next he => cases he.symm.trans hsingle

end Yaml

end Workflow
