import Workflow.Flow.Config
import Workflow.Proofs.Layout
import Workflow.Proofs.Reimport

/-!
# Configurations of a document

The configuration of a node is kept as JSON text. If it was an object, the text reads as this object again,
with the fields of every object in it in their order, and it means to the node what the object would have
meant (`stored_of_storable`). Numbers are no part of this: their texts have to read as the same numbers.
-/

namespace Workflow

/-- Whether a number is one of the three with names, or its text reads as the number. -/
def Double.isReadable (d : Double) : Bool := !d.isFinite || d.reread == d

theorem Double.reread_of_not_isFinite {d : Double} (h : d.isFinite = false) : d.reread = d := by
  cases d with
  | nan => decide
  | number negative rank hr =>
    obtain rfl : rank = infinityRank := by
      simp only [isFinite, decide_eq_false_iff_not] at h
      omega
    cases negative with
    | false => exact (show infinity.reread = infinity by decide)
    | true => exact (show infinity.neg.reread = infinity.neg by decide)

theorem Double.reread_of_isReadable {d : Double} (h : d.isReadable = true) : d.reread = d := by
  rw [isReadable, Bool.or_eq_true, Bool.not_eq_true', beq_iff_eq] at h
  exact h.elim reread_of_not_isFinite id

namespace Value

/-- The keys of every object in a value are different. -/
inductive Distinct : Value → Prop where
  | scalar {v : Value} (h : v.isScalar = true) : Distinct v
  | list {items : List Value} (h : ∀ v ∈ items, Distinct v) : Distinct (.list items)
  | object {fields : Fields} (keys : (fields.map Prod.fst).Nodup) (h : ∀ p ∈ fields, Distinct p.2) :
      Distinct (.object fields)

theorem Distinct.reread_eq {number : Double → Bool} (hnumber : ∀ d, number d = true → d.reread = d) {v : Value}
    (h : v.Distinct) (hj : v.isJson = true) (hn : v.every (fun _ => true) number = true) : v.reread = v := by
  induction h with
  | @scalar v h =>
    cases v with
    | float d => exact congrArg Value.float (hnumber d hn)
    | _ => first | rfl | cases h
  | @list items _ ih =>
    have hitems : ∀ v ∈ items, v.reread = v := fun v hv =>
      ih v hv (itemsJson_iff.1 hj v hv) (itemsEvery_iff.1 hn v hv)
    rw [reread, withFloats, itemsWithFloats_eq]
    exact congrArg Value.list ((List.map_congr_left hitems).trans (List.map_id _))
  | @object fields keys _ ih =>
    rw [isJson, fieldsJson_iff] at hj
    have hfields : ∀ p ∈ fields, (p.1, p.2.reread) = p := fun p hp =>
      Prod.ext rfl (ih p hp (hj p hp).2 (fieldsEvery_iff.1 hn p hp).2)
    rw [reread, withFloats, fieldsWithFloats_eq]
    refine congrArg Value.object ?_
    have hmap : (fields.map fun p => (p.1, p.2.reread)) = fields :=
      (List.map_congr_left hfields).trans (List.map_id _)
    exact (congrArg Fields.ofList hmap).trans (Fields.ofList_of_texts (fun p hp => (hj p hp).1) keys)

end Value

/-- An object that JSON text can hold and be read from: its keys are different texts, its integers are short
enough, it is not nested too deeply, and the texts of its finite numbers read as the numbers. -/
structure Fields.IsStorable (c : Fields) : Prop where
  json : (Value.object c).isJson = true
  distinct : (Value.object c).Distinct
  depth : (Value.object c).nesting ≤ Json.depthLimit
  numbers : (Value.object c).every (fun _ => true) Double.isReadable = true

theorem Fields.IsStorable.read_eq {c : Fields} (h : c.IsStorable) {text : String}
    (ht : (Value.object c).json .spaced = .ok text) : Json.read text = .ok (.object c) := by
  rw [Json.read_of_write Json.separates_spaced h.json ht h.depth,
    h.distinct.reread_eq (fun _ => Double.reread_of_isReadable) h.json h.numbers]

theorem configFields_of_read {text : String} {c : Fields} (h : Json.read text = .ok (.object c)) :
    configFields (.text text) = c := by
  rw [configFields, h]

namespace Document

open Stateful

variable {document v : Value} {workspace flow : String} {now : Instant} {k k' : Nat} {g : FlowGraph} {n : Node}

theorem configText_object {c : Fields} {text : String} (h : (Value.object c).json .spaced = .ok text) (k : Nat) :
    configText (.object c) k = (.ok (some text), k) := by
  unfold configText
  simp only [h]
  rfl

theorem config_of_parseNode {newId : Option String} (h : parseNode v flow newId k = (.ok n, k')) :
    ∃ config k₁ k₂, configText (v.field "config") k₁ = (.ok config, k₂) ∧ n.config = .ofOption .text config := by
  unfold parseNode at h
  obtain ⟨-, h⟩ := unless_refused h
  obtain ⟨-, h⟩ := unless_refused h
  obtain ⟨-, h⟩ := unless_refused h
  obtain ⟨x, _, -, h⟩ := bind_eq_ok.1 h
  obtain ⟨y, _, -, h⟩ := bind_eq_ok.1 h
  obtain ⟨id, _, -, h⟩ := bind_eq_ok.1 h
  obtain ⟨type, _, -, h⟩ := bind_eq_ok.1 h
  obtain ⟨config, _, hconfig, h⟩ := bind_eq_ok.1 h
  obtain ⟨rfl, -⟩ := pure_eq_ok.1 h
  exact ⟨config, _, _, hconfig, rfl⟩

theorem config_of_parseNewNode (h : parseNewNode flow v k = (.ok n, k')) :
    ∃ config k₁ k₂, configText (v.field "config") k₁ = (.ok config, k₂) ∧ n.config = .ofOption .text config := by
  unfold parseNewNode at h
  obtain ⟨id, _, -, h⟩ := bind_eq_ok.1 h
  exact config_of_parseNode h

/-- The nodes of a document that is read, one for one, each with the text of its configuration. -/
theorem configs_of_parse (h : parse document workspace now k = (.ok g, k')) :
    ∃ nodes, document.field "nodes" = .list nodes ∧ List.Forall₂ (fun v n => ∃ config k₁ k₂,
      configText (v.field "config") k₁ = (.ok config, k₂) ∧ n.config = .ofOption .text config) nodes g.nodes := by
  obtain ⟨nodes, _, _, _, hnodes, -, -, hparts⟩ := parse_ok h
  refine ⟨nodes, hnodes, ?_⟩
  rcases hparts with ⟨h, -⟩ | ⟨h, -⟩
  · exact (forall₂_of_mapM h).imp fun v n ⟨_, _, hvn⟩ => config_of_parseNode hvn
  · exact (forall₂_of_mapM h).imp fun v n ⟨_, _, hvn⟩ => config_of_parseNewNode hvn

/-- An object that can be stored has a text, whatever ids are drawn, from which it is read again with all
fields in their order. In every document that is read, a node with the object as its configuration is kept
with this text, and means the same as it would with the object. -/
theorem stored_of_storable {c : Fields} (hc : c.IsStorable) :
    ∃ text, (∀ k, configText (.object c) k = (.ok (some text), k)) ∧ Json.read text = .ok (.object c) ∧
      configFields (.text text) = c ∧
      ∀ {document : Value} {workspace : String} {now : Instant} {k k' : Nat} {g : FlowGraph},
        parse document workspace now k = (.ok g, k') →
        ∃ nodes, document.field "nodes" = .list nodes ∧ List.Forall₂ (fun (v : Value) (n : Node) =>
          v.field "config" = .object c →
            n.config = .text text ∧ n.parsedConfig = { n with config := .object c }.parsedConfig) nodes g.nodes := by
  obtain ⟨text, htext⟩ := Value.exists_json .spaced hc.json
  have hread : Json.read text = .ok (.object c) := hc.read_eq htext
  refine ⟨text, configText_object htext, hread, configFields_of_read hread, fun hparse => ?_⟩
  obtain ⟨nodes, hnodes, hconfigs⟩ := configs_of_parse hparse
  refine ⟨nodes, hnodes, hconfigs.imp fun v n ⟨config, k₁, k₂, hconfig, hn⟩ hv => ?_⟩
  obtain rfl : some text = config := by
    rw [hv, configText_object htext] at hconfig
    exact Except.ok.inj (congrArg Prod.fst hconfig)
  have hn : n.config = .text text := hn
  refine ⟨hn, ?_⟩
  rw [Node.parsedConfig, Node.parsedConfig, hn, configFields_of_read hread]
  rfl

/-- A configuration with a fraction, quotes, a letter beyond ASCII and containers that are empty. -/
def detailed : Fields :=
  [(.text "actionType", .text "echo"),
    (.text "config", .object [(.text "word", .text "\"é\"\n"), (.text "share", .float (.ofRatio false 1 2)),
      (.text "rest", .list [.null, .list [], .object []])])]

/-- A document with one node that has it. -/
def sketch : Value :=
  .record [("nodes", .list [.record [("id", .text "say"), ("type", .text "action"), ("config", .object detailed)]])]

theorem isStorable_detailed : detailed.IsStorable where
  json := by decide
  distinct := by
    have hrest : (Value.list [.null, .list [], .object []]).Distinct := by
      refine .list ?_
      simp only [List.forall_mem_cons, List.not_mem_nil, false_imp_iff, implies_true, and_true]
      exact ⟨.scalar rfl, .list nofun, .object .nil nofun⟩
    refine .object (by decide) ?_
    simp only [detailed, List.forall_mem_cons, List.not_mem_nil, false_imp_iff, implies_true, and_true]
    refine ⟨.scalar rfl, .object (by decide) ?_⟩
    simp only [List.forall_mem_cons, List.not_mem_nil, false_imp_iff, implies_true, and_true]
    exact ⟨.scalar rfl, .scalar rfl, hrest⟩
  depth := by decide
  numbers := by decide +kernel

/-- The node is kept with a text that reads as the configuration, and means what it says. -/
theorem stored_of_detailed : detailed.IsStorable ∧ ∃ text g k', parse sketch "" ⟨0⟩ 0 = (.ok g, k') ∧
    Json.read text = .ok (.object detailed) ∧
    ∀ n ∈ g.nodes, n.config = .text text ∧ n.parsedConfig = { n with config := .object detailed }.parsedConfig := by
  obtain ⟨text, -, hread, -, hstored⟩ := stored_of_storable isStorable_detailed
  obtain ⟨g, k', hg⟩ : ∃ g k', parse sketch "" ⟨0⟩ 0 = (.ok g, k') := ⟨_, _, rfl⟩
  obtain ⟨nodes, hnodes, hkept⟩ := hstored hg
  obtain rfl : nodes = [_] := (Value.list.inj hnodes).symm
  refine ⟨isStorable_detailed, text, g, k', hg, hread, ?_⟩
  obtain ⟨node, rest, hnode, hrest, heq⟩ := List.forall₂_cons_left_iff.1 hkept
  obtain rfl := List.forall₂_nil_left_iff.1 hrest
  intro n hn
  rw [heq, List.mem_singleton] at hn
  exact hn ▸ hnode rfl

end Document

end Workflow
