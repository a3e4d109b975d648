import Workflow.Proofs.NodeValues
import Workflow.Proofs.Reimport

/-!
# Exports as YAML text and as JSON text

A reader of YAML refuses an exported document with characters that YAML text must not have. If the text has
no line breaks but line feeds, names of fields are short and not too many containers stand inside each other,
it finds what a reader of JSON does, but for numbers whose texts have no point: these become texts. Coordinates
are read as numbers all the same (`parseText_of_export`).
-/

namespace Workflow

/-! ### Records -/

theorem Value.withFloats_record {f : Double → Value} {entries : List (String × Value)}
    (h : (entries.map Prod.fst).Nodup) :
    (Value.record entries).withFloats f = .record (entries.map fun e => (e.1, e.2.withFloats f)) := by
  have hnodup : ((entries.map fun e => (e.1, e.2.withFloats f)).map Prod.fst).Nodup := by
    rwa [List.map_map]
  have := Fields.ofList_of_nodup hnodup
  rw [List.map_map] at this
  rw [Value.record, Value.withFloats, Value.fieldsWithFloats_eq, List.map_map, Value.record, List.map_map]
  exact congrArg Value.object this

/-! ### Data that are written -/

namespace Value

theorem data_of_isJson {v : Value} (hj : v.isJson = true) : v.Data := by
  induction v using Value.byParts with
  | null => exact .null
  | bool b => exact .bool b
  | int i => exact .int i
  | float d => exact .float d
  | text s => exact .text s
  | list items ih => exact .list fun v hv => ih v hv (itemsJson_iff.1 hj v hv)
  | object fields ih =>
    have hj := fieldsJson_iff.1 hj
    exact .object (fun p hp => (hj p hp).1) fun p hp => ih p hp (hj p hp).2
  | pair a b => cases hj
  | foreign f => cases hj

theorem data_record {entries : List (String × Value)} (h : ∀ e ∈ entries, e.2.Data) : (Value.record entries).Data := by
  refine .object (fun p hp => ?_) fun p hp => ?_ <;> obtain ⟨e, he, rfl⟩ := List.mem_map.1 hp
  · rfl
  · exact h e he

theorem data_ofOption_text (o : Option String) : (Value.ofOption .text o).Data := by
  cases o
  · exact .null
  · exact .text _

theorem Data.isJson_of_json {v : Value} {style : JsonStyle} {text : String} (hv : v.Data)
    (h : v.json style = .ok text) : v.isJson = true := by
  by_contra hj
  have herror : Json.writeAt style 0 v = .error .longInteger := Json.writeAt_error hv (by simpa using hj)
  rw [Json.writeAt_of_json h] at herror
  cases herror

end Value

theorem FlowGraph.data_toDocument {g : FlowGraph} (hg : g.Portable) : g.toDocument.Data := by
  have hjson {v : Value} (hv : v.isJson = true) : v.Data := Value.data_of_isJson hv
  have hnodes : ∀ v ∈ g.nodes.map exportNode, v.Data := by
    refine List.forall_mem_map.2 fun n hn => Value.data_record ?_
    obtain ⟨-, -, hlabel, ⟨dx, hx⟩, ⟨dy, hy⟩, c, hc⟩ := hg.nodes n hn
    simp only [List.forall_mem_cons, List.not_mem_nil, false_implies, implies_true, and_true]
    exact ⟨.text _, hjson hlabel, hx ▸ .float dx, hy ▸ .float dy, hc ▸ Value.data_ofOption_text c⟩
  have hedges : ∀ v ∈ g.edges.map g.exportEdge, v.Data := by
    refine List.forall_mem_map.2 fun e he => Value.data_record ?_
    obtain ⟨hs, ht, hl⟩ := hg.edges e he
    simp only [List.forall_mem_cons, List.not_mem_nil, false_implies, implies_true, and_true]
    exact ⟨.int _, .int _, hjson hs, hjson ht, hjson hl⟩
  have hflow : (Value.record [("name", g.flow.name), ("description", g.flow.description),
      ("status", .text g.flow.status), ("triggerConfig", .ofOption .text g.flow.triggerConfig)]).Data := by
    refine Value.data_record ?_
    simp only [List.forall_mem_cons, List.not_mem_nil, false_implies, implies_true, and_true]
    exact ⟨hjson hg.nameWritable, hjson hg.description, .text _, Value.data_ofOption_text _⟩
  refine Value.data_record ?_
  simp only [List.forall_mem_cons, List.not_mem_nil, false_implies, implies_true, and_true]
  exact ⟨.int 1, hflow, .list hnodes, .list hedges⟩

/-! ### Readers of documents -/

namespace Yaml

/-- A reader that looks at a value in this shape sees all of it. -/
def Shows (size : Nat) (shape : Shape) (v : Value) : Prop :=
  ∀ fuel k, Composition.shaped [] [] size fuel shape (v.node k) = .ok v.spelt

variable {size : Nat}

theorem shows_record {entries : List (String × Value)} {shapes : List (String × Shape)}
    (hj : (Value.record entries).isJson = true) (hn : (Value.record entries).nesting < size)
    (h : ∀ e ∈ entries, ∃ shape, shapes.lookup e.1 = some shape ∧ Shows size shape e.2) :
    Shows size (.fields shapes) (.record entries) := by
  intro fuel k
  cases fuel with
  | zero => exact Composition.values hj (fun _ h => by cases h) hn
  | succ fuel =>
    refine Composition.shaped_fields hj fun f hf => ?_
    obtain ⟨e, he, rfl⟩ := List.mem_map.1 hf
    obtain ⟨shape, hshape, hshows⟩ := h e he
    exact ⟨shape, hshape, hshows fuel⟩

theorem shows_list {items : List Value} {shape : Shape} (hj : (Value.list items).isJson = true)
    (hn : (Value.list items).nesting < size) (h : ∀ v ∈ items, Shows size shape v) :
    Shows size (.items shape) (.list items) := by
  intro fuel k
  cases fuel with
  | zero => exact Composition.values hj (fun _ h => by cases h) hn
  | succ fuel => exact Composition.shaped_items fun v hv => h v hv fuel

theorem shows_whole {v : Value} (hj : v.isJson = true) (hn : v.nesting < size) : Shows size .whole v :=
  fun _ _ => Composition.shaped_whole hj hn

theorem isJson_entry {entries : List (String × Value)} {e : String × Value} (hj : (Value.record entries).isJson = true)
    (he : e ∈ entries) : e.2.isJson = true ∧ e.2.nesting < (Value.record entries).nesting := by
  have hmem : (Key.text e.1, e.2) ∈ entries.map fun e => (Key.text e.1, e.2) :=
    List.mem_map_of_mem (f := fun (e : String × Value) => (Key.text e.1, e.2)) he
  exact ⟨(Value.fieldsJson_iff.1 hj _ hmem).2, Value.nesting_lt_of_mem_fields hmem⟩

/-- A record with its fields each looked at as a whole. -/
theorem shows_wholes {entries : List (String × Value)} {names : List String}
    (hj : (Value.record entries).isJson = true) (hn : (Value.record entries).nesting < size)
    (h : ∀ e ∈ entries, e.1 ∈ names) :
    Shows size (.fields (names.map fun name => (name, .whole))) (.record entries) := by
  have hlookup : ∀ name ∈ names, (names.map fun name => (name, Shape.whole)).lookup name = some .whole := by
    clear h
    induction names with
    | nil => exact fun _ h => by cases h
    | cons first names ih =>
      intro name hname
      rw [List.map_cons, List.lookup_cons]
      split
      · rfl
      next hne => exact ih name ((List.mem_cons.1 hname).resolve_left (by simpa using hne))
  refine shows_record hj hn fun e he => ⟨.whole, hlookup e.1 (h e he), ?_⟩
  obtain ⟨hje, hne⟩ := isJson_entry hj he
  exact shows_whole hje (Nat.lt_trans hne hn)

end Yaml

namespace Document

open Yaml

/-- The shape of documents leaves nothing of an export out. -/
theorem shows_toDocument {g : FlowGraph} {size : Nat} (hj : g.toDocument.isJson = true)
    (hn : g.toDocument.nesting < size) : Shows size shape g.toDocument := by
  unfold FlowGraph.toDocument at hj hn ⊢
  refine shows_record hj hn fun e he => ?_
  obtain ⟨hje, hlt⟩ := isJson_entry hj he
  have hne := Nat.lt_trans hlt hn
  simp only [List.mem_cons, List.not_mem_nil, or_false] at he
  rcases he with rfl | rfl | rfl | rfl
  · exact ⟨_, rfl, shows_whole hje hne⟩
  · exact ⟨_, rfl, shows_wholes hje hne (by simp)⟩
  · refine ⟨_, rfl, shows_list hje hne fun v hv => ?_⟩
    have hlt := Value.nesting_lt_of_mem hv
    obtain ⟨n, -, rfl⟩ := List.mem_map.1 hv
    exact shows_wholes (Value.itemsJson_iff.1 hje _ hv) (Nat.lt_trans hlt hne) (by simp)
  · refine ⟨_, rfl, shows_list hje hne fun v hv => ?_⟩
    have hlt := Value.nesting_lt_of_mem hv
    obtain ⟨e, -, rfl⟩ := List.mem_map.1 hv
    exact shows_wholes (Value.itemsJson_iff.1 hje _ hv) (Nat.lt_trans hlt hne) (by simp)

variable {g : FlowGraph} {text : String} {k : Nat}

theorem readYaml_of_refused (h : (Text.codes text.toList).all isAllowed = false) :
    readYaml text k = (.error ⟨.parse, "Failed to parse YAML"⟩, k) := by
  have htokens : tokens text = [.fault .malformed] := by
    rw [tokens]
    simp only [h]
    rfl
  have hread : read shape text = .error .malformed := by
    rw [Yaml.read, compose, htokens]
    rfl
  rw [readYaml, hread]
  rfl

end Document

/-- Whether every number in a value is written with a point. -/
def Value.isPointed (v : Value) : Bool := v.every (fun _ => true) Double.isPointed

/-- Whether every number of a flow but the coordinates is written with a point. -/
def FlowGraph.isPointed (g : FlowGraph) : Bool :=
  g.flow.name.isPointed && g.flow.description.isPointed && (g.nodes.all fun n => n.label.isPointed) &&
    g.edges.all fun e => e.sourceHandle.isPointed && e.targetHandle.isPointed && e.label.isPointed

/-- The text of an export is one for readers of YAML. -/
structure FlowGraph.PlainYaml (g : FlowGraph) (text : String) : Prop where
  /-- No character is one that YAML text must not have. -/
  characters : (Text.codes text.toList).all Yaml.isAllowed = true
  /-- No other line breaks stand inside texts. -/
  breaks : Yaml.Lexer.IsBroken text.toList
  names : g.toDocument.hasShortNames = true
  depth : g.toDocument.nesting ≤ Yaml.Compose.depthLimit

namespace Document

open Yaml

variable {g : FlowGraph} {text : String} {k : Nat}

theorem readYaml_of_export (hj : g.toDocument.isJson = true) (htext : g.exportText = .ok text)
    (h : g.PlainYaml text) : readYaml text k = (.ok g.toDocument.spelt, k) := by
  have hread : read shape text = .ok g.toDocument.spelt :=
    read_of_json hj h.names h.depth htext h.characters h.breaks fun _ _ hn => shows_toDocument hj hn _ _
  rw [readYaml, hread]
  rfl

theorem readJson_of_export (hj : g.toDocument.isJson = true) (htext : g.exportText = .ok text)
    (hd : g.toDocument.nesting ≤ Json.depthLimit) : readJson text k = (.ok g.toDocument.reread, k) := by
  rw [readJson, Json.read_of_write Json.separates_indented hj htext hd]
  rfl

/-! ### What becomes of the numbers -/

theorem parseCoordinate_spelt (d : Double) (node : Value) :
    parseCoordinate (Value.float d).spelt node = parseCoordinate (Value.float d).reread node := by
  rw [Value.spelt, Value.reread, Value.withFloats, Value.withFloats]
  split
  · rfl
  next hd =>
    rw [Bool.not_eq_true] at hd
    obtain ⟨c, cs, hchars, -⟩ := Json.exists_floatChars d
    have htext : (Value.text (Json.floatText d)).isGiven = true := by
      rw [Value.isGiven_text]
      intro h
      rw [h] at hchars
      cases hchars
    have hfloat : (Value.float d.reread).isGiven = true := by
      rw [Value.isGiven, Double.not_isZero_of_not_isPointed hd]
      rfl
    unfold parseCoordinate
    rw [Value.orElse_of_isGiven htext, Value.orElse_of_isGiven hfloat, Value.asDouble?, Value.asDouble?,
      Double.double?_floatText]

/-- Nodes that differ in the spelling of their coordinates are read alike. -/
theorem parseNode_record {type label config x y x' y' : Value}
    (hx : ∀ node, parseCoordinate x node = parseCoordinate x' node)
    (hy : ∀ node, parseCoordinate y node = parseCoordinate y' node) (flow : String) (newId : Option String) :
    parseNode (.record [("type", type), ("label", label), ("x", x), ("y", y), ("config", config)]) flow newId =
      parseNode (.record [("type", type), ("label", label), ("x", x'), ("y", y'), ("config", config)]) flow newId := by
  let entries (x y : Value) : Value :=
    .record [("type", type), ("label", label), ("x", x), ("y", y), ("config", config)]
  have hobject (x y : Value) : (entries x y).fields?.isNone = false := rfl
  have htype (x y : Value) : (entries x y).field "type" = type := rfl
  have hlabel (x y : Value) : (entries x y).field "label" = label := rfl
  have hx' (x y : Value) : (entries x y).field "x" = x := rfl
  have hy' (x y : Value) : (entries x y).field "y" = y := rfl
  have hconfig (x y : Value) : (entries x y).field "config" = config := rfl
  have hid (x y : Value) : (entries x y).field "id" = .null := rfl
  change parseNode (entries x y) flow newId = parseNode (entries x' y') flow newId
  unfold parseNode
  simp only [hobject, htype, hlabel, hx', hy', hconfig, hid, hx, hy]

theorem mapM_congr {α β : Type} {f f' : α → Drawing β} {xs xs' : List α}
    (h : List.Forall₂ (fun x x' => f x = f' x') xs xs') : xs.mapM f = xs'.mapM f' := by
  induction h with
  | nil => rfl
  | cons hx _ ih => rw [List.mapM_cons, List.mapM_cons, hx, ih]

/-- Documents whose nodes are read alike are. -/
theorem parse_record {flow edges : Value} {nodes nodes' : List Value}
    (hnodes : List.Forall₂ (fun v v' => ∀ flow newId, parseNode v flow newId = parseNode v' flow newId) nodes nodes')
    (ws : String) (now : Instant) :
    parse (.record [("version", .int 1), ("flow", flow), ("nodes", .list nodes), ("edges", edges)]) ws now =
      parse (.record [("version", .int 1), ("flow", flow), ("nodes", .list nodes'), ("edges", edges)]) ws now := by
  let document (nodes : List Value) : Value :=
    .record [("version", .int 1), ("flow", flow), ("nodes", .list nodes), ("edges", edges)]
  have hobject (nodes : List Value) : (document nodes).fields?.isNone = false := rfl
  have hversion (nodes : List Value) : (document nodes).field "version" = .int 1 := rfl
  have hlist (nodes : List Value) : (document nodes).field "nodes" = .list nodes := rfl
  have hedges (nodes : List Value) : (document nodes).field? "edges" = some edges := rfl
  have hflow : parseFlow (document nodes) ws now = parseFlow (document nodes') ws now := rfl
  have hgiven (flow : String) :
      nodes.mapM (fun v => parseNode v flow none) = nodes'.mapM fun v => parseNode v flow none :=
    mapM_congr (hnodes.imp fun v v' h => h flow none)
  have hnew (flow : String) : nodes.mapM (parseNewNode flow) = nodes'.mapM (parseNewNode flow) :=
    mapM_congr (hnodes.imp fun v v' h => by
      unfold parseNewNode
      simp only [h])
  change parse (document nodes) ws now = parse (document nodes') ws now
  unfold parse
  simp only [hobject, hversion, hlist, hedges, hflow, Option.getD_some]
  cases edges with
  | list edges => simp only [hgiven, hnew]
  | _ => rfl

variable {f : Double → Value}

theorem exportNode_withFloats (n : Node) : (FlowGraph.exportNode n).withFloats f =
    .record [("type", .text n.type), ("label", n.label.withFloats f), ("x", n.x.withFloats f),
      ("y", n.y.withFloats f), ("config", n.config.withFloats f)] :=
  Value.withFloats_record (show ["type", "label", "x", "y", "config"].Nodup by decide)

theorem exportEdge_withFloats (g : FlowGraph) (e : Edge) : (g.exportEdge e).withFloats f =
    .record [("sourceIndex", .int (g.position e.source)), ("targetIndex", .int (g.position e.target)),
      ("sourceHandle", e.sourceHandle.withFloats f), ("targetHandle", e.targetHandle.withFloats f),
      ("label", e.label.withFloats f)] :=
  Value.withFloats_record
    (show ["sourceIndex", "targetIndex", "sourceHandle", "targetHandle", "label"].Nodup by decide)

theorem toDocument_withFloats (g : FlowGraph) : g.toDocument.withFloats f =
    .record [("version", .int 1),
      ("flow", .record [("name", g.flow.name.withFloats f), ("description", g.flow.description.withFloats f),
        ("status", .text g.flow.status), ("triggerConfig", .ofOption .text g.flow.triggerConfig)]),
      ("nodes", .list (g.nodes.map fun n => (FlowGraph.exportNode n).withFloats f)),
      ("edges", .list (g.edges.map fun e => (g.exportEdge e).withFloats f))] := by
  have hconfig : (Value.ofOption .text g.flow.triggerConfig).withFloats f = .ofOption .text g.flow.triggerConfig := by
    cases g.flow.triggerConfig <;> rfl
  have hflow : (Value.record [("name", g.flow.name), ("description", g.flow.description),
      ("status", .text g.flow.status), ("triggerConfig", .ofOption .text g.flow.triggerConfig)]).withFloats f =
    .record [("name", g.flow.name.withFloats f), ("description", g.flow.description.withFloats f),
      ("status", .text g.flow.status),
      ("triggerConfig", (Value.ofOption .text g.flow.triggerConfig).withFloats f)] :=
    Value.withFloats_record (show ["name", "description", "status", "triggerConfig"].Nodup by decide)
  have hparts (values : List Value) : (Value.list values).withFloats f = .list (values.map (Value.withFloats f)) := by
    rw [Value.withFloats, Value.itemsWithFloats_eq]
  have hdocument : g.toDocument.withFloats f = .record [("version", (Value.int 1).withFloats f),
      ("flow", (Value.record [("name", g.flow.name), ("description", g.flow.description),
        ("status", .text g.flow.status), ("triggerConfig", .ofOption .text g.flow.triggerConfig)]).withFloats f),
      ("nodes", (Value.list (g.nodes.map FlowGraph.exportNode)).withFloats f),
      ("edges", (Value.list (g.edges.map g.exportEdge)).withFloats f)] :=
    Value.withFloats_record (show ["version", "flow", "nodes", "edges"].Nodup by decide)
  rw [hdocument, hflow, hconfig, hparts, hparts, List.map_map, List.map_map]
  rfl

theorem spelt_eq_reread {v : Value} (hv : v.isPointed = true) : v.spelt = v.reread :=
  Value.withFloats_congr hv fun _ hd => if_pos hd

theorem parseNode_spelt {n : Node} (hn : n.Portable) (hlabel : n.label.isPointed = true) (flow : String)
    (newId : Option String) :
    parseNode (FlowGraph.exportNode n).spelt flow newId = parseNode (FlowGraph.exportNode n).reread flow newId := by
  obtain ⟨dx, hx⟩ := hn.x
  obtain ⟨dy, hy⟩ := hn.y
  obtain ⟨c, hc⟩ := hn.config
  have hspelt : (FlowGraph.exportNode n).spelt = .record [("type", .text n.type), ("label", n.label.reread),
      ("x", (Value.float dx).spelt), ("y", (Value.float dy).spelt), ("config", n.config.spelt)] := by
    rw [← spelt_eq_reread hlabel, ← hx, ← hy]
    exact exportNode_withFloats n
  have hreread : (FlowGraph.exportNode n).reread = .record [("type", .text n.type), ("label", n.label.reread),
      ("x", (Value.float dx).reread), ("y", (Value.float dy).reread), ("config", n.config.reread)] := by
    rw [← hx, ← hy]
    exact exportNode_withFloats n
  have hconfig : n.config.spelt = n.config.reread := by
    rw [hc]
    cases c <;> rfl
  rw [hspelt, hreread, hconfig]
  exact parseNode_record (parseCoordinate_spelt dx) (parseCoordinate_spelt dy) flow newId

/-- The two readings of an export differ in the spelling of coordinates at most. -/
theorem parse_spelt (hp : g.Portable) (hg : g.isPointed = true) (ws : String) (now : Instant) :
    parse g.toDocument.spelt ws now = parse g.toDocument.reread ws now := by
  simp only [FlowGraph.isPointed, Bool.and_eq_true, List.all_eq_true] at hg
  obtain ⟨⟨⟨hname, hdescription⟩, hlabels⟩, hedges⟩ := hg
  have hedge : ∀ e ∈ g.edges, (g.exportEdge e).spelt = (g.exportEdge e).reread := fun e he => by
    obtain ⟨⟨hs, ht⟩, hl⟩ := hedges e he
    have hspelt : (g.exportEdge e).spelt = _ := exportEdge_withFloats g e
    have hreread : (g.exportEdge e).reread = _ := exportEdge_withFloats g e
    rw [hspelt, hreread]
    change Value.record [_, _, ("sourceHandle", e.sourceHandle.spelt), ("targetHandle", e.targetHandle.spelt),
      ("label", e.label.spelt)] = _
    rw [spelt_eq_reread hs, spelt_eq_reread ht, spelt_eq_reread hl]
    rfl
  have hspelt : g.toDocument.spelt = _ := toDocument_withFloats g
  have hreread : g.toDocument.reread = _ := toDocument_withFloats g
  have hname : g.flow.name.spelt = g.flow.name.reread := spelt_eq_reread hname
  have hdescription : g.flow.description.spelt = g.flow.description.reread := spelt_eq_reread hdescription
  have hedges : (g.edges.map fun e => (g.exportEdge e).spelt) = g.edges.map fun e => (g.exportEdge e).reread :=
    List.map_congr_left hedge
  rw [hspelt, hreread]
  change parse (.record [_, ("flow", .record [("name", g.flow.name.spelt),
    ("description", g.flow.description.spelt), _, _]), _,
    ("edges", .list (g.edges.map fun e => (g.exportEdge e).spelt))]) ws now = _
  rw [hname, hdescription, hedges]
  refine parse_record ?_ ws now
  rw [List.forall₂_map_left_iff, List.forall₂_map_right_iff, List.forall₂_same]
  exact fun n hn => parseNode_spelt (hp.nodes n hn) (hlabels n hn)

end Document

/-- The export of a flow that was read from a JSON document is refused as YAML if it has characters that YAML
text must not have. If it is plain YAML, its numbers without a point are read as texts there; without such
numbers outside coordinates it gives as YAML what it gives as JSON. -/
theorem FlowGraph.parseText_of_export {doc : Value} {ws : String} {now : Instant} {n n' : Nat} {g : FlowGraph}
    {text : String} (hdoc : doc.isJson = true) (hg : Document.parse doc ws now n = (.ok g, n'))
    (htext : g.exportText = .ok text) (ws' : String) (now' : Instant) (k : Nat) :
    ((Text.codes text.toList).all Yaml.isAllowed = false →
      Document.parseText text ws' now' k = (.error ⟨.parse, "Failed to parse YAML"⟩, k)) ∧
    (g.PlainYaml text →
      Document.parseText text ws' now' k = Document.parse g.toDocument.spelt ws' now' k ∧
      (do Document.parse (← Document.readJson text) ws' now') k = Document.parse g.toDocument.reread ws' now' k ∧
      (g.isPointed = true →
        Document.parseText text ws' now' k = (do Document.parse (← Document.readJson text) ws' now') k)) := by
  have hp := Document.portable_of_parse hdoc hg
  have hj := (data_toDocument hp).isJson_of_json htext
  refine ⟨fun h => ?_, fun h => ?_⟩
  · rw [Document.parseText, Stateful.bind_error (Document.readYaml_of_refused h)]
  · have hdepth : g.toDocument.nesting ≤ Json.depthLimit := le_trans h.depth (by decide)
    have hyaml : Document.parseText text ws' now' k = Document.parse g.toDocument.spelt ws' now' k :=
      Stateful.bind_ok (Document.readYaml_of_export hj htext h)
    have hjson : (do Document.parse (← Document.readJson text) ws' now') k =
        Document.parse g.toDocument.reread ws' now' k :=
      Stateful.bind_ok (Document.readJson_of_export hj htext hdepth)
    refine ⟨hyaml, hjson, fun hpointed => ?_⟩
    rw [hyaml, hjson, Document.parse_spelt hp hpointed]

/-- A document whose flow is named by a control character. -/
def Document.unnamed : Value := .record [("flow", .record [("name", .text "\x7f")]), ("nodes", .list [])]

/-- The flow of this document. -/
def FlowGraph.unnamed : FlowGraph where
  flow :=
    { id := idOf 1, name := .text "\x7f", description := .null, triggerConfig := none, created := ⟨0⟩, updated := ⟨0⟩ }
  nodes := []
  edges := []

/-- The text of its export. -/
def FlowGraph.unnamedText : String :=
  "\n".intercalate
    ["\x7b",
      "  \"version\": 1,",
      "  \"flow\": \x7b",
      "    \"name\": \"\x7f\",",
      "    \"description\": null,",
      "    \"status\": \"draft\",",
      "    \"triggerConfig\": null",
      "  \x7d,",
      "  \"nodes\": [],",
      "  \"edges\": []",
      "\x7d"]

/-- It is refused as YAML, while the export of a greeting gives the same flow as YAML and as JSON. -/
theorem FlowGraph.parseText_of_unnamed :
    Document.unnamed.isJson = true ∧ Document.parse Document.unnamed "" ⟨0⟩ 0 = (.ok .unnamed, 1) ∧
    unnamed.exportText = .ok unnamedText ∧ (Text.codes unnamedText.toList).all Yaml.isAllowed = false ∧
    Document.parseText unnamedText "" ⟨0⟩ 1 = (.error ⟨.parse, "Failed to parse YAML"⟩, 1) ∧
    Document.greeting.isJson = true ∧ Document.parse Document.greeting "" ⟨0⟩ 0 = (.ok .greeting, 2) ∧
    greeting.exportText = .ok greetingText ∧ greeting.PlainYaml greetingText ∧ greeting.isPointed = true ∧
    Document.parseText greetingText "" ⟨0⟩ 2 = (.ok (greeting.copy "" ⟨0⟩ 2), 6) := by
  have hdoc : Document.unnamed.isJson = true := by decide
  have hg : Document.parse Document.unnamed "" ⟨0⟩ 0 = (.ok .unnamed, 1) := rfl
  have htext : unnamed.exportText = .ok unnamedText := by decide +kernel
  have hrefused : (Text.codes unnamedText.toList).all Yaml.isAllowed = false := by
    rw [unnamedText, String.toList_intercalate]
    decide +kernel
  have hdoc' : Document.greeting.isJson = true := by decide
  have hg' : Document.parse Document.greeting "" ⟨0⟩ 0 = (.ok .greeting, 2) := rfl
  have htext' : greeting.exportText = .ok greetingText := by decide +kernel
  have hcharacters : (Text.codes greetingText.toList).all Yaml.isAllowed = true := by
    rw [greetingText, String.toList_intercalate]
    decide +kernel
  have hbreaks : Yaml.Lexer.IsBroken greetingText.toList := by
    rw [greetingText, String.toList_intercalate]
    exact forall_of_all (by decide +kernel)
  have hplain : greeting.PlainYaml greetingText := ⟨hcharacters, hbreaks, by decide +kernel, by decide +kernel⟩
  have hpointed : greeting.isPointed = true := by decide +kernel
  have hread : Json.read greetingText = .ok greeting.toDocument := by
    rw [greetingText, Json.read_of_toList String.toList_intercalate]
    decide +kernel
  refine ⟨hdoc, hg, htext, hrefused, (parseText_of_export hdoc hg htext "" ⟨0⟩ 1).1 hrefused, hdoc', hg', htext',
    hplain, hpointed, ?_⟩
  rw [((parseText_of_export hdoc' hg' htext' "" ⟨0⟩ 2).2 hplain).2.2 hpointed]
  exact Document.parse_of_read (Document.portable_of_parse hdoc' hg') (.inl (by decide)) hread "" ⟨0⟩ 2

end Workflow
