import Workflow.Flow.Document
import Workflow.Proofs.Reimport
import Workflow.Proofs.Unwritable

/-!
# Documents that are not read

What is wrong with a document is told by a failure of its own kind, but for a few things that no check
looks for (`Document.Culprit`): a container for a status, a coordinate that is too large for a number, an
integer with too many digits where a text is made of it, and a configuration that has no JSON text. A
document with any of these is not read, and every failure of another kind is that of one of them
(`blames_parse`).
-/

namespace Workflow

/-! ### Failures and their reasons -/

namespace Drawing

variable {α β : Type} {p : Drawing α} {P Q : Failure → Prop}

/-- A failure of an operation is one of reading or has a reason, and there is no reason if it succeeds. -/
structure Blames (p : Drawing α) (P : Failure → Prop) : Prop where
  error : ∀ {k f k'}, p k = (.error f, k') → f.kind = .parse ∨ P f
  ok : ∀ {k a k'}, p k = (.ok a, k') → ∀ f, ¬ P f

theorem Blames.congr (h : Blames p P) (hiff : ∀ f, P f ↔ Q f) : Blames p Q where
  error he := (h.error he).imp_right (hiff _).1
  ok ho f hf := h.ok ho f ((hiff f).2 hf)

theorem Blames.pure (a : α) : Blames (pure a : Drawing α) fun _ => False where
  error he := by cases he
  ok _ _ := id

theorem Blames.bind {g : α → Drawing β} (hp : Blames p P)
    (hg : ∀ k a k', p k = (.ok a, k') → Blames (g a) Q) : Blames (p >>= g) fun f => P f ∨ Q f where
  error {k f k'} he := by
    rcases hr : p k with ⟨e | a, t⟩
    · rw [Stateful.bind_error hr] at he
      cases he
      exact (hp.error hr).imp_right .inl
    · rw [Stateful.bind_ok hr] at he
      exact ((hg _ _ _ hr).error he).imp_right .inr
  ok {k b k'} ho f hf := by
    obtain ⟨a, t, ha, hb⟩ := Stateful.bind_eq_ok.1 ho
    exact hf.elim (hp.ok ha f) ((hg _ _ _ ha).ok hb f)

/-- Where the reasons of the first part are among all reasons, the rest may rely on it that there is none of
them. -/
theorem Blames.after {g : α → Drawing β} (hp : Blames p P) (hPQ : ∀ f, P f → Q f)
    (hg : (∀ f, ¬ P f) → ∀ a, Blames (g a) Q) : Blames (p >>= g) Q where
  error {k f k'} he := by
    rcases hr : p k with ⟨e | a, t⟩
    · rw [Stateful.bind_error hr] at he
      cases he
      exact (hp.error hr).imp_right (hPQ _)
    · rw [Stateful.bind_ok hr] at he
      exact (hg (hp.ok hr) a).error he
  ok {k b k'} ho f hf := by
    obtain ⟨a, t, ha, hb⟩ := Stateful.bind_eq_ok.1 ho
    exact (hg (hp.ok ha) a).ok hb f hf

theorem Blames.mapM {γ : Type} {g : γ → Drawing β} {R : γ → Failure → Prop} {l : List γ}
    (h : ∀ v ∈ l, Blames (g v) (R v)) : Blames (l.mapM g) fun f => ∃ v ∈ l, R v f := by
  induction l with
  | nil => exact (Blames.pure []).congr (by simp)
  | cons v l ih =>
    rw [List.forall_mem_cons] at h
    rw [List.mapM_cons]
    refine (h.1.bind fun _ _ _ _ => (ih h.2).bind fun _ _ _ _ => Blames.pure _).congr fun f => ?_
    rw [List.exists_mem_cons_iff, or_false]

end Drawing

open Drawing

namespace Document

variable {v document : Value} {f : Failure}

/-- What is refused is a failure of reading, so it needs no reason. -/
theorem blames_refuse {α : Type} (message : String) (P : Failure → Prop) :
    Blames (refuse message : Drawing α) P where
  error he := by
    cases he
    exact .inl rfl
  ok ho := by cases ho

theorem blames_refuse_bind {α β : Type} (message : String) (g : α → Drawing β) (P : Failure → Prop) :
    Blames ((refuse message : Drawing α) >>= g) P where
  error he := by
    cases he
    exact .inl rfl
  ok ho := by cases ho

/-- A check of what is read. -/
theorem blames_check {α : Type} {c : Prop} [Decidable c] {p : Drawing α} {g : PUnit → Drawing α}
    {P : Failure → Prop} (message : String) (h : ¬ c → Blames p P) :
    Blames (if c then (refuse message : Drawing PUnit) >>= g else p) P := by
  split
  next => exact blames_refuse_bind message g P
  next hc => exact h hc

/-! ### Parts of a document -/

theorem blames_plain (v : Value) : Blames (plain v) fun f => v.HoldsLong ∧ f = .longInteger where
  error he := by
    obtain ⟨he, -⟩ := Prod.mk.inj he
    exact .inr (Value.plain_error_iff.1 he)
  ok ho f hf := by
    obtain ⟨ho, -⟩ := Prod.mk.inj ho
    cases (Value.plain_error_iff.2 hf).symm.trans ho

theorem blames_plain_orElse (v : Value) (s : String) :
    Blames (plain (v.orElse (.text s))) fun f => v.HoldsLong ∧ f = .longInteger := by
  refine (blames_plain _).congr fun f => and_congr_left fun _ => ?_
  unfold Value.orElse
  split
  next => rfl
  next hg => exact ⟨fun h => absurd h (Value.not_holdsLong_text s), fun h => absurd h.isGiven hg⟩

theorem blames_drawId : Blames drawId fun _ => False where
  error he := by
    rw [drawId_apply] at he
    cases he
  ok _ _ := id

theorem blames_givenOrNewId (v : Value) :
    Blames (givenOrNewId v) fun f => v.HoldsLong ∧ f = .longInteger := by
  unfold givenOrNewId
  split
  next => exact blames_plain v
  next hg =>
    refine ⟨fun he => ?_, fun _ _ h => hg h.1.isGiven⟩
    rw [drawId_apply] at he
    cases he

theorem blames_configText (v : Value) :
    Blames (configText v) fun f => ∃ e, v.Unwritable .spaced e ∧ f = e.toFailure := by
  have hscalar : ∀ e, ¬ Value.Unwritable .spaced e .null := fun e h => by
    cases h with
    | self h => exact h
  have htext : ∀ s e, ¬ Value.Unwritable .spaced e (.text s) := fun s e h => by
    cases h with
    | self h => exact h
  unfold configText
  split
  next => exact (Blames.pure _).congr fun f => ⟨False.elim, fun ⟨e, h, _⟩ => hscalar e h⟩
  next s => exact (Blames.pure _).congr fun f => ⟨False.elim, fun ⟨e, h, _⟩ => htext s e h⟩
  next =>
    cases hw : v.json .spaced with
    | ok s =>
      refine ⟨fun he => ?_, fun _ f ⟨e, he, _⟩ => he.json_ne_ok s hw⟩
      cases he
    | error f =>
      refine ⟨fun he => ?_, fun ho => by cases ho⟩
      cases he
      exact .inr (Value.unwritable_of_json hw)

/-- Why a status is not read though no check refuses it. -/
inductive StatusCulprit (v : Value) : Failure → Prop where
  | container (hs : v.isScalar = false) : StatusCulprit v (.unhashable v)
  | long (hs : v.isScalar = true) (h : v.HoldsLong) : StatusCulprit v .longInteger

theorem blames_parseStatus (v : Value) : Blames (parseStatus v) (StatusCulprit v) := by
  have hrefuse : Blames (do refuse ("Invalid flow status: " ++ (← plain v)) : Drawing String) fun f =>
      v.HoldsLong ∧ f = .longInteger :=
    ((blames_plain v).bind fun _ _ _ _ => blames_refuse _ fun _ => False).congr fun f => by rw [or_false]
  unfold parseStatus
  cases hs : v.isScalar with
  | false =>
    refine ⟨fun he => ?_, fun ho => by cases ho⟩
    cases he
    exact .inr (.container hs)
  | true =>
    have hiff : ∀ f : Failure, v.HoldsLong ∧ f = .longInteger ↔ StatusCulprit v f := fun f => by
      constructor
      · rintro ⟨h, rfl⟩
        exact .long hs h
      · rintro (hs' | ⟨-, h⟩)
        · cases hs.symm.trans hs'
        · exact ⟨h, rfl⟩
    simp only [Bool.not_true, Bool.false_eq_true, if_false]
    cases v with
    | text s =>
      simp only
      split
      next => exact (Blames.pure s).congr fun f =>
        ⟨False.elim, fun h => Value.not_holdsLong_text s ((hiff f).2 h).1⟩
      next => exact hrefuse.congr hiff
    | _ => exact hrefuse.congr hiff

theorem blames_parseCoordinate (v node : Value) : Blames (parseCoordinate v node) fun f =>
    (∃ i, v = .int i ∧ Double.ofInt? i = none ∧ f = .integerOverflow) ∨
      (v.orElse (.int 0)).asDouble? = .ok none ∧ node.HoldsLong ∧ f = .longInteger := by
  have hwide := @Value.asDouble?_orElse_error_iff v
  unfold parseCoordinate
  cases hd : (v.orElse (.int 0)).asDouble? with
  | error e =>
    refine ⟨fun he => ?_, fun ho => by cases ho⟩
    cases he
    exact .inr (.inl (hwide.1 hd))
  | ok d =>
    have hnone : ∀ {f : Failure}, ¬ ∃ i, v = .int i ∧ Double.ofInt? i = none ∧ f = .integerOverflow := fun h => by
      cases hd.symm.trans (hwide.2 h)
    cases d with
    | some d => exact (Blames.pure _).congr fun f => by simp [hnone]
    | none =>
      refine ((blames_plain node).bind fun _ _ _ _ => blames_refuse _ fun _ => False).congr fun f => ?_
      simp [hnone]

/-! ### Nodes and edges -/

/-- Why a node is not read though no check refuses it. -/
inductive NodeCulprit (v : Value) (isNew : Bool) : Failure → Prop where
  | position {key : String} {i : Int} (hk : key = "x" ∨ key = "y") (hi : v.field key = .int i)
      (h : Double.ofInt? i = none) : NodeCulprit v isNew .integerOverflow
  /-- Only a node without a new id brings its own. -/
  | id (hnew : isNew = false) (h : (v.field "id").HoldsLong) : NodeCulprit v isNew .longInteger
  | type (h : (v.field "type").HoldsLong) : NodeCulprit v isNew .longInteger
  | config {e : JsonFault} (h : (v.field "config").Unwritable .spaced e) : NodeCulprit v isNew e.toFailure

/-- Why an edge with ids is not read though no check refuses it. -/
inductive EdgeCulprit (v : Value) : Failure → Prop where
  | text {key : String} (hk : key ∈ ["id", "source", "target"]) (h : (v.field key).HoldsLong) :
      EdgeCulprit v .longInteger

/-- Why an edge between positions is not read: one that is no position cannot be told in the message. -/
inductive PlaceCulprit (v : Value) (count : Nat) : Failure → Prop where
  | place {key : String} (hk : key ∈ ["sourceIndex", "targetIndex"])
      (hno : ∀ i < count, v.field key ≠ .int (i : Nat)) (h : (v.field key).HoldsLong) :
      PlaceCulprit v count .longInteger

theorem holdsLong_idOf (v : Value) (newId : Option String) :
    (match newId with
      | some id => Value.text id
      | none => v.field "id").HoldsLong ↔ newId.isSome = false ∧ (v.field "id").HoldsLong := by
  cases newId with
  | none => simp
  | some id => simp [Value.not_holdsLong_text]

theorem blames_parseNode (v : Value) (flow : String) (newId : Option String) :
    Blames (parseNode v flow newId) (NodeCulprit v newId.isSome) := by
  unfold parseNode
  refine blames_check _ fun _ => blames_check _ fun _ => blames_check _ fun _ => ?_
  refine Blames.congr ((blames_parseCoordinate _ _).bind fun _ _ _ _ =>
    (blames_parseCoordinate _ _).bind fun _ _ _ _ => (blames_plain _).bind fun _ _ _ _ =>
    (blames_plain _).bind fun _ _ _ _ => (blames_configText _).bind fun _ _ _ _ => Blames.pure _) fun f => ?_
  have hlong := holdsLong_idOf v newId
  constructor
  · rintro ((⟨i, hi, h, rfl⟩ | ⟨-, h, rfl⟩) | (⟨i, hi, h, rfl⟩ | ⟨-, h, rfl⟩) | ⟨h, rfl⟩ | ⟨h, rfl⟩ |
      ⟨e, h, rfl⟩ | h)
    · exact .position (.inl rfl) hi h
    · exact .id (hlong.1 h).1 (hlong.1 h).2
    · exact .position (.inr rfl) hi h
    · exact .id (hlong.1 h).1 (hlong.1 h).2
    · exact .id (hlong.1 h).1 (hlong.1 h).2
    · exact .type h
    · exact .config h
    · exact h.elim
  · rintro (⟨rfl | rfl, hi, h⟩ | ⟨hn, h⟩ | ⟨h⟩ | ⟨h⟩)
    · exact .inl (.inl ⟨_, hi, h, rfl⟩)
    · exact .inr (.inl (.inl ⟨_, hi, h, rfl⟩))
    · exact .inr (.inr (.inl ⟨hlong.2 ⟨hn, h⟩, rfl⟩))
    · exact .inr (.inr (.inr (.inl ⟨h, rfl⟩)))
    · exact .inr (.inr (.inr (.inr (.inl ⟨_, h, rfl⟩))))

theorem blames_parseNewNode (flow : String) (v : Value) :
    Blames (parseNewNode flow v) (NodeCulprit v true) := by
  unfold parseNewNode
  have hread (id : String) : Blames (parseNode v flow (some id)) (NodeCulprit v true) :=
    blames_parseNode v flow (some id)
  exact (blames_drawId.bind fun _ id _ _ => hread id).congr fun f => by rw [false_or]

theorem blames_parseEdge (v : Value) (flow : String) : Blames (parseEdge v flow) (EdgeCulprit v) := by
  unfold parseEdge
  refine blames_check _ fun _ => blames_check _ fun _ => ?_
  refine Blames.congr ((blames_givenOrNewId _).bind fun _ _ _ _ => (blames_plain _).bind fun _ _ _ _ =>
    (blames_plain _).bind fun _ _ _ _ => Blames.pure _) fun f => ?_
  constructor
  · rintro (⟨h, rfl⟩ | ⟨h, rfl⟩ | ⟨h, rfl⟩ | h)
    · exact .text (.head _) h
    · exact .text (.tail _ (.head _)) h
    · exact .text (.tail _ (.tail _ (.head _))) h
    · exact h.elim
  · rintro ⟨hk, h⟩
    simp only [List.mem_cons, List.not_mem_nil, or_false] at hk
    rcases hk with rfl | rfl | rfl
    · exact .inl ⟨h, rfl⟩
    · exact .inr (.inl ⟨h, rfl⟩)
    · exact .inr (.inr (.inl ⟨h, rfl⟩))

theorem blames_endpoint (v : Value) (key : String) (nodes : List Node) :
    Blames (endpoint v key nodes) fun f =>
      (∀ i < nodes.length, v.field key ≠ .int (i : Nat)) ∧ (v.field key).HoldsLong ∧ f = .longInteger := by
  have hrefuse : Blames
      (do refuse ("Edge " ++ key ++ " out of range: " ++ (← plain (v.field key))) : Drawing String) fun f =>
      (v.field key).HoldsLong ∧ f = .longInteger :=
    ((blames_plain _).bind fun _ _ _ _ => blames_refuse _ fun _ => False).congr fun f => by rw [or_false]
  have hiff : (∀ i < nodes.length, v.field key ≠ .int (i : Nat)) → ∀ f : Failure,
      (v.field key).HoldsLong ∧ f = .longInteger ↔
        (∀ i < nodes.length, v.field key ≠ .int (i : Nat)) ∧ (v.field key).HoldsLong ∧ f = .longInteger :=
    fun h f => (and_iff_right h).symm
  unfold endpoint
  simp only
  split
  next i hi =>
    split
    next hpos =>
      split
      next n hn =>
        refine (Blames.pure n.id).congr fun f => ⟨False.elim, fun h => ?_⟩
        have hlt := (List.getElem?_eq_some_iff.1 hn).1
        exact h.1 i.toNat hlt (by rw [hi]; congr 1; omega)
      next hn =>
        refine hrefuse.congr (hiff fun j hj hv => ?_)
        have hle := List.getElem?_eq_none_iff.1 hn
        have := Value.int.inj (hi.symm.trans hv)
        omega
    next hneg =>
      refine hrefuse.congr (hiff fun j hj hv => ?_)
      have := Value.int.inj (hi.symm.trans hv)
      omega
  next hi => exact hrefuse.congr (hiff fun j _ hv => hi _ hv)

theorem blames_parseIndexedEdge (v : Value) (flow : String) (nodes : List Node) :
    Blames (parseIndexedEdge v flow nodes) (PlaceCulprit v nodes.length) := by
  unfold parseIndexedEdge
  refine blames_check _ fun _ => ?_
  refine Blames.congr ((blames_endpoint _ _ _).bind fun _ _ _ _ => (blames_endpoint _ _ _).bind fun _ _ _ _ =>
    blames_drawId.bind fun _ _ _ _ => Blames.pure _) fun f => ?_
  constructor
  · rintro (⟨hno, h, rfl⟩ | ⟨hno, h, rfl⟩ | h | h)
    · exact .place (.head _) hno h
    · exact .place (.tail _ (.head _)) hno h
    · exact h.elim
    · exact h.elim
  · rintro ⟨hk, hno, h⟩
    simp only [List.mem_cons, List.not_mem_nil, or_false] at hk
    rcases hk with rfl | rfl
    · exact .inl ⟨hno, h, rfl⟩
    · exact .inr (.inl ⟨hno, h, rfl⟩)

/-! ### Documents -/

/-- The part of a document that tells of the flow. -/
def flowPart (document : Value) : Value := (document.field "flow").orElse (.object [])

/-- Why a flow is not read though no check refuses it. -/
inductive FlowCulprit (v : Value) : Failure → Prop where
  | status {f : Failure} (hg : (v.field "status").isGiven = true) (h : StatusCulprit (v.field "status") f) :
      FlowCulprit v f
  | text {key : String} (hk : key = "id" ∨ key = "workspaceId") (h : (v.field key).HoldsLong) :
      FlowCulprit v .longInteger
  | triggerConfig {e : JsonFault} (h : (v.field "triggerConfig").Unwritable .spaced e) :
      FlowCulprit v e.toFailure

/-- Why a document is not read though no check refuses it. -/
inductive Culprit (document : Value) : Failure → Prop where
  | flow {f : Failure} (h : FlowCulprit (flowPart document) f) : Culprit document f
  | version (h : (document.field "version").HoldsLong) : Culprit document .longInteger
  | node {nodes : List Value} {v : Value} {f : Failure} (hn : document.field "nodes" = .list nodes)
      (hv : v ∈ nodes) (h : NodeCulprit v (!(document.field "version").isNull) f) : Culprit document f
  | edge {edges : List Value} {v : Value} {f : Failure} (hversion : (document.field "version").isNull = true)
      (he : document.field "edges" = .list edges) (hv : v ∈ edges) (h : EdgeCulprit v f) : Culprit document f
  | place {nodes edges : List Value} {v : Value} {f : Failure}
      (hversion : (document.field "version").isNull = false) (hn : document.field "nodes" = .list nodes)
      (he : document.field "edges" = .list edges) (hv : v ∈ edges) (h : PlaceCulprit v nodes.length f) :
      Culprit document f

theorem statusCulprit_orElse (v : Value) (f : Failure) :
    StatusCulprit (v.orElse (.text "draft")) f ↔ v.isGiven = true ∧ StatusCulprit v f := by
  unfold Value.orElse
  split
  next hg => simp [hg]
  next hg =>
    refine ⟨fun h => ?_, fun h => absurd h.1 hg⟩
    cases h with
    | container hs => cases hs
    | long _ h => exact absurd h (Value.not_holdsLong_text _)

theorem blames_parseFlow (document : Value) (workspace : String) (now : Instant) :
    Blames (parseFlow document workspace now) (FlowCulprit (flowPart document)) := by
  unfold parseFlow
  refine blames_check _ fun _ => ?_
  refine Blames.congr ((blames_parseStatus _).bind fun _ _ _ _ => (blames_givenOrNewId _).bind fun _ _ _ _ =>
    (blames_plain_orElse _ _).bind fun _ _ _ _ => (blames_configText _).bind fun _ _ _ _ => Blames.pure _)
    fun f => ?_
  rw [statusCulprit_orElse, ← flowPart]
  constructor
  · rintro (⟨hg, h⟩ | ⟨h, rfl⟩ | ⟨h, rfl⟩ | ⟨e, h, rfl⟩ | h)
    · exact .status hg h
    · exact .text (.inl rfl) h
    · exact .text (.inr rfl) h
    · exact .triggerConfig h
    · exact h.elim
  · rintro (⟨hg, h⟩ | ⟨rfl | rfl, h⟩ | ⟨h⟩)
    · exact .inl ⟨hg, h⟩
    · exact .inr (.inl ⟨h, rfl⟩)
    · exact .inr (.inr (.inl ⟨h, rfl⟩))
    · exact .inr (.inr (.inr (.inl ⟨_, h, rfl⟩)))

theorem length_of_mapM {α β : Type} {g : α → Drawing β} {l : List α} {l' : List β} {k k' : Nat}
    (h : l.mapM g k = (.ok l', k')) : l'.length = l.length := by
  induction l generalizing l' k k' with
  | nil =>
    obtain ⟨rfl, -⟩ := Stateful.pure_eq_ok.1 h
    rfl
  | cons a l ih =>
    rw [List.mapM_cons] at h
    obtain ⟨b, _, -, h⟩ := Stateful.bind_eq_ok.1 h
    obtain ⟨bs, _, hbs, h⟩ := Stateful.bind_eq_ok.1 h
    obtain ⟨rfl, -⟩ := Stateful.pure_eq_ok.1 h
    rw [List.length_cons, List.length_cons, ih hbs]

/-- A document without edges has an empty list of them. -/
theorem mem_edges_iff {edges : List Value} (he : (document.field? "edges").getD (.list []) = .list edges)
    {v : Value} : v ∈ edges ↔ ∃ l, document.field "edges" = .list l ∧ v ∈ l := by
  rw [Value.field_eq]
  cases hf : document.field? "edges" with
  | none =>
    rw [hf] at he
    cases he
    simp
  | some w =>
    rw [hf, Option.getD_some] at he
    simp [he]

theorem not_holdsLong_of_isNull (h : v.isNull = true) : ¬ v.HoldsLong := fun hl => by
  cases v with
  | null => cases hl.isGiven
  | _ => cases h

theorem not_holdsLong_of_isExportVersion (h : isExportVersion v = true) : ¬ v.HoldsLong := fun hl => by
  cases hl with
  | self hl =>
    obtain ⟨i, rfl, hi⟩ := hl
    obtain rfl : i = exportVersion := by simpa [isExportVersion] using h
    exact absurd hi (by decide +kernel)
  | _ => cases h

section Parts

variable {nodes edges : List Value} (hn : document.field "nodes" = .list nodes)
  (he : (document.field? "edges").getD (.list []) = .list edges)
  (hflow : ∀ f, ¬ FlowCulprit (flowPart document) f)
include hn he hflow

theorem blames_withIds (flow : Flow) (hversion : (document.field "version").isNull = true) :
    Blames (do
      let nodes ← nodes.mapM fun v => parseNode v flow.id none
      let edges ← edges.mapM fun v => parseEdge v flow.id
      return (⟨flow, nodes, edges⟩ : FlowGraph)) (Culprit document) := by
  refine Blames.congr ((Blames.mapM fun v _ => blames_parseNode v flow.id none).bind fun _ _ _ _ =>
    (Blames.mapM fun v _ => blames_parseEdge v flow.id).bind fun _ _ _ _ => Blames.pure _) fun f => ?_
  have hnew : (!(document.field "version").isNull) = (none : Option String).isSome := by rw [hversion]; rfl
  constructor
  · rintro (⟨v, hv, h⟩ | ⟨v, hv, h⟩ | h)
    · exact .node hn hv (hnew ▸ h)
    · obtain ⟨l, hl, hv⟩ := (mem_edges_iff he).1 hv
      exact .edge hversion hl hv h
    · exact h.elim
  · intro h
    cases h with
    | flow h => exact absurd h (hflow f)
    | version h => exact absurd h (not_holdsLong_of_isNull hversion)
    | node hn' hv h =>
      cases hn.symm.trans hn'
      exact .inl ⟨_, hv, hnew ▸ h⟩
    | edge _ hl hv h => exact .inr (.inl ⟨_, (mem_edges_iff he).2 ⟨_, hl, hv⟩, h⟩)
    | place hversion' => cases hversion.symm.trans hversion'

theorem blames_withPlaces (flow : Flow) (hversion : isExportVersion (document.field "version") = true) :
    Blames (do
      let nodes ← nodes.mapM (parseNewNode flow.id)
      let edges ← edges.mapM fun v => parseIndexedEdge v flow.id nodes
      return (⟨flow, nodes, edges⟩ : FlowGraph)) (Culprit document) := by
  have hnull : (document.field "version").isNull = false := by
    cases hv : document.field "version" with
    | null => rw [hv] at hversion; cases hversion
    | _ => rfl
  refine Blames.congr ((Blames.mapM fun v _ => blames_parseNewNode flow.id v).bind fun k read k' hread =>
    (Blames.mapM fun v _ => length_of_mapM hread ▸ blames_parseIndexedEdge v flow.id read).bind
      fun _ _ _ _ => Blames.pure _) fun f => ?_
  have hnew : (!(document.field "version").isNull) = true := by rw [hnull]; rfl
  constructor
  · rintro (⟨v, hv, h⟩ | ⟨v, hv, h⟩ | h)
    · exact .node hn hv (hnew ▸ h)
    · obtain ⟨l, hl, hv⟩ := (mem_edges_iff he).1 hv
      exact .place hnull hn hl hv h
    · exact h.elim
  · intro h
    cases h with
    | flow h => exact absurd h (hflow f)
    | version h => exact absurd h (not_holdsLong_of_isExportVersion hversion)
    | node hn' hv h =>
      cases hn.symm.trans hn'
      exact .inl ⟨_, hv, hnew ▸ h⟩
    | edge hversion' => cases hnull.symm.trans hversion'
    | place _ hn' hl hv h =>
      cases hn.symm.trans hn'
      exact .inr (.inl ⟨_, (mem_edges_iff he).2 ⟨_, hl, hv⟩, h⟩)

end Parts

theorem blames_parse (document : Value) (workspace : String) (now : Instant) :
    Blames (parse document workspace now) (Culprit document) := by
  unfold parse
  refine blames_check _ fun _ => ?_
  simp only
  split
  next nodes edges hn he =>
    refine (blames_parseFlow document workspace now).after (fun _ => .flow) fun hflow flow => ?_
    split
    next hversion => exact blames_withIds hn he hflow flow hversion
    next =>
      split
      next =>
        exact (blames_plain _).after (fun _ h => h.2 ▸ .version h.1) fun _ _ => blames_refuse_bind ..
      next hversion => exact blames_withPlaces hn he hflow flow (by simpa using hversion)
  next => exact blames_refuse ..

/-- A document is read only if nothing in it is a culprit. If it is not read, that is told as a failure of
reading, or else the failure is that of a culprit. -/
theorem culprit_of_parse (document : Value) (workspace : String) (now : Instant) (drawn : Nat) :
    (∀ g, (parse document workspace now drawn).1 = .ok g → ∀ f, ¬ Culprit document f) ∧
      ∀ f, (parse document workspace now drawn).1 = .error f → f.kind = .parse ∨ Culprit document f := by
  have h := blames_parse document workspace now
  exact ⟨fun g hg => h.ok (Prod.ext hg rfl), fun f hf => h.error (Prod.ext hf rfl)⟩

/-- A document with a single node, at a place of its own, and no edges. -/
def placed (x : Value) : Value :=
  .record [("nodes", .list [.record [("id", .text "a"), ("type", .text "action"), ("x", x)]]),
    ("edges", .list [])]

/-- A document with a coordinate that is too large for a number. -/
def farOff : Value := placed (.int (tenTo 400))

/-- A coordinate that is no number is told as a failure of reading, but not one that is too large. -/
theorem culprit_of_farOff :
    (∃ f, (parse (placed (.text "left")) "" ⟨0⟩ 0).1 = .error f ∧ f.kind = .parse) ∧
    ∃ f, (parse farOff "" ⟨0⟩ 0).1 = .error f ∧ f.kind ≠ .parse ∧ Culprit farOff f := by
  have hleft : (match (parse (placed (.text "left")) "" ⟨0⟩ 0).1 with
      | .ok _ => none
      | .error f => some f.kind) = some .parse := by decide +kernel
  have hwide : (match (parse farOff "" ⟨0⟩ 0).1 with
      | .ok _ => none
      | .error f => some f.kind) = some .overflow := by decide +kernel
  obtain ⟨-, hculprit⟩ := culprit_of_parse farOff "" ⟨0⟩ 0
  constructor
  · cases hr : (parse (placed (.text "left")) "" ⟨0⟩ 0).1 with
    | ok g => rw [hr] at hleft; cases hleft
    | error f => rw [hr] at hleft; exact ⟨f, rfl, Option.some.inj hleft⟩
  · generalize (parse farOff "" ⟨0⟩ 0).1 = r at hwide hculprit
    cases r with
    | ok g => cases hwide
    | error f =>
      have hkind : f.kind ≠ .parse := by
        rw [Option.some.inj hwide]
        decide
      exact ⟨f, rfl, hkind, (hculprit f rfl).resolve_left hkind⟩

end Document

end Workflow
