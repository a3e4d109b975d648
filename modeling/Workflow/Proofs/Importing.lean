import Mathlib
import Workflow.Proofs.Json
import Workflow.Proofs.Malformed
import Workflow.Proofs.Storing
import Workflow.Service

/-!
# Documents that are imported

A service over tables that is asked to import a JSON object stores the flow in it and shows what it stored,
or says what is wrong with the document, or has no better answer than an internal error
(`Service.imported_of_respond`). The last is so for a document with a part that no check looks for
(`Document.Unguarded`), for a message that cannot be written as bytes, and for a flow that does not fit the
tables. Whatever is not stored leaves the records as they were.
-/

namespace Workflow

open Drawing

/-! ### Documents in JSON -/

/-- A JSON value holds no integer that is too long to be written. -/
theorem Value.not_holdsLong_of_isJson {v : Value} (hj : v.isJson = true) : ¬ v.HoldsLong := fun h => by
  induction h with
  | self h =>
    obtain ⟨i, rfl, hi⟩ := h
    simp [isJson, hi] at hj
  | item hv _ ih => exact ih (itemsJson_iff.1 hj _ hv)
  | first _ _ => cases hj
  | second _ _ => cases hj
  | key hp h =>
    obtain ⟨i, hi, -⟩ := h
    have hkey := (fieldsJson_iff.1 hj _ hp).1
    rw [hi] at hkey
    cases hkey
  | field hp _ ih => exact ih (fieldsJson_iff.1 hj _ hp).2

theorem Value.not_unwritable_of_isJson {v : Value} {style : JsonStyle} {e : JsonFault} (hj : v.isJson = true) :
    ¬ v.Unwritable style e := fun h => by
  obtain ⟨s, hs⟩ := exists_json style hj
  exact h.json_ne_ok s hs

namespace Document

/-- Why a document in JSON is not read though no check refuses it: it has a container for a status, or a
coordinate that is too large for a number. -/
inductive Unguarded (document : Value) : Failure → Prop where
  | status (hg : ((flowPart document).field "status").isGiven = true)
      (hs : ((flowPart document).field "status").isScalar = false) :
      Unguarded document (.unhashable ((flowPart document).field "status"))
  | position {nodes : List Value} {v : Value} {key : String} {i : Int} (hn : document.field "nodes" = .list nodes)
      (hv : v ∈ nodes) (hk : key = "x" ∨ key = "y") (hi : v.field key = .int i) (h : Double.ofInt? i = none) :
      Unguarded document .integerOverflow

variable {document : Value} {f : Failure}

/-- Of all that no check looks for, in JSON there is only this. -/
theorem culprit_iff_unguarded (hj : document.isJson = true) : Culprit document f ↔ Unguarded document f := by
  have hflow : (flowPart document).isJson = true := Value.isJson_orElse (Value.isJson_field hj _) rfl
  have hitem {key : String} {items : List Value} {v : Value} (hl : document.field key = .list items)
      (hv : v ∈ items) : v.isJson = true :=
    Value.itemsJson_iff.1 (hl ▸ Value.isJson_field hj key : (Value.list items).isJson = true) v hv
  have hlong {v : Value} (hv : v.isJson = true) (key : String) : ¬ (v.field key).HoldsLong :=
    Value.not_holdsLong_of_isJson (Value.isJson_field hv key)
  constructor
  · intro h
    cases h with
    | flow h =>
      cases h with
      | status hg h =>
        cases h with
        | container hs => exact .status hg hs
        | long _ h => exact absurd h (hlong hflow _)
      | text _ h => exact absurd h (hlong hflow _)
      | triggerConfig h => exact absurd h (Value.not_unwritable_of_isJson (Value.isJson_field hflow _))
    | version h => exact absurd h (hlong hj _)
    | node hn hv h =>
      cases h with
      | position hk hi h => exact .position hn hv hk hi h
      | id _ h => exact absurd h (hlong (hitem hn hv) _)
      | type h => exact absurd h (hlong (hitem hn hv) _)
      | config h => exact absurd h (Value.not_unwritable_of_isJson (Value.isJson_field (hitem hn hv) _))
    | edge _ he hv h =>
      cases h with
      | text _ h => exact absurd h (hlong (hitem he hv) _)
    | place _ _ he hv h =>
      cases h with
      | place _ _ h => exact absurd h (hlong (hitem he hv) _)
  · rintro (⟨hg, hs⟩ | ⟨hn, hv, hk, hi, h⟩)
    · exact .flow (.status hg (.container hs))
    · exact .node hn hv (.position hk hi h)

theorem unguarded_of_parse {workspace : String} {now : Instant} {drawn : Nat} (hj : document.isJson = true)
    (h : (parse document workspace now drawn).1 = .error f) : f.kind = .parse ∨ Unguarded document f :=
  ((blames_parse document workspace now).error (Prod.ext h rfl)).imp_right (culprit_iff_unguarded hj).1

end Document

/-! ### Documents that are stored -/

namespace Service

variable {σ : Type} {e : Engine σ} {t t' : Tables} {document : Value} {workspace : String} {g g' : FlowGraph}
  {f : Failure} {n : Nat}

section SaveDocument

theorem saveDocument_of_error
    (hparse : Document.parse document workspace e.world.now e.world.drawn = (.error f, n)) :
    saveDocument document workspace e =
      (.error (.ofFailure f), { e with world := { e.world with drawn := n } }) := by
  have hread : (Document.parse document workspace e.world.now).run.run e.world.drawn = (.error f, n) := hparse
  simp only [saveDocument, Stateful.bind_apply, Stateful.get_apply, inWorld, Engine.inWorld, hread, Except.mapError]

variable (hparse : Document.parse document workspace e.world.now e.world.drawn = (.ok g, n))
  (ht : e.world.store.records = .tables t)
include hparse ht

theorem saveDocument_of_refused (hsave : t.saveGraph g e.world.now = .error f) :
    saveDocument document workspace e =
      (.error (.ofFailure f), { e with world := { e.world with drawn := n } }) := by
  have hread : (Document.parse document workspace e.world.now).run.run e.world.drawn = (.ok g, n) := hparse
  simp only [saveDocument, Stateful.bind_apply, Stateful.get_apply, inWorld, Engine.inWorld, hread, Except.mapError,
    World.onStore, Store.saveGraph, ht, hsave, Stateful.ofExcept_apply]

theorem saveDocument_of_saved (hsave : t.saveGraph g e.world.now = .ok t') (hg : t'.graph? g.flow.id = some g') :
    saveDocument document workspace e =
      (.ok (201, .json (View.graph g')), { e with world := { e.world with
        drawn := n, store := { e.world.store with records := .tables t' } } }) := by
  have hread : (Document.parse document workspace e.world.now).run.run e.world.drawn = (.ok g, n) := hparse
  simp only [saveDocument, Stateful.bind_apply, Stateful.get_apply, inWorld, Engine.inWorld, hread, Except.mapError,
    World.onStore, Store.saveGraph, ht, hsave, Stateful.ofExcept_apply, Stateful.set_apply, Stateful.pure_apply,
    flowGraph, store, Store.graph?, hg]

end SaveDocument

/-! ### Requests to import -/

/-- What comes of a document that is imported: the response, and the records that are kept then. -/
inductive Imported (t : Tables) (document : Value) (workspace : String) (now : Instant) (drawn : Nat) (id : String) :
    Response → Records → Prop where
  /-- The flow in it is stored, and shown as it is kept; every other flow is as before. -/
  | stored {g g' : FlowGraph} {t' : Tables}
      (hparse : (Document.parse document workspace now drawn).1 = .ok g) (hfits : g.Fits)
      (hkept : t'.graph? g.flow.id = some g')
      (hshows : Tables.Shows g (((t.flow? g.flow.id).map Flow.created).getD g.flow.created) now g')
      (hothers : ∀ x ≠ g.flow.id, t'.graph? x = t.graph? x) :
      Imported t document workspace now drawn id ⟨201, .json (View.graph g'), some id⟩ (.tables t')
  /-- The response says what is wrong with it. -/
  | refused {f : Failure} (hparse : (Document.parse document workspace now drawn).1 = .error f)
      (hkind : f.kind = .parse) (hmessage : Text.Whole f.message) :
      Imported t document workspace now drawn id ⟨400, errorBody "invalid_flow_document" f.message [], some id⟩
        (.tables t)
  /-- What is wrong with it cannot be said in bytes. -/
  | unspeakable {f : Failure} (hparse : (Document.parse document workspace now drawn).1 = .error f)
      (hkind : f.kind = .parse) (hmessage : ¬ Text.Whole f.message) :
      Imported t document workspace now drawn id (internalError id) (.tables t)
  | unguarded {f : Failure} (hparse : (Document.parse document workspace now drawn).1 = .error f)
      (h : Document.Unguarded document f) :
      Imported t document workspace now drawn id (internalError id) (.tables t)
  | unfit {g : FlowGraph} (hparse : (Document.parse document workspace now drawn).1 = .ok g) (h : ¬ g.Fits) :
      Imported t document workspace now drawn id (internalError id) (.tables t)

theorem response_of_unguarded (h : Document.Unguarded document f) (id : String) :
    (Problem.ofFailure f).response id = internalError id := by
  cases h <;> rfl

theorem response_of_isOfTables (h : f.kind.isOfTables = true) (id : String) :
    (Problem.ofFailure f).response id = internalError id := by
  obtain ⟨kind, message⟩ := f
  cases kind with
  | encode | overflow | unfit | unconverted | integrity => rfl
  | _ => cases h

theorem response_of_parse (hkind : f.kind = .parse) (id : String) : (Problem.ofFailure f).response id =
    explaining id 400 "invalid_flow_document" f.message [] := by
  obtain ⟨kind, message⟩ := f
  cases hkind
  rfl

theorem explaining_of_whole {message : String} (h : Text.Whole message) (id : String) (status : Nat) (kind : String)
    (more : List (String × Value)) :
    explaining id status kind message more = ⟨status, errorBody kind message more, some id⟩ := by
  rw [explaining, h.ofHalves?]

theorem explaining_of_not_whole {message : String} (h : ¬ Text.Whole message) (id : String) (status : Nat)
    (kind : String) (more : List (String × Value)) :
    explaining id status kind message more = internalError id := by
  obtain ⟨f, hf⟩ := Option.ne_none_iff_exists'.1 (mt Failure.ofHalves?_eq_none_iff.1 h)
  rw [explaining, hf]

section Serve

variable {s : Service σ} {r : Request} {c : Call} {v : Value} {engine : Engine σ}
  (hs : s.isStarted = true) (hc : c.readsBody = true) (hbody : r.content = .ok (some v)) (id : String)
include hs hc hbody

theorem serve_of_ok {status : Nat} {body : Body} (h : perform r v c s.engine = (.ok (status, body), engine)) :
    serve s r c id = (⟨status, body, some id⟩, { s with engine }) := by
  simp only [serve, hc, if_true, hbody, hs, ExceptT.run, Stateful.bind_apply, Stateful.pure_apply,
    Option.getD_some, h]

theorem serve_of_error {p : Problem} (h : perform r v c s.engine = (.error p, engine)) :
    serve s r c id = (p.response id, { s with engine }) := by
  simp only [serve, hc, if_true, hbody, hs, ExceptT.run, Stateful.bind_apply, Stateful.pure_apply,
    Option.getD_some, h]

end Serve

theorem perform_importFlow (r : Request) (fields : Fields) : perform r (.object fields) .importFlow =
    (saveDocument (.object fields) ((r.parameter? "workspaceId").getD "") : Serving σ _) := rfl

theorem atPath_import : Call.atPath "/api/v1/flows/import" =
    [("POST", .importFlow), ("GET", .getFlow "import"), ("DELETE", .deleteFlow "import")] := by
  have hword : Call.lastWord "/api/v1/flows/import" = "/api/v1/flows/import" := by decide
  have hpages : Call.pages.contains "/api/v1/flows/import" = false := by decide
  have hsegments : (FilePath.splitSlash "/api/v1/flows/import".toList).map String.ofList =
      ["", "api", "v1", "flows", "import"] := by decide
  have hlast : Call.ofFlowWord "import" = [("POST", .importFlow)] := by decide
  simp only [Call.atPath, hword, hpages, hsegments]
  simp [Call.ofFlowPath, hlast]

/-- Until a call is served nothing changes but the count of ids. -/
theorem respond_of_call {s : Service σ} {r : Request} {c : Call} (hpreflight : preflight? r = none)
    (hcall : (Call.atPath r.path).lookup r.method = some c) : ∃ id n,
    s.respond r = serve { s with engine := { s.engine with world := { s.engine.world with drawn := n } } } r c id := by
  unfold respond
  cases (r.header? "x-request-id").filter (· != "") with
  | some id =>
    refine ⟨id, s.engine.world.drawn, ?_⟩
    simp only [hpreflight, hcall]
  | none =>
    refine ⟨idOf (s.engine.world.drawn + 1), s.engine.world.drawn + 1, ?_⟩
    simp only [hpreflight, hcall]
    rfl

theorem isJson_of_content {r : Request} {v : Value} (h : r.content = .ok (some v)) : v.isJson = true := by
  unfold Request.content at h
  split at h
  next => cases h
  next =>
    split at h
    next => cases h
    next =>
      dsimp only at h
      split at h
      next => cases h
      next =>
        split at h
        next hread =>
          cases h
          exact Value.isJson_of_read hread
        all_goals cases h

variable {s : Service σ} {r : Request} {fields : Fields}

theorem imported_of_serve (hs : s.isStarted = true) (ht : s.engine.world.store.records = .tables t)
    (hbody : r.content = .ok (some (.object fields))) (id : String) :
    Imported t (.object fields) ((r.parameter? "workspaceId").getD "") s.engine.world.now s.engine.world.drawn id
      (serve s r .importFlow id).1 (serve s r .importFlow id).2.engine.world.store.records := by
  have hperform := congrFun (perform_importFlow r fields) s.engine
  rcases hparse : Document.parse (.object fields) ((r.parameter? "workspaceId").getD "") s.engine.world.now
    s.engine.world.drawn with ⟨f | g, n⟩
  · rw [serve_of_error hs rfl hbody id (hperform.trans (saveDocument_of_error hparse))]
    change Imported t _ _ _ _ id _ s.engine.world.store.records
    rw [ht]
    have hfst := congrArg Prod.fst hparse
    rcases Document.unguarded_of_parse (isJson_of_content hbody) hfst with hkind | hunguarded
    · rw [response_of_parse hkind]
      by_cases hmessage : Text.Whole f.message
      · rw [explaining_of_whole hmessage]
        exact .refused hfst hkind hmessage
      · rw [explaining_of_not_whole hmessage]
        exact .unspeakable hfst hkind hmessage
    · rw [response_of_unguarded hunguarded]
      exact .unguarded hfst hunguarded
  · have hfst := congrArg Prod.fst hparse
    have hdemands := t.demands_saveGraph g s.engine.world.now
    cases hsave : t.saveGraph g s.engine.world.now with
    | error f =>
      rw [serve_of_error hs rfl hbody id (hperform.trans (saveDocument_of_refused hparse ht hsave))]
      change Imported t _ _ _ _ id _ s.engine.world.store.records
      rw [ht, response_of_isOfTables (hdemands.kind hsave)]
      exact .unfit hfst (hdemands.not_of_error hsave)
    | ok t' =>
      obtain ⟨⟨g', hkept, hshows⟩, hothers⟩ := Tables.graph?_of_saveGraph hsave
      rw [serve_of_ok hs rfl hbody id (hperform.trans (saveDocument_of_saved hparse ht hsave hkept))]
      exact .stored hfst (hdemands.met hsave) hkept hshows hothers

/-- What a started service over tables answers to a JSON object that it is to import, and what it keeps. -/
theorem imported_of_respond (hs : s.isStarted = true) (ht : s.engine.world.store.records = .tables t)
    (hmethod : r.method = "POST") (hpath : r.path = "/api/v1/flows/import")
    (hbody : r.content = .ok (some (.object fields))) : ∃ drawn id,
    Imported t (.object fields) ((r.parameter? "workspaceId").getD "") s.engine.world.now drawn id
      (s.respond r).1 (s.respond r).2.engine.world.store.records := by
  have hpreflight : preflight? r = none := by
    unfold preflight?
    rw [hmethod]
    simp
  have hcall : (Call.atPath r.path).lookup r.method = some .importFlow := by
    rw [hpath, hmethod, atPath_import]
    rfl
  obtain ⟨id, n, hrespond⟩ := respond_of_call (s := s) hpreflight hcall
  rw [hrespond]
  have hserved := imported_of_serve
    (s := { s with engine := { s.engine with world := { s.engine.world with drawn := n } } }) hs ht hbody id
  exact ⟨n, id, hserved⟩

/-- A document whose flow has a list for a status. -/
def listed : Value :=
  .record [("nodes", .list []), ("flow", .record [("status", .list [.text "draft"])])]

def importListed : Request where
  method := "POST"
  path := "/api/v1/flows/import"
  body := "\x7b\"nodes\":[],\"flow\":\x7b\"status\":[\"draft\"]\x7d\x7d"

/-- A service over empty tables. -/
def overTables : Service Unit where
  engine := { actions := {}, world := { now := ⟨0⟩, store := { records := .tables {} }, surroundings := () } }

theorem content_importListed : importListed.content = .ok (some listed) := by
  have hempty : importListed.body.isEmpty = false := by decide
  have hjson : importListed.holdsJson = true := rfl
  have hencoding : Request.encodingOf (Text.encodeUtf8 importListed.body.toList) = .utf8Signed := by cbv
  have hdecode : Text.Encoding.decode .utf8Signed (Text.encodeUtf8 importListed.body.toList) =
      .ok importListed.body.toList := by cbv
  have hread : Json.read importListed.body = .ok listed := by cbv
  simp only [Request.content, hempty, hjson, hencoding, hdecode, String.ofList_toList, hread]
  rfl

/-- There is no better answer than an internal error. -/
theorem imported_of_importListed : (overTables.respond importListed).1.status = 500 ∧
    (overTables.respond importListed).2.engine.world.store.records = .tables {} := by
  obtain ⟨drawn, id, h⟩ := imported_of_respond (s := overTables) rfl rfl rfl rfl content_importListed
  have hparse : ∀ workspace, (Document.parse listed workspace ⟨0⟩ drawn).1 =
      .error (.unhashable (.list [.text "draft"])) := fun _ => rfl
  generalize (overTables.respond importListed).1 = response at h ⊢
  generalize (overTables.respond importListed).2.engine.world.store.records = records at h ⊢
  cases h with
  | stored h => cases h.symm.trans (hparse _)
  | refused h hkind =>
    cases h.symm.trans (hparse _)
    cases hkind
  | unfit h => cases h.symm.trans (hparse _)
  | _ => exact ⟨rfl, rfl⟩

end Service

end Workflow
