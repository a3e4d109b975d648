import Workflow.Engine
import Workflow.Flow.Document
import Workflow.Flow.Export
import Workflow.Service.Form
import Workflow.Service.Message
import Workflow.Service.View

/-!
# The service

Flows and executions under paths. A call is found by the path and the method of a request; the parts of
the service that it needs must be there before its query and body are looked at. A failure becomes a
response by its kind: what is not found, what is wrong with a flow or its document, or else an internal
error.
-/
namespace Workflow

namespace Service

/-- What can be asked for. -/
inductive Call where
  | root
  /-- A page about the service, which is made elsewhere. -/
  | page
  | createFlow
  | importFlow
  | listFlows
  | getFlow (id : String)
  | deleteFlow (id : String)
  | validateFlow (id : String)
  | runFlow (id : String)
  | exportFlow (id : String)
  | listExecutions (id : String)
  | getExecution (id : String)
  | cancelExecution (id : String)
deriving DecidableEq

/-- The parts of a service that a call needs. -/
inductive Component where
  | engine
  | flows
  | executions
deriving DecidableEq

def Component.name : Component → String
  | engine => "Flow engine"
  | flows => "Flow repository"
  | executions => "Execution repository"

namespace Call

/-- The word at the end of a path: a line feed behind it does not matter. -/
def lastWord (segment : String) : String :=
  match segment.toList.reverse with
  | '\n' :: rest => String.ofList rest.reverse
  | _ => segment

/-- The calls of one flow or of all, by the segment behind their common path. -/
def ofFlowWord (segment : String) : List (String × Call) :=
  match lastWord segment with
  | "" => [("POST", createFlow), ("GET", listFlows)]
  | "import" => [("POST", importFlow)]
  | _ => []

/-- The calls about a flow, by the word behind its id. -/
def ofFlowDeed (id word : String) : List (String × Call) :=
  match lastWord word with
  | "validate" => [("POST", validateFlow id)]
  | "run" => [("POST", runFlow id)]
  | "export" => [("GET", exportFlow id)]
  | "executions" => [("GET", listExecutions id)]
  | _ => []

/-- The calls of flows, by the segments behind their common path. -/
def ofFlowPath : List String → List (String × Call)
  | [""] => ofFlowWord ""
  | [id] => ofFlowWord id ++ [("GET", getFlow id), ("DELETE", deleteFlow id)]
  | ["", _] => []
  | [id, word] => ofFlowDeed id word
  | _ => []

def ofExecutionPath : List String → List (String × Call)
  | "" :: _ => []
  | [id] => [("GET", getExecution id)]
  | [id, word] => if lastWord word == "cancel" then [("POST", cancelExecution id)] else []
  | _ => []

/-- The paths of the pages about the service. -/
def pages : List String := ["/openapi.json", "/docs", "/docs/oauth2-redirect", "/redoc"]

/-- The calls at a path, with their methods. -/
def atPath (path : String) : List (String × Call) :=
  if lastWord path == "/" then [("GET", root)]
  else if pages.contains (lastWord path) then [("GET", page), ("HEAD", page)]
  else
    match (FilePath.splitSlash path.toList).map String.ofList with
    | "" :: "api" :: "v1" :: "flows" :: rest => ofFlowPath rest
    | "" :: "api" :: "v1" :: "executions" :: rest => ofExecutionPath rest
    | _ => []

/-- What a call needs first. -/
def component? : Call → Option Component
  | root => none
  | page => none
  | validateFlow _ => some .engine
  | runFlow _ => some .engine
  | cancelExecution _ => some .engine
  | getExecution _ => some .executions
  | _ => some .flows

/-- Whether a call reads a body. -/
def readsBody : Call → Bool
  | createFlow => true
  | importFlow => true
  | runFlow _ => true
  | _ => false

end Call

/-- Why a call has no result. -/
inductive Problem where
  /-- The request does not have the form it should have. -/
  | invalid
  /-- The body cannot be read. -/
  | unreadable
  | unavailable (c : Component)
  | refusal (r : Refusal)

def Problem.ofFailure (f : Failure) : Problem := .refusal (.failure f)

def errorBody (kind message : String) (more : List (String × Value)) : Body :=
  .json (.record ([("error", .text kind), ("message", .text message)] ++ more))

/-- The response to an internal error; the id of the request is in its body alone. -/
def internalError (requestId : String) : Response :=
  ⟨500, errorBody "internal_server_error" "An unexpected error occurred"
    [("request_id", .text requestId)], none⟩

/-- The response that says what is wrong; where its message has no bytes, an internal error. -/
def explaining (requestId : String) (status : Nat) (kind message : String)
    (more : List (String × Value)) : Response :=
  match Failure.ofHalves? message with
  | some _ => internalError requestId
  | none => ⟨status, errorBody kind message more, some requestId⟩

/-- The response to a problem. -/
def Problem.response (p : Problem) (requestId : String) : Response :=
  let carrying (status : Nat) (body : Body) : Response := ⟨status, body, some requestId⟩
  match p with
  | invalid => carrying 422 (.text "request_invalid")
  | unreadable =>
    carrying 400 (.json (.record [("detail", .text "There was an error parsing the body")]))
  | unavailable c =>
    carrying 503 (.json (.record [("detail", .record [("error", .text "service_unavailable"),
      ("message", .text (c.name ++ " not initialized"))])]))
  | refusal (.invalid reports) =>
    let f := (Refusal.invalid reports).toFailure
    explaining requestId 422 "validation_error" f.message
      [("details", .list (reports.map Report.toValue))]
  | refusal (.failure f) =>
    match f.kind with
    | .flowNotFound => explaining requestId 404 "flow_not_found" f.message []
    | .executionNotFound => explaining requestId 404 "execution_not_found" f.message []
    | .parse => explaining requestId 400 "invalid_flow_document" f.message []
    | _ => internalError requestId

/-- A call changes the engine and gives a status with a body, or a problem. -/
abbrev Serving (σ α : Type) := ExceptT Problem (StateM (Engine σ)) α

variable {σ α : Type}

/-- An operation in the world of the engine. -/
def inWorld (operation : Working σ α) : Serving σ α := fun e =>
  let (r, e) := e.inWorld operation
  (r.mapError Problem.ofFailure, e)

def lift (r : Outcome α) : Serving σ α := MonadExcept.ofExcept (r.mapError Problem.ofFailure)

/-- What a form gives; without it the request is invalid. -/
def need (a : Option α) : Serving σ α :=
  match a with
  | some a => return a
  | none => throw .invalid

def store : Serving σ Store := return (← get).world.store

def flowGraph (id : String) : Serving σ FlowGraph := do
  match (← store).graph? id with
  | some g => return g
  | none => throw (.ofFailure (.noFlow id))

def ok (v : Value) : Serving σ (Nat × Body) := return (200, .json v)

/-- Stores the flow of a document and shows it. -/
def saveDocument (document : Value) (workspace : String) : Serving σ (Nat × Body) := do
  let now := (← get).world.now
  let g ← inWorld fun w =>
    let (r, drawn) := (Document.parse document workspace now).run.run w.drawn
    (r, { w with drawn })
  let id ← inWorld (World.onStore (Store.saveGraph g now))
  return (201, .json (View.graph (← flowGraph id)))

/-- An integer in the query, within bounds. -/
def queryInteger (r : Request) (name : String) (usual least : Int) (most : Option Int) :
    Serving σ Int := do
  match r.parameter? name with
  | none => return usual
  | some s =>
    let i ← need (Form.integer? s)
    if least ≤ i && most.all (i ≤ ·) then return i else throw .invalid

/-- The page that a query asks for. -/
def queryPage (r : Request) : Serving σ Page := do
  return ⟨← queryInteger r "offset" 0 0 none, ← queryInteger r "limit" 100 1 (some 1000)⟩

/-- A word in the query, if there is one. -/
def queryWord (r : Request) (name : String) (words : List String) : Serving σ (Option String) := do
  match r.parameter? name with
  | none => return none
  | some s => if words.contains s then return some s else throw .invalid

/-- The value in the body of a request. -/
def content (r : Request) : Serving σ Value := do
  match r.content with
  | .ok v => return v.getD .null
  | .error .unreadable => throw .unreadable
  | .error _ => throw .invalid

def about : Value :=
  .record [("name", .text "Flow Runtime API"), ("version", .text "0.1.0"),
    ("status", .text "running"), ("docs", .text "/docs")]

/-- Does what is asked for; the body of the request has been read. -/
def perform (r : Request) (body : Value) : Call → Serving σ (Nat × Body)
  | .root => ok about
  | .page => return (200, .text "")
  | .createFlow => do saveDocument (← need (Form.document body)) ""
  | .importFlow => do
    if !Form.isObject body then throw .invalid
    saveDocument body ((r.parameter? "workspaceId").getD "")
  | .listFlows => do
    let page ← queryPage r
    let status ← queryWord r "status" Form.flowStatuses
    let flows ← lift ((← store).flows page ⟨(r.parameter? "workspaceId").getD "", status.getD ""⟩)
    ok (.list (flows.map View.flow))
  | .getFlow id => do ok (View.graph (← flowGraph id))
  | .deleteFlow id => do
    if ← inWorld (World.onStore (Store.deleteFlow id)) then return (204, .text "")
    else throw (.ofFailure (.noFlow id))
  | .validateFlow id => do ok (View.validation (← lift ((← get).validate id)))
  | .runFlow id => do
    let form ← if body.isNull then pure {} else need (RunForm.read body)
    let started := Engine.run id form.startMode form.payload (← get)
    let (result, e) := if form.waits then Engine.finishRun started else started
    set e
    match result with
    | .ok execution => return (202, .json (.record [("executionId", .text execution)]))
    | .error refusal => throw (.refusal refusal)
  | .exportFlow id => do return (200, .text (← lift (← flowGraph id).exportText))
  | .listExecutions id => do
    let page ← queryPage r
    let status ← queryWord r "status" (ExecutionStatus.all.map ExecutionStatus.name)
    if ((← store).flow? id).isNone then throw (.ofFailure (.noFlow id))
    let found ← lift ((← store).executionsOf id (status.bind ExecutionStatus.ofName?) page)
    ok (.list (found.map View.execution))
  | .getExecution id => do
    match (← store).execution? id with
    | none => throw (.ofFailure (.noExecution id))
    | some e => ok (View.executionWithSteps e ((← store).stepsOf id))
  | .cancelExecution id => do
    if ((← store).execution? id).isNone then throw (.ofFailure (.noExecution id))
    let (e, isCancelled) := (← get).cancel id
    set e
    ok (.record [("executionId", .text id), ("cancelled", .bool isCancelled)])

/-- The other form of a path: without the slash at its end or with one. -/
def alternative (path : String) : String :=
  if path.endsWith "/" then
    String.ofList ((path.toList.reverse.dropWhile (· == '/')).reverse)
  else path ++ "/"

def detail (s : String) : Body := .json (.record [("detail", .text s)])

end Service

/-- A service with its engine; it has none before it is started. -/
structure Service (σ : Type) where
  engine : Engine σ
  isStarted : Bool := true

namespace Service

open Request

variable {σ : Type}

/-- Serves a call. -/
def serve (s : Service σ) (r : Request) (c : Call) (requestId : String) : Response × Service σ :=
  let attempt : Serving σ (Nat × Body) := do
    let body ← match (if c.readsBody then r.content else .ok none) with
      | .error .malformed => throw .invalid
      | .error .unreadable => throw .unreadable
      | .error .opaqueBytes => pure none
      | .ok body => pure (some (body.getD .null))
    match (if s.isStarted then none else c.component?) with
    | some component => throw (.unavailable component)
    | none =>
      match body with
      | none => throw .invalid
      | some body => perform r body c
  let (result, engine) := attempt.run s.engine
  let service := { s with engine }
  match result with
  | .ok (status, body) => (⟨status, body, some requestId⟩, service)
  | .error p => (p.response requestId, service)

/-- The methods that a page of another origin may be allowed. -/
def allowedMethods : List String := ["DELETE", "GET", "HEAD", "OPTIONS", "PATCH", "POST", "PUT"]

/-- The response to the question of another origin whether a request would be allowed. -/
def preflight? (r : Request) : Option (Nat × Body) :=
  match r.method, r.header? "origin", r.header? "access-control-request-method" with
  | "OPTIONS", some _, some method =>
    if allowedMethods.contains method then some (200, .text "OK")
    else some (400, .text "Disallowed CORS method")
  | _, _, _ => none

/-- Answers a request. -/
def respond (s : Service σ) (r : Request) : Response × Service σ :=
  let (requestId, s) :=
    match (r.header? "x-request-id").filter (· != "") with
    | some id => (id, s)
    | none =>
      let (id, engine) := s.engine.inWorld World.draw
      (id.toOption.getD "", { s with engine })
  let carrying (status : Nat) (body : Body) : Response × Service σ :=
    (⟨status, if r.method == "HEAD" then .text "" else body, some requestId⟩, s)
  match preflight? r with
  | some (status, body) => carrying status body
  | none =>
    let calls := Call.atPath r.path
    match calls.lookup r.method with
    | some c => serve s r c requestId
    | none =>
      if !calls.isEmpty then carrying 405 (detail "Method Not Allowed")
      else if r.path != "/" && !(Call.atPath (alternative r.path)).isEmpty then carrying 307 (.text "")
      else carrying 404 (detail "Not Found")

/-- Answers a request, and lets all runs end. -/
def answer (s : Service σ) (r : Request) : Response × Service σ :=
  let (response, s) := s.respond r
  (response, { s with engine := s.engine.settle })

end Service

end Workflow
