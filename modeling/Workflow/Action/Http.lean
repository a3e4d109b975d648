import Workflow.Action
import Workflow.Action.TimeLimit
import Workflow.Text.Case

/-!
# HTTP actions

An HTTP action sends a request and shows the status, the headers and the body of the response. A
request that fails is shown with status zero and a message in the place of the body.
-/
namespace Workflow.Http

structure Request where
  method : String
  url : Value
  headers : List (String × String)
  body : Option String
  /-- In seconds. -/
  timeLimit : Double

structure Response where
  status : Int
  headers : List (String × String)
  body : String

/-- What carries a request out. -/
abbrev Transport := Request → Outcome Response

/-- The text of a body: a text as it is, any other value as JSON. -/
def bodyText (body : Value) : Outcome (Option String) :=
  match body with
  | .null => .ok none
  | .text s => .ok (some s)
  | v => (v.json .spaced).map some

/-- Puts a header in the place of the one with its name, if there is one. -/
def setHeader (headers : List (String × String)) (name value : String) : List (String × String) :=
  if headers.any (·.1 == name) then
    headers.map fun h => if h.1 == name then (name, value) else h
  else headers ++ [(name, value)]

/-- The names and values of headers as texts. -/
def headerTexts (headers : Fields) : Outcome (List (String × String)) :=
  headers.foldlM (fun texts (name, value) => do
    return setHeader texts name.plain (← value.plain)) []

/-- The given headers; a body that is no text says first that it is JSON. -/
def headersFor (params : Value) (body : Option String) : Fields :=
  let given := (params.field "headers").fields?.getD []
  let isText := (params.field "body").text?.isSome
  if body.isSome && !isText then
    given.foldl (fun all (name, value) => Fields.set name value all)
      [(.text "Content-Type", .text "application/json")]
  else given

/-- What parameters say about a request, before its headers are texts. -/
structure Draft where
  method : String
  url : Value
  headers : Fields
  body : Option String
  timeLimit : Double

/-- Reads the parameters: without a method it is a request to get something, which has no body. -/
def draft (usual : Int) (params : Fields) : Outcome Draft := do
  let v := Value.object params
  let method := Text.upper (← ((v.field "method").orElse (.text "GET")).plain)
  let timeLimit ← TimeLimit.seconds (v.field "timeout") usual
  let body ← if method == "GET" then pure none else bodyText (v.field "body")
  return ⟨method, v.field "url", headersFor v body, body, timeLimit⟩

def result (success : Bool) (status : Int) (headers : List (String × String)) (body : String) :
    ActionResult :=
  ⟨success, .record [("status", .int status),
    ("headers", .record (headers.map fun (name, value) => (name, .text value))),
    ("body", .text body)]⟩

/-- A response as a result; names of headers are in lower case there. -/
def Response.toResult (r : Response) : ActionResult :=
  let headers := r.headers.foldl (fun all (name, value) => setHeader all (Text.lower name) value) []
  result (200 ≤ r.status && r.status < 300) r.status headers r.body

/-- Whether a failure is one of requests and of the values in them. -/
def isShown (kind : FailureKind) : Bool :=
  kind == .client || kind == .invalidValue || kind == .wrongType || kind == .decode ||
    kind == .encode

/-- A failed request as a result, if the failure is one of requests. -/
def shown (timeLimit : Double) (f : Failure) : Outcome ActionResult :=
  if f.kind == .timeout then
    .ok (result false 0 [] ("Request timed out after " ++ timeLimit.secondsText ++ "s"))
  else if isShown f.kind then .ok (result false 0 [] (f.describe "Unknown HTTP error"))
  else .error f

/-- The result of an HTTP action, with the request that was sent. -/
def perform (transport : Transport) (usual : Int) (params : Fields) :
    Outcome ActionResult × Option Request :=
  match draft usual params with
  | .error f => (.error f, none)
  | .ok d =>
    match headerTexts d.headers with
    | .error f => (shown d.timeLimit f, none)
    | .ok headers =>
      let request : Request := ⟨d.method, d.url, headers, d.body, d.timeLimit⟩
      match transport request with
      | .ok response => (.ok response.toResult, some request)
      | .error f => (shown d.timeLimit f, some request)

end Workflow.Http
