import Workflow.Json.Reader
import Workflow.Failure
import Workflow.Text.Encoding
import Workflow.Text.Utf8

/-!
# Requests and responses

What the service is asked and what it answers. A body that is said to be JSON is read as JSON, any
other is only bytes.
-/
namespace Workflow.Service

structure Request where
  method : String
  /-- The path, without its query. -/
  path : String
  query : List (String × String) := []
  headers : List (String × String) := []
  body : String := ""

inductive Body where
  | json (v : Value)
  | text (s : String)

structure Response where
  status : Nat
  body : Body
  /-- The id of the request, if the response carries it. -/
  requestId : Option String := none

namespace Request

/-- The bytes of a target with its escapes replaced. -/
def unescape : List Char → List UInt8
  | '%' :: a :: b :: rest =>
    match Json.hexDigit? a, Json.hexDigit? b with
    | some x, some y => UInt8.ofNat (x * 16 + y) :: unescape rest
    | _, _ => Text.encodeChar '%' ++ unescape (a :: b :: rest)
  | c :: rest => Text.encodeChar c ++ unescape rest
  | [] => []

def decoded (s : String) : String := String.ofList (Text.decodeReplacing (unescape (Text.withoutMarks s.toList)))

/-- The parameters that a target has behind its question mark. -/
def parametersOf (s : String) : List (String × String) :=
  let plain (s : String) : String := decoded (s.replace "+" " ")
  ((s.splitOn "&").filter (· != "")).map fun item =>
    match item.splitOn "=" with
    | name :: value => (plain name, plain ("=".intercalate value))
    | [] => ("", "")

/-- Segments without those that stand for the segment itself or for the one before. -/
def withoutDots (segments : List String) : List String :=
  let step (seen : List String) (segment : String) : List String :=
    if segment == "." then seen
    else if segment == ".." then (if seen == [""] then seen else seen.drop 1)
    else segment :: seen
  (segments.foldl step []).reverse

/-- The path of a target as it is sent: it begins with one slash; what stands behind two slashes is no
part of it. -/
def sentPath (path : String) : String :=
  let cs := path.toList
  let cs := if cs.take 2 == ['/', '/'] then (cs.drop 2).dropWhile (· != '/') else cs
  "/".intercalate (withoutDots ("" :: (String.ofList (cs.dropWhile (· == '/'))).splitOn "/"))

/-- The path and the parameters of a target; what stands behind a number sign is no part of it. -/
def splitTarget (target : String) : String × List (String × String) :=
  match (String.ofList (target.toList.takeWhile (· != '#'))).splitOn "?" with
  | [] => ("/", [])
  | path :: rest => (decoded (sentPath path), parametersOf ("?".intercalate rest))

/-- The letters of a name as in lower case. -/
def lowered (s : String) : String := String.ofList (s.toList.map Char.toLower)

/-- The first header of a name, whatever its letters' case. -/
def header? (r : Request) (name : String) : Option String :=
  (r.headers.find? fun h => lowered h.1 == name).map (·.2)

/-- The last parameter of a name in the query. -/
def parameter? (r : Request) (name : String) : Option String :=
  (r.query.reverse.find? (·.1 == name)).map (·.2)

/-- Whether the body is said to be JSON; without a word about it, it is. -/
def holdsJson (r : Request) : Bool :=
  match (r.header? "content-type").filter (· != "") with
  | none => true
  | some type =>
    let name := lowered ((type.splitOn ";").headD "").trimAscii.toString
    match name.splitOn "/" with
    | ["application", kind] => kind == "json" || kind.endsWith "+json"
    | _ => false

/-- What is wrong with a body. -/
inductive BodyFault where
  /-- It is no JSON text. -/
  | malformed
  /-- It is JSON text that cannot be read. -/
  | unreadable
  /-- It is not said to be JSON. -/
  | opaqueBytes

/-- The encoding of JSON text by the zeros among its first bytes: its first character is in ASCII. -/
def encodingOf (bytes : List UInt8) : Text.Encoding :=
  match bytes with
  | a :: b :: c :: d :: _ =>
    if a == 0 then (if b == 0 then .utf32Big else .utf16Big)
    else if b == 0 then (if c == 0 && d == 0 then .utf32Little else .utf16Little)
    else .utf8Signed
  | [a, b] => if a == 0 then .utf16Big else if b == 0 then .utf16Little else .utf8Signed
  | _ => .utf8Signed

/-- The value in the body, if there is a body. -/
def content (r : Request) : Except BodyFault (Option Value) :=
  if r.body.isEmpty then .ok none
  else if !r.holdsJson then .error .opaqueBytes
  else
    let bytes := Text.encodeUtf8 r.body.toList
    match (encodingOf bytes).decode bytes with
    | .error _ => .error .unreadable
    | .ok cs =>
      match Json.read (String.ofList cs) with
      | .ok v => .ok (some v)
      | .error .malformed => .error .malformed
      | .error _ => .error .unreadable

end Request

end Workflow.Service
