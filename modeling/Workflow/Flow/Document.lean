import Workflow.Drawing
import Workflow.Files
import Workflow.Flow
import Workflow.Json.Reader
import Workflow.Value.Number
import Workflow.Yaml.Document

/-!
# Flow documents

A flow is exchanged as a document with `flow`, `nodes` and `edges`. In a document of version 1 edges
name their nodes by position and all ids are new; in a document without a version nodes and edges
bring their ids. `Document.parse` reads a document that is a value, `Document.parseText` one in YAML
or JSON text, and `Document.parseFile` one in a file.
-/
namespace Workflow

namespace Document

/-- The version of documents whose edges name nodes by position. -/
def exportVersion : Nat := 1

def refuse {α : Type} (message : String) : Drawing α := throw ⟨.parse, message⟩

def plain (v : Value) : Drawing String := .ofExcept v.plain

/-- A configuration is kept as text: an object as its JSON text, a text as it is. -/
def configText (v : Value) : Drawing (Option String) :=
  match v with
  | .null => return none
  | .text s => return some s
  | v =>
    match v.json .spaced with
    | .ok s => return some s
    | .error f => throw f

/-- The text of a value, or if it does not count as given a new id. -/
def givenOrNewId (v : Value) : Drawing String := if v.isGiven then plain v else drawId

/-- The states of a flow. -/
def statuses : List String := ["draft", "active", "disabled"]

def parseStatus (v : Value) : Drawing String := do
  if !v.isScalar then throw (.unhashable v)
  match v with
  | .text s => if statuses.contains s then return s
  | _ => pure ()
  refuse ("Invalid flow status: " ++ (← plain v))

def parseFlow (document : Value) (workspace : String) (now : Instant) : Drawing Flow := do
  let flow := (document.field "flow").orElse (.object [])
  if flow.fields?.isNone then refuse "'flow' must be an object"
  let status ← parseStatus ((flow.field "status").orElse (.text "draft"))
  let id ← givenOrNewId (flow.field "id")
  let workspace ← plain ((flow.field "workspaceId").orElse (.text workspace))
  let name := ((flow.field "name").orElse (document.field "name")).orElse (.text "Untitled flow")
  let config ← configText (flow.field "triggerConfig")
  return ⟨id, workspace, name, flow.field "description", status, config, now, now⟩

/-- A coordinate of a node; one that is not given is zero. -/
def parseCoordinate (v : Value) (node : Value) : Drawing Value := do
  match (v.orElse (.int 0)).asDouble? with
  | .ok (some d) => return .float d
  | .ok none => refuse ("Node " ++ (← plain node) ++ " has an invalid position")
  | .error f => throw f

/-- Reads a node; without a new id it must bring its own. -/
def parseNode (v : Value) (flow : String) (newId : Option String) : Drawing Node := do
  if v.fields?.isNone then refuse "Each node must be an object"
  if !(v.field "type").isGiven then refuse "Node is missing 'type'"
  let id := match newId with
    | some id => .text id
    | none => v.field "id"
  if newId.isNone && !id.isGiven then refuse "Node is missing 'id'"
  let x ← parseCoordinate (v.field "x") id
  let y ← parseCoordinate (v.field "y") id
  let id ← plain id
  let type ← plain (v.field "type")
  let config ← configText (v.field "config")
  return ⟨id, flow, type, (v.field "label").orElse (.text ""), x, y, .ofOption .text config⟩

/-- The node at the position that a field of an edge gives. -/
def endpoint (v : Value) (key : String) (nodes : List Node) : Drawing String := do
  let index := v.field key
  match index with
  | .int i =>
    if 0 ≤ i then
      match nodes[i.toNat]? with
      | some n => return n.id
      | none => pure ()
  | _ => pure ()
  refuse ("Edge " ++ key ++ " out of range: " ++ (← plain index))

def parseIndexedEdge (v : Value) (flow : String) (nodes : List Node) : Drawing Edge := do
  if v.fields?.isNone then refuse "Each edge must be an object"
  let source ← endpoint v "sourceIndex" nodes
  let target ← endpoint v "targetIndex" nodes
  let id ← drawId
  return ⟨id, flow, source, target, v.field "sourceHandle", v.field "targetHandle", v.field "label"⟩

def parseEdge (v : Value) (flow : String) : Drawing Edge := do
  if v.fields?.isNone then refuse "Each edge must be an object"
  let source := v.field "source"
  let target := v.field "target"
  if !source.isGiven || !target.isGiven then refuse "Edge requires 'source' and 'target'"
  let id ← givenOrNewId (v.field "id")
  let source ← plain source
  let target ← plain target
  return ⟨id, flow, source, target, v.field "sourceHandle", v.field "targetHandle", v.field "label"⟩

/-- Whether a version is the one of exported documents. -/
def isExportVersion : Value → Bool
  | .int i => i == exportVersion
  | .float d => d.beq (.roundInt exportVersion)
  | .bool b => b
  | _ => false

/-- Reads a node of a document of version 1. -/
def parseNewNode (flow : String) (v : Value) : Drawing Node := do
  let id ← drawId
  parseNode v flow (some id)

/-- Reads a document. -/
def parse (document : Value) (workspace : String) (now : Instant) : Drawing FlowGraph := do
  if document.fields?.isNone then refuse "Flow document must be an object"
  match document.field "nodes", (document.field? "edges").getD (.list []) with
  | .list nodes, .list edges =>
    let flow ← parseFlow document workspace now
    let version := document.field "version"
    if version.isNull then
      let nodes ← nodes.mapM fun v => parseNode v flow.id none
      let edges ← edges.mapM fun v => parseEdge v flow.id
      return ⟨flow, nodes, edges⟩
    else
      if !isExportVersion version then
        refuse ("Unsupported flow document version: " ++ (← plain version))
      let nodes ← nodes.mapM (parseNewNode flow.id)
      let edges ← edges.mapM fun v => parseIndexedEdge v flow.id nodes
      return ⟨flow, nodes, edges⟩
  | _, _ => refuse "Flow document requires 'nodes' and 'edges' lists"

/-- The fields of a document, each to be looked at on its own. -/
def shape : Yaml.Shape :=
  let wholes (names : List String) : Yaml.Shape := .fields (names.map fun name => (name, .whole))
  .fields [("version", .whole), ("name", .whole),
    ("flow", wholes ["id", "workspaceId", "name", "description", "status", "triggerConfig"]),
    ("nodes", .items (wholes ["id", "type", "label", "x", "y", "config"])),
    ("edges", .items (wholes ["id", "source", "target", "sourceIndex", "targetIndex",
      "sourceHandle", "targetHandle", "label"]))]

/-- The document in YAML text. -/
def readYaml (s : String) : Drawing Value :=
  match Yaml.read shape s with
  | .ok v => return v
  | .error .malformed => refuse "Failed to parse YAML"
  | .error (.value f) => throw f

/-- The document in JSON text. -/
def readJson (s : String) : Drawing Value :=
  match Json.read s with
  | .ok v => return v
  | .error .malformed => refuse "Failed to parse JSON"
  | .error (.longInteger n) => throw (.longNumeral n)
  | .error .tooDeep => throw ⟨.recursion, "maximum recursion depth exceeded"⟩

/-- Reads a document in YAML text, of which JSON text is a part. -/
def parseText (s workspace : String) (now : Instant) : Drawing FlowGraph := do
  parse (← readYaml s) workspace now

/-- The letters of the suffix of a path. -/
def formatOf (p : FilePath) : String :=
  String.ofList ((Text.lower p.suffix).toList.dropWhile (· == '.'))

/-- The text of the file at a path. -/
def readFile (files : FileTree) (p : FilePath) : Drawing String :=
  match Failure.ofPath? p.text, files.read p with
  | some f, _ => throw f
  | none, .error fault => refuse ("Cannot read " ++ p.text ++ ": " ++ fault.message p.text)
  | none, .ok bytes =>
    match Text.decodeUtf8? bytes with
    | none => throw ⟨.decode, ""⟩
    | some cs => return String.ofList (unifyLineEnds cs)

/-- Reads a document in a file; the suffix of the path tells its format. -/
def parseFile (files : FileTree) (p : FilePath) (workspace : String) (now : Instant) :
    Drawing FlowGraph := do
  let format := formatOf p
  if format == "yaml" || format == "yml" then
    parse (← readYaml (← readFile files p)) workspace now
  else if format == "json" then parse (← readJson (← readFile files p)) workspace now
  else refuse ("Unsupported file format: " ++ format)

/-- The most characters of a text that may be a path. -/
def pathLimit : Nat := 4096

/-- The most bytes of a path. -/
def pathByteLimit : Nat := 4096

/-- Whether a text is the path of a file. -/
def namesFile (files : FileTree) (s : String) : Drawing Bool :=
  if s.contains '\n' || s.length ≥ pathLimit || (Failure.ofPath? s).isSome then return false
  else if (FilePath.ofText s).text.utf8ByteSize ≥ pathByteLimit then throw ⟨.os, ""⟩
  else
    match files.isFile (.ofText s) with
    | .ok b => return b
    | .error _ => throw ⟨.os, ""⟩

/-- Reads a document from what is at hand: a value, the path of a file, or a text. -/
def parseAny (files : FileTree) (source : Value) (workspace : String) (now : Instant) :
    Drawing FlowGraph := do
  match source with
  | .object _ => parse source workspace now
  | .text s =>
    if ← namesFile files s then parseFile files (.ofText s) workspace now
    else parseText s workspace now
  | v => refuse ("Unsupported source type: <class '" ++ v.fullTypeName ++ "'>")

end Document

end Workflow
