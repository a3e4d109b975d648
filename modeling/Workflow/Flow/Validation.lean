import Workflow.Digraph
import Workflow.Failure
import Workflow.Flow.Config
import Workflow.Text.Blank

/-!
# Validation

A flow is checked as a whole before it is run: one trigger, every other node connected, no unknown
end of an edge, no cycle, and for each node what its configuration must hold. All that is wrong is
listed; a flow is valid if nothing is.
-/
namespace Workflow

/-- What can be wrong with the configuration of a node. -/
inductive ConfigIssue where
  | noActionType (label : Value)
  | noParams (type : String)
  | noCommand
  | noUrl
  | noMethod
  | noPath
  | noCondition
  | noLeft
  | noOperator
  | noRight
  | noParts (joined : String)
  | conditionType
deriving Inhabited

/-- What can be wrong with a flow. -/
inductive Issue where
  | noNodes
  | noTrigger
  | furtherTrigger (name : Value)
  | idleTrigger
  | onlyTriggers
  | unconnected (name : Value)
  | unknownEnd (edge : String) (node : String)
  | cycle
  | config (issue : ConfigIssue)
deriving Inhabited

/-- Something wrong, and with which node if it is one. -/
structure Finding where
  issue : Issue
  node : Option String := none
deriving Inhabited

def ConfigIssue.message : ConfigIssue → Outcome String
  | noActionType label => do
    let name ← (label.orElse (.text "Untitled")).plain
    return "Action node \"" ++ name ++ "\" has no action type configured"
  | noParams type => .ok ("Action \"" ++ type ++ "\" has no configuration")
  | noCommand => .ok "Shell action requires a command"
  | noUrl => .ok "HTTP action requires a URL"
  | noMethod => .ok "HTTP action requires a method"
  | noPath => .ok "File read action requires a path"
  | noCondition => .ok "Condition node has no condition configured"
  | noLeft => .ok "Condition is missing left value"
  | noOperator => .ok "Condition is missing operator"
  | noRight => .ok "Condition is missing right value"
  | noParts joined => .ok ("Compound " ++ joined ++ " condition has no sub-conditions")
  | conditionType => .ok "Condition has invalid type"

def Issue.message : Issue → Outcome String
  | noNodes => .ok "Flow has no nodes"
  | noTrigger => .ok "Flow must have a trigger node"
  | furtherTrigger name => do
    return "Multiple trigger nodes found, only one is allowed (\"" ++ (← name.plain) ++ "\")"
  | idleTrigger => .ok "Trigger node has no outgoing connections"
  | onlyTriggers => .ok "Flow must have at least one action or condition node"
  | unconnected name => do
    return "Node \"" ++ (← name.plain) ++ "\" is not connected to the flow"
  | unknownEnd edge node =>
    .ok ("Edge \"" ++ edge ++ "\" references unknown node \"" ++ node ++ "\"")
  | cycle => .ok "Flow contains a cycle"
  | config issue => issue.message

namespace Validation

/-- A value that counts as not configured: missing, false, zero or empty. -/
def isBlank : Value → Bool
  | .null => true
  | .bool b => !b
  | .text s => s == ""
  | .int i => i == 0
  | .float d => d.isZero
  | _ => false

/-- A value that counts as not configured where a text is wanted. -/
def isBlankText (v : Value) : Bool :=
  isBlank v ||
    match v with
    | .text s => Text.allBlank s
    | _ => false

def issueIf (condition : Bool) (issue : ConfigIssue) : List ConfigIssue :=
  if condition then [issue] else []

/-- What is missing in the parameters of an action; types of actions that are not known are not
checked. -/
def paramIssues (type : String) (params : Option Fields) : List ConfigIssue :=
  match params with
  | none => [.noParams type]
  | some fields =>
    let v := Value.object fields
    if type == "shell.exec" then issueIf (isBlankText (v.field "command")) .noCommand
    else if type == "http.request" then
      issueIf (isBlankText (v.field "url")) .noUrl ++ issueIf (isBlank (v.field "method")) .noMethod
    else if type == "file.read" then issueIf (isBlankText (v.field "path")) .noPath
    else []

mutual

/-- What is wrong with a written condition. -/
def conditionIssues : Value → List ConfigIssue
  | .object fields =>
    match Fields.get? "type" fields with
    | some (.text "compare") =>
      let v := Value.object fields
      issueIf (isBlank (v.field "left")) .noLeft ++
        issueIf (isBlank (v.field "operator")) .noOperator ++
        issueIf (isBlank (v.field "right")) .noRight
    | some (.text "and") => partsIssues "AND" fields
    | some (.text "or") => partsIssues "OR" fields
    | _ => [.conditionType]
  | v => if isBlank v then [.noCondition] else [.conditionType]

/-- What is wrong with the conditions that an `and` or `or` joins. -/
def partsIssues (joined : String) : List (Key × Value) → List ConfigIssue
  | [] => [.noParts joined]
  | (key, v) :: rest =>
    if key = .text "conditions" then
      match v with
      | .list (first :: others) => conditionIssues first ++ allIssues others
      | _ => [.noParts joined]
    else partsIssues joined rest

def allIssues : List Value → List ConfigIssue
  | [] => []
  | v :: rest => conditionIssues v ++ allIssues rest

end

/-- What is wrong with the configuration of a node. -/
def configIssues (n : Node) : List ConfigIssue :=
  match n.parsedConfig with
  | .action none _ => [.noActionType n.label]
  | .action (some type) params => paramIssues type params
  | .condition raw => conditionIssues raw
  | _ => []

/-- Whether following the edges can lead from a node back to it. -/
def hasCycle (ids : List String) (edges : List Edge) : Bool :=
  Digraph.hasCycle ids (edges.map Edge.ends)

def findingIf (condition : Bool) (issue : Issue) (node : Option String) : List Finding :=
  if condition then [⟨issue, node⟩] else []

def triggerFindings (triggers : List Node) (edges : List Edge) : List Finding :=
  (match triggers with
    | [] => [⟨.noTrigger, none⟩]
    | _ :: others => others.map fun n => ⟨.furtherTrigger n.displayName, some n.id⟩) ++
  triggers.flatMap fun n =>
    findingIf (edges.all (·.source != n.id)) .idleTrigger (some n.id)

def edgeFindings (nodes : List Node) (e : Edge) : List Finding :=
  [e.source, e.target].flatMap fun id =>
    findingIf (nodes.all (·.id != id)) (.unknownEnd e.id id) none

def nodeFindings (n : Node) : List Finding :=
  (configIssues n).map fun issue => ⟨.config issue, some n.id⟩

/-- All that is wrong with the nodes and edges of a flow. -/
def findings (nodes : List Node) (edges : List Edge) : List Finding :=
  if nodes.isEmpty then [⟨.noNodes, none⟩]
  else
    let others := nodes.filter (!·.isTrigger)
    triggerFindings (nodes.filter (·.isTrigger)) edges ++
      findingIf others.isEmpty .onlyTriggers none ++
      (others.flatMap fun n =>
        findingIf (edges.all (·.target != n.id)) (.unconnected n.displayName) (some n.id)) ++
      edges.flatMap (edgeFindings nodes) ++
      findingIf (hasCycle (nodes.map Node.id) edges) .cycle none ++
      nodes.flatMap nodeFindings

/-- Whether a flow may be run. -/
def isValid (nodes : List Node) (edges : List Edge) : Bool := (findings nodes edges).isEmpty

end Validation

/-- A finding with its message. -/
structure Report where
  message : String
  node : Option String := none
deriving DecidableEq

def Finding.report (f : Finding) : Outcome Report := do return ⟨← f.issue.message, f.node⟩

/-- The findings of a validation with their messages. -/
def FlowGraph.reports (g : FlowGraph) : Outcome (List Report) :=
  (Validation.findings g.nodes g.edges).mapM Finding.report

end Workflow
