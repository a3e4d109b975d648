import Workflow.Failure

/-!
# Tokens of YAML text

The lexer turns a text into tokens, in which indentation has become explicit: a block collection has
a start and an end.
-/
namespace Workflow.Yaml

/-- Why a text is not read: it is not YAML, or a scalar in it has no value. -/
inductive Fault where
  | malformed
  | value (failure : Failure)
deriving DecidableEq

inductive Token where
  | versionDirective (major : Nat)
  | tagDirective (handle start : String)
  | otherDirective
  | documentStart
  | documentEnd
  | blockSequenceStart
  | blockMappingStart
  | blockEnd
  | flowSequenceStart
  | flowSequenceEnd
  | flowMappingStart
  | flowMappingEnd
  | blockEntry
  | flowEntry
  | key
  | value
  | alias (name : String)
  | anchor (name : String)
  | tag (handle : Option String) (suffix : String)
  | scalar (text : String) (plain : Bool)
  | streamEnd
  /-- The rest of the text has no tokens. -/
  | fault (fault : Fault)
deriving DecidableEq

end Workflow.Yaml
