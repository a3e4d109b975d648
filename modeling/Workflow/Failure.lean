import Workflow.Json.Writer

/-!
# Failures

A `Failure` is what an operation may stop with instead of a result: a kind and a message. Where
people see a failure they see its message, or if that is empty the name of its kind.
-/
namespace Workflow

inductive FailureKind where
  | invalidValue
  | wrongType
  | overflow
  | missingKey
  | missingItem
  | missingAttribute
  | runtime
  | os
  | noFile
  | noDirectory
  | unexpectedDirectory
  | client
  | timeout
  | cancelled
  | decode
  | encode
  | integrity
  | unfit
  | unconverted
  | recursion
  | flow
  | parse
  | validation
  | flowNotFound
  | executionNotFound
  | execution
  | node
  | request
deriving DecidableEq

/-- The name that stands for a failure without a message. -/
def FailureKind.name : FailureKind → String
  | invalidValue => "ValueError"
  | wrongType => "TypeError"
  | overflow => "OverflowError"
  | missingKey => "KeyError"
  | missingItem => "IndexError"
  | missingAttribute => "AttributeError"
  | runtime => "RuntimeError"
  | os => "OSError"
  | noFile => "FileNotFoundError"
  | noDirectory => "NotADirectoryError"
  | unexpectedDirectory => "IsADirectoryError"
  | client => "ClientError"
  | timeout => "TimeoutError"
  | cancelled => "CancelledError"
  | decode => "UnicodeDecodeError"
  | encode => "UnicodeEncodeError"
  | integrity => "IntegrityError"
  | unfit => "ProgrammingError"
  | unconverted => "StatementError"
  | recursion => "RecursionError"
  | flow => "FlowRuntimeError"
  | parse => "FlowParseError"
  | validation => "FlowValidationError"
  | flowNotFound => "FlowNotFoundError"
  | executionNotFound => "ExecutionNotFoundError"
  | execution => "FlowExecutionError"
  | node => "NodeExecutionError"
  | request => "ValidationError"

/-- Whether a failure of this kind is one of the system. -/
def FailureKind.isOfSystem : FailureKind → Bool
  | os => true
  | noFile => true
  | noDirectory => true
  | unexpectedDirectory => true
  | timeout => true
  | _ => false

/-- Whether a failure of this kind is one in the running of a flow. -/
def FailureKind.isExecution : FailureKind → Bool
  | execution => true
  | node => true
  | _ => false

/-- Whether the kind is one of flows, and not of values or of the system. -/
def FailureKind.isOfFlows : FailureKind → Bool
  | flow => true
  | parse => true
  | validation => true
  | flowNotFound => true
  | executionNotFound => true
  | kind => kind.isExecution

structure Failure where
  kind : FailureKind
  message : String
deriving DecidableEq

namespace Failure

/-- The message, or if it is empty the fallback, or else the name of the kind. -/
def describe (f : Failure) (fallback : String) : String :=
  if f.message != "" then f.message else if fallback != "" then fallback else f.kind.name

def noFlow (id : String) : Failure := ⟨.flowNotFound, "Flow not found: " ++ id⟩

def noExecution (id : String) : Failure := ⟨.executionNotFound, "Execution not found: " ++ id⟩

/-- A node that failed, by its label or without one its id. -/
def ofNode (name reason : String) : Failure := ⟨.node, "Node \"" ++ name ++ "\" failed: " ++ reason⟩

/-- A flow that is not run because of what is wrong with it. -/
def invalidFlow (messages : List String) : Failure :=
  let message := "; ".intercalate messages
  ⟨.validation, if message == "" then "Flow validation failed" else message⟩

/-- An integer beyond the range of floating-point numbers. -/
def integerOverflow : Failure := ⟨.overflow, "int too large to convert to float"⟩

/-- An integer with too many digits to be written. -/
def longInteger : Failure :=
  ⟨.invalidValue, "Exceeds the limit (4300 digits) for integer string conversion; " ++
    "use sys.set_int_max_str_digits() to increase the limit"⟩

/-- An integer text with too many digits to be read. -/
def longNumeral (digits : Nat) : Failure :=
  ⟨.invalidValue, "Exceeds the limit (4300 digits) for integer string conversion: value has " ++
    toString digits ++ " digits; use sys.set_int_max_str_digits() to increase the limit"⟩

/-- A text that is no integer in a base; of a long text only the start is shown. -/
def notInteger (base : Nat) (s : String) : Failure :=
  ⟨.invalidValue, "invalid literal for int() with base " ++ toString base ++ ": " ++
    String.ofList ((Text.quoted s).toList.take 200)⟩

/-- Halves of surrogate pairs at a place of a text that is to be written as bytes. -/
def unencodable (place : Nat) (halves : List Nat) : Failure :=
  let text :=
    match halves with
    | [half] => "character '\\u" ++ Text.hex 4 half ++ "' in position " ++ toString place
    | _ => "characters in position " ++ toString place ++ "-" ++ toString (place + halves.length - 1)
  ⟨.encode, "'utf-8' codec can't encode " ++ text ++ ": surrogates not allowed"⟩

/-- Tells that a text cannot be written as bytes. -/
def ofHalves? (s : String) : Option Failure :=
  (Text.refusedHalves? Text.isHalf 0 (Text.codes s.toList)).map fun (place, halves) => unencodable place halves

/-- Tells that a text cannot be written as bytes of a system, of which some stand for halves. -/
def ofSystemHalves? (s : String) : Option Failure :=
  (Text.refusedHalves? (fun code => Text.isHalf code && (Text.systemByte? code).isNone) 0
    (Text.codes s.toList)).map
    fun (place, halves) => unencodable place halves

/-- Tells that no system has a name like a path. -/
def ofPath? (path : String) : Option Failure :=
  (ofSystemHalves? path).or
    (if path.contains '\x00' then some ⟨.invalidValue, "embedded null byte"⟩ else none)

/-- A text that is no floating-point number. -/
def notDouble (s : String) : Failure :=
  ⟨.invalidValue, "could not convert string to float: " ++ Text.quoted s⟩

/-- A container where a scalar is looked up. -/
def unhashable (v : Value) : Failure :=
  ⟨.wrongType, "unhashable type: '" ++ v.typeName ++ "'"⟩

end Failure

/-- A value that cannot be written as JSON, as a failure. -/
def JsonFault.toFailure : JsonFault → Failure
  | foreignValue name => ⟨.wrongType, "Object of type " ++ name ++ " is not JSON serializable"⟩
  | foreignKey name =>
    ⟨.wrongType, "keys must be str, int, float, bool or None, not " ++ name⟩
  | loop => ⟨.invalidValue, "Circular reference detected"⟩
  | longInteger => .longInteger

/-- What an operation of the library gives: a result or a failure. -/
abbrev Outcome (α : Type) := Except Failure α

/-- The text of a value in a sentence. -/
def Value.plain (v : Value) : Outcome String :=
  match v.plain? with
  | some s => .ok s
  | none => .error .longInteger

/-- The text of a value with its texts in quotes. -/
def Value.quoted (v : Value) : Outcome String :=
  match v.quoted? with
  | some s => .ok s
  | none => .error .longInteger

/-- A failure that says what it was given: one value as it is, several in parentheses. -/
def Failure.ofValues (kind : FailureKind) (values : List Value) : Outcome Failure := do
  match values with
  | [] => return ⟨kind, ""⟩
  | [v] => return ⟨kind, ← v.plain⟩
  | vs => return ⟨kind, "(" ++ ", ".intercalate (← vs.mapM Value.quoted) ++ ")"⟩

/-- The JSON text of a value. -/
def Value.json (style : JsonStyle) (v : Value) : Outcome String :=
  (Json.write style v).mapError JsonFault.toFailure

end Workflow
