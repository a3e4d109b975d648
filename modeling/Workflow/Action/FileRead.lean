import Workflow.Action
import Workflow.Files
import Workflow.Text.Blank
import Workflow.Text.Encoding

/-!
# Reading files

A file is read only if it lies in one of the directories that are allowed, wherever links on its
path may lead. A path with a segment `..` is refused at once.
-/
namespace Workflow.FileRead

/-- The segments of a path between slashes of either kind. -/
def segments : List Char → List (List Char)
  | [] => [[]]
  | c :: rest =>
    if c == '/' || c == '\\' then [] :: segments rest
    else
      match segments rest with
      | [] => [[c]]
      | s :: more => (c :: s) :: more

/-- Whether a path has a segment `..`. -/
def hasTraversal (path : String) : Bool := (segments path.toList).contains ['.', '.']

/-- The place a path leads to; of a path that leads nowhere, the path itself without `..`. -/
def realPath (files : FileTree) (p : FilePath) : FilePath :=
  match files.resolve p with
  | .ok place => place
  | .error _ => (p.within files.current).normalise

/-- The place a path leads to, if the system has a name for it. A segment that no name can hold is
looked at only if what stands before it leads somewhere. -/
def realPlace (files : FileTree) (p : FilePath) : Outcome FilePath :=
  let known := p.parts.takeWhile fun part => (Failure.ofPath? part).isNone
  match p.parts.drop known.length, files.resolve ⟨p.root, known⟩ with
  | part :: _, .ok place =>
    match Failure.ofPath? (FilePath.text ⟨"/", place.parts ++ [part]⟩) with
    | some f => .error f
    | none => .ok (realPath files p)
  | _, _ => .ok (realPath files p)

def isWithin (p : FilePath) (roots : List FilePath) : Bool := roots.any p.isBelow

/-- A value that is no path. -/
def notPath (v : Value) : Failure :=
  ⟨.wrongType, "expected str, bytes or os.PathLike object, not " ++ v.typeName⟩

def pathOf (v : Value) : Outcome FilePath :=
  match v with
  | .text s => .ok (.ofText s)
  | v => .error (notPath v)

/-- What a value lists as directories: a text is one, an object lists its keys. -/
def entries (v : Value) : Outcome (List Value) :=
  match v with
  | .text s => .ok [.text s]
  | .list items => .ok items
  | .pair first second => .ok [first, second]
  | .object fields => .ok (fields.map (·.1.toValue))
  | .foreign (.bytes bytes) => .ok (bytes.map fun b => .int b.toNat)
  | v => .error ⟨.wrongType, "'" ++ v.typeName ++ "' object is not iterable"⟩

/-- The directories that are allowed; what is listed as one need not be a path. -/
def listed (usual : List FilePath) (allowed : Value) : Outcome (List (Outcome FilePath)) :=
  if allowed.isGiven then (entries allowed).map (·.map pathOf) else .ok (usual.map .ok)

def result (success : Bool) (content : String) (size : Nat) (encoding : Value) : ActionResult :=
  ⟨success, .record [("content", .text content), ("size", .int size), ("encoding", encoding)]⟩

/-- The text and the size of the file at a path, or why it cannot be read. -/
def contentOf (files : FileTree) (p : FilePath) (encoding : Value) : Except String (String × Nat) :=
  match encoding with
  | .text name =>
    match Failure.ofHalves? name with
    | some f => .error f.message
    | none =>
      if name.contains '\x00' then .error "embedded null character"
      else contentIn name
  | v => .error ("open() argument 'encoding' must be str or None, not " ++ v.typeName)
where
  contentIn (name : String) : Except String (String × Nat) :=
    match Failure.ofPath? p.text with
    | some f => .error f.message
    | none =>
      match files.read p with
      | .error fault => .error (fault.message p.text)
      | .ok bytes =>
        match Text.Encoding.ofName? name with
        | none => .error (Text.Encoding.unknownText name)
        | some e => (e.decode bytes).map fun cs => (String.ofList cs, bytes.length)

/-- The result of reading a file; `usual` are the directories allowed if the parameters name none. -/
def perform (files : FileTree) (usual : List FilePath) (params : Fields) : Outcome ActionResult :=
  let v := Value.object params
  let encoding := (v.field "encoding").orElse (.text "utf-8")
  match v.field "path" with
  | .text path =>
    if Text.allBlank path then .ok (result false "File read action requires a path" 0 encoding)
    else if hasTraversal path then
      .ok (result false ("Path traversal is not allowed: " ++ path) 0 encoding)
    else do
      let roots ← listed usual (v.field "allowedDirs")
      let roots ← roots.mapM (· >>= realPlace files)
      let place ← realPlace files (← pathOf (.text path))
      if isWithin place roots then
        match contentOf files place encoding with
        | .ok (content, size) => return result true content size encoding
        | .error message => return result false message 0 encoding
      else return result false ("Path " ++ place.text ++ " is outside allowed directories") 0 encoding
  | _ => .ok (result false "File read action requires a path" 0 encoding)

end Workflow.FileRead
