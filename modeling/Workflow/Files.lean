import Workflow.Failure
import Workflow.Text.Utf8

/-!
# Files

A `FilePath` is a path without empty segments and segments `.`; segments `..` are kept, since what
they lead to depends on the links before them. A `FileTree` holds files, directories and symbolic
links, and says where a path leads and why one leads nowhere.
-/
namespace Workflow

structure FilePath where
  /-- The slashes at the beginning: none, one, or exactly two. -/
  root : String
  parts : List String
deriving DecidableEq

namespace FilePath

/-- The segments between the slashes. -/
def splitSlash : List Char → List (List Char)
  | [] => [[]]
  | '/' :: rest => [] :: splitSlash rest
  | c :: rest =>
    match splitSlash rest with
    | [] => [[c]]
    | part :: parts => (c :: part) :: parts

def ofText (s : String) : FilePath :=
  let cs := s.toList
  let root :=
    match cs with
    | '/' :: '/' :: '/' :: _ => "/"
    | '/' :: '/' :: _ => "//"
    | '/' :: _ => "/"
    | _ => ""
  ⟨root, ((splitSlash cs).map String.ofList).filter fun p => p != "" && p != "."⟩

def text (p : FilePath) : String :=
  let s := p.root ++ "/".intercalate p.parts
  if s == "" then "." else s

def isAbsolute (p : FilePath) : Bool := p.root != ""

/-- A path as seen from a directory. -/
def within (p base : FilePath) : FilePath :=
  if p.isAbsolute then p else ⟨base.root, base.parts ++ p.parts⟩

/-- Whether a path is a directory's or lies below it, segment by segment. -/
def isBelow (p directory : FilePath) : Bool :=
  p.root == directory.root && directory.parts.isPrefixOf p.parts

def name (p : FilePath) : String := p.parts.getLastD ""

/-- Takes `..` segments away together with the segment before. -/
def normalise (p : FilePath) : FilePath :=
  let step (seen : List String) (part : String) : List String :=
    if part == ".." then
      match seen with
      | last :: rest => if last == ".." then part :: seen else rest
      | [] => if p.isAbsolute then [] else [part]
    else part :: seen
  ⟨p.root, (p.parts.foldl step []).reverse⟩

/-- The end of a name from its last dot, if something stands on both sides of that dot. -/
def suffix (p : FilePath) : String :=
  let cs := p.name.toList
  let back := cs.reverse.takeWhile (· != '.')
  if back.isEmpty || back.length + 1 ≥ cs.length then ""
  else String.ofList ('.' :: back.reverse)

end FilePath

/-- Why a path does not lead to a file. -/
inductive FileFault where
  | notFound
  | notDirectory
  | isDirectory
  | nameTooLong
  | tooManyLinks
deriving DecidableEq

namespace FileFault

def code : FileFault → Nat
  | notFound => 2
  | notDirectory => 20
  | isDirectory => 21
  | nameTooLong => 36
  | tooManyLinks => 40

def text : FileFault → String
  | notFound => "No such file or directory"
  | notDirectory => "Not a directory"
  | isDirectory => "Is a directory"
  | nameTooLong => "File name too long"
  | tooManyLinks => "Too many levels of symbolic links"

/-- The message about a path. -/
def message (f : FileFault) (path : String) : String :=
  "[Errno " ++ toString f.code ++ "] " ++ f.text ++ ": " ++ Text.quoted path

def kind : FileFault → FailureKind
  | notFound => .noFile
  | notDirectory => .noDirectory
  | isDirectory => .unexpectedDirectory
  | nameTooLong => .os
  | tooManyLinks => .os

def toFailure (f : FileFault) (path : String) : Failure := ⟨f.kind, f.message path⟩

end FileFault

inductive FileEntry where
  | file (bytes : List UInt8)
  | link (target : String)
  | directory
deriving DecidableEq

/-- Files, links and directories by the segments of their absolute paths. -/
structure FileTree where
  entries : List (List String × FileEntry)
  /-- The directory from which relative paths start. -/
  current : FilePath

namespace FileTree

/-- The directories that every system has. -/
def systemDirectories : List (List String × FileEntry) :=
  ["tmp", "home", "etc", "usr", "bin", "dev", "root", "var", "opt", "proc"].map
    fun name => ([name], .directory)

/-- Entries within a directory of a system, which is the current one. -/
def within (directory : FilePath) (entries : List (List String × FileEntry)) : FileTree :=
  ⟨systemDirectories ++ [(directory.parts, .directory)] ++
    entries.map fun (parts, e) => (directory.parts ++ parts, e), directory⟩

/-- What stands at a place; a place above an entry is a directory. -/
def entry? (t : FileTree) (parts : List String) : Option FileEntry :=
  match t.entries.find? (·.1 == parts) with
  | some (_, e) => some e
  | none => if t.entries.any (parts.isPrefixOf ·.1) then some .directory else none

/-- The most bytes of a segment. -/
def nameLimit : Nat := 255

/-- Follows the segments `todo` from the directory `here`, through at most `links` links. -/
def walk (t : FileTree) : Nat → Nat → List String → List String → Except FileFault (List String)
  | 0, _, _, _ => .error .tooManyLinks
  | _, _, here, [] => .ok here
  | fuel + 1, links, here, part :: todo =>
    if part == ".." then walk t fuel links here.dropLast todo
    else if part.utf8ByteSize > nameLimit then .error .nameTooLong
    else
      match t.entry? (here ++ [part]) with
      | none => .error .notFound
      | some .directory => walk t fuel links (here ++ [part]) todo
      | some (.file _) => if todo.isEmpty then .ok (here ++ [part]) else .error .notDirectory
      | some (.link target) =>
        match links with
        | 0 => .error .tooManyLinks
        | links + 1 =>
          let p := FilePath.ofText target
          walk t fuel links (if p.isAbsolute then [] else here) (p.parts ++ todo)

/-- The links that opening a file follows at most. -/
def linkLimit : Nat := 40

/-- The steps that a walk through a path can take. -/
def fuel (t : FileTree) (p : FilePath) (links : Nat) : Nat :=
  let longest := t.entries.foldl (fun n (_, e) =>
    match e with
    | .link target => max n target.length
    | _ => n) 0
  p.parts.length + t.current.parts.length + (longest + 1) * (links + 1) + 1

/-- Where a path leads: the segments of the place without links. -/
def locate (t : FileTree) (links : Nat) (p : FilePath) : Except FileFault (List String) :=
  t.walk (t.fuel p links) links [] (p.within t.current).parts

/-- What one segment leads to from the directory `here`, through links that name other links at most
`depth` deep. A segment `..` goes up even from a file. -/
def enter (t : FileTree) (depth : Nat) (here : List String) (part : String) :
    Except FileFault (List String) :=
  if part == ".." then .ok here.dropLast
  else if part.utf8ByteSize > nameLimit then .error .nameTooLong
  else
    match t.entry? (here ++ [part]) with
    | none => .error .notFound
    | some (.link target) =>
      match depth with
      | 0 => .error .tooManyLinks
      | depth + 1 =>
        let p := FilePath.ofText target
        p.parts.foldlM (enter t depth) (if p.isAbsolute then [] else here)
    | some _ => .ok (here ++ [part])

/-- The place a path leads to, if something is there. Links are refused only for a circle: links that
name one another without one are no deeper than the entries are many. -/
def resolve (t : FileTree) (p : FilePath) : Except FileFault FilePath :=
  ((p.within t.current).parts.foldlM (t.enter t.entries.length) []).map fun parts => ⟨"/", parts⟩

/-- The bytes of the file a path leads to. -/
def read (t : FileTree) (p : FilePath) : Except FileFault (List UInt8) :=
  match t.locate linkLimit p with
  | .error e => .error e
  | .ok parts =>
    match t.entry? parts with
    | some (.file bytes) => .ok bytes
    | some .directory => .error .isDirectory
    | _ => .error .notFound

/-- Whether a path leads to a file; a segment that is too long is a fault. -/
def isFile (t : FileTree) (p : FilePath) : Except FileFault Bool :=
  match t.read p with
  | .ok _ => .ok true
  | .error .nameTooLong => .error .nameTooLong
  | .error _ => .ok false

/-- The names in a directory, each once. -/
def names (t : FileTree) (parts : List String) : List String :=
  (t.entries.filterMap fun (path, _) =>
    if parts.isPrefixOf path then path[parts.length]? else none).eraseDups

/-- Whether a path leads to a directory. -/
def isDirectory (t : FileTree) (p : FilePath) : Bool :=
  match t.locate linkLimit p with
  | .ok parts => parts.isEmpty || t.entry? parts == some .directory
  | .error _ => false

/-- Takes an entry and all below it away. -/
def remove (t : FileTree) (parts : List String) : FileTree :=
  { t with entries := t.entries.filter fun e => !parts.isPrefixOf e.1 }

/-- Makes a directory. -/
def addDirectory (t : FileTree) (parts : List String) : FileTree :=
  { t with entries := t.entries ++ [(parts, .directory)] }

/-- The place of a file that need not be there yet, through at most `links` links that lead nowhere:
its directory has to be there. -/
def newPlace (t : FileTree) : Nat → FilePath → Except FileFault (List String)
  | links, p =>
    match t.locate linkLimit p with
    | .ok parts => .ok parts
    | .error fault =>
      let front : FilePath := ⟨p.root, p.parts.dropLast⟩
      if p.name == "" || p.name == ".." then .error fault
      else if p.name.utf8ByteSize > nameLimit then .error .nameTooLong
      else
        match t.locate linkLimit front with
        | .error fault => .error fault
        | .ok parts =>
          if !t.isDirectory ⟨"/", parts⟩ then .error .notDirectory
          else
            match links, t.entry? (parts ++ [p.name]) with
            | links + 1, some (.link target) =>
              newPlace t links ((FilePath.ofText target).within ⟨"/", parts⟩)
            | 0, some (.link _) => .error .tooManyLinks
            | _, _ => .ok (parts ++ [p.name])

/-- Puts a file in its place. -/
def write (t : FileTree) (parts : List String) (bytes : List UInt8) : FileTree :=
  { t with entries := t.entries.filter (·.1 != parts) ++ [(parts, .file bytes)] }

end FileTree

/-- Line ends as a reader of texts sees them: a line feed. -/
def unifyLineEnds : List Char → List Char
  | '\r' :: '\n' :: rest => '\n' :: unifyLineEnds rest
  | '\r' :: rest => '\n' :: unifyLineEnds rest
  | c :: rest => c :: unifyLineEnds rest
  | [] => []

end Workflow
