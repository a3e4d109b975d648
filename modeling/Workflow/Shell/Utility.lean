import Workflow.Shell.Pattern
import Workflow.Shell.Printf

/-!
# Utilities

The programs that a script finds by name: each reads its input and files, and gives what it writes, its
exit status and how much time it takes.
-/
namespace Workflow.Shell

/-- A program is called with arguments, an input, files and an environment. -/
structure Invocation where
  arguments : List (List Char)
  input : Source
  files : FileTree
  directory : FilePath
  environment : List (String × List Char)

/-- What a program has done. -/
structure Completion where
  output : Source := {}
  errors : List Char := []
  status : Nat := 0
  /-- The files afterwards, if they have changed. -/
  files : Option FileTree := none
  /-- In milliseconds; none if it never ends. -/
  duration : Option Nat := some 0

namespace Utility

def written (cs : List Char) : Completion := { output := ⟨cs, []⟩ }

def number (n : Nat) : List Char := (toString n).toList

/-- A complaint of a program. -/
def complaint (name : String) (what : List Char) : List Char :=
  (name ++ ": ").toList ++ what ++ ['\n']

def refused (name : String) (what : List Char) (status : Nat) : Completion :=
  { errors := complaint name what, status }

/-- A word in quotes, as complaints show it. -/
def shown (cs : List Char) : List Char := '\'' :: cs ++ ['\'']

/-- A program that reads all of an input that has no end. -/
def stuck : Completion := { duration := none }

/-- What an argument that names a file stands for. -/
def source (i : Invocation) (name : List Char) : Except FileFault Source :=
  if name == ['-'] || name == "/dev/stdin".toList then .ok i.input
  else if name == "/dev/null".toList then .ok {}
  else if name == "/dev/zero".toList then .ok ⟨[], ['\x00']⟩
  else (i.files.read ((pathOf name).within i.directory)).map fun bytes => ⟨ofBytes bytes, []⟩

/-- The sources that arguments name, without them the input, each with its name; and complaints about
those that cannot be read. -/
def sources (i : Invocation) (names : List (List Char)) (complain : List Char → FileFault → List Char) :
    List (List Char × Source) × List Char :=
  if names.isEmpty then ([([], i.input)], [])
  else
    names.foldl (fun (found, errors) name =>
      match source i name with
      | .ok s => (found ++ [(name, s)], errors)
      | .error f => (found, errors ++ complain name f)) ([], [])

def plainComplaint (program : String) (name : List Char) (f : FileFault) : List Char :=
  complaint program (name ++ ": ".toList ++ f.text.toList)

def openingComplaint (program : String) (name : List Char) (f : FileFault) : List Char :=
  complaint program ("cannot open ".toList ++ shown name ++ " for reading: ".toList ++ f.text.toList)

/-- All sources one after the other. -/
def joined (found : List (List Char × Source)) : Source :=
  found.foldl (fun s (_, t) => s.append t) {}

/-- Applies a function to all that a program reads; without an end it never comes to it. -/
def onWhole (program : String) (i : Invocation) (names : List (List Char)) (f : List Char → List Char) :
    Completion :=
  let (found, errors) := sources i names (plainComplaint program)
  let all := joined found
  if all.isEndless then stuck
  else { written (f all.text) with errors, status := if errors.isEmpty then 0 else 1 }

/-- The letters of options in front of other arguments, and those. -/
def options : List (List Char) → List Char × List (List Char)
  | [] => ([], [])
  | a :: rest =>
    match a with
    | ['-', '-'] => ([], rest)
    | '-' :: c :: more =>
      let (letters, others) := options rest
      (c :: more ++ letters, others)
    | _ => ([], a :: rest)

def natural? (cs : List Char) : Option Nat :=
  if !cs.isEmpty && cs.all Char.isDigit then some (Printf.number cs) else none

/-- A count that an option gives: its letter, whether it counts from the front, and the number. -/
def countOption? : List (List Char) → Option ((Char × Bool × Nat) × List (List Char))
  | ['-', c] :: n :: rest =>
    if c == 'n' || c == 'c' then
      match n with
      | '+' :: digits => (natural? digits).map fun n => ((c, true, n), rest)
      | digits => (natural? digits).map fun n => ((c, false, n), rest)
    else (natural? [c]).map fun k => (('n', false, k), n :: rest)
  | ('-' :: 'n' :: '+' :: digits) :: rest => (natural? digits).map fun n => (('n', true, n), rest)
  | ('-' :: 'n' :: digits) :: rest => (natural? digits).map fun n => (('n', false, n), rest)
  | ('-' :: 'c' :: digits) :: rest => (natural? digits).map fun n => (('c', false, n), rest)
  | ('-' :: digits) :: rest => (natural? digits).map fun n => (('n', false, n), rest)
  | _ => none

/-- The first lines of a source. -/
def headLines : Nat → Nat → List Char → List Char
  | 0, _, _ => []
  | _, 0, _ => []
  | _, _, [] => []
  | fuel + 1, n, c :: cs =>
    c :: headLines fuel (if c == '\n' then n - 1 else n) cs

def headOf (count : Char × Bool × Nat) (s : Source) : Option (List Char) :=
  let (letter, _, n) := count
  if letter == 'c' then some (s.take n)
  else if !s.isEndless then some (headLines (s.text.length + 1) n s.text)
  else if s.cycle.contains '\n' then
    let reach := s.text.length + (n + 1) * s.cycle.length
    some (headLines (reach + 1) n (s.take reach))
  else none

def head (i : Invocation) : Completion :=
  let (count, names) := (countOption? i.arguments).getD (('n', false, 10), i.arguments)
  let (found, errors) := sources i names (openingComplaint "head")
  let parts := found.map fun (name, s) => (name, headOf count s)
  if parts.any (·.2.isNone) then stuck
  else
    let text := parts.foldl (fun text (name, part) =>
      let title := if names.length > 1 then
          (if text.isEmpty then [] else ['\n']) ++ "==> ".toList ++ name ++ " <==\n".toList
        else []
      text ++ title ++ part.getD []) []
    { written text with errors, status := if errors.isEmpty then 0 else 1 }

def tailOf (count : Char × Bool × Nat) (cs : List Char) : List Char :=
  let (letter, isFromStart, n) := count
  if letter == 'c' then if isFromStart then cs.drop (n - 1) else cs.drop (cs.length - n)
  else
    let total := (lines cs).length
    let skip := if isFromStart then n - 1 else total - n
    cs.drop (headLines (cs.length + 1) skip cs).length

def tail (i : Invocation) : Completion :=
  let (count, names) := (countOption? i.arguments).getD (('n', false, 10), i.arguments)
  onWhole "tail" i names (tailOf count)

/-- Lines with their numbers. -/
def numbered (cs : List Char) : List Char :=
  let text := unlines ((lines cs).zipIdx.map fun (l, k) =>
    List.replicate (6 - (number (k + 1)).length) ' ' ++ number (k + 1) ++ '\t' :: l)
  if cs.getLast? == some '\n' then text else text.dropLast

def cat (i : Invocation) : Completion :=
  let (letters, names) := options i.arguments
  let (found, errors) := sources i names (plainComplaint "cat")
  let all := joined found
  let output := if letters.contains 'n' && !all.isEndless then ⟨numbered all.text, []⟩ else all
  { output, errors, status := if errors.isEmpty then 0 else 1 }

def countWords (cs : List Char) : Nat :=
  let blank (c : Char) : Bool := " \t\n\x0b\x0c\r".contains c
  (cs.foldl (fun (n, isInside) c =>
    if blank c then (n, false) else (if isInside then n else n + 1, true)) (0, false)).1

/-- The counts of lines, words, characters and bytes that letters ask for. -/
def countsOf (letters : List Char) (cs : List Char) : List Nat :=
  let letters := if letters.isEmpty then ['l', 'w', 'c'] else letters
  (if letters.contains 'l' then [cs.count '\n'] else []) ++
    (if letters.contains 'w' then [countWords cs] else []) ++
    (if letters.contains 'm' then [cs.length] else []) ++
    (if letters.contains 'c' then [cs.length] else [])

def total : List Nat → Nat
  | [] => 0
  | n :: more => n + total more

def wc (i : Invocation) : Completion :=
  let (letters, names) := options i.arguments
  let (found, errors) := sources i names (plainComplaint "wc")
  if found.any (·.2.isEndless) then stuck
  else
    let rows := found.map fun (name, s) => (name, countsOf letters s.text)
    let size := total (found.map (·.2.text.length))
    let width :=
      if names.length ≤ 1 && rows.all (·.2.length ≤ 1) then 1
      else if names.isEmpty || names.contains ['-'] then 7
      else (number size).length
    let columns := (rows.head?.map (·.2.length)).getD 0
    let totals := (List.range columns).map fun k => total (rows.map fun r => r.2[k]?.getD 0)
    let rows := if names.length > 1 then rows ++ [("total".toList, totals)] else rows
    let row (r : List Char × List Nat) : List Char :=
      let fields := r.2.map fun n => List.replicate (width - (number n).length) ' ' ++ number n
      ([' '].intercalate fields) ++ (if r.1.isEmpty then [] else ' ' :: r.1) ++ ['\n']
    { written (rows.flatMap row) with errors, status := if errors.isEmpty then 0 else 1 }

def textLe (a b : List Char) : Bool := String.ofList a ≤ String.ofList b

/-- The number at the front of a line. -/
def leadingNumber (cs : List Char) : Int :=
  match cs.dropWhile (· == ' ') with
  | '-' :: rest => -(Printf.number (rest.takeWhile Char.isDigit))
  | rest => Printf.number (rest.takeWhile Char.isDigit)

def sort (i : Invocation) : Completion :=
  let (letters, names) := options i.arguments
  let le (a b : List Char) : Bool :=
    if letters.contains 'n' then
      let x := leadingNumber a
      let y := leadingNumber b
      if x == y then textLe a b else x < y
    else textLe a b
  let le := if letters.contains 'r' then fun a b => le b a else le
  let missing := (sources i names (plainComplaint "sort: cannot read")).2
  if !missing.isEmpty then { errors := missing, status := 2 }
  else onWhole "sort" i names fun cs =>
    let sorted := (lines cs).mergeSort le
    unlines (if letters.contains 'u' then sorted.eraseReps else sorted)

/-- Equal neighbours with their count. -/
def runs : List (List Char) → List (Nat × List Char)
  | [] => []
  | l :: rest =>
    match runs rest with
    | (n, m) :: others => if l == m then (n + 1, m) :: others else (1, l) :: (n, m) :: others
    | [] => [(1, l)]

def uniq (i : Invocation) : Completion :=
  let (letters, names) := options i.arguments
  onWhole "uniq" i names fun cs =>
    let kept := (runs (lines cs)).filter fun (n, _) =>
      if letters.contains 'd' then n > 1 else if letters.contains 'u' then n == 1 else true
    unlines (kept.map fun (n, l) =>
      if letters.contains 'c' then List.replicate (7 - (number n).length) ' ' ++ number n ++ ' ' :: l else l)

/-- The characters of a class. -/
def classOf? (name : List Char) : Option (List Char) :=
  let all := (List.range 256).map Char.ofNat
  match String.ofList name with
  | "upper" => some (all.filter Char.isUpper)
  | "lower" => some (all.filter Char.isLower)
  | "alpha" => some (all.filter Char.isAlpha)
  | "digit" => some (all.filter Char.isDigit)
  | "alnum" => some (all.filter Char.isAlphanum)
  | "space" => some ['\t', '\n', '\x0b', '\x0c', '\r', ' ']
  | "blank" => some ['\t', ' ']
  | "punct" => some (all.filter fun c => '!' ≤ c && c ≤ '~' && !c.isAlphanum)
  | _ => none

/-- The characters of a set, with its classes, ranges and escapes written out. -/
def setOf : Nat → List Char → List Char
  | 0, _ => []
  | _, [] => []
  | fuel + 1, '[' :: ':' :: rest =>
    let name := rest.takeWhile (· != ':')
    match classOf? name, rest.drop name.length with
    | some cs, ':' :: ']' :: rest => cs ++ setOf fuel rest
    | _, _ => '[' :: setOf fuel (':' :: rest)
  | fuel + 1, '\\' :: rest =>
    match Escape.format rest with
    | ('\\', rest') =>
      if rest'.length == rest.length then setOf fuel rest' else '\\' :: setOf fuel rest'
    | (c, rest) => c :: setOf fuel rest
  | fuel + 1, a :: '-' :: b :: rest =>
    ((List.range (b.toNat + 1 - a.toNat)).map fun k => Char.ofNat (a.toNat + k)) ++ setOf fuel rest
  | fuel + 1, c :: rest => c :: setOf fuel rest

/-- Leaves of equal neighbours in a set only one. -/
def squeeze (set : List Char) : List Char → List Char
  | a :: b :: rest =>
    if a == b && set.contains a then squeeze set (b :: rest) else a :: squeeze set (b :: rest)
  | cs => cs

def tr (i : Invocation) : Completion :=
  let (letters, sets) := options i.arguments
  let expand (s : List Char) : List Char := setOf (s.length + 1) s
  let complement (s : List Char) : List Char :=
    if letters.contains 'c' || letters.contains 'C' then
      ((List.range 256).map Char.ofNat).filter fun c => !s.contains c
    else s
  match sets with
  | [] => refused "tr" "missing operand\nTry 'tr --help' for more information.".toList 1
  | first :: more =>
    let first := complement (expand first)
    match more with
    | [] =>
      if letters.contains 'd' then
        { output := i.input.flatMap fun c => if first.contains c then [] else [c] }
      else if letters.contains 's' then
        if i.input.isEndless then stuck else written (squeeze first i.input.text)
      else
        refused "tr" ("missing operand after ".toList ++ shown (sets.headD []) ++
          "\nTwo strings must be given when translating.\nTry 'tr --help' for more information.".toList) 1
    | second :: _ =>
      let second := expand second
      let last := second.getLast?
      let change (c : Char) : Char :=
        if first.contains c then ((second[first.idxOf c]?).orElse fun _ => last).getD c else c
      let output := i.input.flatMap fun c => [change c]
      if letters.contains 's' then
        if output.isEndless then stuck else written (squeeze second output.text)
      else { output }

/-- The places that a list such as `1,3-5` names. -/
def isListed (list : List Char) (n : Nat) : Bool :=
  let items := (String.ofList list).splitOn ","
  items.any fun item =>
    match item.splitOn "-" with
    | [a] => a.toNat? == some n
    | [a, b] => (a.toNat?.getD 1) ≤ n && (b == "" || n ≤ b.toNat?.getD 0)
    | _ => false

def splitAt (separator : Char) : List Char → List (List Char)
  | [] => [[]]
  | c :: rest =>
    match splitAt separator rest with
    | [] => [[c]]
    | s :: others => if c == separator then [] :: s :: others else (c :: s) :: others

/-- What options of one letter give, by letter, and other arguments. -/
def valued (letters : List Char) : List (List Char) → List (Char × List Char) × List (List Char)
  | [] => ([], [])
  | ['-', c] :: value :: rest =>
    if letters.contains c then
      let (found, others) := valued letters rest
      ((c, value) :: found, others)
    else
      let (found, others) := valued letters (value :: rest)
      ((c, []) :: found, others)
  | ('-' :: c :: value) :: rest =>
    let (found, others) := valued letters rest
    ((c, value) :: found, others)
  | a :: rest =>
    let (found, others) := valued letters rest
    (found, a :: others)
termination_by args => args.length

def cut (i : Invocation) : Completion :=
  let (found, names) := valued ['d', 'f', 'c', 'b'] i.arguments
  let separator := ((found.lookup 'd').bind List.head?).getD '\t'
  let line (l : List Char) : List Char :=
    match found.lookup 'f', (found.lookup 'c').orElse fun _ => found.lookup 'b' with
    | some list, _ =>
      if !l.contains separator then l
      else
        let kept := (splitAt separator l).zipIdx.filter fun (_, k) => isListed list (k + 1)
        [separator].intercalate (kept.map (·.1))
    | _, some list => (l.zipIdx.filter fun (_, k) => isListed list (k + 1)).map (·.1)
    | _, _ => l
  onWhole "cut" i names fun cs => unlines ((lines cs).map line)

def rev (i : Invocation) : Completion :=
  let (found, errors) := sources i i.arguments fun name f =>
    complaint "rev" ("cannot open ".toList ++ name ++ ": ".toList ++ f.text.toList)
  let all := joined found
  if all.isEndless then stuck
  else
    { written (unlines ((lines all.text).map List.reverse)) with
      errors, status := if errors.isEmpty then 0 else 1 }

/-- The names in a directory in order. -/
def listing (i : Invocation) (letters : List Char) (parts : List String) : List (List Char) :=
  let names := ((i.files.names parts).map byteText).mergeSort textLe
  let isShown (n : List Char) : Bool := n.head? != some '.'
  if letters.contains 'a' then [['.'], ['.', '.']] ++ names
  else if letters.contains 'A' then names
  else names.filter isShown

def ls (i : Invocation) : Completion :=
  let (letters, names) := options i.arguments
  let order := if letters.contains 'r' then List.reverse else id
  let places := (if names.isEmpty then [['.']] else names.mergeSort textLe).map fun n =>
    (n, i.files.locate FileTree.linkLimit ((pathOf n).within i.directory))
  let errors := places.flatMap fun (n, p) =>
    match p with
    | .ok _ => []
    | .error f => complaint "ls" ("cannot access ".toList ++ shown n ++ ": ".toList ++ f.text.toList)
  let isDirectory (parts : List String) : Bool :=
    parts.isEmpty || i.files.entry? parts == some .directory
  let files := places.filterMap fun (n, p) =>
    match p with
    | .ok parts => if isDirectory parts && !letters.contains 'd' then none else some n
    | .error _ => none
  let directories := places.filterMap fun (n, p) =>
    match p with
    | .ok parts =>
      if isDirectory parts && !letters.contains 'd' then some (n, unlines (order (listing i letters parts)))
      else none
    | .error _ => none
  let blocks := (if files.isEmpty then [] else [unlines (order files)]) ++
    directories.map fun (n, text) => if names.length > 1 then n ++ ":\n".toList ++ text else text
  { written (['\n'].intercalate blocks) with errors, status := if errors.isEmpty then 0 else 2 }

def seq (i : Invocation) : Completion :=
  let (found, bounds) := valued ['s'] (i.arguments.map fun a =>
    if a.head? == some '-' && (natural? (a.drop 1)).isSome then '\x00' :: a else a)
  let bounds := bounds.map fun b => Arithmetic.integer? (b.filter (· != '\x00'))
  let separator := (found.lookup 's').getD ['\n']
  let row (first step last : Int) : Completion :=
    let count := if step == 0 then 0 else ((last - first).fdiv step + 1).toNat
    let texts := (List.range count).map fun (k : Nat) => (toString (first + step * Int.ofNat k)).toList
    written (if texts.isEmpty then [] else separator.intercalate texts ++ ['\n'])
  match bounds with
  | [some last] => row 1 1 last
  | [some first, some last] => row first 1 last
  | [some first, some step, some last] => row first step last
  | _ =>
    let what := match i.arguments.find? fun a => (Arithmetic.integer? a).isNone with
      | some a => "invalid floating point argument: ".toList ++ shown a
      | none => "missing operand".toList
    refused "seq" (what ++ "\nTry 'seq --help' for more information.".toList) 1

def yes (i : Invocation) : Completion :=
  let line := if i.arguments.isEmpty then ['y'] else [' '].intercalate i.arguments
  { output := ⟨[], line ++ ['\n']⟩ }

def environmentText (i : Invocation) : List Char :=
  unlines (i.environment.map fun (name, value) => name.toList ++ '=' :: value)

def printenv (i : Invocation) : Completion :=
  match i.arguments with
  | [] => written (environmentText i)
  | names =>
    let values := names.map fun n => i.environment.lookup (String.ofList n)
    { written (unlines (values.filterMap id)) with status := if values.any Option.isNone then 1 else 0 }

/-- A path without slashes at its end. -/
def withoutSlashes (cs : List Char) : List Char :=
  let kept := (cs.reverse.dropWhile (· == '/')).reverse
  if kept.isEmpty && !cs.isEmpty then ['/'] else kept

def basename (i : Invocation) : Completion :=
  match i.arguments with
  | [] => refused "basename" "missing operand\nTry 'basename --help' for more information.".toList 1
  | p :: more =>
    let kept := withoutSlashes p
    let name := if kept == ['/'] then kept else (kept.reverse.takeWhile (· != '/')).reverse
    let suffix := more.headD []
    let name := if suffix.isSuffixOf name && suffix != name then name.take (name.length - suffix.length) else name
    written (name ++ ['\n'])

def dirname (i : Invocation) : Completion :=
  match i.arguments with
  | [] => refused "dirname" "missing operand\nTry 'dirname --help' for more information.".toList 1
  | p :: _ =>
    let kept := withoutSlashes p
    let front := (kept.reverse.dropWhile (· != '/')).reverse
    written ((if front.isEmpty then (if kept == ['/'] then kept else ['.']) else withoutSlashes front) ++ ['\n'])

/-- The place of a file that may not be there yet. -/
def place? (i : Invocation) (name : List Char) : Except FileFault (List String) :=
  i.files.newPlace FileTree.linkLimit ((pathOf name).within i.directory)

/-- Applies a change for each argument; complaints tell of those that fail. -/
def changing (i : Invocation) (names : List (List Char))
    (change : FileTree → List Char → Except (List Char) FileTree) : Completion :=
  let (files, errors) := names.foldl (fun (files, errors) name =>
    match change files name with
    | .ok files => (files, errors)
    | .error e => (files, errors ++ e)) (i.files, [])
  { files := some files, errors, status := if errors.isEmpty then 0 else 1 }

def touch (i : Invocation) : Completion :=
  changing i (options i.arguments).2 fun files name =>
    match place? { i with files } name with
    | .ok parts => .ok (if (files.entry? parts).isSome then files else files.write parts [])
    | .error f => .error (complaint "touch" ("cannot touch ".toList ++ shown name ++ ": ".toList ++ f.text.toList))

def mkdir (i : Invocation) : Completion :=
  let (letters, names) := options i.arguments
  changing i names fun files name =>
    let full := ((pathOf name).within i.directory).normalise.parts
    let refuse (why : String) : Except (List Char) FileTree :=
      .error (complaint "mkdir" ("cannot create directory ".toList ++ shown name ++ ": ".toList ++ why.toList))
    if letters.contains 'p' then
      .ok ((List.range (full.length + 1)).foldl (fun files n =>
        if (files.entry? (full.take n)).isSome || n == 0 then files else files.addDirectory (full.take n)) files)
    else
      match place? { i with files } name with
      | .ok parts => if (files.entry? parts).isSome then refuse "File exists" else .ok (files.addDirectory parts)
      | .error f => refuse f.text

def rm (i : Invocation) : Completion :=
  let (letters, names) := options i.arguments
  changing i names fun files name =>
    let refuse (why : String) : Except (List Char) FileTree :=
      .error (complaint "rm" ("cannot remove ".toList ++ shown name ++ ": ".toList ++ why.toList))
    match files.locate FileTree.linkLimit ((pathOf name).within i.directory) with
    | .error f => if letters.contains 'f' then .ok files else refuse f.text
    | .ok parts =>
      if files.entry? parts == some .directory && !(letters.contains 'r' || letters.contains 'R') then
        refuse "Is a directory"
      else .ok (files.remove parts)

def tee (i : Invocation) : Completion :=
  let (letters, names) := options i.arguments
  if i.input.isEndless then stuck
  else
    let c := changing i names fun files name =>
      match place? { i with files } name with
      | .ok parts =>
        let old := if letters.contains 'a' then ((files.read ⟨"/", parts⟩).toOption.getD []) else []
        .ok (files.write parts (old ++ toBytes i.input.text))
      | .error f => .error (plainComplaint "tee" name f)
    { c with output := i.input }

/-- How many milliseconds an interval has. -/
def interval? (cs : List Char) : Option Nat :=
  let (body, unit) :=
    match cs.reverse with
    | 's' :: rest => (rest.reverse, 1000)
    | 'm' :: rest => (rest.reverse, 60000)
    | 'h' :: rest => (rest.reverse, 3600000)
    | 'd' :: rest => (rest.reverse, 86400000)
    | _ => (cs, 1000)
  match (Numeral.double? (String.ofList body)).map fun d => d.mul (.roundInt unit) with
  | some d => if d.isNegative || !d.isFinite then none else some d.truncate.toNat
  | none => none

def sleep (i : Invocation) : Completion :=
  if i.arguments.isEmpty then
    refused "sleep" "missing operand\nTry 'sleep --help' for more information.".toList 1
  else if i.arguments == ["infinity".toList] then stuck
  else
    match i.arguments.find? fun a => (interval? a).isNone with
    | some a =>
      refused "sleep" ("invalid time interval ".toList ++ shown a ++
        "\nTry 'sleep --help' for more information.".toList) 1
    | none => { duration := some (total (i.arguments.filterMap interval?)) }

/-- One place of an expression that lines are searched for. -/
structure Sought where
  wild : Wild
  isStarred : Bool := false

/-- The places of an expression: a dot, brackets, a star behind a place. -/
def soughtWithin : Nat → List Char → List Sought
  | 0, _ => []
  | _, [] => []
  | fuel + 1, c :: rest =>
    let (w, rest) : Wild × List Char :=
      if c == '.' then (.one, rest)
      else if c == '[' then
        match Wild.bracket? (rest.map fun d => ⟨d, false, true⟩) with
        | some (w, after) => (w, after.map Glyph.char)
        | none => (.char '[', rest)
      else if c == '\\' then
        match rest with
        | d :: rest => (.char d, rest)
        | [] => (.char '\\', [])
      else (.char c, rest)
    match rest with
    | '*' :: rest => ⟨w, true⟩ :: soughtWithin fuel rest
    | rest => ⟨w, false⟩ :: soughtWithin fuel rest

/-- Whether an expression matches a text from its front. -/
def matchesHere (isWhole : Bool) : List Sought → List Char → Bool
  | [], cs => !isWhole || cs.isEmpty
  | s :: rest, [] => s.isStarred && matchesHere isWhole rest []
  | s :: rest, c :: cs =>
    if s.isStarred then
      matchesHere isWhole rest (c :: cs) || (s.wild.accepts c && matchesHere isWhole (s :: rest) cs)
    else s.wild.accepts c && matchesHere isWhole rest cs
termination_by places cs => places.length + cs.length

/-- Whether an expression matches somewhere in a line. -/
def isFound (letters pattern line : List Char) : Bool :=
  let fold (cs : List Char) : List Char := if letters.contains 'i' then cs.map Char.toLower else cs
  let line := fold line
  if letters.contains 'F' then
    (List.range (line.length + 1)).any fun n => (fold pattern).isPrefixOf (line.drop n)
  else
    let isAnchored := pattern.head? == some '^'
    let body := fold (if isAnchored then pattern.drop 1 else pattern)
    let isWhole := body.getLast? == some '$'
    let places := soughtWithin (body.length + 1) (if isWhole then body.dropLast else body)
    let starts := if isAnchored then [0] else List.range (line.length + 1)
    starts.any fun n => matchesHere isWhole places (line.drop n)

def grep (i : Invocation) : Completion :=
  let (letters, rest) := options i.arguments
  match rest with
  | [] => refused "grep" [] 2
  | pattern :: names =>
    let (found, errors) := sources i names (plainComplaint "grep")
    if found.any (·.2.isEndless) then stuck
    else
      let isHit (l : List Char × Nat) : Bool := isFound letters pattern l.1 != letters.contains 'v'
      let hits := found.map fun (name, s) => (name, (lines s.text).zipIdx.filter isHit)
      let front (name : List Char) : List Char := if names.length > 1 then name ++ [':'] else []
      let text := hits.flatMap fun (name, ls) =>
        if letters.contains 'q' then []
        else if letters.contains 'c' then front name ++ number ls.length ++ ['\n']
        else ls.flatMap fun (l, k) =>
          front name ++ (if letters.contains 'n' then number (k + 1) ++ [':'] else []) ++ l ++ ['\n']
      let isEmpty := hits.all fun h => h.2.isEmpty
      { written text with errors, status := if !errors.isEmpty then 2 else if isEmpty then 1 else 0 }

/-- The variables that the arguments of `env` set or remove, and the command behind them. -/
def settings : List (String × List Char) → List (List Char) → List (String × List Char) × List (List Char)
  | _, ['-', 'i'] :: rest => settings [] rest
  | _, ['-'] :: rest => settings [] rest
  | held, ['-', 'u'] :: name :: rest =>
    settings (held.filter (·.1 != String.ofList name)) rest
  | held, a :: rest =>
    let name := String.ofList (a.takeWhile (· != '='))
    if a.contains '=' then
      let value := (a.dropWhile (· != '=')).drop 1
      settings (held.filter (·.1 != name) ++ [(name, value)]) rest
    else (held, a :: rest)
  | held, [] => (held, [])

/-- The program of a name. -/
def named? (name : String) : Option (Invocation → Completion) :=
  match name with
  | "cat" => some cat
  | "head" => some head
  | "tail" => some tail
  | "wc" => some wc
  | "sort" => some sort
  | "uniq" => some uniq
  | "tr" => some tr
  | "cut" => some cut
  | "rev" => some rev
  | "ls" => some ls
  | "seq" => some seq
  | "yes" => some yes
  | "env" => some fun i => written (environmentText i)
  | "id" => some fun i =>
    if ["-u", "-g", "-ru", "-rg"].contains (String.ofList (i.arguments.headD [])) then written "0\n".toList
    else if (i.arguments.headD []).contains 'n' then written "root\n".toList
    else written "uid=0(root) gid=0(root) groups=0(root)\n".toList
  | "printenv" => some printenv
  | "basename" => some basename
  | "dirname" => some dirname
  | "touch" => some touch
  | "mkdir" => some mkdir
  | "rm" => some rm
  | "tee" => some tee
  | "sleep" => some sleep
  | "grep" => some grep
  | "uname" => some fun _ => written "Linux\n".toList
  | "whoami" => some fun _ => written "root\n".toList
  | _ => none

end Utility

end Workflow.Shell
