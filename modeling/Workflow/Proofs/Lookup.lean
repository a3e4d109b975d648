import Workflow.Flow.Document
import Workflow.Proofs.Stateful

/-! # Texts that may be paths

A lookup goes from directory to directory, through links, until it comes to what the path leads to or
to a fault (`FileTree.Leads`); the steps of `FileTree.walk` always suffice for it (`locate_iff`).

A text that is not the path of a file is read as a document, unless it is short, in one line, and as a
path too long: in all, or in a segment to which its lookup comes (`Document.Stumbles`). No document is
read then (`parseAny_of_text`). -/

namespace Workflow

namespace FilePath

theorem length_splitSlash (cs : List Char) : ((splitSlash cs).filter (· ≠ [])).length ≤ cs.length := by
  fun_induction splitSlash cs with
  | case1 => simp
  | case2 rest ih => simpa using Nat.le_succ_of_le ih
  | case3 c rest _ hnil ih => simp
  | case4 c rest _ part parts hcons ih =>
    rw [hcons] at ih
    by_cases hp : part = []
    · subst hp
      simpa using ih
    · simpa [hp] using Nat.le_succ_of_le ih

/-- A path has no more segments than its text has characters. -/
theorem length_parts_ofText (s : String) : (ofText s).parts.length ≤ s.length := by
  refine Nat.le_trans ?_ (length_splitSlash s.toList)
  change (List.filter _ ((splitSlash s.toList).map String.ofList)).length ≤ _
  rw [List.filter_map, List.length_map, ← List.countP_eq_length_filter, ← List.countP_eq_length_filter]
  refine List.countP_mono_left fun part _ hp => ?_
  rw [decide_eq_true_eq]
  rintro rfl
  simp at hp

theorem splitSlash_of_not_mem {cs : List Char} (h : '/' ∉ cs) : splitSlash cs = [cs] := by
  induction cs with
  | nil => rfl
  | cons c cs ih =>
    rw [List.mem_cons, not_or] at h
    rw [splitSlash, ih h.2]
    exact fun hc => h.1 hc.symm

/-- A text without slashes is a path of one segment. -/
theorem ofText_of_not_mem {s : String} (h : '/' ∉ s.toList) (hne : s ≠ "") (hdot : s ≠ ".") :
    ofText s = ⟨"", [s]⟩ := by
  rw [ofText, splitSlash_of_not_mem h]
  simp only [List.map_cons, String.ofList_toList, List.map_nil, FilePath.mk.injEq]
  refine ⟨?_, by simp [hne, hdot]⟩
  split <;> simp_all

end FilePath

namespace FileTree

/-- A segment that is looked up in a directory. -/
structure IsName (part : String) : Prop where
  ne_up : part ≠ ".."
  le_limit : part.utf8ByteSize ≤ nameLimit

/-- What the lookup of some segments from a directory comes to, through at most so many links. -/
inductive Leads (t : FileTree) : Nat → List String → List String → Except FileFault (List String) → Prop
  | here {links place} : Leads t links place [] (.ok place)
  | up {links place todo r} (h : Leads t links place.dropLast todo r) :
      Leads t links place (".." :: todo) r
  | long {links place part todo} (hup : part ≠ "..") (h : nameLimit < part.utf8ByteSize) :
      Leads t links place (part :: todo) (.error .nameTooLong)
  | absent {links place part todo} (hn : IsName part) (he : t.entry? (place ++ [part]) = none) :
      Leads t links place (part :: todo) (.error .notFound)
  | down {links place part todo r} (hn : IsName part)
      (he : t.entry? (place ++ [part]) = some .directory) (h : Leads t links (place ++ [part]) todo r) :
      Leads t links place (part :: todo) r
  | file {links place part bytes} (hn : IsName part)
      (he : t.entry? (place ++ [part]) = some (.file bytes)) :
      Leads t links place [part] (.ok (place ++ [part]))
  | past {links place part todo bytes} (hn : IsName part)
      (he : t.entry? (place ++ [part]) = some (.file bytes)) (hne : todo ≠ []) :
      Leads t links place (part :: todo) (.error .notDirectory)
  | knot {place part todo target} (hn : IsName part)
      (he : t.entry? (place ++ [part]) = some (.link target)) :
      Leads t 0 place (part :: todo) (.error .tooManyLinks)
  | along {links place part todo target r} (hn : IsName part)
      (he : t.entry? (place ++ [part]) = some (.link target))
      (h : Leads t links (if (FilePath.ofText target).isAbsolute then [] else place)
        ((FilePath.ofText target).parts ++ todo) r) : Leads t (links + 1) place (part :: todo) r

variable {t : FileTree} {links fuel : Nat} {place todo : List String} {part target : String}
  {r : Except FileFault (List String)} {p : FilePath}

/-- The most characters of a link's target. -/
def longest (t : FileTree) : Nat :=
  t.entries.foldl (fun n (_, e) =>
    match e with
    | .link target => max n target.length
    | _ => n) 0

theorem le_longest (h : (place, FileEntry.link target) ∈ t.entries) : target.length ≤ t.longest := by
  have hmono : ∀ (es : List (List String × FileEntry)) (n : Nat),
      n ≤ es.foldl (fun n (_, e) => match e with | .link target => max n target.length | _ => n) n := by
    intro es
    induction es with
    | nil => exact fun n => Nat.le_refl n
    | cons e es ih =>
      intro n
      refine Nat.le_trans ?_ (ih _)
      dsimp only
      split <;> omega
  obtain ⟨before, after, hsplit⟩ := List.append_of_mem h
  unfold longest
  rw [hsplit, List.foldl_append, List.foldl_cons]
  exact Nat.le_trans (Nat.le_max_right _ _) (hmono _ _)

theorem mem_of_link (h : t.entry? place = some (.link target)) :
    (place, FileEntry.link target) ∈ t.entries := by
  unfold entry? at h
  split at h
  next e hf =>
    cases h
    have hp := List.find?_some hf
    rw [beq_iff_eq] at hp
    exact hp ▸ List.mem_of_find?_eq_some hf
  next => split at h <;> cases h

/-- A link leads on by no more segments than the longest target has characters. -/
theorem length_along (h : t.entry? place = some (.link target)) :
    (FilePath.ofText target).parts.length ≤ t.longest :=
  Nat.le_trans (FilePath.length_parts_ofText target) (le_longest (mem_of_link h))

/-- A walk with enough steps is the lookup: each segment takes one step, and each link brings no more
segments than the longest target has characters. -/
theorem leads_walk (hf : todo.length + links * (t.longest + 1) < fuel) :
    Leads t links place todo (t.walk fuel links place todo) := by
  induction fuel generalizing links place todo with
  | zero => omega
  | succ fuel ih =>
    cases todo with
    | nil => exact .here
    | cons part todo =>
      rw [List.length_cons] at hf
      have hrest : todo.length + links * (t.longest + 1) < fuel := by omega
      rw [walk]
      split
      next hup =>
        rw [beq_iff_eq] at hup
        exact hup ▸ .up (ih hrest)
      next hup =>
        rw [beq_iff_eq] at hup
        split
        next hlong => exact .long hup hlong
        next hlong =>
          have hn : IsName part := ⟨hup, Nat.le_of_not_lt hlong⟩
          split
          next he => exact .absent hn he
          next he => exact .down hn he (ih hrest)
          next bytes he =>
            split
            next hnil =>
              obtain rfl := List.isEmpty_iff.1 hnil
              exact .file hn he
            next hne => exact .past hn he fun h => hne (List.isEmpty_iff.2 h)
          next target he =>
            cases links with
            | zero => exact .knot hn he
            | succ links =>
              have htarget := length_along he
              rw [Nat.succ_mul] at hf
              exact .along hn he (ih (by rw [List.length_append]; omega))

theorem walk_name (hn : IsName part) : t.walk (fuel + 1) links place (part :: todo) =
    match t.entry? (place ++ [part]) with
    | none => .error .notFound
    | some .directory => t.walk fuel links (place ++ [part]) todo
    | some (.file _) => if todo.isEmpty then .ok (place ++ [part]) else .error .notDirectory
    | some (.link target) =>
      match links with
      | 0 => .error .tooManyLinks
      | links + 1 =>
        t.walk fuel links (if (FilePath.ofText target).isAbsolute then [] else place)
          ((FilePath.ofText target).parts ++ todo) := by
  rw [walk]
  exact (if_neg (by simpa using hn.ne_up)).trans (if_neg (Nat.not_lt.2 hn.le_limit))

theorem Leads.walk_eq (h : Leads t links place todo r)
    (hf : todo.length + links * (t.longest + 1) ≤ fuel) : t.walk (fuel + 1) links place todo = r := by
  induction h generalizing fuel with
  | here => rfl
  | up _ ih =>
    rw [List.length_cons] at hf
    obtain ⟨fuel, rfl⟩ : ∃ n, fuel = n + 1 := ⟨fuel - 1, by omega⟩
    rw [walk, if_pos (by rfl)]
    exact ih (by omega)
  | long hup hlong => rw [walk, if_neg (by simpa using hup), if_pos hlong]
  | absent hn he | knot hn he => rw [walk_name hn, he]
  | file hn he =>
    rw [walk_name hn, he]
    rfl
  | past hn he hne =>
    rw [walk_name hn, he]
    exact if_neg fun h => hne (List.isEmpty_iff.1 h)
  | down hn he _ ih =>
    rw [List.length_cons] at hf
    obtain ⟨fuel, rfl⟩ : ∃ n, fuel = n + 1 := ⟨fuel - 1, by omega⟩
    rw [walk_name hn, he]
    exact ih (by omega)
  | along hn he _ ih =>
    have htarget := length_along he
    rw [List.length_cons, Nat.succ_mul] at hf
    obtain ⟨fuel, rfl⟩ : ∃ n, fuel = n + 1 := ⟨fuel - 1, by omega⟩
    rw [walk_name hn, he]
    exact ih (by rw [List.length_append]; omega)

theorem locate_iff : t.locate links p = r ↔ Leads t links [] (p.within t.current).parts r := by
  have hparts : (p.within t.current).parts.length ≤ p.parts.length + t.current.parts.length := by
    unfold FilePath.within
    split
    next => exact Nat.le_add_right _ _
    next => simp [Nat.add_comm]
  obtain ⟨n, hn, hf⟩ : ∃ n, t.fuel p links = n + 1 ∧
      (p.within t.current).parts.length + links * (t.longest + 1) ≤ n := by
    refine ⟨p.parts.length + t.current.parts.length + (t.longest + 1) * (links + 1), rfl, ?_⟩
    rw [Nat.mul_comm, Nat.mul_succ]
    omega
  unfold locate
  rw [hn]
  exact ⟨fun hr => hr ▸ leads_walk (Nat.lt_succ_of_le hf), fun h => h.walk_eq hf⟩

/-- Only a segment that is too long makes the question whether a path leads to a file fail. -/
theorem isFile_error_iff {fault : FileFault} : t.isFile p = .error fault ↔
    fault = .nameTooLong ∧ Leads t linkLimit [] (p.within t.current).parts (.error .nameTooLong) := by
  rw [← locate_iff]
  unfold isFile read
  cases hl : t.locate linkLimit p with
  | error e => cases e <;> simp [eq_comm]
  | ok parts =>
    simp only [reduceCtorEq, and_false, iff_false]
    rcases t.entry? parts with _ | _ | _ | _ <;> simp

/-- Where no segment is too long, neither of the path nor of a link, no lookup comes to one. -/
theorem Leads.ne_nameTooLong (h : Leads t links place todo r)
    (hlinks : ∀ place target, (place, FileEntry.link target) ∈ t.entries →
      ∀ part ∈ (FilePath.ofText target).parts, part.utf8ByteSize ≤ nameLimit)
    (htodo : ∀ part ∈ todo, part.utf8ByteSize ≤ nameLimit) : r ≠ .error .nameTooLong := by
  induction h with
  | here | file => exact nofun
  | absent | past | knot => simp
  | up _ ih => exact ih fun part hp => htodo part (List.mem_cons_of_mem _ hp)
  | down _ _ _ ih => exact ih fun part hp => htodo part (List.mem_cons_of_mem _ hp)
  | long _ hlong => exact absurd (htodo _ List.mem_cons_self) (Nat.not_le.2 hlong)
  | along _ he _ ih =>
    refine ih fun part hp => (List.mem_append.1 hp).elim (hlinks _ _ (mem_of_link he) part) fun hp => ?_
    exact htodo part (List.mem_cons_of_mem _ hp)

/-- A lookup goes through directories without links. -/
theorem Leads.through {dirs : List String} (hn : ∀ part ∈ dirs, IsName part)
    (hd : ∀ n < dirs.length, t.entry? (place ++ dirs.take (n + 1)) = some .directory)
    (h : Leads t links (place ++ dirs) todo r) : Leads t links place (dirs ++ todo) r := by
  induction dirs generalizing place with
  | nil => simpa using h
  | cons part dirs ih =>
    rw [List.forall_mem_cons] at hn
    refine .down hn.1 (by simpa using hd 0 (Nat.zero_lt_succ _)) (ih hn.2 (fun n hlt => ?_) ?_)
    · simpa using hd (n + 1) (Nat.succ_lt_succ hlt)
    · simpa using h

end FileTree

namespace Document

variable {files : FileTree} {s ws : String} {now : Instant} {k : Nat}

/-- A text that counts as a path, but as one that is too long: in all, or in a segment to which its lookup
comes. -/
structure Stumbles (files : FileTree) (s : String) : Prop where
  line : s.contains '\n' = false
  short : s.length < pathLimit
  usable : Failure.ofPath? s = none
  long : pathByteLimit ≤ (FilePath.ofText s).text.utf8ByteSize ∨
    files.Leads FileTree.linkLimit [] ((FilePath.ofText s).within files.current).parts (.error .nameTooLong)

theorem namesFile_of_stumbles (h : Stumbles files s) : namesFile files s k = (.error ⟨.os, ""⟩, k) := by
  unfold namesFile
  rw [if_neg (by simp [h.line, h.usable, h.short])]
  split
  next => rfl
  next hb =>
    have hlong := h.long.resolve_left hb
    rw [FileTree.isFile_error_iff.2 ⟨rfl, hlong⟩]
    rfl

theorem namesFile_of_not_stumbles (absent : ∀ bytes, files.read (.ofText s) ≠ .ok bytes)
    (h : ¬ Stumbles files s) : namesFile files s k = (.ok false, k) := by
  unfold namesFile
  split
  next => rfl
  next hc =>
    simp only [Bool.or_eq_true, decide_eq_true_eq, not_or, Bool.not_eq_true, Option.isSome_eq_false_iff,
      Option.isNone_iff_eq_none] at hc
    obtain ⟨⟨hline, hshort⟩, husable⟩ := hc
    split
    next hb => exact absurd ⟨hline, Nat.lt_of_not_le hshort, husable, .inl hb⟩ h
    next =>
      cases hi : files.isFile (.ofText s) with
      | error fault =>
        have hlong := (FileTree.isFile_error_iff.1 hi).2
        exact absurd ⟨hline, Nat.lt_of_not_le hshort, husable, .inr hlong⟩ h
      | ok b =>
        unfold FileTree.isFile at hi
        cases hr : files.read (.ofText s) with
        | ok bytes => exact absurd hr (absent bytes)
        | error fault =>
          rw [hr] at hi
          cases fault <;> cases hi <;> rfl

/-- Where every segment is short, of the text as a path, of the current directory and of the links, a text
does not stumble. -/
theorem not_stumbles_of_short
    (hlinks : ∀ place target, (place, FileEntry.link target) ∈ files.entries →
      ∀ part ∈ (FilePath.ofText target).parts, part.utf8ByteSize ≤ FileTree.nameLimit)
    (hcurrent : ∀ part ∈ files.current.parts, part.utf8ByteSize ≤ FileTree.nameLimit)
    (hparts : ∀ part ∈ (FilePath.ofText s).parts, part.utf8ByteSize ≤ FileTree.nameLimit)
    (hbytes : (FilePath.ofText s).text.utf8ByteSize < pathByteLimit) : ¬ Stumbles files s := by
  intro h
  have hlong := h.long.resolve_left (Nat.not_le.2 hbytes)
  refine hlong.ne_nameTooLong hlinks (fun part hp => ?_) rfl
  unfold FilePath.within at hp
  split at hp
  next => exact hparts part hp
  next => exact (List.mem_append.1 hp).elim (hcurrent part) (hparts part)

/-- A short text in one line stumbles if the part before its first slash is too long. -/
theorem stumbles_of_first {part : String} {rest : List String} (hline : s.contains '\n' = false)
    (hshort : s.length < pathLimit) (husable : Failure.ofPath? s = none)
    (hrelative : (FilePath.ofText s).isAbsolute = false) (hparts : (FilePath.ofText s).parts = part :: rest)
    (hup : part ≠ "..") (hlong : FileTree.nameLimit < part.utf8ByteSize)
    (hnames : ∀ part ∈ files.current.parts, FileTree.IsName part)
    (hcurrent : ∀ n < files.current.parts.length,
      files.entry? (files.current.parts.take (n + 1)) = some .directory) : Stumbles files s := by
  refine ⟨hline, hshort, husable, .inr ?_⟩
  have hwithin : ((FilePath.ofText s).within files.current).parts = files.current.parts ++ part :: rest := by
    rw [FilePath.within, hrelative, hparts]
    rfl
  rw [hwithin]
  exact .through hnames (by simpa using hcurrent) (.long hup hlong)

/-- What is made of a text that is not the path of a file: it is read as a document, whatever its line
breaks and its length, unless it stumbles; then nothing is read and no id is drawn. -/
theorem parseAny_of_absent (files : FileTree) (s ws : String) (now : Instant) (k : Nat)
    (absent : ∀ bytes, files.read (.ofText s) ≠ .ok bytes) :
    (¬ Stumbles files s → parseAny files (.text s) ws now k = parseText s ws now k) ∧
      (Stumbles files s → parseAny files (.text s) ws now k = (.error ⟨.os, ""⟩, k)) := by
  constructor
  · intro h
    exact (Stateful.bind_ok (namesFile_of_not_stumbles absent h)).trans rfl
  · intro h
    exact Stateful.bind_error (namesFile_of_stumbles h)

/-- A file system without files. -/
def bare : FileTree := .within ⟨"/", ["home"]⟩ []

/-- The characters of a document in one line, with a name of so many letters. -/
def lineChars (n : Nat) : List Char :=
  "\x7b\"nodes\": [], \"edges\": [], \"name\": \"".toList ++ List.replicate n 'n' ++ "\"\x7d".toList

def oneLine (n : Nat) : String := String.ofList (lineChars n)

theorem tokens_oneLine (n : Nat) : Yaml.tokens (oneLine n) =
    if (Text.codes (lineChars n)).all Yaml.isAllowed then
      (Yaml.Lexer.run ((lineChars n).length + 2) (Yaml.Lexer.start (lineChars n)).skipMark).tokens.reverse
    else [.fault .malformed] := by
  rw [Yaml.tokens, oneLine, String.toList_ofList]

/-- A document in one line is read while it is short; one that has more bytes than a segment may have is
still a document, but stumbles. -/
theorem parseAny_of_oneLine :
    parseAny bare (.text (oneLine 3)) "" ⟨0⟩ 0 = parseText (oneLine 3) "" ⟨0⟩ 0 ∧
      parseAny bare (.text (oneLine 256)) "" ⟨0⟩ 0 = (.error ⟨.os, ""⟩, 0) ∧
      ∃ g k, parseText (oneLine 256) "" ⟨0⟩ 0 = (.ok g, k) := by
  have h3 : FilePath.ofText (oneLine 3) = ⟨"", [oneLine 3]⟩ := FilePath.ofText_of_not_mem
    (by rw [oneLine, String.toList_ofList]; decide +kernel) (by decide +kernel) (by decide +kernel)
  have h256 : FilePath.ofText (oneLine 256) = ⟨"", [oneLine 256]⟩ := FilePath.ofText_of_not_mem
    (by rw [oneLine, String.toList_ofList]; decide +kernel) (by decide +kernel) (by decide +kernel)
  have habsent : ∀ n, (bare.read ⟨"", [oneLine n]⟩).toOption = none →
      ∀ bytes, bare.read ⟨"", [oneLine n]⟩ ≠ .ok bytes := by
    intro n h bytes hb
    rw [hb] at h
    cases h
  have hlinks : ∀ e ∈ bare.entries, e.2 = .directory := by decide +kernel
  have hnames : ∀ part ∈ bare.current.parts, FileTree.IsName part := by
    intro part hp
    obtain rfl := List.mem_singleton.1 hp
    exact ⟨by decide, by decide⟩
  have hline : (oneLine 256).contains '\n' = false := by
    rw [oneLine, String.contains_char_eq, String.toList_ofList]
    decide +kernel
  have hshort : (oneLine 256).length < pathLimit := by
    rw [oneLine, String.length_ofList]
    decide +kernel
  have husable : Failure.ofPath? (oneLine 256) = none := by
    rw [Failure.ofPath?, Failure.ofSystemHalves?, oneLine, String.contains_char_eq, String.toList_ofList]
    decide +kernel
  refine ⟨(parseAny_of_absent bare (oneLine 3) "" ⟨0⟩ 0 ?_).1 ?_,
    (parseAny_of_absent bare (oneLine 256) "" ⟨0⟩ 0 ?_).2 ?_, ?_⟩
  · rw [h3]
    exact habsent 3 (by decide +kernel)
  · refine not_stumbles_of_short (fun place target h => ?_) (fun part hp => (hnames part hp).le_limit) ?_ ?_
    · cases hlinks _ h
    · rw [h3]
      decide +kernel
    · rw [h3]
      decide +kernel
  · rw [h256]
    exact habsent 256 (by decide +kernel)
  · exact stumbles_of_first hline hshort husable (by rw [h256]; rfl) (by rw [h256])
      (by decide +kernel) (by decide +kernel) hnames (by decide +kernel)
  · have hparsed : (parseText (oneLine 256) "" ⟨0⟩ 0).1.toOption.isSome = true := by
      rw [parseText, readYaml, Yaml.read, Yaml.compose, tokens_oneLine]
      decide +kernel
    rcases hr : parseText (oneLine 256) "" ⟨0⟩ 0 with ⟨f | g, k⟩
    · rw [hr] at hparsed
      cases hparsed
    · exact ⟨g, k, rfl⟩

end Document

end Workflow
