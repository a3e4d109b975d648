import Mathlib
import Workflow.Proofs.Replies
import Workflow.Proofs.Resolving

/-!
# Files that may be read

An action that reads a file has no segment `..` in its path, and shows what stands at the place its path
leads to; this place lies, segment by segment, in the place that an allowed directory leads to
(`confined_of_perform`). Only of a directory that leads nowhere its own segments are compared, without those
of `..` and the ones before them: nothing else that leads nowhere is ever shown.
-/

namespace Workflow

/-! ### Segments `..` -/

namespace FilePath

/-- A segment between slashes, or between a slash and an end, stands in the text. -/
theorem exists_of_mem_splitSlash {s cs : List Char} (h : s ∈ splitSlash cs) :
    ∃ front back, cs = front ++ (s ++ back) ∧ (∀ c ∈ front.getLast?, c = '/') ∧ ∀ c ∈ back.head?, c = '/' := by
  -- The first segment is told from the others, as it has nothing before it.
  have hshape : ∀ cs, ∃ first more, splitSlash cs = first :: more ∧
      (∃ back, cs = first ++ back ∧ ∀ c ∈ back.head?, c = '/') ∧
      ∀ s ∈ more, ∃ front back, cs = front ++ '/' :: (s ++ back) ∧ ∀ c ∈ back.head?, c = '/' := by
    intro cs
    induction cs with
    | nil => exact ⟨[], [], rfl, ⟨[], rfl, by simp⟩, by simp⟩
    | cons c cs ih =>
      obtain ⟨first, more, hsplit, ⟨back, hcs, hback⟩, hmore⟩ := ih
      by_cases hc : c = '/'
      · subst hc
        refine ⟨[], first :: more, by rw [splitSlash, hsplit], ⟨'/' :: cs, rfl, by simp⟩, ?_⟩
        rintro s (_ | ⟨_, hs⟩)
        · exact ⟨[], back, by rw [hcs]; rfl, hback⟩
        · obtain ⟨front, back', h, hback'⟩ := hmore s hs
          exact ⟨'/' :: front, back', by rw [h]; rfl, hback'⟩
      · refine ⟨c :: first, more, ?_, ⟨back, by rw [hcs]; rfl, hback⟩, fun s hs => ?_⟩
        · rw [splitSlash, hsplit]
          exact fun h => hc h
        · obtain ⟨front, back', h, hback'⟩ := hmore s hs
          exact ⟨c :: front, back', by rw [h]; rfl, hback'⟩
  obtain ⟨first, more, hsplit, ⟨back, hcs, hback⟩, hmore⟩ := hshape cs
  rw [hsplit] at h
  rcases List.mem_cons.1 h with rfl | h
  · exact ⟨[], back, hcs, by simp, hback⟩
  · obtain ⟨front, back, h, hback⟩ := hmore s h
    exact ⟨front ++ ['/'], back, by rw [h, List.append_assoc]; rfl, by simp, hback⟩

theorem foldl_of_cons {step : List String → String → List String} {parts : List String}
    (h : ∀ seen, ∀ part ∈ parts, step seen part = part :: seen) (seen : List String) :
    parts.foldl step seen = parts.reverse ++ seen := by
  induction parts generalizing seen with
  | nil => rfl
  | cons part parts ih =>
    rw [List.foldl_cons, h seen part List.mem_cons_self, ih fun seen p hp => h seen p (List.mem_cons_of_mem _ hp),
      List.reverse_cons, List.append_assoc]
    rfl

/-- Without segments `..` there is nothing to take away. -/
theorem normalise_of_not_mem {p : FilePath} (h : ".." ∉ p.parts) : p.normalise = p := by
  unfold normalise
  simp only
  rw [foldl_of_cons, List.append_nil, List.reverse_reverse]
  intro seen part hpart
  rw [if_neg]
  rintro heq
  exact h (beq_iff_eq.1 heq ▸ hpart)

theorem isAbsolute_within {p base : FilePath} (h : base.isAbsolute = true) : (p.within base).isAbsolute = true := by
  unfold within
  split
  next hp => exact hp
  next => exact h

theorem within_within {p base : FilePath} (h : base.isAbsolute = true) :
    (p.within base).within base = p.within base := by
  rw [within, if_pos (isAbsolute_within h)]

theorem not_mem_parts_within {p base : FilePath} {part : String} (h : part ∉ p.parts) (hbase : part ∉ base.parts) :
    part ∉ (p.within base).parts := by
  unfold within
  split
  next => exact h
  next => exact fun hmem => (List.mem_append.1 hmem).elim hbase h

end FilePath

namespace FileRead

/-- Either kind of slash. -/
def IsSlash (c : Char) : Prop := c = '/' ∨ c = '\\'

/-- The path has a segment `..` between slashes, or between a slash and an end. -/
def HasUpward (path : String) : Prop :=
  ∃ front back, path.toList = front ++ ('.' :: '.' :: back) ∧ (∀ c ∈ front.getLast?, IsSlash c) ∧
    ∀ c ∈ back.head?, IsSlash c

theorem segments_of_head {s back : List Char} (hs : ∀ c ∈ s, ¬ IsSlash c) (hback : ∀ c ∈ back.head?, IsSlash c) :
    ∃ more, segments (s ++ back) = s :: more := by
  induction s with
  | nil =>
    cases back with
    | nil => exact ⟨[], rfl⟩
    | cons c back =>
      refine ⟨segments back, ?_⟩
      rw [List.nil_append, segments, if_pos]
      simpa [IsSlash] using hback c rfl
  | cons c s ih =>
    rw [List.forall_mem_cons] at hs
    obtain ⟨more, hmore⟩ := ih hs.2
    refine ⟨more, ?_⟩
    rw [List.cons_append, segments, if_neg, hmore]
    simpa [IsSlash] using hs.1

theorem subset_segments {c : Char} (hc : IsSlash c) (front tail : List Char) :
    segments tail ⊆ (segments (front ++ c :: tail)).tail := by
  induction front with
  | nil =>
    rw [List.nil_append, segments, if_pos (by simpa [IsSlash] using hc)]
    exact List.Subset.refl _
  | cons d front ih =>
    rw [List.cons_append, segments]
    split
    · exact fun s hs => List.mem_of_mem_tail (ih hs)
    · split
      next heq =>
        rw [heq] at ih
        exact ih
      next heq =>
        rw [heq] at ih
        exact ih

theorem hasTraversal_of_hasUpward {path : String} (h : HasUpward path) : hasTraversal path = true := by
  obtain ⟨front, back, hpath, hfront, hback⟩ := h
  have hdots : ∀ c ∈ ['.', '.'], ¬ IsSlash c := by simp [IsSlash]
  obtain ⟨more, hmore⟩ := segments_of_head hdots hback
  have hmem : ['.', '.'] ∈ segments (['.', '.'] ++ back) := by
    rw [hmore]
    exact List.mem_cons_self
  rw [hasTraversal, List.contains_iff_mem, hpath]
  rcases List.eq_nil_or_concat' front with rfl | ⟨front, c, rfl⟩
  · exact hmem
  · have hc : IsSlash c := hfront c (by simp)
    rw [List.append_assoc]
    exact List.mem_of_mem_tail (subset_segments hc front _ hmem)

/-- A path without a segment `..` for the reader has none for the system either. -/
theorem not_mem_parts_of_hasTraversal {path : String} (h : hasTraversal path = false) :
    ".." ∉ (FilePath.ofText path).parts := by
  intro hmem
  obtain ⟨hmem, -⟩ := List.mem_filter.1 hmem
  obtain ⟨s, hs, htext⟩ := List.mem_map.1 hmem
  obtain rfl : s = ['.', '.'] := by
    rw [← String.toList_ofList (l := s), htext]
    rfl
  obtain ⟨front, back, hpath, hfront, hback⟩ := FilePath.exists_of_mem_splitSlash hs
  have hup : HasUpward path :=
    ⟨front, back, hpath, fun c hc => .inl (hfront c hc), fun c hc => .inl (hback c hc)⟩
  cases h.symm.trans (hasTraversal_of_hasUpward hup)

/-! ### What is read -/

variable {files : FileTree} {usual : List FilePath} {params : Fields} {p place : FilePath}

theorem mem_of_mapM {α β : Type} {f : α → Outcome β} {xs : List α} {ys : List β} (h : xs.mapM f = .ok ys)
    {y : β} (hy : y ∈ ys) : ∃ x ∈ xs, f x = .ok y := by
  induction xs generalizing ys with
  | nil =>
    cases h
    cases hy
  | cons x xs ih =>
    rw [List.mapM_cons] at h
    obtain ⟨z, hz, h⟩ := Outcome.bind_eq_ok.1 h
    obtain ⟨zs, hzs, h⟩ := Outcome.bind_eq_ok.1 h
    cases h
    rcases List.mem_cons.1 hy with rfl | hy
    · exact ⟨x, List.mem_cons_self, hz⟩
    · obtain ⟨w, hw, hwy⟩ := ih hzs hy
      exact ⟨w, List.mem_cons_of_mem _ hw, hwy⟩

theorem realPlace_eq_ok (h : realPlace files p = .ok place) : place = realPath files p := by
  unfold realPlace at h
  simp only at h
  split at h
  · split at h
    · cases h
    · exact (Except.ok.inj h).symm
  · exact (Except.ok.inj h).symm

/-- The places of the directories that are allowed. -/
theorem exists_allows_of_mem {allowed : Value} {roots : List (Outcome FilePath)} {places : List FilePath}
    (hroots : listed usual allowed = .ok roots) (hplaces : roots.mapM (· >>= realPlace files) = .ok places)
    (h : place ∈ places) : ∃ root, Allows usual allowed root ∧ place = realPath files root := by
  obtain ⟨root, hroot, hplace⟩ := mem_of_mapM hplaces h
  obtain ⟨root, rfl, hplace⟩ := Outcome.bind_eq_ok.1 hplace
  refine ⟨root, ?_, realPlace_eq_ok hplace⟩
  unfold listed at hroots
  split at hroots
  next hg =>
    cases hvs : entries allowed with
    | error f =>
      rw [hvs] at hroots
      cases hroots
    | ok vs =>
      rw [hvs] at hroots
      cases hroots
      obtain ⟨v, hv, hpath⟩ := List.mem_map.1 hroot
      cases v with
      | text s =>
        cases hpath
        exact .named hg hvs hv
      | _ => cases hpath
  next hg =>
    cases hroots
    obtain ⟨q, hq, heq⟩ := List.mem_map.1 hroot
    cases heq
    exact .usual (Bool.eq_false_iff.2 hg) hq

theorem contentOf_eq_ok {encoding : Value} {content : String} {size : Nat} :
    contentOf files p encoding = .ok (content, size) ↔ ∃ name e bytes cs, encoding = .text name ∧
      Failure.ofHalves? name = none ∧ name.contains '\x00' = false ∧ Failure.ofPath? p.text = none ∧
      files.read p = .ok bytes ∧ Text.Encoding.ofName? name = some e ∧ e.decode bytes = .ok cs ∧
      content = String.ofList cs ∧ size = bytes.length := by
  constructor
  · intro h
    unfold contentOf at h
    split at h
    next name =>
      split at h
      next => cases h
      next hhalves =>
        split at h
        next => cases h
        next hnull =>
          unfold contentOf.contentIn at h
          split at h
          next => cases h
          next hpath =>
            split at h
            next => cases h
            next bytes hread =>
              split at h
              next => cases h
              next e he =>
                cases hcs : e.decode bytes with
                | error f =>
                  rw [hcs] at h
                  cases h
                | ok cs =>
                  rw [hcs] at h
                  cases h
                  exact ⟨name, e, bytes, cs, rfl, hhalves, Bool.eq_false_iff.2 hnull, hpath, hread, he, hcs, rfl, rfl⟩
    next => cases h
  · rintro ⟨name, e, bytes, cs, rfl, hhalves, hnull, hpath, hread, he, hcs, rfl, rfl⟩
    simp only [contentOf, contentOf.contentIn, hhalves, hnull, hpath, hread, he, hcs]
    rfl

/-- How a file is read. -/
theorem success_iff {r : ActionResult} : (perform files usual params = .ok r ∧ r.success = true) ↔
    ∃ path roots places place content size, Tries params path ∧
      listed usual ((Value.object params).field "allowedDirs") = .ok roots ∧
      roots.mapM (· >>= realPlace files) = .ok places ∧ realPlace files (.ofText path) = .ok place ∧
      isWithin place places = true ∧
      contentOf files place (((Value.object params).field "encoding").orElse (.text "utf-8")) = .ok (content, size) ∧
      r = result true content size (((Value.object params).field "encoding").orElse (.text "utf-8")) := by
  constructor
  · rintro ⟨h, hs⟩
    unfold perform at h
    simp only at h
    split at h
    next path hpath =>
      split at h
      next =>
        cases h
        cases hs
      next hblank =>
        split at h
        next =>
          cases h
          cases hs
        next htraversal =>
          obtain ⟨roots, hroots, h⟩ := Outcome.bind_eq_ok.1 h
          obtain ⟨places, hplaces, h⟩ := Outcome.bind_eq_ok.1 h
          obtain ⟨_, hp, h⟩ := Outcome.bind_eq_ok.1 h
          cases hp
          obtain ⟨place, hplace, h⟩ := Outcome.bind_eq_ok.1 h
          split at h
          next hwithin =>
            split at h
            next content size hcontent =>
              cases h
              exact ⟨path, roots, places, place, content, size,
                ⟨hpath, Bool.eq_false_iff.2 hblank, Bool.eq_false_iff.2 htraversal⟩, hroots, hplaces, hplace, hwithin,
                hcontent, rfl⟩
            next =>
              cases h
              cases hs
          next =>
            cases h
            cases hs
    next =>
      cases h
      cases hs
  · rintro ⟨path, roots, places, place, content, size, ⟨hpath, hblank, htraversal⟩, hroots, hplaces, hplace, hwithin,
      hcontent, rfl⟩
    refine ⟨?_, rfl⟩
    unfold perform
    simp only [hpath, hblank, htraversal, Bool.false_eq_true, if_false]
    refine Outcome.bind_eq_ok.2 ⟨roots, hroots, Outcome.bind_eq_ok.2 ⟨places, hplaces,
      Outcome.bind_eq_ok.2 ⟨_, rfl, Outcome.bind_eq_ok.2 ⟨place, hplace, ?_⟩⟩⟩⟩
    rw [if_pos hwithin, hcontent]
    rfl

/-! ### Where it stands -/

/-- A path is resolved, or nothing is there. -/
theorem realPath_cases (files : FileTree) (p : FilePath) :
    (∃ place, realPath files p = ⟨"/", place⟩ ∧ files.Locates p place) ∨
      (realPath files p = (p.within files.current).normalise ∧ ∀ place, ¬ files.Locates p place) := by
  unfold realPath
  cases h : files.resolve p with
  | ok q =>
    have hq : q = ⟨"/", q.parts⟩ := by rw [← FileTree.root_of_resolve h]
    rw [hq] at h
    exact .inl ⟨q.parts, hq, FileTree.resolve_eq_ok_iff.1 h⟩
  | error e =>
    refine .inr ⟨rfl, fun place hplace => ?_⟩
    cases h.symm.trans (FileTree.resolve_eq_ok_iff.2 hplace)

/-- A path without segments `..` can be read only where it leads. -/
theorem locates_of_read_realPath {bytes : List UInt8} (habs : files.current.isAbsolute = true)
    (hcurrent : ".." ∉ files.current.parts) (hp : ".." ∉ p.parts) (h : files.read (realPath files p) = .ok bytes) :
    ∃ place, realPath files p = ⟨"/", place⟩ ∧ files.Locates p place ∧ files.entry? place = some (.file bytes) := by
  obtain ⟨goal, hgoal, he⟩ := FileTree.locates_of_read h
  rcases realPath_cases files p with ⟨place, hreal, hplace⟩ | ⟨hreal, hno⟩
  · rw [hreal] at hgoal
    obtain rfl := hgoal.unique (hplace.canonical.locates (by decide))
    exact ⟨goal, hreal, hplace, he⟩
  · rw [hreal, FilePath.normalise_of_not_mem (FilePath.not_mem_parts_within hp hcurrent), FileTree.Locates,
      FilePath.within_within habs] at hgoal
    exact (hno goal hgoal).elim

/-- A directory lies above a place if it leads to a place above, or if it leads nowhere and has a segment `..`
and lies above by its other segments. -/
theorem above_of_isBelow {root : FilePath} {place : List String} (habs : files.current.isAbsolute = true)
    (hcurrent : ".." ∉ files.current.parts) (hplace : files.Canonical place)
    (h : FilePath.isBelow ⟨"/", place⟩ (realPath files root) = true) :
    (∃ top, files.Locates root top ∧ top <+: place) ∨
      ((∀ top, ¬ files.Locates root top) ∧ ".." ∈ root.parts ∧
        (root.within files.current).normalise.parts <+: place) := by
  have hprefix : (realPath files root).parts <+: place :=
    List.isPrefixOf_iff_prefix.1 (Bool.and_eq_true_iff.1 h).2
  rcases realPath_cases files root with ⟨top, hreal, htop⟩ | ⟨hreal, hno⟩
  · rw [hreal] at hprefix
    exact .inl ⟨top, htop, hprefix⟩
  · rw [hreal] at hprefix
    refine .inr ⟨hno, ?_, hprefix⟩
    by_contra hup
    -- Above a place there is only what is there: the directory would lead to it.
    rw [FilePath.normalise_of_not_mem (FilePath.not_mem_parts_within hup hcurrent)] at hprefix
    have hlocates : files.Locates ⟨(root.within files.current).root, (root.within files.current).parts⟩ _ :=
      (hplace.of_prefix hprefix).locates (bne_iff_ne.1 (FilePath.isAbsolute_within habs))
    rw [FileTree.Locates, FilePath.within, if_pos (FilePath.isAbsolute_within (p := root) habs)] at hlocates
    exact hno _ hlocates

/-- What is shown of a file that is read is what stands at the place where the path leads, a place without
links that lies in one of the directories that are allowed. -/
theorem confined_of_perform {r : ActionResult} (habs : files.current.isAbsolute = true)
    (hcurrent : ".." ∉ files.current.parts) (h : perform files usual params = .ok r) (hs : r.success = true) :
    ∃ path place bytes name e cs root,
      (Value.object params).field "path" = .text path ∧ ¬ HasUpward path ∧
      files.Locates (.ofText path) place ∧ files.Canonical place ∧ files.entry? place = some (.file bytes) ∧
      ((Value.object params).field "encoding").orElse (.text "utf-8") = .text name ∧
      Text.Encoding.ofName? name = some e ∧ e.decode bytes = .ok cs ∧
      r = result true (String.ofList cs) bytes.length (.text name) ∧
      Allows usual ((Value.object params).field "allowedDirs") root ∧
      ((∃ top, files.Locates root top ∧ top <+: place) ∨
        ((∀ top, ¬ files.Locates root top) ∧ ".." ∈ root.parts ∧
          (root.within files.current).normalise.parts <+: place)) := by
  obtain ⟨path, roots, places, place, content, size, ⟨hpath, -, htraversal⟩, hroots, hplaces, hplace, hwithin,
    hcontent, rfl⟩ := success_iff.1 ⟨h, hs⟩
  obtain ⟨name, e, bytes, cs, hname, -, -, -, hread, he, hcs, rfl, rfl⟩ := contentOf_eq_ok.1 hcontent
  obtain rfl := realPlace_eq_ok hplace
  obtain ⟨place, hreal, hlocates, hentry⟩ :=
    locates_of_read_realPath habs hcurrent (not_mem_parts_of_hasTraversal htraversal) hread
  obtain ⟨top, htop, hbelow⟩ := List.any_eq_true.1 hwithin
  obtain ⟨root, hallows, rfl⟩ := exists_allows_of_mem hroots hplaces htop
  rw [hreal] at hbelow
  refine ⟨path, place, bytes, name, e, cs, root, hpath, fun hup => ?_, hlocates, hlocates.canonical, hentry, hname, he,
    hcs, by rw [hname], hallows, above_of_isBelow habs hcurrent hlocates.canonical hbelow⟩
  cases htraversal.symm.trans (hasTraversal_of_hasUpward hup)

theorem ofName?_utf8 : Text.Encoding.ofName? "utf-8" = some .utf8 := by
  have hname : Text.Encoding.normalise "utf-8" = "utf_8" := by cbv
  rw [Text.Encoding.ofName?, hname, Text.Encoding.all, Text.Encoding.basic]
  rfl

/-- A directory of a file, and a link to the directory. -/
def linked : FileTree :=
  .within (.ofText "/r") [(["data", "f"], .file [0x68, 0x69]), (["link"], .link "data")]

theorem confined_of_linked : ∃ r place bytes,
    perform linked [.ofText "/r/data"] [(.text "path", .text "/r/link/f")] = .ok r ∧ r.success = true ∧
    linked.Locates (.ofText "/r/link/f") place ∧ linked.entry? place = some (.file bytes) := by
  have hcontent : contentOf linked ⟨"/", ["r", "data", "f"]⟩ (.text "utf-8") = .ok ("hi", 2) :=
    contentOf_eq_ok.2 ⟨"utf-8", .utf8, [0x68, 0x69], ['h', 'i'], rfl, by cbv, by simp, by cbv, by cbv, ofName?_utf8,
      by cbv, rfl, rfl⟩
  obtain ⟨r, h⟩ : ∃ r, perform linked [.ofText "/r/data"] [(.text "path", .text "/r/link/f")] = .ok r ∧
      r.success = true :=
    ⟨_, success_iff.2 ⟨"/r/link/f", [.ok (.ofText "/r/data")], [⟨"/", ["r", "data"]⟩], ⟨"/", ["r", "data", "f"]⟩,
      "hi", 2, ⟨rfl, by cbv, by cbv⟩, rfl, by cbv, by cbv, by decide, hcontent, rfl⟩⟩
  obtain ⟨path, place, bytes, name, e, cs, root, hpath, -, hplace, -, he, -⟩ :=
    confined_of_perform (by decide) (by decide) h.1 h.2
  cases hpath
  exact ⟨_, place, bytes, h.1, h.2, hplace, he⟩

/-- A link that leads out of its directory, beside the directory of a file. -/
def detour : FileTree :=
  .within (.ofText "/r") [(["b", "sub", "g"], .file []), (["a", "dir", "f"], .file [0x68, 0x69]),
    (["a", "link"], .link "/r/b/sub")]

/-- The only directory that is allowed leads nowhere, and yet a file is read. -/
theorem reads_of_detour : ∃ r,
    perform detour [.ofText "/r/a/link/../dir"] [(.text "path", .text "/r/a/dir/f")] = .ok r ∧ r.success = true ∧
    ∀ root, Allows [.ofText "/r/a/link/../dir"] .null root → ∀ top, ¬ detour.Locates root top := by
  have hcontent : contentOf detour ⟨"/", ["r", "a", "dir", "f"]⟩ (.text "utf-8") = .ok ("hi", 2) :=
    contentOf_eq_ok.2 ⟨"utf-8", .utf8, [0x68, 0x69], ['h', 'i'], rfl, by cbv, by simp, by cbv, by cbv, ofName?_utf8,
      by cbv, rfl, rfl⟩
  obtain ⟨r, h⟩ : ∃ r, perform detour [.ofText "/r/a/link/../dir"] [(.text "path", .text "/r/a/dir/f")] = .ok r ∧
      r.success = true :=
    ⟨_, success_iff.2 ⟨"/r/a/dir/f", [.ok (.ofText "/r/a/link/../dir")], [⟨"/", ["r", "a", "dir"]⟩],
      ⟨"/", ["r", "a", "dir", "f"]⟩, "hi", 2, ⟨rfl, by cbv, by cbv⟩, rfl, by cbv, by cbv, by decide, hcontent, rfl⟩⟩
  refine ⟨_, h.1, h.2, fun root hroot top htop => ?_⟩
  cases hroot with
  | usual _ hp =>
    obtain rfl := List.mem_singleton.1 hp
    have hnone : detour.resolve (.ofText "/r/a/link/../dir") = .error .notFound := by cbv
    cases hnone.symm.trans (FileTree.resolve_eq_ok_iff.2 htop)
  | named hg => cases hg

end FileRead

end Workflow
