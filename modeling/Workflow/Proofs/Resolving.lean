import Mathlib.Data.List.Basic
import Mathlib.Data.List.Nodup
import Mathlib.Data.List.Perm.Subperm
import Workflow.Files

/-!
# Where paths lead

The segments of a path lead from place to place (`FileTree.Reaches`): up for a segment `..`, into an entry,
or along a link. A path is resolved just to the place that its segments reach (`resolve_eq_ok_iff`), which has
neither links nor segments `..` in it (`Reaches.canonical`); as long as links name one another without a circle,
as many as there are entries, one within the other, are enough (`enter_of_enter`). A file that can be read is
where its path leads (`reaches_of_read`).
-/

namespace Workflow.FileTree

variable {t : FileTree} {here place goal mid todo more : List String} {part : String} {d d' : Nat}

/-- The segments `todo` lead from the place `here` to the place `goal`. -/
inductive Reaches (t : FileTree) : List String → List String → List String → Prop where
  | here (place : List String) : Reaches t place [] place
  | up {here todo goal : List String} (h : Reaches t here.dropLast todo goal) : Reaches t here (".." :: todo) goal
  | into {here todo goal : List String} {part : String} {e : FileEntry} (hup : part ≠ "..")
    (hlen : part.utf8ByteSize ≤ nameLimit) (he : t.entry? (here ++ [part]) = some e)
    (hlink : ∀ target, e ≠ .link target) (h : Reaches t (here ++ [part]) todo goal) :
    Reaches t here (part :: todo) goal
  | along {here todo goal : List String} {part target : String} (hup : part ≠ "..")
    (hlen : part.utf8ByteSize ≤ nameLimit) (he : t.entry? (here ++ [part]) = some (.link target))
    (h : Reaches t (if (FilePath.ofText target).isAbsolute then [] else here)
      ((FilePath.ofText target).parts ++ todo) goal) : Reaches t here (part :: todo) goal

/-- On the way to a place, and at it, stand entries that are no links; no segment of it is `..`. -/
def Canonical (t : FileTree) (place : List String) : Prop :=
  ∀ front part rest, place = front ++ part :: rest → part ≠ ".." ∧ part.utf8ByteSize ≤ nameLimit ∧
    ∃ e, t.entry? (front ++ [part]) = some e ∧ ∀ target, e ≠ .link target

/-- A path leads to a place. -/
def Locates (t : FileTree) (p : FilePath) (place : List String) : Prop :=
  t.Reaches [] (p.within t.current).parts place

/-! ### Places -/

theorem canonical_nil : t.Canonical [] := fun front part rest h => by simp at h

theorem Canonical.of_prefix (h : t.Canonical place) (hp : goal <+: place) : t.Canonical goal := by
  obtain ⟨tail, rfl⟩ := hp
  rintro front part rest rfl
  exact h front part (rest ++ tail) (by rw [List.append_assoc, List.cons_append])

theorem Canonical.dropLast (h : t.Canonical place) : t.Canonical place.dropLast :=
  h.of_prefix (List.dropLast_prefix place)

theorem Canonical.concat {e : FileEntry} (h : t.Canonical here) (hup : part ≠ "..")
    (hlen : part.utf8ByteSize ≤ nameLimit) (he : t.entry? (here ++ [part]) = some e)
    (hlink : ∀ target, e ≠ .link target) : t.Canonical (here ++ [part]) := by
  intro front p rest heq
  rcases List.eq_nil_or_concat' rest with rfl | ⟨rest, last, rfl⟩
  · obtain ⟨rfl, hlast⟩ := List.append_inj' heq rfl
    obtain rfl := List.singleton_inj.1 hlast
    exact ⟨hup, hlen, e, he, hlink⟩
  · rw [← List.cons_append, ← List.append_assoc] at heq
    exact h front p rest (List.append_inj' heq rfl).1

/-- What segments lead to from a place without links has none either. -/
theorem Reaches.canonical (h : t.Reaches here todo goal) (hc : t.Canonical here) : t.Canonical goal := by
  induction h with
  | here => exact hc
  | up _ ih => exact ih hc.dropLast
  | into hup hlen he hlink _ ih => exact ih (hc.concat hup hlen he hlink)
  | along _ _ _ _ ih =>
    refine ih ?_
    split
    · exact canonical_nil
    · exact hc

theorem Locates.canonical {p : FilePath} (h : t.Locates p place) : t.Canonical place :=
  Reaches.canonical h canonical_nil

/-- The segments of a place without links lead to it. -/
theorem Canonical.reaches (h : t.Canonical (here ++ todo)) : t.Reaches here todo (here ++ todo) := by
  induction todo generalizing here with
  | nil =>
    rw [List.append_nil]
    exact .here here
  | cons part todo ih =>
    obtain ⟨hup, hlen, e, he, hlink⟩ := h here part todo rfl
    rw [List.append_cons] at h ⊢
    exact .into hup hlen he hlink (ih h)

theorem Reaches.append (h : t.Reaches here todo mid) (hmore : t.Reaches mid more goal) :
    t.Reaches here (todo ++ more) goal := by
  induction h with
  | here => exact hmore
  | up _ ih => exact .up (ih hmore)
  | into hup hlen he hlink _ ih => exact .into hup hlen he hlink (ih hmore)
  | along hup hlen he _ ih =>
    have := ih hmore
    rw [List.append_assoc] at this
    exact .along hup hlen he this

/-! ### Entering a segment -/

theorem enter_up : t.enter d here ".." = .ok here.dropLast := by
  unfold enter
  rfl

theorem enter_of_entry {e : FileEntry} (hup : part ≠ "..") (hlen : part.utf8ByteSize ≤ nameLimit)
    (he : t.entry? (here ++ [part]) = some e) (hlink : ∀ target, e ≠ .link target) :
    t.enter d here part = .ok (here ++ [part]) := by
  unfold enter
  rw [if_neg (by simpa using hup), if_neg (Nat.not_lt.2 hlen), he]
  cases e with
  | link target => exact (hlink target rfl).elim
  | _ => rfl

theorem enter_of_link {target : String} (hup : part ≠ "..") (hlen : part.utf8ByteSize ≤ nameLimit)
    (he : t.entry? (here ++ [part]) = some (.link target)) :
    t.enter (d + 1) here part = (FilePath.ofText target).parts.foldlM (t.enter d)
      (if (FilePath.ofText target).isAbsolute then [] else here) := by
  rw [enter, if_neg (by simpa using hup), if_neg (Nat.not_lt.2 hlen), he]

/-- What entering a segment can come to. -/
theorem enter_cases (h : t.enter d here part = .ok goal) :
    (part = ".." ∧ goal = here.dropLast) ∨
    (part ≠ ".." ∧ part.utf8ByteSize ≤ nameLimit ∧
      ((∃ e, t.entry? (here ++ [part]) = some e ∧ (∀ target, e ≠ .link target) ∧ goal = here ++ [part]) ∨
      ∃ target n, t.entry? (here ++ [part]) = some (.link target) ∧ d = n + 1 ∧
        (FilePath.ofText target).parts.foldlM (t.enter n)
          (if (FilePath.ofText target).isAbsolute then [] else here) = .ok goal)) := by
  by_cases hup : part = ".."
  · subst hup
    rw [enter_up] at h
    exact .inl ⟨rfl, (Except.ok.inj h).symm⟩
  · by_cases hlen : part.utf8ByteSize ≤ nameLimit
    · refine .inr ⟨hup, hlen, ?_⟩
      cases he : t.entry? (here ++ [part]) with
      | none =>
        unfold enter at h
        rw [if_neg (by simpa using hup), if_neg (Nat.not_lt.2 hlen), he] at h
        cases h
      | some e =>
        cases e with
        | link target =>
          cases d with
          | zero =>
            rw [enter, if_neg (by simpa using hup), if_neg (Nat.not_lt.2 hlen), he] at h
            cases h
          | succ n =>
            rw [enter_of_link hup hlen he] at h
            exact .inr ⟨target, n, rfl, rfl, h⟩
        | _ =>
          rw [enter_of_entry hup hlen he nofun] at h
          exact .inl ⟨_, rfl, nofun, (Except.ok.inj h).symm⟩
    · unfold enter at h
      rw [if_neg (by simpa using hup), if_pos (Nat.lt_of_not_le hlen)] at h
      cases h

/-! ### Entering segment after segment -/

section Fold

variable {f g : List String → String → Except FileFault (List String)}

theorem foldlM_cons_eq_ok : (part :: todo).foldlM f here = .ok goal ↔
    ∃ mid, f here part = .ok mid ∧ todo.foldlM f mid = .ok goal := by
  rw [List.foldlM_cons]
  cases f here part <;> simp [bind, Except.bind]

theorem foldlM_append_eq_ok : (todo ++ more).foldlM f here = .ok goal ↔
    ∃ mid, todo.foldlM f here = .ok mid ∧ more.foldlM f mid = .ok goal := by
  rw [List.foldlM_append]
  cases todo.foldlM f here <;> simp [bind, Except.bind]

theorem foldlM_mono (hfg : ∀ here part goal, f here part = .ok goal → g here part = .ok goal)
    (h : todo.foldlM f here = .ok goal) : todo.foldlM g here = .ok goal := by
  induction todo generalizing here with
  | nil => exact h
  | cons part todo ih =>
    obtain ⟨mid, hmid, h⟩ := foldlM_cons_eq_ok.1 h
    exact foldlM_cons_eq_ok.2 ⟨mid, hfg _ _ _ hmid, ih h⟩

theorem reaches_of_foldlM (hf : ∀ here part goal, f here part = .ok goal → t.Reaches here [part] goal)
    (h : todo.foldlM f here = .ok goal) : t.Reaches here todo goal := by
  induction todo generalizing here with
  | nil =>
    cases h
    exact .here _
  | cons part todo ih =>
    obtain ⟨mid, hmid, h⟩ := foldlM_cons_eq_ok.1 h
    exact (hf _ _ _ hmid).append (ih h)

end Fold

/-- What a segment is entered to is reached. -/
theorem reaches_of_enter (h : t.enter d here part = .ok goal) : t.Reaches here [part] goal := by
  induction d generalizing here part goal with
  | zero =>
    rcases enter_cases h with ⟨rfl, rfl⟩ | ⟨hup, hlen, ⟨e, he, hlink, rfl⟩ | ⟨target, n, he, hn, hfold⟩⟩
    · exact .up (.here _)
    · exact .into hup hlen he hlink (.here _)
    · cases hn
  | succ d ih =>
    rcases enter_cases h with ⟨rfl, rfl⟩ | ⟨hup, hlen, ⟨e, he, hlink, rfl⟩ | ⟨target, n, he, hn, hfold⟩⟩
    · exact .up (.here _)
    · exact .into hup hlen he hlink (.here _)
    · cases hn
      have := reaches_of_foldlM (fun _ _ _ => ih) hfold
      exact .along hup hlen he (by rwa [List.append_nil])

/-- More depth does no harm. -/
theorem enter_succ (h : t.enter d here part = .ok goal) : t.enter (d + 1) here part = .ok goal := by
  induction d generalizing here part goal with
  | zero =>
    rcases enter_cases h with ⟨rfl, rfl⟩ | ⟨hup, hlen, ⟨e, he, hlink, rfl⟩ | ⟨target, n, he, hn, hfold⟩⟩
    · exact enter_up
    · exact enter_of_entry hup hlen he hlink
    · cases hn
  | succ d ih =>
    rcases enter_cases h with ⟨rfl, rfl⟩ | ⟨hup, hlen, ⟨e, he, hlink, rfl⟩ | ⟨target, n, he, hn, hfold⟩⟩
    · exact enter_up
    · exact enter_of_entry hup hlen he hlink
    · cases hn
      rw [enter_of_link hup hlen he]
      exact foldlM_mono (fun _ _ _ => ih) hfold

theorem enter_mono (hd : d ≤ d') (h : t.enter d here part = .ok goal) : t.enter d' here part = .ok goal := by
  induction hd with
  | refl => exact h
  | step _ ih => exact enter_succ ih

/-- What is reached is entered to, with enough depth. -/
theorem exists_depth_of_reaches (h : t.Reaches here todo goal) : ∃ d, todo.foldlM (t.enter d) here = .ok goal := by
  induction h with
  | here => exact ⟨0, rfl⟩
  | up _ ih =>
    obtain ⟨d, h⟩ := ih
    exact ⟨d, foldlM_cons_eq_ok.2 ⟨_, enter_up, h⟩⟩
  | into hup hlen he hlink _ ih =>
    obtain ⟨d, h⟩ := ih
    exact ⟨d, foldlM_cons_eq_ok.2 ⟨_, enter_of_entry hup hlen he hlink, h⟩⟩
  | along hup hlen he _ ih =>
    obtain ⟨d, h⟩ := ih
    obtain ⟨mid, hmid, h⟩ := foldlM_append_eq_ok.1 h
    refine ⟨d + 1, foldlM_cons_eq_ok.2 ⟨mid, ?_, foldlM_mono (fun _ _ _ => enter_succ) h⟩⟩
    rw [enter_of_link hup hlen he]
    exact hmid

/-! ### How deep links name links -/

/-- A segment can be entered at the depth `d + 1`, but not at the depth `d`. -/
def Needs (t : FileTree) (d : Nat) (here : List String) (part : String) : Prop :=
  (∃ goal, t.enter (d + 1) here part = .ok goal) ∧ ∀ goal, t.enter d here part ≠ .ok goal

/-- Only a link needs depth. -/
theorem Needs.mem_entries (h : t.Needs d here part) : here ++ [part] ∈ t.entries.map Prod.fst := by
  obtain ⟨⟨goal, hgoal⟩, hno⟩ := h
  rcases enter_cases hgoal with ⟨rfl, rfl⟩ | ⟨hup, hlen, ⟨e, he, hlink, rfl⟩ | ⟨target, n, he, -, -⟩⟩
  · exact (hno _ enter_up).elim
  · exact (hno _ (enter_of_entry hup hlen he hlink)).elim
  · unfold entry? at he
    split at he
    next place e hfind =>
      have hplace := List.find?_some hfind
      rw [← beq_iff_eq.1 hplace]
      exact List.mem_map_of_mem (f := Prod.fst) (List.mem_of_find?_eq_some hfind)
    next => split at he <;> cases he

/-- One of the segments needs the depth that all of them need. -/
theorem exists_needs_of_foldlM (h : todo.foldlM (t.enter (d + 1)) here = .ok goal)
    (hno : ∀ goal, todo.foldlM (t.enter d) here ≠ .ok goal) : ∃ here part, t.Needs d here part := by
  induction todo generalizing here with
  | nil => exact (hno here rfl).elim
  | cons part todo ih =>
    obtain ⟨mid, hmid, h⟩ := foldlM_cons_eq_ok.1 h
    by_cases hd : ∃ goal, t.enter d here part = .ok goal
    · obtain ⟨mid', hmid'⟩ := hd
      obtain rfl := Except.ok.inj (hmid.symm.trans (enter_succ hmid'))
      exact ih h fun goal hgoal => hno goal (foldlM_cons_eq_ok.2 ⟨mid, hmid', hgoal⟩)
    · exact ⟨here, part, ⟨mid, hmid⟩, fun goal hgoal => hd ⟨goal, hgoal⟩⟩

theorem Needs.pred (h : t.Needs (d + 1) here part) : ∃ here part, t.Needs d here part := by
  obtain ⟨⟨goal, hgoal⟩, hno⟩ := h
  rcases enter_cases hgoal with ⟨rfl, rfl⟩ | ⟨hup, hlen, ⟨e, he, hlink, rfl⟩ | ⟨target, n, he, hn, hfold⟩⟩
  · exact (hno _ enter_up).elim
  · exact (hno _ (enter_of_entry hup hlen he hlink)).elim
  · cases hn
    exact exists_needs_of_foldlM hfold fun goal h => hno goal (by rw [enter_of_link hup hlen he, h])

theorem Needs.exists_of_le (h : t.Needs d here part) {n : Nat} (hn : n ≤ d) : ∃ here part, t.Needs n here part := by
  induction d generalizing here part with
  | zero =>
    obtain rfl := Nat.le_zero.1 hn
    exact ⟨here, part, h⟩
  | succ d ih =>
    rcases Nat.le_succ_iff.1 hn with hn | rfl
    · obtain ⟨here, part, h⟩ := h.pred
      exact ih h hn
    · exact ⟨here, part, h⟩

/-- Segments that need different depths stand at different places. -/
theorem Needs.eq (h : t.Needs d here part) (h' : t.Needs d' here part) : d = d' := by
  rcases Nat.lt_trichotomy d d' with hlt | heq | hlt
  · obtain ⟨goal, hgoal⟩ := h.1
    exact (h'.2 goal (enter_mono hlt hgoal)).elim
  · exact heq
  · obtain ⟨goal, hgoal⟩ := h'.1
    exact (h.2 goal (enter_mono hlt hgoal)).elim

/-- For every depth up to a needed one there is a link, and they are all different. -/
theorem Needs.lt_entries (h : t.Needs d here part) : d < t.entries.length := by
  have hchoice : ∀ n : Nat, ∃ place : List String, n ≤ d → ∃ here part, place = here ++ [part] ∧ t.Needs n here part := by
    intro n
    by_cases hn : n ≤ d
    · obtain ⟨here, part, h⟩ := h.exists_of_le hn
      exact ⟨here ++ [part], fun _ => ⟨here, part, rfl, h⟩⟩
    · exact ⟨[], fun h => (hn h).elim⟩
  choose place hplace using hchoice
  have hnodup : ((List.range (d + 1)).map place).Nodup := by
    refine List.Nodup.map_on (fun m hm n hn heq => ?_) List.nodup_range
    obtain ⟨here, part, hm', hm⟩ := hplace m (Nat.lt_succ_iff.1 (List.mem_range.1 hm))
    obtain ⟨here', part', hn', hn⟩ := hplace n (Nat.lt_succ_iff.1 (List.mem_range.1 hn))
    obtain ⟨rfl, hpart⟩ := List.append_inj' (hm'.symm.trans (heq.trans hn')) rfl
    obtain rfl := List.singleton_inj.1 hpart
    exact hm.eq hn
  have hsub : (List.range (d + 1)).map place ⊆ t.entries.map Prod.fst := by
    intro p hp
    obtain ⟨n, hn, rfl⟩ := List.mem_map.1 hp
    obtain ⟨here, part, heq, h⟩ := hplace n (Nat.lt_succ_iff.1 (List.mem_range.1 hn))
    rw [heq]
    exact h.mem_entries
  have hlen := (hnodup.subperm hsub).length_le
  rwa [List.length_map, List.length_map, List.length_range] at hlen

/-- As many links as there are entries, one within the other, are enough. -/
theorem enter_of_enter (h : t.enter d here part = .ok goal) : t.enter t.entries.length here part = .ok goal := by
  by_cases hd : d ≤ t.entries.length
  · exact enter_mono hd h
  · induction d with
    | zero => exact (hd (Nat.zero_le _)).elim
    | succ d ih =>
      by_cases hgoal : ∃ goal, t.enter d here part = .ok goal
      · obtain ⟨goal', hgoal'⟩ := hgoal
        obtain rfl := Except.ok.inj (h.symm.trans (enter_succ hgoal'))
        by_cases hle : d ≤ t.entries.length
        · exact enter_mono hle hgoal'
        · exact ih hgoal' hle
      · have := Needs.lt_entries ⟨⟨goal, h⟩, fun goal h => hgoal ⟨goal, h⟩⟩
        omega

/-! ### Resolved paths -/

/-- A path is resolved to the place it leads to, and only if it leads to one. -/
theorem resolve_eq_ok_iff {p : FilePath} : t.resolve p = .ok ⟨"/", place⟩ ↔ t.Locates p place := by
  have hfold : t.resolve p = .ok ⟨"/", place⟩ ↔
      (p.within t.current).parts.foldlM (t.enter t.entries.length) [] = .ok place := by
    unfold resolve
    cases (p.within t.current).parts.foldlM (t.enter t.entries.length) [] <;> simp [Except.map]
  rw [hfold]
  constructor
  · exact fun h => reaches_of_foldlM (fun _ _ _ => reaches_of_enter) h
  · intro h
    obtain ⟨d, hd⟩ := exists_depth_of_reaches h
    exact foldlM_mono (fun _ _ _ => enter_of_enter) hd

theorem root_of_resolve {p q : FilePath} (h : t.resolve p = .ok q) : q.root = "/" := by
  unfold resolve at h
  cases hfold : (p.within t.current).parts.foldlM (t.enter t.entries.length) [] with
  | error e =>
    rw [hfold] at h
    cases h
  | ok place =>
    rw [hfold] at h
    cases h
    rfl

/-! ### Opened files -/

/-- What a walk comes to is reached, whatever it may cost. -/
theorem reaches_of_walk {fuel links : Nat} (h : t.walk fuel links here todo = .ok goal) :
    t.Reaches here todo goal := by
  fun_induction walk t fuel links here todo with
  | case2 fuel links here =>
    cases h
    exact .here _
  | case3 fuel links here part todo hup ih =>
    obtain rfl := beq_iff_eq.1 hup
    exact .up (ih h)
  | case6 fuel links here part todo hup hlen he ih =>
    exact .into (by simpa using hup) (Nat.not_lt.1 hlen) he nofun (ih h)
  | case7 fuel links here part todo hup hlen bytes he hlast =>
    obtain rfl := List.isEmpty_iff.1 hlast
    cases h
    exact .into (by simpa using hup) (Nat.not_lt.1 hlen) he nofun (.here _)
  | case10 fuel here part todo hup hlen target he links p ih =>
    exact .along (by simpa using hup) (Nat.not_lt.1 hlen) he (ih h)
  | _ => cases h

theorem Locates.unique {p : FilePath} (h : t.Locates p place) (h' : t.Locates p goal) : place = goal := by
  have := (resolve_eq_ok_iff.2 h).symm.trans (resolve_eq_ok_iff.2 h')
  injection this with this
  injection this

/-- A place without links is where its own path leads. -/
theorem Canonical.locates {root : String} (h : t.Canonical place) (hroot : root ≠ "") : t.Locates ⟨root, place⟩ place := by
  have habs : FilePath.isAbsolute ⟨root, place⟩ = true := bne_iff_ne.2 hroot
  rw [Locates, FilePath.within, if_pos habs]
  exact (Canonical.reaches h : t.Reaches [] place ([] ++ place))

/-- A file that can be read stands where its path leads. -/
theorem locates_of_read {p : FilePath} {bytes : List UInt8} (h : t.read p = .ok bytes) :
    ∃ place, t.Locates p place ∧ t.entry? place = some (.file bytes) := by
  unfold read at h
  split at h
  next => cases h
  next place hplace =>
    refine ⟨place, reaches_of_walk hplace, ?_⟩
    split at h
    next he =>
      cases h
      exact he
    all_goals cases h

end Workflow.FileTree
