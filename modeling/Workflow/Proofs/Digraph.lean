import Mathlib.Data.Set.Finite.List
import Mathlib.Data.List.Nodup
import Mathlib.Logic.Relation
import Mathlib.Order.WellFounded
import Workflow.Digraph

/-!
# What `arrange` lists

`arrange_spec`: the list has no repetitions, every vertex of it comes after the sources of its edges,
and a vertex is left out only if an edge leads to it from a vertex outside the list. So nothing is
left out unless following the edges leads from some vertex back to it (`Arrangement.exists_cycle`).

The invariant of the listing is `Frontier`: each counter is the number of edges, parallel ones counted
one by one, that lead to its vertex from vertices that are not listed yet, and those that are at zero
wait in the queue, each once.
-/

namespace Workflow.Digraph

variable {α : Type} [DecidableEq α] {V : List α} {E : List (α × α)}

/-! ### First and last places -/

/-- The members of a list without repetitions, each in its last place. -/
def lastPlaces : List α → List α
  | [] => []
  | a :: rest => if a ∈ rest then lastPlaces rest else a :: lastPlaces rest

theorem mem_lastPlaces : ∀ {l : List α} {a : α}, a ∈ lastPlaces l ↔ a ∈ l
  | [], a => by simp [lastPlaces]
  | b :: l, a => by
    rw [lastPlaces]
    split
    next h => rw [mem_lastPlaces, List.mem_cons]; exact ⟨.inr, fun h' => h'.elim (· ▸ h) id⟩
    next => simp [mem_lastPlaces]

theorem nodup_lastPlaces : ∀ l : List α, (lastPlaces l).Nodup
  | [] => by simp [lastPlaces]
  | b :: l => by
    rw [lastPlaces]
    split
    next => exact nodup_lastPlaces l
    next h => exact List.nodup_cons.2 ⟨mt mem_lastPlaces.1 h, nodup_lastPlaces l⟩

theorem firstPlaces_append (l m : List α) :
    firstPlaces (l ++ m) = m.foldl (fun seen a => if a ∈ seen then seen else seen ++ [a])
      (firstPlaces l) := by
  simp [firstPlaces, List.foldl_append]

theorem firstPlaces_concat (l : List α) (a : α) :
    firstPlaces (l ++ [a]) = if a ∈ firstPlaces l then firstPlaces l else firstPlaces l ++ [a] := by
  rw [firstPlaces_append]; rfl

theorem mem_firstPlaces {l : List α} {a : α} : a ∈ firstPlaces l ↔ a ∈ l := by
  induction l using List.reverseRecOn with
  | nil => simp [firstPlaces]
  | append_singleton l b ih =>
    rw [firstPlaces_concat]
    split
    next h =>
      rw [ih, List.mem_append, List.mem_singleton]
      refine ⟨.inl, ?_⟩
      rintro (ha | rfl)
      · exact ha
      · exact ih.1 h
    next => simp [ih]

theorem nodup_firstPlaces (l : List α) : (firstPlaces l).Nodup := by
  induction l using List.reverseRecOn with
  | nil => simp [firstPlaces]
  | append_singleton l b ih =>
    rw [firstPlaces_concat]
    split
    next => exact ih
    next h => exact List.nodup_append.2 ⟨ih, by simp, by rintro a ha _ hb rfl; simp at hb; exact h (hb ▸ ha)⟩

theorem firstPlaces_of_nodup {l : List α} (h : l.Nodup) : firstPlaces l = l := by
  induction l using List.reverseRecOn with
  | nil => rfl
  | append_singleton l b ih =>
    obtain ⟨hl, -, hb⟩ := List.nodup_append.1 h
    rw [firstPlaces_concat, ih hl, if_neg fun hmem => hb b hmem b (by simp) rfl]

/-! ### Taking edges away -/

theorem mem_targets {v b : α} : b ∈ targets v E ↔ (v, b) ∈ E := by
  simp [targets]

/-- The edges that lead to `b` from vertices that are not listed yet. -/
def pending (E : List (α × α)) (done : List α) (b : α) : Nat :=
  E.countP fun p => p.2 = b ∧ p.1 ∉ done

theorem inDegree_eq (v : α) : inDegree E v = pending E [] v := by simp [inDegree, pending]

theorem pending_eq_zero {done : List α} {b : α} :
    pending E done b = 0 ↔ ∀ a, (a, b) ∈ E → a ∈ done := by
  simp only [pending, List.countP_eq_zero, decide_eq_true_eq, not_and, not_not]
  exact ⟨fun h a hab => h (a, b) hab rfl, fun h p hp hb => h p.1 (hb ▸ hp)⟩

/-- Listing `v` takes each edge from `v` to `b` away, parallel ones too. -/
theorem pending_concat {done : List α} {v : α} (hv : v ∉ done) (b : α) :
    pending E done b = pending E (done ++ [v]) b + (targets v E).count b := by
  rw [pending, List.countP_eq_countP_filter_add _ _ fun p => p.1 = v, Nat.add_comm]
  congr 1
  · rw [List.countP_filter, pending]
    refine List.countP_congr fun p _ => ?_
    simp [and_assoc]
  · rw [targets, List.count, List.countP_map]
    refine List.countP_congr fun p hp => ?_
    have hpv : p.1 = v := by simpa using (List.mem_filter.1 hp).2
    simp [hpv, hv]

namespace Remainder

variable {r : Remainder α} {ts : List α} {b : α}

theorem degree_release (a : α) :
    (r.release b).degree a = r.degree a - (if b = a then 1 else 0 : Nat) := by
  by_cases ha : a = b
  · simp [release, ha]
  · simp [release, ha, Ne.symm ha]

theorem degree_foldl (a : α) : (ts.foldl release r).degree a = r.degree a - ts.count a := by
  induction ts generalizing r with
  | nil => simp
  | cons b ts ih =>
    rw [List.foldl_cons, ih, degree_release, List.count_cons]
    simp only [beq_iff_eq]
    omega

/-- The vertices whose edges are all taken away become free, each once, when its last edge goes. -/
theorem free_foldl (h : ∀ b, ts.count b ≤ r.degree b) :
    (ts.foldl release r).free = r.free ++ (lastPlaces ts).filter fun b => r.degree b = ts.count b := by
  induction ts generalizing r with
  | nil => simp [lastPlaces]
  | cons b ts ih =>
    have hcount (a : α) : (b :: ts).count a = ts.count a + (if b = a then 1 else 0 : Nat) := by
      simp [List.count_cons]
    have hdegree (a : α) : (r.release b).degree a = ts.count a ↔ r.degree a = (b :: ts).count a := by
      rw [degree_release, hcount]
      omega
    have hle (a : α) : ts.count a ≤ (r.release b).degree a := by
      have ha := h a
      rw [hcount] at ha
      rw [degree_release]
      omega
    rw [List.foldl_cons, ih hle, lastPlaces]
    simp only [hdegree]
    have hb := h b
    rw [List.count_cons_self] at hb
    by_cases hmem : b ∈ ts
    · -- a parallel edge is left
      have hpos : 0 < ts.count b := List.count_pos_iff.2 hmem
      rw [if_pos hmem, release, if_neg (by omega)]
    · have hzero : ts.count b = 0 := List.count_eq_zero.2 hmem
      rw [if_neg hmem, List.filter_cons, List.count_cons_self, hzero, release]
      by_cases hdeg : r.degree b = 1
      · simp [hdeg]
      · rw [if_neg (by omega), if_neg (by simpa using hdeg)]

end Remainder

/-- What holds while free vertices are taken away: `done` has been listed, and `r` is what is left. -/
structure Frontier (V : List α) (E : List (α × α)) (done : List α) (r : Remainder α) : Prop where
  degree : ∀ b, r.degree b = pending E done b
  nodup : (done ++ r.free).Nodup
  subset : ∀ v ∈ done, v ∈ V
  mem_free : ∀ v, v ∈ r.free ↔ v ∈ V ∧ v ∉ done ∧ ∀ a, (a, v) ∈ E → a ∈ done
  sorted : ∀ l₁ b l₂, done = l₁ ++ b :: l₂ → ∀ a, (a, b) ∈ E → a ∈ l₁

/-- What is listed in the end. -/
structure Arrangement (V : List α) (E : List (α × α)) (l : List α) : Prop where
  nodup : l.Nodup
  subset : ∀ v ∈ l, v ∈ V
  /-- A vertex comes after the sources of its edges. -/
  sorted : ∀ l₁ b l₂, l = l₁ ++ b :: l₂ → ∀ a, (a, b) ∈ E → a ∈ l₁
  /-- An edge leads to a vertex that is left out from another one. -/
  blocked : ∀ v ∈ V, v ∉ l → ∃ a, (a, v) ∈ E ∧ a ∉ l

namespace Frontier

variable {done free : List α} {degree : α → Int} {r : Remainder α} {v : α}

theorem start (hV : V.Nodup) :
    Frontier V E [] ⟨fun v => inDegree E v, V.filter (inDegree E · = 0)⟩ := by
  refine ⟨fun b => by simp only [inDegree_eq], by simpa using hV.filter _, by simp, fun v => ?_, by simp⟩
  simp [inDegree_eq, pending_eq_zero]

theorem sources_done (h : Frontier V E done r) {b : α} (hb : b ∈ done) {a : α} (hab : (a, b) ∈ E) :
    a ∈ done := by
  obtain ⟨l₁, l₂, rfl⟩ := List.append_of_mem hb
  exact List.mem_append_left _ (h.sorted l₁ b l₂ rfl a hab)

theorem sorted_concat (h : Frontier V E done ⟨degree, v :: free⟩) :
    ∀ l₁ b l₂, done ++ [v] = l₁ ++ b :: l₂ → ∀ a, (a, b) ∈ E → a ∈ l₁ := by
  intro l₁ b l₂ he a hab
  rcases List.eq_nil_or_concat l₂ with rfl | ⟨l₂, c, rfl⟩
  · obtain ⟨rfl, hv⟩ := List.append_inj' he rfl
    simp only [List.cons.injEq, and_true] at hv
    exact ((h.mem_free v).1 List.mem_cons_self).2.2 a (hv ▸ hab)
  · rw [List.concat_eq_append, ← List.cons_append, ← List.append_assoc] at he
    exact h.sorted l₁ b l₂ (List.append_inj' he rfl).1 a hab

/-- What the counters still have to count down when `v` is listed. -/
theorem degree_eq (h : Frontier V E done ⟨degree, v :: free⟩) (b : α) :
    degree b = pending E (done ++ [v]) b + (targets v E).count b := by
  have hb : degree b = pending E done b := h.degree b
  rw [hb, pending_concat ((h.mem_free v).1 List.mem_cons_self).2.1]
  rfl

theorem free_eq (h : Frontier V E done ⟨degree, v :: free⟩) :
    ((targets v E).foldl Remainder.release ⟨degree, free⟩).free =
      free ++ (lastPlaces (targets v E)).filter fun b => degree b = (targets v E).count b :=
  Remainder.free_foldl fun b => show (targets v E).count b ≤ degree b by
    have hb := h.degree_eq b
    omega

/-- The counter of a vertex comes to zero with the last edge that leads to it. -/
theorem mem_freed (h : Frontier V E done ⟨degree, v :: free⟩) {b : α} :
    b ∈ (lastPlaces (targets v E)).filter (fun b => degree b = (targets v E).count b) ↔
      (v, b) ∈ E ∧ ∀ a, (a, b) ∈ E → a ∈ done ++ [v] := by
  rw [List.mem_filter, mem_lastPlaces, mem_targets, decide_eq_true_eq, h.degree_eq, ← pending_eq_zero]
  exact and_congr_right fun _ => by omega

/-- To a vertex that is listed or free no edge leads from one that is not listed. -/
theorem not_mem_of_edge (h : Frontier V E done ⟨degree, v :: free⟩) {b : α} (hvb : (v, b) ∈ E) :
    b ∉ done ++ [v] ++ free := by
  have hvd : v ∉ done := ((h.mem_free v).1 List.mem_cons_self).2.1
  intro hmem
  rw [List.mem_append, List.mem_append, List.mem_singleton] at hmem
  rcases hmem with (hb | rfl) | hb
  · exact hvd (h.sources_done hb hvb)
  · exact hvd (((h.mem_free b).1 List.mem_cons_self).2.2 b hvb)
  · exact hvd (((h.mem_free b).1 (List.mem_cons_of_mem _ hb)).2.2 v hvb)

/-- Listing the first free vertex. -/
theorem step (hE : ∀ p ∈ E, p.2 ∈ V) (h : Frontier V E done ⟨degree, v :: free⟩) :
    Frontier V E (done ++ [v]) ((targets v E).foldl .release ⟨degree, free⟩) := by
  have hnd : (done ++ [v] ++ free).Nodup := by simpa using h.nodup
  refine ⟨fun b => ?_, ?_, ?_, fun b => ?_, h.sorted_concat⟩
  · have hb := h.degree_eq b
    rw [Remainder.degree_foldl]
    show degree b - (targets v E).count b = pending E (done ++ [v]) b
    omega
  · rw [h.free_eq, ← List.append_assoc]
    exact List.nodup_append.2 ⟨hnd, (nodup_lastPlaces _).filter _,
      fun a ha b hb hab => h.not_mem_of_edge (h.mem_freed.1 hb).1 (hab ▸ ha)⟩
  · simpa [or_imp, forall_and] using ⟨h.subset, ((h.mem_free v).1 List.mem_cons_self).1⟩
  · rw [h.free_eq, List.mem_append, h.mem_freed]
    constructor
    · rintro (hb | ⟨hvb, hsources⟩)
      · obtain ⟨hbV, -, hsources⟩ := (h.mem_free b).1 (List.mem_cons_of_mem _ hb)
        have hbd : b ∉ done ++ [v] := fun hmem => (List.nodup_append.1 hnd).2.2 b hmem b hb rfl
        exact ⟨hbV, hbd, fun a ha => List.mem_append_left _ (hsources a ha)⟩
      · exact ⟨hE _ hvb, fun hmem => h.not_mem_of_edge hvb (List.mem_append_left _ hmem), hsources⟩
    · rintro ⟨hbV, hbd, hsources⟩
      by_cases hvb : (v, b) ∈ E
      · exact .inr ⟨hvb, hsources⟩
      · rw [List.mem_append, List.mem_singleton, not_or] at hbd
        have hold : ∀ a, (a, b) ∈ E → a ∈ done := fun a ha => by
          rcases List.mem_append.1 (hsources a ha) with hd | hd
          · exact hd
          · exact absurd (List.mem_singleton.1 hd ▸ ha) hvb
        exact .inl ((List.mem_cons.1 ((h.mem_free b).2 ⟨hbV, hbd.1, hold⟩)).resolve_left hbd.2)

/-- With no free vertex the listing is at its end. -/
theorem arrangement (h : Frontier V E done ⟨degree, []⟩) : Arrangement V E done := by
  refine ⟨by simpa using h.nodup, h.subset, h.sorted, fun v hv hd => ?_⟩
  by_contra hno
  have hsources : ∀ a, (a, v) ∈ E → a ∈ done := fun a ha => by_contra fun hda => hno ⟨a, ha, hda⟩
  simpa using (h.mem_free v).2 ⟨hv, hd, hsources⟩

/-- When all vertices are listed none is free. -/
theorem free_eq_nil (h : Frontier V E done r) (hV : V.length ≤ done.length) : r.free = [] := by
  refine List.eq_nil_iff_forall_not_mem.2 fun v hv => ?_
  have hsub : done ++ [v] ⊆ V := by
    intro b hb
    rcases List.mem_append.1 hb with hb | hb
    · exact h.subset b hb
    · rw [List.mem_singleton.1 hb]; exact ((h.mem_free v).1 hv).1
  have hnd : (done ++ [v]).Nodup :=
    h.nodup.sublist (List.Sublist.append_left (List.singleton_sublist.2 hv) done)
  have := (List.subperm_of_subset hnd hsub).length_le
  simp at this
  omega

theorem arrangeFrom (hE : ∀ p ∈ E, p.2 ∈ V) (fuel : Nat) (h : Frontier V E done r)
    (hfuel : V.length ≤ fuel + done.length) :
    Arrangement V E (done ++ Digraph.arrangeFrom E fuel r) := by
  induction fuel generalizing done r with
  | zero =>
    obtain ⟨degree, free⟩ := r
    obtain rfl : free = [] := h.free_eq_nil (by omega)
    simpa [Digraph.arrangeFrom] using h.arrangement
  | succ fuel ih =>
    match r with
    | ⟨degree, []⟩ => simpa [Digraph.arrangeFrom] using h.arrangement
    | ⟨degree, v :: free⟩ =>
      have := ih (h.step hE) (by simp; omega)
      rwa [List.append_assoc] at this

end Frontier

theorem arrange_spec (hV : V.Nodup) (hE : ∀ p ∈ E, p.2 ∈ V) : Arrangement V E (arrange V E) :=
  (Frontier.start hV).arrangeFrom hE V.length (by simp)

/-! ### Cycles -/

/-- Following one edge or more. -/
abbrev Leads (E : List (α × α)) : α → α → Prop := Relation.TransGen fun a b => (a, b) ∈ E

namespace Arrangement

variable {l : List α} {v : α}

omit [DecidableEq α] in
/-- If something is left out, then from something left out the edges lead back to it. -/
theorem exists_cycle (h : Arrangement V E l) (hE : ∀ p ∈ E, p.1 ∈ V) (hv : v ∈ V) (hl : v ∉ l) :
    ∃ a, Leads E a a := by
  by_contra hno
  have hno : ∀ a, ¬ Leads E a a := not_exists.1 hno
  let r : {a // a ∈ V} → {a // a ∈ V} → Prop := fun a b => Leads E a.1 b.1
  have : IsTrans _ r := ⟨fun _ _ _ => Relation.TransGen.trans⟩
  have : Std.Irrefl r := ⟨fun a => hno a.1⟩
  have : Finite {a // a ∈ V} := List.finite_toSet V
  have hwf : WellFounded r := Finite.wellFounded_of_trans_of_irrefl r
  obtain ⟨m, hm, hmin⟩ := hwf.has_min {a | a.1 ∉ l} ⟨⟨v, hv⟩, hl⟩
  obtain ⟨a, ha, hal⟩ := h.blocked m.1 m.2 hm
  exact hmin ⟨a, hE _ ha⟩ hal (.single ha)

end Arrangement

end Workflow.Digraph
