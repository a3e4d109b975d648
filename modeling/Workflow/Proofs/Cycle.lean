import Workflow.Proofs.Digraph

/-!
# The search for cycles

`hasCycle` tells whether following the edges leads from some vertex back to it (`hasCycle_iff`). While
the search goes on, the way to the current vertex follows the edges (`Frames`), so that an edge back to
it closes a cycle; and from what was visited and is off the way no edge leads anywhere else
(`Explored`), so that no cycle passes there.
-/

namespace Workflow.Digraph

variable {α : Type} [DecidableEq α] {V : List α} {E : List (α × α)} {visited : List α}
  {way : List (α × List α)} {v w : α} {ws : List α}

/-! ### What holds during the search -/

/-- A vertex on the way, with its targets that are still to be looked at, and the way to it. -/
structure Frame (E : List (α × α)) (visited : List α) (v : α) (ws : List α) (way : List (α × List α)) :
    Prop where
  seen : v ∈ visited
  new : v ∉ way.map Prod.fst
  left : ∀ w ∈ ws, (v, w) ∈ E
  looked : ∀ b, (v, b) ∈ E → b ∈ ws ∨ b ∈ visited ∧ b ∉ v :: way.map Prod.fst
  leads : ∀ u ∈ way.map Prod.fst, Leads E u v

/-- Every vertex on the way is led to by those before it. -/
def Frames (E : List (α × α)) (visited : List α) : List (α × List α) → Prop
  | [] => True
  | (v, ws) :: way => Frame E visited v ws way ∧ Frames E visited way

/-- From what was visited and is off the way the edges lead to nothing else, and never back. -/
structure Explored (E : List (α × α)) (visited : List α) (way : List (α × List α)) : Prop where
  closed : ∀ a ∈ visited, a ∉ way.map Prod.fst → ∀ b, (a, b) ∈ E → b ∈ visited ∧ b ∉ way.map Prod.fst
  acyclic : ∀ a ∈ visited, a ∉ way.map Prod.fst → ¬ Leads E a a

omit [DecidableEq α] in
theorem Frames.mono : ∀ {way : List (α × List α)}, Frames E visited way → Frames E (w :: visited) way
  | [], _ => trivial
  | (_, _) :: _, ⟨h, hs⟩ =>
    ⟨{ h with
        seen := List.mem_cons_of_mem _ h.seen
        looked := fun b hb => (h.looked b hb).imp_right (And.imp_left (List.mem_cons_of_mem _)) },
      hs.mono⟩

omit [DecidableEq α] in
/-- A vertex that comes to the way is not off the way. -/
theorem Explored.push (h : Explored E visited way) (hw : w ∉ visited) :
    Explored E (w :: visited) ((w, ws) :: way) := by
  have hold : ∀ a ∈ w :: visited, a ∉ ((w, ws) :: way).map Prod.fst →
      a ∈ visited ∧ a ∉ way.map Prod.fst := fun a ha hn => by
    rw [List.map_cons, List.mem_cons, not_or] at hn
    exact ⟨(List.mem_cons.1 ha).resolve_left hn.1, hn.2⟩
  refine ⟨fun a ha hn b hb => ?_, fun a ha hn => h.acyclic a (hold a ha hn).1 (hold a ha hn).2⟩
  obtain ⟨hbv, hbw⟩ := h.closed a (hold a ha hn).1 (hold a ha hn).2 b hb
  refine ⟨List.mem_cons_of_mem _ hbv, ?_⟩
  rintro (_ | ⟨_, hbw'⟩)
  · exact hw hbv
  · exact hbw hbw'

omit [DecidableEq α] in
/-- What the edges lead to from off the way is off the way. -/
theorem Explored.leads (h : Explored E visited way) {a b : α} (ha : a ∈ visited)
    (hn : a ∉ way.map Prod.fst) (hab : Leads E a b) : b ∈ visited ∧ b ∉ way.map Prod.fst := by
  induction hab with
  | single hb => exact h.closed a ha hn _ hb
  | tail _ hb ih => exact h.closed _ ih.1 ih.2 _ hb

omit [DecidableEq α] in
/-- All targets of the current vertex were looked at, and it goes off the way. -/
theorem Explored.pop (h : Explored E visited ((v, []) :: way)) (hf : Frame E visited v [] way) :
    Explored E visited way := by
  have htargets : ∀ b, (v, b) ∈ E → b ∈ visited ∧ b ∉ v :: way.map Prod.fst := fun b hb =>
    (hf.looked b hb).resolve_left List.not_mem_nil
  refine ⟨fun a ha hn b hb => ?_, fun a ha hn hl => ?_⟩
  · by_cases hav : a = v
    · obtain ⟨hbv, hbw⟩ := htargets b (hav ▸ hb)
      exact ⟨hbv, fun hbw' => hbw (List.mem_cons_of_mem _ hbw')⟩
    · obtain ⟨hbv, hbw⟩ := h.closed a ha (List.not_mem_cons_of_ne_of_not_mem hav hn) b hb
      exact ⟨hbv, fun hbw' => hbw (List.mem_cons_of_mem _ hbw')⟩
  · by_cases hav : a = v
    · -- the edges lead from a target of `v` back to `v`, which is on the way
      subst hav
      obtain ⟨b, hb, hba⟩ := Relation.TransGen.head'_iff.1 hl
      obtain ⟨hbv, hbw⟩ := htargets b hb
      rcases Relation.reflTransGen_iff_eq_or_transGen.1 hba with rfl | hba
      · exact hbw List.mem_cons_self
      · exact (h.leads hbv hbw hba).2 List.mem_cons_self
    · exact h.acyclic a ha (List.not_mem_cons_of_ne_of_not_mem hav hn) hl

omit [DecidableEq α] in
/-- A target of the current vertex that is off the way was looked at. -/
theorem Frames.look (hs : Frames E visited ((v, w :: ws) :: way)) (hw : w ∈ visited)
    (hn : w ∉ v :: way.map Prod.fst) : Frames E visited ((v, ws) :: way) := by
  obtain ⟨h, hs⟩ := hs
  refine ⟨{ h with left := fun b hb => h.left b (List.mem_cons_of_mem _ hb), looked := fun b hb => ?_ }, hs⟩
  rcases h.looked b hb with hb | hb
  · rcases List.mem_cons.1 hb with rfl | hb
    · exact .inr ⟨hw, hn⟩
    · exact .inl hb
  · exact .inr hb

omit [DecidableEq α] in
/-- From any vertex on the way the edges lead to a target of the current vertex. -/
theorem Frames.leads (hs : Frames E visited ((v, w :: ws) :: way)) :
    ∀ u ∈ v :: way.map Prod.fst, Leads E u w := by
  obtain ⟨h, -⟩ := hs
  have hvw : (v, w) ∈ E := h.left w List.mem_cons_self
  intro u hu
  rcases List.mem_cons.1 hu with rfl | hu
  · exact .single hvw
  · exact (h.leads u hu).tail hvw

/-! ### Where the search ends -/

theorem looks_erase {l : List α} (h : w ∈ l) :
    looks E l = (targets w E).length + 2 + looks E (l.erase w) := by
  induction l with
  | nil => exact absurd h List.not_mem_nil
  | cons v l ih =>
    by_cases hv : v = w
    · rw [hv, List.erase_cons_head, looks]
    · have hl : w ∈ l := (List.mem_cons.1 h).resolve_left (Ne.symm hv)
      rw [List.erase_cons_tail (by simpa using hv), looks, looks, ih hl]
      omega

/-- The looks that are still to come at the vertices on the way. -/
def looksBack : List (α × List α) → Nat
  | [] => 0
  | (_, ws) :: way => ws.length + 1 + looksBack way

/-- What a search has found: that there is a cycle, or that there is none where it was. -/
def Found (E : List (α × α)) (visited : List α) : Option (List α) → Prop
  | none => ∃ a, Leads E a a
  | some all => visited ⊆ all ∧ Explored E all []

omit [DecidableEq α] in
theorem Found.of_subset {vis : List α} (hv : visited ⊆ vis) :
    ∀ {r : Option (List α)}, Found E vis r → Found E visited r
  | none, h => h
  | some _, h => ⟨List.Subset.trans hv h.1, h.2⟩

theorem search_found (n : Nat) (rest : List α) (hs : Frames E visited way) (hx : Explored E visited way)
    (hV : ∀ p ∈ E, p.2 ∈ V) (hrest : ∀ a ∈ V, a ∈ visited ∨ a ∈ rest) (hn : looksBack way + looks E rest ≤ n) :
    Found E visited (search E n visited way) := by
  induction n generalizing visited way rest with
  | zero =>
    cases way with
    | nil => exact ⟨List.Subset.refl _, hx⟩
    | cons f way => simp [looksBack] at hn
  | succ n ih =>
    match way, hs with
    | [], _ => exact ⟨List.Subset.refl _, hx⟩
    | (v, []) :: way, ⟨hf, hs⟩ =>
      rw [search]
      refine ih rest hs (hx.pop hf) hrest ?_
      simp [looksBack] at hn ⊢
      omega
    | (v, w :: ws) :: way, hs =>
      have hvw : (v, w) ∈ E := hs.1.left w List.mem_cons_self
      rw [search]
      by_cases hw : w ∈ v :: way.map Prod.fst
      · rw [if_pos hw]
        exact ⟨w, hs.leads w hw⟩
      · rw [if_neg hw]
        have hx' : Explored E visited ((v, ws) :: way) := ⟨hx.closed, hx.acyclic⟩
        by_cases hv : w ∈ visited
        · rw [if_pos hv]
          refine ih rest (hs.look hv hw) hx' hrest ?_
          simp [looksBack] at hn ⊢
          omega
        · rw [if_neg hv]
          have hwr : w ∈ rest := (hrest w (hV _ hvw)).resolve_left hv
          have hframe : Frame E (w :: visited) w (targets w E) ((v, ws) :: way) :=
            ⟨List.mem_cons_self, hw, fun b => mem_targets.1, fun b hb => .inl (mem_targets.2 hb), hs.leads⟩
          have hframes : Frames E (w :: visited) ((w, targets w E) :: (v, ws) :: way) :=
            ⟨hframe, hs.mono.look List.mem_cons_self hw⟩
          refine (ih (rest.erase w) hframes (hx'.push hv) (fun a ha => ?_) ?_).of_subset
            (List.subset_cons_self _ _)
          · by_cases haw : a = w
            · exact .inl (haw ▸ List.mem_cons_self)
            · exact (hrest a ha).imp (List.mem_cons_of_mem _) (List.mem_erase_of_ne haw).2
          · rw [looks_erase hwr] at hn
            simp [looksBack] at hn ⊢
            omega

theorem searchAll_iff (hV : ∀ p ∈ E, p.2 ∈ V) {roots : List α} (hr : roots ⊆ V)
    (hroots : ∀ a ∈ V, a ∈ visited ∨ a ∈ roots) (hx : Explored E visited []) :
    searchAll E (looks E V) roots visited = true ↔ ∃ v, Leads E v v := by
  induction roots generalizing visited with
  | nil =>
    refine iff_of_false (by simp [searchAll]) ?_
    rintro ⟨v, hv⟩
    obtain ⟨u, -, huv⟩ := Relation.TransGen.tail'_iff.1 hv
    have hvis := (hroots v (hV _ huv)).resolve_right List.not_mem_nil
    exact hx.acyclic v hvis List.not_mem_nil hv
  | cons root roots ih =>
    obtain ⟨hrV, hr⟩ := List.cons_subset.1 hr
    rw [searchAll]
    by_cases hroot : root ∈ visited
    · rw [if_pos hroot]
      refine ih hr (fun a ha => (hroots a ha).elim .inl fun h => ?_) hx
      rcases List.mem_cons.1 h with rfl | h
      · exact .inl hroot
      · exact .inr h
    · rw [if_neg hroot]
      have hframe : Frame E (root :: visited) root (targets root E) [] :=
        ⟨List.mem_cons_self, List.not_mem_nil, fun b => mem_targets.1,
          fun b hb => .inl (mem_targets.2 hb), by simp⟩
      have hfound : Found E (root :: visited)
          (search E (looks E V) (root :: visited) [(root, targets root E)]) := by
        refine search_found _ (V.erase root) ⟨hframe, trivial⟩ (hx.push hroot) hV (fun a ha => ?_) ?_
        · by_cases har : a = root
          · exact .inl (har ▸ List.mem_cons_self)
          · exact .inr ((List.mem_erase_of_ne har).2 ha)
        · rw [looks_erase hrV]
          simp [looksBack]
      revert hfound
      cases search E (looks E V) (root :: visited) [(root, targets root E)] with
      | none => exact fun hfound => iff_of_true rfl hfound
      | some all =>
        rintro ⟨hsub, hx'⟩
        refine ih hr (fun a ha => ?_) hx'
        rcases hroots a ha with h | h
        · exact .inl (hsub (List.mem_cons_of_mem _ h))
        · rcases List.mem_cons.1 h with rfl | h
          · exact .inl (hsub List.mem_cons_self)
          · exact .inr h

/-- `hasCycle` tells whether following the edges leads from some vertex back to it. -/
theorem hasCycle_iff {vs : List α} {es : List (α × α)} :
    hasCycle vs es = true ↔ ∃ v, Leads es v v := by
  refine searchAll_iff (fun p hp => mem_firstPlaces.2 (List.mem_append_right _ ?_)) (List.Subset.refl _)
    (fun a ha => .inr ha) ⟨by simp, by simp⟩
  exact List.mem_flatMap.2 ⟨p, hp, by simp⟩

end Workflow.Digraph
