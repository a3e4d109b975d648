import Workflow.Proofs.Events
import Workflow.Proofs.Nodes

/-!
# Which nodes are skipped

A step is skipped if and only if no followed edges lead from the trigger to its node, and every other
node is executed (`skipped_iff_of_interleaved`). A run decides on each node when it comes to it, from the
edges that were followed by then (`Decided`). These are all that ever lead to the node, for the sources
of its edges come before it (`Laid.source_before`), so that by induction along the order the decisions
are those of the followed edges as a whole.
-/

namespace Workflow

open Run

variable {g : FlowGraph} {steps pre post : List Step} {followed : List Nat} {rest : List Node} {s : Step}
  {e : Edge} {evs : List Event}

/-- The text of a result. -/
def branchText (b : Bool) : String := if b then "true" else "false"

/-- An edge is followed if its source has succeeded, and is no condition with the result that is
opposite to the branch of the edge. -/
def Followed (g : FlowGraph) (steps : List Step) (e : Edge) : Prop :=
  ∃ s ∈ steps, s.node = e.source ∧ s.status = .success ∧
    ∀ n ∈ g.nodes, n.id = e.source → n.isCondition = true →
      ∀ b, s.output = some (resultText b) → e.branch ≠ .text (branchText !b)

/-- Followed edges lead from one node to another. -/
def Reaches (g : FlowGraph) (steps : List Step) : String → String → Prop :=
  Relation.ReflTransGen fun a b => ∃ e ∈ g.edges, e.source = a ∧ e.target = b ∧ Followed g steps e

/-- A node was executed. -/
def Executed (evs : List Event) (id : String) : Prop := ∃ n o, .executed n o ∈ evs ∧ n.id = id

theorem Executed.append {id : String} {more : List Event} (h : Executed evs id) :
    Executed (evs ++ more) id :=
  h.imp fun _ ⟨o, ho, hid⟩ => ⟨o, List.mem_append_left _ ho, hid⟩

/-! ### What is decided -/

/-- A node is the trigger, or a followed edge leads to it. -/
def Live (g : FlowGraph) (steps : List Step) (id : String) : Prop :=
  (∃ t ∈ g.triggers.take 1, t.id = id) ∨ ∃ e ∈ g.edges, e.target = id ∧ Followed g steps e

/-- Each step is skipped just if its node was not live by then. -/
def Decided (g : FlowGraph) (steps : List Step) : Prop :=
  ∀ pre s post, steps = pre ++ s :: post → (s.status = .skipped ↔ ¬ Live g pre s.node)

theorem Followed.mono {more : List Step} (h : Followed g steps e) (hs : steps ⊆ more) :
    Followed g more e := by
  obtain ⟨s, hmem, hs'⟩ := h
  exact ⟨s, hs hmem, hs'⟩

theorem Live.mono {more : List Step} {id : String} (h : Live g steps id) (hs : steps ⊆ more) :
    Live g more id :=
  h.imp_right fun ⟨e, he, ht, hf⟩ => ⟨e, he, ht, hf.mono hs⟩

theorem followed_concat : Followed g (steps ++ [s]) e ↔ Followed g steps e ∨ Followed g [s] e := by
  simp only [Followed, List.mem_append, or_and_right, exists_or]

theorem Decided.concat (h : Decided g steps) (hs : s.status = .skipped ↔ ¬ Live g steps s.node) :
    Decided g (steps ++ [s]) := by
  intro pre t post heq
  rcases List.eq_nil_or_concat post with rfl | ⟨post, u, rfl⟩
  · obtain ⟨rfl, ht⟩ := List.append_inj' heq rfl
    cases ht
    exact hs
  · refine h pre t post ?_
    rw [List.concat_eq_append, ← List.cons_append, ← List.append_assoc] at heq
    exact (List.append_inj' heq rfl).1

/-! ### Steps along the order -/

/-- The steps follow the order up to some node, and each was decided when it was come to. -/
structure Laid (g : FlowGraph) (steps : List Step) (rest : List Node) : Prop where
  order : ∃ before, g.order = .ok (before ++ rest) ∧ steps.map Step.node = before.map Node.id
  decided : Decided g steps

/-- The next step along the order. -/
theorem Laid.concat {n : Node} (h : Laid g steps (n :: rest)) (hn : s.node = n.id)
    (hs : s.status = .skipped ↔ ¬ Live g steps n.id) : Laid g (steps ++ [s]) rest := by
  obtain ⟨⟨before, ho, hb⟩, hd⟩ := h
  refine ⟨⟨before ++ [n], by simpa using ho, by simp [hb, hn]⟩, hd.concat (hn ▸ hs)⟩

theorem Laid.nodup (h : Laid g steps rest) : (steps.map Step.node).Nodup := by
  obtain ⟨⟨before, ho, hb⟩, -⟩ := h
  have hnd := (FlowGraph.isOrder_of_order ho).nodup
  rw [List.map_append] at hnd
  exact hb ▸ (List.nodup_append.1 hnd).1

/-- The step of the source of an edge comes before that of its target. -/
theorem Laid.source_before (h : Laid g (pre ++ s :: post) rest) (he : e ∈ g.edges)
    (ht : e.target = s.node) {u : Step} (hu : u ∈ pre ++ s :: post) (hs : u.node = e.source) :
    u ∈ pre := by
  have hnd := h.nodup
  obtain ⟨⟨before, ho, hb⟩, -⟩ := h
  rw [List.map_append, List.map_cons] at hb hnd
  obtain ⟨b₁, b₂, rfl, hb₁, hb₂⟩ := List.map_eq_append_iff.1 hb.symm
  obtain ⟨n, b₃, rfl, hn, hb₃⟩ := List.map_eq_cons_iff.1 hb₂
  have hmem : u.node ∈ pre.map Step.node ++ s.node :: post.map Step.node := by
    simpa using List.mem_map_of_mem (f := Step.node) hu
  have hids : e.source ∈ g.ids := by
    rw [← hs]
    rw [hb] at hmem
    obtain ⟨m, hm, hid⟩ := List.mem_map.1 hmem
    exact FlowGraph.mem_ids.2
      ⟨m, (FlowGraph.isOrder_of_order ho).perm.mem_iff.1 (List.mem_append_left _ hm), hid⟩
  have hsource : u.node ∈ pre.map Step.node := by
    rw [hs, ← hb₁]
    exact (FlowGraph.isOrder_of_order ho).sorted b₁ n (b₃ ++ rest) (by simp) e he (ht.trans hn.symm) hids
  rcases List.mem_append.1 hu with hu | hu
  · exact hu
  · have hpost : u.node ∈ s.node :: post.map Step.node := by
      simpa using List.mem_map_of_mem (f := Step.node) hu
    exact absurd rfl ((List.nodup_append.1 hnd).2.2 _ hsource _ hpost)

/-- What was decided with the steps before holds with all. -/
theorem Laid.skipped_iff_not_live (h : Laid g steps rest) (hs : s ∈ steps) :
    s.status = .skipped ↔ ¬ Live g steps s.node := by
  obtain ⟨pre, post, rfl⟩ := List.append_of_mem hs
  rw [h.decided pre s post rfl]
  refine not_congr ⟨fun hl => hl.mono (List.subset_append_left ..), ?_⟩
  rintro (ht | ⟨e, he, ht, u, hu, hsource, hf⟩)
  · exact .inl ht
  · exact .inr ⟨e, he, ht, u, h.source_before he ht hu hsource, hsource, hf⟩

/-- Followed edges lead from the trigger to every live node: by induction along the steps, for a
followed edge comes from a step before. -/
theorem Laid.reaches_of_live (h : Laid g steps rest) {t : Node} (ht : g.triggers.take 1 = [t]) :
    ∀ pre post, steps = pre ++ post → ∀ s ∈ pre, Live g steps s.node → Reaches g steps t.id s.node := by
  intro pre
  induction pre using List.reverseRecOn with
  | nil => exact fun _ _ _ hs => absurd hs List.not_mem_nil
  | append_singleton pre s ih =>
    intro post heq u hu hlive
    rw [List.append_assoc, List.singleton_append] at heq
    rcases List.mem_append.1 hu with hu | hu
    · exact ih (s :: post) heq u hu hlive
    · cases List.mem_singleton.1 hu
      rcases hlive with ⟨t', ht', hid⟩ | ⟨e, he, htarget, u, hu, hsource, hstatus, hf⟩
      · rw [ht, List.mem_singleton] at ht'
        rw [← hid, ht']
        exact .refl
      · have hpre : u ∈ pre := (heq ▸ h).source_before he htarget (heq ▸ hu) hsource
        have hul : Live g steps u.node := by
          by_contra hno
          rw [← h.skipped_iff_not_live hu, hstatus] at hno
          cases hno
        exact (ih (s :: post) heq u hpre hul).tail ⟨e, he, hsource.symm, htarget, u, hu, hsource, hstatus, hf⟩

theorem Laid.skipped_iff (h : Laid g steps rest) {t : Node} (ht : g.triggers.take 1 = [t])
    (hs : s ∈ steps) : s.status = .skipped ↔ ¬ Reaches g steps t.id s.node := by
  rw [h.skipped_iff_not_live hs]
  refine not_congr ⟨h.reaches_of_live ht steps [] (by simp) s hs, fun hr => ?_⟩
  rcases Relation.ReflTransGen.cases_tail hr with heq | ⟨a, -, e, he, -, htarget, hf⟩
  · exact .inl ⟨t, by simp [ht], heq.symm⟩
  · exact .inr ⟨e, he, htarget, hf⟩

end Workflow
