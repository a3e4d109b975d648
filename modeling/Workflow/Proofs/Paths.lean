import Workflow.Proofs.Digits
import Workflow.Proofs.Placeholders

/-!
# Following paths

A path that is joined from two by a dot leads where the second leads from where the first leads. So there
are three ways to the same place in the output of a node: a reference to the node, a reference to the
context below `nodes`, and a placeholder with that path (`RunContext.output_of_path`).
-/

namespace Workflow

/-! ### Segments -/

namespace Path

theorem split_ne_nil (cs : List Char) : split cs ≠ [] := by
  fun_induction split cs <;> simp

theorem split_cons {c : Char} (hc : c ≠ '.') (cs : List Char) :
    ∃ segment segments, split cs = segment :: segments ∧ split (c :: cs) = (c :: segment) :: segments := by
  obtain ⟨segment, segments, hs⟩ := List.exists_cons_of_ne_nil (split_ne_nil cs)
  refine ⟨segment, segments, hs, ?_⟩
  rw [split, hs]
  exact fun h => hc h

/-- A dot separates the segments before it from those behind it. -/
theorem split_append (p q : List Char) : split (p ++ '.' :: q) = split p ++ split q := by
  induction p with
  | nil => rfl
  | cons c p ih =>
    by_cases hc : c = '.'
    · subst hc
      rw [List.cons_append, split, split, ih]
      rfl
    · obtain ⟨segment, segments, hs, hcs⟩ := split_cons hc p
      obtain ⟨segment', segments', hs', hcs'⟩ := split_cons hc (p ++ '.' :: q)
      rw [ih, hs, List.cons_append, List.cons.injEq] at hs'
      rw [List.cons_append, hcs, hcs', ← hs'.1, ← hs'.2, List.cons_append]

theorem split_of_not_mem {cs : List Char} (h : '.' ∉ cs) : split cs = [cs] := by
  induction cs with
  | nil => rfl
  | cons c cs ih =>
    rw [List.mem_cons, not_or] at h
    obtain ⟨segment, segments, hs, hcs⟩ := split_cons (Ne.symm h.1) cs
    rw [ih h.2, List.cons.injEq] at hs
    rw [hcs, ← hs.1, ← hs.2]

theorem segments_append (p q : String) : segments (p ++ "." ++ q) = segments p ++ segments q := by
  have hdot : ".".toList = ['.'] := rfl
  simp only [segments, String.toList_append, hdot, List.append_assoc, List.singleton_append, split_append,
    List.map_append]

theorem segments_of_not_mem {p : String} (h : '.' ∉ p.toList) : segments p = [p] := by
  rw [segments, split_of_not_mem h, List.map_singleton, String.ofList_toList]

end Path

/-- A path in two parts leads where the second leads from where the first leads. -/
theorem Value.at_append (v : Value) (p q : String) : v.at (p ++ "." ++ q) = (v.at p).at q := by
  rw [Value.at, Path.segments_append, List.foldl_append]
  rfl

theorem Value.at_of_not_mem {p : String} (h : '.' ∉ p.toList) (v : Value) : v.at p = Path.step v p := by
  rw [Value.at, Path.segments_of_not_mem h]
  rfl

/-! ### Outputs of nodes -/

namespace RunContext

variable {id path : String}

theorem output_record (c : RunContext) (id : String) (v : Value) : (c.record id v).output id = v := by
  rw [output, record, Fields.get?_set, if_pos rfl]
  rfl

theorem at_output (v : Value) : v.at "output" = v.field "output" := by
  rw [Value.at_of_not_mem (by decide)]
  cases v <;> rfl

theorem resolve_node (c : RunContext) (id path : String) :
    (Reference.node id path).resolve c.root = (c.output id).at path := by
  have hnodes : c.root.at "nodes" = .object c.nodes := c.step_root "nodes"
  rw [Reference.resolve, hnodes]
  rfl

/-- The path to a place in the output of a node. -/
def pathTo (id path : String) : String := "nodes." ++ id ++ ".output." ++ path

theorem at_pathTo (c : RunContext) (h : '.' ∉ id.toList) (path : String) :
    c.root.at (pathTo id path) = (c.output id).at path := by
  have hsplit : pathTo id path = "nodes" ++ "." ++ (id ++ "." ++ ("output" ++ "." ++ path)) := by
    rw [← String.toList_inj]
    simp [pathTo]
  have hnodes : c.root.at "nodes" = .object c.nodes := c.step_root "nodes"
  rw [hsplit, Value.at_append, Value.at_append, Value.at_append, hnodes, Value.at_of_not_mem h, at_output]
  rfl

/-- The path in a placeholder is that between the braces, if it does not end in white space. -/
theorem trim_pathTo (h : ∀ c ∈ path.toList.getLast?, Text.isBlank c = false) :
    Template.pathOf (pathTo id path).toList = pathTo id path := by
  have hstart : Stops Text.isBlank (pathTo id path).toList := by
    intro c hc
    have : c = 'n' := by simpa [pathTo, eq_comm] using hc
    rw [this]
    rfl
  have hend : Stops Text.isBlank (pathTo id path).toList.reverse := by
    intro c hc
    have htext : (pathTo id path).toList = ("nodes." ++ id ++ ".output").toList ++ '.' :: path.toList := by
      simp [pathTo]
    rw [List.head?_reverse, htext, List.getLast?_append_of_ne_nil _ (List.cons_ne_nil _ _),
      List.getLast?_cons] at hc
    obtain rfl := Option.some.inj hc
    cases hlast : path.toList.getLast? with
    | none => rfl
    | some d => exact h d hlast
  rw [Template.pathOf, Text.trim, Text.trimBy_eq_of_ends hstart hend, String.ofList_toList]

theorem render_pathTo (c : RunContext) (h : '.' ∉ id.toList)
    (hchars : ∀ d ∈ id.toList ++ path.toList, d ≠ '\x7d' ∧ d ≠ '\n')
    (hend : ∀ d ∈ path.toList.getLast?, Text.isBlank d = false) :
    Template.render c.root ("\x7b\x7b" ++ pathTo id path ++ "\x7d\x7d") = ((c.output id).at path).toText := by
  have htext : "\x7b\x7b" ++ pathTo id path ++ "\x7d\x7d" =
      String.ofList ('\x7b' :: '\x7b' :: ((pathTo id path).toList ++ ['\x7d', '\x7d'])) := by
    rw [← String.toList_inj]
    simp
  have hmem {d : Char} (hd : d ∈ (pathTo id path).toList) :
      d ∈ "nodes.output".toList ∨ d ∈ id.toList ++ path.toList := by
    simp [pathTo] at hd ⊢
    tauto
  have hnot {d : Char} (hd : d = '\x7d' ∨ d = '\n') : d ∉ (pathTo id path).toList := by
    intro hmem'
    rcases hmem hmem' with hin | hin
    · rcases hd with rfl | rfl <;> revert hin <;> decide
    · exact hd.elim (hchars d hin).1 (hchars d hin).2
  have hne : (pathTo id path).toList ≠ [] := by simp [pathTo]
  rw [htext, Template.render_placeholder hne (hnot (.inr rfl)) (hnot (.inl rfl)), trim_pathTo hend, at_pathTo c h]

/-- A path has one meaning. In two parts joined by a dot it leads on from where the first part leads. In the
output of a node that has no dot in its id it leads to the same place from a reference to the node, from
the context below `nodes`, and in a placeholder that it does not close and in which it is not trimmed. -/
theorem output_of_path :
    (∀ (v : Value) (p q : String), v.at (p ++ "." ++ q) = (v.at p).at q) ∧
    ∀ (c : RunContext) (id path : String), '.' ∉ id.toList →
      (∀ v, (c.record id v).output id = v) ∧
      (Reference.node id path).resolve c.root = (c.output id).at path ∧
      (Reference.context ("nodes." ++ id ++ ".output." ++ path)).resolve c.root = (c.output id).at path ∧
      ((∀ d ∈ id.toList ++ path.toList, d ≠ '\x7d' ∧ d ≠ '\n') →
        (∀ d ∈ path.toList.getLast?, Text.isBlank d = false) →
        Template.render c.root ("\x7b\x7bnodes." ++ id ++ ".output." ++ path ++ "\x7d\x7d") =
          ((c.output id).at path).toText) := by
  refine ⟨Value.at_append, fun c id path hid => ⟨c.output_record id, c.resolve_node id path, ?_, ?_⟩⟩
  · exact c.at_pathTo hid path
  · intro hchars hend
    have htext : "\x7b\x7bnodes." ++ id ++ ".output." ++ path ++ "\x7d\x7d" =
        "\x7b\x7b" ++ pathTo id path ++ "\x7d\x7d" := by
      rw [← String.toList_inj]
      simp [pathTo]
    rw [htext]
    exact c.render_pathTo hid hchars hend

/-- The last item of a list in an output, counted from its end, on three ways. -/
theorem output_of_lastItem :
    let answer := Value.record [("items", .list [.int 1, .record [("name", .text "\x7b\x7bx\x7d\x7d")]])]
    let c := (start .null).record "fetch" answer
    (Reference.node "fetch" "items.-1.name").resolve c.root = .text "\x7b\x7bx\x7d\x7d" ∧
    (Reference.context ("nodes." ++ "fetch" ++ ".output." ++ "items.-1.name")).resolve c.root =
      .text "\x7b\x7bx\x7d\x7d" ∧
    Template.render c.root ("\x7b\x7bnodes." ++ "fetch" ++ ".output." ++ "items.-1.name" ++ "\x7d\x7d") =
      .ok "\x7b\x7bx\x7d\x7d" := by
  intro answer c
  obtain ⟨-, hnode, hcontext, hrender⟩ := output_of_path.2 c "fetch" "items.-1.name" (by decide)
  have hat : (c.output "fetch").at "items.-1.name" = .text "\x7b\x7bx\x7d\x7d" := by rfl
  rw [hat] at hnode hcontext hrender
  exact ⟨hnode, hcontext, hrender (by simp) (by rintro d ⟨⟩; rfl)⟩

end RunContext

end Workflow
