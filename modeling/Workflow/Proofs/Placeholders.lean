import Workflow.Proofs.Locality
import Workflow.Proofs.Unwritable

/-!
# Placeholders

There is one way to cut a template into literal parts and placeholders (`Template.Cut`): each placeholder
begins at the leftmost place at which one can, and is as short as it can be there. A rendered template
has the texts of the values in the places of its placeholders, and its literal parts as they are; what is
put in is not looked at again. Rendering fields does this to every text in them and leaves all else, and
nothing but the places that the placeholders name is read (`rendered_iff_filled`).
-/

namespace Workflow

namespace Template

/-! ### Cutting -/

/-- A text begins with a placeholder: its inside stands between double braces, is not empty and holds no
line break. -/
def Opens (inner tail cs : List Char) : Prop :=
  cs = '\x7b' :: '\x7b' :: (inner ++ '\x7d' :: '\x7d' :: tail) ∧ inner ≠ [] ∧ '\n' ∉ inner

/-- The shortest placeholder with which a text begins. -/
structure Begins (inner tail cs : List Char) : Prop where
  opens : Opens inner tail cs
  shortest : ∀ inner' tail', Opens inner' tail' cs → inner.length ≤ inner'.length

/-- A template in pieces: the insides of its placeholders, each with the literal part before it, and the
literal part at the end. -/
structure Pieces where
  leading : List (List Char × List Char)
  last : List Char

/-- A template is cut into pieces: into a literal part in which no placeholder begins, or at the leftmost
placeholder. -/
inductive Cut : List Char → Pieces → Prop where
  | last {cs : List Char}
      (literal : ∀ before rest, cs = before ++ rest → ∀ inner tail, ¬ Opens inner tail rest) :
      Cut cs ⟨[], cs⟩
  | placeholder {cs before rest inner tail : List Char} {leading : List (List Char × List Char)}
      {last : List Char} (hcs : cs = before ++ rest)
      (leftmost : ∀ before' rest', cs = before' ++ rest' → before'.length < before.length →
        ∀ inner tail, ¬ Opens inner tail rest')
      (begins : Begins inner tail rest) (h : Cut tail ⟨leading, last⟩) :
      Cut cs ⟨(before, inner) :: leading, last⟩

namespace Pieces

/-- The pieces with texts in the places of the placeholders. -/
def filled (text : List Char → String) (d : Pieces) : List Char :=
  d.leading.flatMap (fun p => p.1 ++ (text p.2).toList) ++ d.last

/-- The pieces part by part. -/
def parts (d : Pieces) : List TemplatePart :=
  d.leading.flatMap (fun p => p.1.map .literal ++ [.placeholder p.2]) ++ d.last.map .literal

/-- The pieces with one more character in front. -/
def withChar (c : Char) : Pieces → Pieces
  | ⟨[], last⟩ => ⟨[], c :: last⟩
  | ⟨(before, inner) :: leading, last⟩ => ⟨(c :: before, inner) :: leading, last⟩

theorem parts_withChar (c : Char) (d : Pieces) : (d.withChar c).parts = .literal c :: d.parts := by
  obtain ⟨_ | ⟨⟨before, inner⟩, leading⟩, last⟩ := d <;> rfl

end Pieces

section Unique

variable {cs before before' rest rest' inner inner' tail tail' : List Char}

theorem Begins.unique (h : Begins inner tail cs) (h' : Begins inner' tail' cs) :
    inner = inner' ∧ tail = tail' := by
  have hlen : inner.length = inner'.length :=
    Nat.le_antisymm (h.shortest _ _ h'.opens) (h'.shortest _ _ h.opens)
  have heq := h.opens.1.symm.trans h'.opens.1
  simp only [List.cons.injEq, true_and] at heq
  obtain ⟨rfl, htail⟩ := List.append_inj heq hlen
  simp only [List.cons.injEq, true_and] at htail
  exact ⟨rfl, htail⟩

/-- A template is cut in one way only. -/
theorem Cut.unique {d d' : Pieces} (h : Cut cs d) (h' : Cut cs d') : d = d' := by
  induction h generalizing d' with
  | last literal =>
    cases h' with
    | last => rfl
    | placeholder hcs _ begins _ => exact absurd begins.opens (literal _ _ hcs _ _)
  | placeholder hcs leftmost begins _ ih =>
    cases h' with
    | last literal => exact absurd begins.opens (literal _ _ hcs _ _)
    | placeholder hcs' leftmost' begins' h' =>
      -- neither of the two begins further left
      have hlen := Nat.le_antisymm (Nat.not_lt.1 fun h => leftmost _ _ hcs' h _ _ begins'.opens)
        (Nat.not_lt.1 fun h => leftmost' _ _ hcs h _ _ begins.opens)
      obtain ⟨rfl, rfl⟩ := List.append_inj (hcs.symm.trans hcs') hlen
      obtain ⟨rfl, rfl⟩ := begins.unique begins'
      cases ih h'
      rfl

end Unique

/-! ### What is parsed -/

section Parse

variable {c : Char} {cs inner tail : List Char}

/-- Braces close the inside of a placeholder. -/
def Closes (inner tail cs : List Char) : Prop := cs = inner ++ '\x7d' :: '\x7d' :: tail ∧ '\n' ∉ inner

theorem closes_cons (hclose : ∀ rest, c = '\x7d' → cs = '\x7d' :: rest → False) :
    Closes inner tail (c :: cs) ↔ ∃ inner', inner = c :: inner' ∧ c ≠ '\n' ∧ Closes inner' tail cs := by
  constructor
  · rintro ⟨hcs, hbreak⟩
    cases inner with
    | nil => exact (hclose tail (List.cons.inj hcs).1 (List.cons.inj hcs).2).elim
    | cons d inner' =>
      obtain ⟨rfl, htail⟩ := List.cons.inj hcs
      rw [List.mem_cons, not_or] at hbreak
      exact ⟨inner', rfl, Ne.symm hbreak.1, htail, hbreak.2⟩
  · rintro ⟨inner', rfl, hc, rfl, hbreak⟩
    exact ⟨rfl, by simpa using ⟨hc.symm, hbreak⟩⟩

theorem untilClose?_eq_none (h : untilClose? cs = none) : ¬ Closes inner tail cs := by
  fun_induction untilClose? cs generalizing inner with
  | case1 => rintro ⟨h, -⟩; cases inner <;> cases h
  | case2 => cases h
  | case3 c rest hclose hc =>
    rw [closes_cons hclose]
    rintro ⟨inner', -, hne, -⟩
    exact hne (by simpa using hc)
  | case4 c rest hclose hc ih =>
    rw [closes_cons hclose]
    rintro ⟨inner', -, -, hcloses⟩
    exact ih (by simpa using h) hcloses

theorem untilClose?_eq_some (h : untilClose? cs = some (inner, tail)) : Closes inner tail cs ∧
    ∀ inner' tail', Closes inner' tail' cs → inner.length ≤ inner'.length := by
  fun_induction untilClose? cs generalizing inner with
  | case1 => cases h
  | case2 rest =>
    cases h
    exact ⟨⟨rfl, by simp⟩, fun _ _ _ => Nat.zero_le _⟩
  | case3 => cases h
  | case4 c rest hclose hc ih =>
    have hcons (inner tail : List Char) : Closes inner tail (c :: rest) ↔
        ∃ inner', inner = c :: inner' ∧ c ≠ '\n' ∧ Closes inner' tail rest := closes_cons hclose
    obtain ⟨⟨inner₁, tail₁⟩, hrest, heq⟩ := Option.map_eq_some_iff.1 h
    cases heq
    obtain ⟨hcloses, hshort⟩ := ih hrest
    refine ⟨(hcons _ _).2 ⟨_, rfl, by simpa using hc, hcloses⟩, fun inner' tail' h' => ?_⟩
    obtain ⟨inner₂, rfl, -, h'⟩ := (hcons _ _).1 h'
    exact Nat.succ_le_succ (hshort _ _ h')

/-- The placeholder with which a text begins. -/
def begin? : List Char → Option (List Char × List Char)
  | '\x7b' :: '\x7b' :: rest => placeholder? rest
  | _ => none

theorem opens_iff : Opens inner tail cs ↔
    ∃ c inner' rest, inner = c :: inner' ∧ cs = '\x7b' :: '\x7b' :: c :: rest ∧ c ≠ '\n' ∧ Closes inner' tail rest := by
  constructor
  · rintro ⟨rfl, hne, hbreak⟩
    obtain ⟨c, inner', rfl⟩ := List.exists_cons_of_ne_nil hne
    rw [List.mem_cons, not_or] at hbreak
    exact ⟨c, inner', _, rfl, rfl, Ne.symm hbreak.1, rfl, hbreak.2⟩
  · rintro ⟨c, inner', rest, rfl, rfl, hc, rfl, hbreak⟩
    exact ⟨rfl, by simp, by simpa using ⟨hc.symm, hbreak⟩⟩

theorem not_opens_of_begin? (h : begin? cs = none) : ¬ Opens inner tail cs := by
  rw [opens_iff]
  rintro ⟨c, inner', rest, -, rfl, hc, hcloses⟩
  simp only [begin?, placeholder?, beq_eq_false_iff_ne.2 hc, Bool.false_eq_true, if_false,
    Option.map_eq_none_iff] at h
  exact untilClose?_eq_none h hcloses

theorem begins_of_begin? (h : begin? cs = some (inner, tail)) : Begins inner tail cs := by
  unfold begin? at h
  split at h
  next rest =>
    unfold placeholder? at h
    split at h
    next => cases h
    next c rest =>
      split at h
      next => cases h
      next hc =>
        have hc : c ≠ '\n' := by simpa using hc
        obtain ⟨⟨inner₁, tail₁⟩, hrest, heq⟩ := Option.map_eq_some_iff.1 h
        cases heq
        obtain ⟨hcloses, hshort⟩ := untilClose?_eq_some hrest
        refine ⟨opens_iff.2 ⟨c, _, rest, rfl, rfl, hc, hcloses⟩, fun inner' tail' h' => ?_⟩
        obtain ⟨c', inner₂, rest', rfl, hcs, -, h'⟩ := opens_iff.1 h'
        cases hcs
        exact Nat.succ_le_succ (hshort _ _ h')
  next => cases h

theorem Begins.length_lt (h : Begins inner tail cs) : tail.length < cs.length := by
  rw [h.opens.1]
  simp
  omega

theorem partsWithin_cons (fuel : Nat) (c : Char) (cs : List Char) : partsWithin (fuel + 1) (c :: cs) =
    match begin? (c :: cs) with
    | some (inner, tail) => .placeholder inner :: partsWithin fuel tail
    | none => .literal c :: partsWithin fuel cs := by
  by_cases h : ∃ rest, c = '\x7b' ∧ cs = '\x7b' :: rest
  · obtain ⟨rest, rfl, rfl⟩ := h
    rw [partsWithin]
    rfl
  · have hne (rest : List Char) (hc : c = '\x7b') (hcs : cs = '\x7b' :: rest) : False := h ⟨rest, hc, hcs⟩
    have hnone : begin? (c :: cs) = none := by
      unfold begin?
      split
      next rest he => exact (hne rest (List.cons.inj he).1 (List.cons.inj he).2).elim
      next => rfl
    rw [hnone, partsWithin]
    exact hne

/-- A character at which no placeholder begins belongs to the literal part that follows. -/
theorem Cut.withChar {d : Pieces} (h : Cut cs d) (hc : ∀ inner tail, ¬ Opens inner tail (c :: cs)) :
    Cut (c :: cs) (d.withChar c) := by
  cases h with
  | last literal =>
    refine .last fun before rest hcs => ?_
    rcases List.cons_eq_append_iff.1 hcs with ⟨-, rfl⟩ | ⟨before, -, htail⟩
    · exact hc
    · exact literal before rest htail
  | @placeholder _ before rest _ _ _ _ hcs leftmost begins h =>
    have hcs : c :: cs = (c :: before) ++ rest := congrArg _ hcs
    refine .placeholder hcs (fun before' rest' hcs' hlen => ?_) begins h
    rcases List.cons_eq_append_iff.1 hcs' with ⟨-, rfl⟩ | ⟨before', rfl, htail⟩
    · exact hc
    · exact leftmost before' rest' htail (Nat.lt_of_succ_lt_succ hlen)

theorem cut_nil : Cut [] ⟨[], []⟩ := by
  refine .last fun before rest hcs inner tail hopens => ?_
  rw [(List.append_eq_nil_iff.1 hcs.symm).2] at hopens
  cases hopens.1

/-- What is parsed are the parts of pieces into which the template is cut. -/
theorem exists_cut {fuel : Nat} (h : cs.length ≤ fuel) : ∃ d, Cut cs d ∧ partsWithin fuel cs = d.parts := by
  induction fuel generalizing cs with
  | zero =>
    obtain rfl := List.length_eq_zero_iff.1 (Nat.le_zero.1 h)
    exact ⟨_, cut_nil, rfl⟩
  | succ fuel ih =>
    cases cs with
    | nil => exact ⟨_, cut_nil, rfl⟩
    | cons c cs =>
      rw [partsWithin_cons]
      cases hb : begin? (c :: cs) with
      | none =>
        obtain ⟨d, hd, hparts⟩ := ih (Nat.le_of_succ_le_succ h)
        exact ⟨d.withChar c, hd.withChar fun _ _ => not_opens_of_begin? hb, by rw [d.parts_withChar, ← hparts]⟩
      | some p =>
        obtain ⟨inner, tail⟩ := p
        have hbegins := begins_of_begin? hb
        obtain ⟨⟨leading, last⟩, hd, hparts⟩ := ih (Nat.le_of_lt_succ (hbegins.length_lt.trans_le h))
        refine ⟨⟨([], inner) :: leading, last⟩, ?_, congrArg _ hparts⟩
        exact .placeholder rfl (fun _ _ _ h => absurd h (Nat.not_lt_zero _)) hbegins hd

theorem existsUnique_cut (cs : List Char) : ∃! d, Cut cs d := by
  obtain ⟨d, hd, -⟩ := exists_cut (Nat.le_refl cs.length)
  exact ⟨d, hd, fun _ h => h.unique hd⟩

theorem Cut.parse_eq {d : Pieces} (h : Cut cs d) : parse cs = d.parts := by
  obtain ⟨d', hd', hparts⟩ := exists_cut (Nat.le_refl cs.length)
  rw [parse, hparts, h.unique hd']

end Parse

/-! ### What is rendered -/

/-- A text is the template with the texts of values in the places of its placeholders, each named by the
path in the placeholder without the white space around it. -/
def Filled (root : Value) (template filled : String) : Prop :=
  ∃ d text, Cut template.toList d ∧ (∀ p ∈ d.leading, (root.at (pathOf p.2)).toText = .ok (text p.2)) ∧
    filled.toList = d.filled text

mutual

/-- What becomes of a value: a text is filled in, and so are the texts in an object. -/
inductive Rendered (root : Value) : Value → Value → Prop where
  | text {s t : String} (h : Filled root s t) : Rendered root (.text s) (.text t)
  | object {fields fields' : List (Key × Value)} (h : RenderedFields root fields fields') :
      Rendered root (.object fields) (.object fields')
  | other {v : Value} (htext : v.text? = none) (hfields : v.fields? = none) : Rendered root v v

/-- The fields keep their keys and their order. -/
inductive RenderedFields (root : Value) : List (Key × Value) → List (Key × Value) → Prop where
  | nil : RenderedFields root [] []
  | cons {key : Key} {v w : Value} {rest rest' : List (Key × Value)} (hv : Rendered root v w)
      (h : RenderedFields root rest rest') : RenderedFields root ((key, v) :: rest) ((key, w) :: rest')

end

/-- A placeholder in a value that is rendered names a path. -/
inductive Mentions : Value → String → Prop where
  | text {s : String} {d : Pieces} {p : List Char × List Char} (h : Cut s.toList d) (hp : p ∈ d.leading) :
      Mentions (.text s) (pathOf p.2)
  | field {fields : Fields} {f : Key × Value} {path : String} (hf : f ∈ fields) (h : Mentions f.2 path) :
      Mentions (.object fields) path

section Render

variable {root : Value}

theorem renderParts_append (parts others : List TemplatePart) : renderParts root (parts ++ others) =
    (do return (← renderParts root parts) ++ (← renderParts root others)) := by
  induction parts with
  | nil =>
    rw [List.nil_append, renderParts]
    cases renderParts root others <;> rfl
  | cons part parts ih =>
    rw [List.cons_append, renderParts, renderParts, ih]
    cases renderPart root part with
    | error f => rfl
    | ok first =>
      cases renderParts root parts with
      | error f => rfl
      | ok second =>
        cases renderParts root others with
        | error f => rfl
        | ok third => exact congrArg Except.ok (List.append_assoc first second third).symm

theorem renderParts_literals (cs : List Char) : renderParts root (cs.map .literal) = .ok cs := by
  induction cs with
  | nil => rfl
  | cons c cs ih =>
    rw [List.map_cons, renderParts, ih]
    rfl

/-- The text of the value that a placeholder names, empty if it has none. -/
def textAt (root : Value) (inner : List Char) : String := (root.at (pathOf inner)).toText.toOption.getD ""

theorem textAt_eq {inner : List Char} {s : String} (h : (root.at (pathOf inner)).toText = .ok s) :
    textAt root inner = s := by
  rw [textAt, h]
  rfl

/-- The texts of all values are needed, and their places are those of the placeholders. -/
theorem renderParts_eq_ok_iff {d : Pieces} {cs : List Char} : renderParts root d.parts = .ok cs ↔
    (∀ p ∈ d.leading, (root.at (pathOf p.2)).toText = .ok (textAt root p.2)) ∧ cs = d.filled (textAt root) := by
  obtain ⟨leading, last⟩ := d
  induction leading generalizing cs with
  | nil =>
    simp only [Pieces.parts, Pieces.filled, List.flatMap_nil, List.nil_append, renderParts_literals,
      Except.ok.injEq, List.not_mem_nil, false_imp_iff, implies_true, true_and, eq_comm (a := cs)]
  | cons p leading ih =>
    obtain ⟨before, inner⟩ := p
    have hparts : Pieces.parts ⟨(before, inner) :: leading, last⟩ =
        before.map .literal ++ .placeholder inner :: Pieces.parts ⟨leading, last⟩ := by simp [Pieces.parts]
    have hfilled : Pieces.filled (textAt root) ⟨(before, inner) :: leading, last⟩ =
        before ++ ((textAt root inner).toList ++ Pieces.filled (textAt root) ⟨leading, last⟩) := by
      simp [Pieces.filled]
    rw [hparts, hfilled, renderParts_append, renderParts_literals, renderParts, renderPart, List.forall_mem_cons]
    cases ht : (root.at (pathOf inner)).toText with
    | error f =>
      constructor
      · intro h
        cases h
      · rintro ⟨⟨h, -⟩, -⟩
        cases h
    | ok s =>
      rw [textAt_eq ht]
      cases hrest : renderParts root (Pieces.parts ⟨leading, last⟩) with
      | error f =>
        constructor
        · intro h
          cases h
        · rintro ⟨⟨-, h⟩, -⟩
          cases hrest.symm.trans (ih.2 ⟨h, rfl⟩)
      | ok cs' =>
        obtain ⟨hall, rfl⟩ := ih.1 hrest
        constructor
        · intro h
          cases h
          exact ⟨⟨rfl, hall⟩, rfl⟩
        · rintro ⟨-, rfl⟩
          rfl

/-- A template that is a placeholder without closing braces inside is the text of the value. -/
theorem render_placeholder {inner : List Char} (hne : inner ≠ []) (hbreak : '\n' ∉ inner)
    (hclose : '\x7d' ∉ inner) :
    render root (String.ofList ('\x7b' :: '\x7b' :: (inner ++ ['\x7d', '\x7d']))) =
      (root.at (pathOf inner)).toText := by
  have hbegins : Begins inner [] ('\x7b' :: '\x7b' :: (inner ++ ['\x7d', '\x7d'])) := by
    refine ⟨⟨rfl, hne, hbreak⟩, fun inner' tail' h => Nat.not_lt.1 fun hlt => hclose ?_⟩
    -- a shorter one would end inside
    have heq : inner ++ ['\x7d', '\x7d'] = inner' ++ '\x7d' :: '\x7d' :: tail' := by simpa using h.1
    have hget := congrArg (·[inner'.length]?) heq
    simp only [List.getElem?_append_left hlt, List.getElem?_append_right (Nat.le_refl _), Nat.sub_self,
      List.getElem?_cons_zero] at hget
    exact List.mem_of_getElem? hget
  have hcut : Cut ('\x7b' :: '\x7b' :: (inner ++ ['\x7d', '\x7d'])) ⟨[([], inner)], []⟩ :=
    .placeholder rfl (fun _ _ _ h => absurd h (Nat.not_lt_zero _)) hbegins cut_nil
  have hparse : parse ('\x7b' :: '\x7b' :: (inner ++ ['\x7d', '\x7d'])) = [.placeholder inner] := hcut.parse_eq
  rw [render, String.toList_ofList, hparse, renderParts, renderPart]
  cases (root.at (pathOf inner)).toText with
  | error f => rfl
  | ok s =>
    change Except.ok (String.ofList (s.toList ++ [])) = Except.ok s
    rw [List.append_nil, String.ofList_toList]

theorem filled_congr {d : Pieces} {text text' : List Char → String}
    (h : ∀ p ∈ d.leading, text p.2 = text' p.2) : d.filled text = d.filled text' := by
  unfold Pieces.filled
  congr 1
  exact List.flatMap_congr fun p hp => by rw [h p hp]

theorem render_eq_ok_iff {s t : String} : render root s = .ok t ↔ Filled root s t := by
  unfold render
  constructor
  · intro h
    obtain ⟨d, hd, -⟩ := existsUnique_cut s.toList
    rw [hd.parse_eq] at h
    cases hr : renderParts root d.parts with
    | error f =>
      rw [hr] at h
      cases h
    | ok cs =>
      rw [hr] at h
      cases h
      obtain ⟨hall, hcs⟩ := renderParts_eq_ok_iff.1 hr
      exact ⟨d, textAt root, hd, hall, String.toList_ofList.trans hcs⟩
  · rintro ⟨d, text, hd, htext, ht⟩
    have heq : ∀ p ∈ d.leading, textAt root p.2 = text p.2 := fun p hp => textAt_eq (htext p hp)
    have hparts : renderParts root d.parts = .ok (d.filled text) :=
      renderParts_eq_ok_iff.2 ⟨fun p hp => by rw [heq p hp, htext p hp], (filled_congr heq).symm⟩
    rw [hd.parse_eq, hparts, ← ht]
    exact congrArg Except.ok String.ofList_toList

/-- A value that is neither a text nor an object is left as it is. -/
theorem renderValue_other {v w : Value} (htext : v.text? = none) (hfields : v.fields? = none) :
    renderValue root v = .ok w ↔ Rendered root v w := by
  have heq : renderValue root v = .ok v := by
    cases v with
    | text s => cases htext
    | object fields => cases hfields
    | _ => rfl
  rw [heq, Except.ok.injEq]
  constructor
  · rintro rfl
    exact .other htext hfields
  · intro h
    cases h with
    | text => cases htext
    | object => cases hfields
    | other => rfl

mutual

theorem renderValue_eq_ok_iff : ∀ {v w : Value}, renderValue root v = .ok w ↔ Rendered root v w
  | .text s, w => by
    rw [renderValue]
    constructor
    · intro h
      obtain ⟨t, ht, rfl⟩ := Outcome.map_eq_ok.1 h
      exact .text (render_eq_ok_iff.1 ht)
    · intro h
      cases h with
      | text h => exact Outcome.map_eq_ok.2 ⟨_, render_eq_ok_iff.2 h, rfl⟩
      | other h => cases h
  | .object fields, w => by
    rw [renderValue]
    constructor
    · intro h
      obtain ⟨fields', hf, rfl⟩ := Outcome.map_eq_ok.1 h
      exact .object (renderFields_eq_ok_iff.1 hf)
    · intro h
      cases h with
      | object h => exact Outcome.map_eq_ok.2 ⟨_, renderFields_eq_ok_iff.2 h, rfl⟩
      | other _ h => cases h
  | .null, w => renderValue_other rfl rfl
  | .bool _, w => renderValue_other rfl rfl
  | .int _, w => renderValue_other rfl rfl
  | .float _, w => renderValue_other rfl rfl
  | .list _, w => renderValue_other rfl rfl
  | .pair _ _, w => renderValue_other rfl rfl
  | .foreign _, w => renderValue_other rfl rfl

theorem renderFields_eq_ok_iff : ∀ {fields fields' : List (Key × Value)},
    renderFields root fields = .ok fields' ↔ RenderedFields root fields fields'
  | [], fields' => by
    constructor
    · intro h
      cases h
      exact .nil
    · rintro ⟨⟩
      rfl
  | (key, v) :: rest, fields' => by
    rw [renderFields]
    constructor
    · intro h
      obtain ⟨w, hw, h⟩ := Outcome.bind_eq_ok.1 h
      obtain ⟨rest', hr, h⟩ := Outcome.bind_eq_ok.1 h
      cases h
      exact .cons (renderValue_eq_ok_iff.1 hw) (renderFields_eq_ok_iff.1 hr)
    · intro h
      cases h with
      | cons hv h =>
        rw [renderValue_eq_ok_iff.2 hv, renderFields_eq_ok_iff.2 h]
        rfl

end

/-! ### What is read -/

theorem mem_fieldPaths {path : String} {fields : List (Key × Value)} :
    path ∈ fieldPaths fields ↔ ∃ f ∈ fields, path ∈ paths f.2 := by
  induction fields with
  | nil => simp [fieldPaths]
  | cons f rest ih => simp [fieldPaths, ih]

theorem mem_paths_text {path : String} {s : String} : path ∈ paths (.text s) ↔ Mentions (.text s) path := by
  rw [paths, List.mem_filterMap]
  constructor
  · rintro ⟨part, hpart, hpath⟩
    obtain ⟨d, hd, -⟩ := existsUnique_cut s.toList
    rw [hd.parse_eq, Pieces.parts, List.mem_append, List.mem_flatMap] at hpart
    rcases hpart with ⟨p, hp, hpart⟩ | hpart
    · rcases List.mem_append.1 hpart with hpart | hpart
      · obtain ⟨c, -, rfl⟩ := List.mem_map.1 hpart
        cases hpath
      · obtain rfl := List.mem_singleton.1 hpart
        cases hpath
        exact .text hd hp
    · obtain ⟨c, -, rfl⟩ := List.mem_map.1 hpart
      cases hpath
  · intro h
    cases h with
    | @text _ d p hd hp =>
      refine ⟨.placeholder p.2, ?_, rfl⟩
      rw [hd.parse_eq, Pieces.parts]
      exact List.mem_append_left _ (List.mem_flatMap.2 ⟨p, hp, List.mem_append_right _ List.mem_cons_self⟩)

theorem mem_paths_iff {v : Value} {path : String} : path ∈ paths v ↔ Mentions v path := by
  induction v using Value.byParts with
  | text s => exact mem_paths_text
  | object fields ih =>
    rw [paths, mem_fieldPaths]
    constructor
    · rintro ⟨f, hf, h⟩
      exact .field hf ((ih f hf).1 h)
    · intro h
      cases h with
      | field hf h => exact ⟨_, hf, (ih _ hf).2 h⟩
  | _ =>
    constructor
    · rintro ⟨⟩
    · rintro ⟨⟩

end Render

/-- A template can be cut in one way only. It is rendered just if all values that its placeholders name have
texts, and the rendered text has these in the places of the placeholders, whatever they hold. Fields are
rendered just by rendering every text in them; keys, order and all other values stay. What is rendered,
or fails to be, is the same in all contexts that have the same values at the paths in the placeholders. -/
theorem rendered_iff_filled (root : Value) :
    (∀ cs, ∃! d, Cut cs d) ∧
    (∀ s t, render root s = .ok t ↔ Filled root s t) ∧
    (∀ fields fields', renderFields root fields = .ok fields' ↔ RenderedFields root fields fields') ∧
    ∀ root',
      (∀ s, (∀ path, Mentions (.text s) path → root.at path = root'.at path) → render root s = render root' s) ∧
      ∀ fields, (∀ path, Mentions (.object fields) path → root.at path = root'.at path) →
        renderFields root fields = renderFields root' fields := by
  refine ⟨existsUnique_cut, fun _ _ => render_eq_ok_iff, fun _ _ => renderFields_eq_ok_iff,
    fun root' => ⟨fun s h => ?_, fun fields h => ?_⟩⟩
  · rw [render, renderParts_congr fun path hp => h path (mem_paths_iff.1 hp), render]
  · exact renderFields_congr fields fun path hp => h path (mem_paths_iff.1 hp)

/-- The text that is put in for the first placeholder looks like one itself, and stays as it is. Braces
around nothing begin a placeholder that goes on to the next closing ones. -/
theorem filled_of_braces :
    let template := "\x7b\x7b x \x7d\x7d: \x7b\x7b\x7d\x7d\x7b\x7by\x7d\x7d\x7d"
    let root := Value.record [("x", .text "\x7b\x7by\x7d\x7d"), ("y", .int 1)]
    let root' := Value.record [("z", .int 2), ("x", .text "\x7b\x7by\x7d\x7d")]
    Filled root template "\x7b\x7by\x7d\x7d: \x7d" ∧ render root' template = render root template := by
  intro template root root'
  refine ⟨((rendered_iff_filled root).2.1 _ _).1 (by decide +kernel), Eq.symm ?_⟩
  refine ((rendered_iff_filled root).2.2.2 root').1 template fun path h => ?_
  have hpaths : paths (.text template) = ["x", "\x7d\x7d\x7b\x7by"] := by decide +kernel
  rw [← mem_paths_iff, hpaths, List.mem_pair] at h
  rcases h with rfl | rfl <;> rfl

end Template

end Workflow
