import Workflow.Proofs.Lexemes

/-!
# Rounds of the lexer

What the lexer of YAML text does in one round inside an exported document, where no block is open and nothing
has to be a key: it skips a gap, gives up marks that are stale and reads a token (`Leads.of_token`). A name
in quotes is marked, so that the colon behind it makes it a key (`token_text`, `token_colon`).
-/

namespace Workflow

namespace Yaml

namespace Lexer

/-! ### One token -/

/-- The lexer stands before characters, behind tokens and at a depth of brackets; nothing has to be a key. -/
structure At (l : Lexer) (d : Nat) (before : List Token) (cs : List Char) : Prop where
  rest : l.cursor.rest = cs
  size : cs.length ≤ l.cursor.size
  depth : l.depth = d
  tokens : l.tokens = before.reverse
  count : l.count = before.length
  outer : l.outer = []
  indent : l.indent = -1
  optional : ∀ p ∈ l.marks, p.2.required = false

variable {l l' : Lexer} {c : Cursor} {d d' n : Nat} {before after : List Token} {t : Token} {ch : Char}
  {cs gap gap' rest rest' : List Char} {P : Lexer → Prop}

namespace At

/-- Moves behind a token. -/
theorem push (h : At l d before rest) {c : Cursor} (hc : c.rest = rest') (hsize : rest'.length ≤ c.size) (t : Token) :
    At ((l.push t).moveTo c) d (before ++ [t]) rest' where
  rest := hc
  size := hsize
  depth := h.depth
  tokens := by rw [List.reverse_append, ← h.tokens]; rfl
  count := by rw [List.length_append, ← h.count]; rfl
  outer := h.outer
  indent := h.indent
  optional := h.optional

theorem next (h : At l d before (ch :: rest)) :
    l.cursor.next.rest = rest ∧ rest.length ≤ l.cursor.next.size := by
  obtain ⟨hpast, hrest⟩ := Cursor.past_next h.rest
  have := h.size
  rw [List.length_cons] at this
  exact ⟨hrest, by rw [hpast.size]; omega⟩

theorem withMarks (h : At l d before rest) {ms : List (Nat × KeyMark)} (hms : ∀ p ∈ ms, p.2.required = false) :
    At { l with marks := ms } d before rest :=
  { h with optional := hms }

theorem allowing (h : At l d before rest) (b : Bool) : At { l with keyAllowed := b } d before rest := { h with }

theorem inside (h : At l d before rest) (d' : Nat) : At { l with depth := d' } d' before rest := { h with depth := rfl }

theorem peek (h : At l d before (ch :: rest)) : l.cursor.peek = ch := Cursor.peek_eq h.rest

theorem dropMark (h : At l d before rest) : ∃ ms, l.dropMark = .ok { l with marks := ms } ∧
    ∀ p ∈ ms, p.2.required = false := by
  unfold Lexer.dropMark mark?
  cases hm : l.marks.lookup l.depth with
  | none => exact ⟨l.marks, rfl, h.optional⟩
  | some m =>
    obtain ⟨before, after, hmarks, -⟩ := List.lookup_eq_some_iff.1 hm
    have hoptional : m.required = false := h.optional (l.depth, m) (by rw [hmarks]; simp)
    refine ⟨l.marks.filter (·.1 != l.depth), ?_, fun p hp => h.optional p (List.mem_filter.1 hp).1⟩
    simp only [hoptional]
    rfl

/-- A mark of the place before the next token. -/
def mark (l : Lexer) : KeyMark := ⟨l.count, false, l.cursor.index, l.cursor.line, l.cursor.column⟩

theorem markKey (h : At l d before rest) : ∃ ms, l.markKey = .ok { l with marks := ms } ∧
    (∀ p ∈ ms, p.2.required = false) ∧ (l.keyAllowed = true → (l.depth, mark l) ∈ ms.head?) := by
  unfold Lexer.markKey
  by_cases hk : l.keyAllowed = true
  · obtain ⟨ms, hdrop, hms⟩ := h.dropMark
    have hcolumn : (l.depth == 0 && l.indent == (l.cursor.column : Int)) = false := by
      rw [h.indent, Bool.and_eq_false_iff]
      refine .inr (beq_eq_false_iff_ne.2 ?_)
      omega
    refine ⟨(l.depth, mark l) :: ms, ?_, List.forall_mem_cons.2 ⟨rfl, hms⟩, fun _ => rfl⟩
    rw [if_neg (by rw [hk]; decide), hdrop]
    change Except.ok _ = _
    simp only [hcolumn]
    rfl
  · refine ⟨l.marks, ?_, h.optional, fun h => absurd h hk⟩
    rw [if_pos (by simpa using hk)]
    rfl

end At

/-! ### The tokens of each kind -/

/-- The opening brackets and their tokens. -/
def IsOpening (ch : Char) (t : Token) : Prop :=
  ch = '[' ∧ t = .flowSequenceStart ∨ ch = '\x7b' ∧ t = .flowMappingStart

/-- The closing brackets and their tokens. -/
def IsClosing (ch : Char) (t : Token) : Prop :=
  ch = ']' ∧ t = .flowSequenceEnd ∨ ch = '\x7d' ∧ t = .flowMappingEnd

theorem token_opening (hb : IsOpening ch t) (h : At l d before (ch :: rest)) :
    ∃ l', l.token = .ok l' ∧ At l' (d + 1) (before ++ [t]) rest ∧ l'.keyAllowed = true := by
  have htoken : l.token = l.openFlow t := by
    rcases hb with ⟨rfl, rfl⟩ | ⟨rfl, rfl⟩ <;> simp [token, Cursor.isMarker, h.peek]
  obtain ⟨ms, hmark, hms, -⟩ := h.markKey
  obtain ⟨hrest, hsize⟩ := h.next
  refine ⟨_, ?_, (((h.withMarks hms).inside (d + 1)).allowing true).push hrest hsize t, rfl⟩
  rw [htoken, openFlow, hmark, ← h.depth]
  rfl

theorem token_closing (hb : IsClosing ch t) (h : At l (d + 1) before (ch :: rest)) :
    ∃ l', l.token = .ok l' ∧ At l' d (before ++ [t]) rest := by
  have htoken : l.token = l.closeFlow t := by
    rcases hb with ⟨rfl, rfl⟩ | ⟨rfl, rfl⟩ <;> simp [token, Cursor.isMarker, h.peek]
  obtain ⟨ms, hdrop, hms⟩ := h.dropMark
  obtain ⟨hrest, hsize⟩ := h.next
  refine ⟨_, ?_, (((h.withMarks hms).inside d).allowing false).push hrest hsize t⟩
  rw [htoken, closeFlow, hdrop]
  change Except.ok _ = _
  rw [show l.depth - 1 = d by rw [h.depth]; rfl]

theorem token_comma (h : At l d before (',' :: rest)) :
    ∃ l', l.token = .ok l' ∧ At l' d (before ++ [.flowEntry]) rest ∧ l'.keyAllowed = true := by
  have htoken : l.token = l.flowEntry := by simp [token, Cursor.isMarker, h.peek]
  obtain ⟨ms, hdrop, hms⟩ := h.dropMark
  obtain ⟨hrest, hsize⟩ := h.next
  refine ⟨_, ?_, ((h.withMarks hms).allowing true).push hrest hsize .flowEntry, rfl⟩
  rw [htoken, flowEntry, hdrop]
  rfl

/-- The token before the place may be a key: it is marked, and stands near enough on the same line. -/
def KeyBehind (l : Lexer) (position : Nat) : Prop :=
  ∃ m ms, l.marks = (l.depth, m) :: ms ∧ m.position = position ∧ m.line = l.cursor.line ∧
    l.cursor.index - m.index ≤ 1024

theorem token_text {s : String} (h : At l d before (Json.quotedChars s ++ rest))
    (hb : ∀ ch ∈ Json.quotedChars s, isBreak ch = false) :
    ∃ l', l.token = .ok l' ∧ At l' d (before ++ [.scalar s false]) rest ∧
      (l.keyAllowed = true → (Json.quotedChars s).length ≤ 1024 → KeyBehind l' before.length) := by
  have htoken : l.token = l.content (quotedScalar true) := by
    have hpeek : l.cursor.peek = '"' := At.peek h
    simp [token, Cursor.isMarker, hpeek]
  obtain ⟨ms, hmark, hms, hhead⟩ := h.markKey
  obtain ⟨c, hread, hpast, hrest⟩ := quotedScalar_quotedChars (by rw [h.rest]; exact h.size) hb h.rest
  have hsize : rest.length ≤ c.size := by
    have := h.size
    rw [List.length_append] at this
    rw [hpast.size]
    omega
  refine ⟨_, ?_, ((h.withMarks hms).allowing false).push hrest hsize (.scalar s false), fun hk hlen => ?_⟩
  · rw [htoken, content, hmark]
    change (quotedScalar true l.cursor >>= fun r => _) = _
    rw [hread]
    rfl
  · obtain ⟨ms', hms'⟩ := List.head?_eq_some_iff.1 (hhead hk)
    refine ⟨At.mark l, ms', hms', h.count, (hpast.line hb).symm, ?_⟩
    change c.index - l.cursor.index ≤ 1024
    rw [hpast.index]
    omega

/-- Puts a token before the last one. -/
theorem At.insert (h : At l d (before ++ [t]) cs) (k : Token) :
    At (l.insert before.length k) d (before ++ [k, t]) cs where
  rest := h.rest
  size := h.size
  depth := h.depth
  tokens := by
    have hlater : l.count - before.length = 1 := by
      rw [h.count, List.length_append, Nat.add_sub_cancel_left]
      rfl
    unfold Lexer.insert
    simp only [hlater, h.tokens]
    simp
  count := by
    unfold Lexer.insert
    simp only [h.count]
    simp
  outer := h.outer
  indent := h.indent
  optional := h.optional

theorem token_colon (h : At l (d + 1) (before ++ [t]) (':' :: rest)) (hk : KeyBehind l before.length) :
    ∃ l', l.token = .ok l' ∧ At l' (d + 1) (before ++ [.key, t, .value]) rest := by
  obtain ⟨m, ms, hmarks, hpos, -, -⟩ := hk
  have htoken : l.token = l.valueMark := by simp [token, Cursor.isMarker, h.peek, h.depth]
  have hmark : l.mark? = some m := by rw [mark?, hmarks, List.lookup_cons_self]
  have hlater : ∀ p ∈ l.marks.filter (·.1 != l.depth), p.2.required = false := fun p hp =>
    h.optional p (List.mem_filter.1 hp).1
  have hinside : (l.depth == 0) = false := by rw [h.depth]; rfl
  obtain ⟨hrest, hsize⟩ := h.next
  have hpush := (((h.withMarks hlater).allowing false).insert .key).push hrest hsize .value
  rw [List.append_assoc] at hpush
  refine ⟨_, ?_, hpush⟩
  rw [htoken, valueMark, hmark]
  change Except.ok _ = _
  rw [openBlock, hpos, if_neg]
  · rfl
  · change ¬ (l.depth == 0 && _) = true
    rw [hinside]
    exact Bool.false_ne_true

/-- What a number or a name is written with. -/
structure IsPlain (cs : List Char) : Prop where
  all : ∀ ch ∈ cs, isPlainChar ch = true
  opens : ∃ ch t, cs = ch :: t ∧
    (ch.isAlphanum = true ∨ ch = '-' ∧ ∃ ch' t', t = ch' :: t' ∧ ch'.isAlphanum = true)

/-- A character is none of those that are no letter and no digit. -/
theorem beq_of_isAlphanum {e : Char} (h : ch.isAlphanum = true) (he : e.isAlphanum = false) : (ch == e) = false := by
  rw [beq_eq_false_iff_ne]
  rintro rfl
  rw [h] at he
  cases he

theorem isGapOrEnd_of_isAlphanum (h : ch.isAlphanum = true) : isGapOrEnd ch = false := by
  have hne {e : Char} (he : e.isAlphanum = false) : (ch == e) = false := beq_of_isAlphanum h he
  simp only [isGapOrEnd, isSpaceOrEnd, isBreakOrEnd, hne (show '\t'.isAlphanum = false from rfl),
    hne (show ' '.isAlphanum = false from rfl), hne (show '\x00'.isAlphanum = false from rfl),
    hne (show '\r'.isAlphanum = false from rfl), hne (show '\n'.isAlphanum = false from rfl),
    hne (show '\x85'.isAlphanum = false from rfl), hne (show '\u2028'.isAlphanum = false from rfl),
    hne (show '\u2029'.isAlphanum = false from rfl), Bool.or_false]

theorem token_of_isPlain (hcs : IsPlain cs) (h : At l d before (cs ++ rest)) : l.token = l.plain := by
  obtain ⟨ch, t, rfl, halpha | ⟨rfl, ch', t', rfl, halpha⟩⟩ := hcs.opens
  · have hpeek : l.cursor.peek = ch := At.peek h
    have hne {e : Char} (he : e.isAlphanum = false) : (ch == e) = false := beq_of_isAlphanum halpha he
    have hmark : "-?:,[]\x7b\x7d#&*!|>'\"%@\x60".toList.contains ch = false := by
      have : ∀ e ∈ "-?:,[]\x7b\x7d#&*!|>'\"%@\x60".toList, e.isAlphanum = false := forall_of_all (by decide)
      rw [List.contains_eq_any_beq, List.any_eq_false]
      intro e he heq
      rw [hne (this e he)] at heq
      cases heq
    have hstarts : l.startsPlain = true := by
      rw [startsPlain, hpeek]
      simp only [isGapOrEnd_of_isAlphanum halpha, hmark]
      rfl
    simp (disch := decide) only [token, Cursor.isMarker, hpeek, hne, hstarts, Bool.false_and, Bool.and_false,
      Bool.false_eq_true, if_false, if_true]
  · have hpeek : l.cursor.peek = '-' := At.peek h
    have hfollows : l.cursor.peekAt 1 = ch' := by rw [Cursor.peekAt, h.rest]; rfl
    have hgap : isGapOrEnd ch' = false := isGapOrEnd_of_isAlphanum halpha
    have hdash : (ch' == '-') = false := beq_of_isAlphanum halpha rfl
    have hstarts : l.startsPlain = true := by
      rw [startsPlain, hpeek, hfollows, hgap]
      rfl
    simp [token, Cursor.isMarker, hpeek, hfollows, hgap, hdash, hstarts]

theorem token_plain (hcs : IsPlain cs) (hgap : IsGap gap) (hch : closes ch = true) (hd : d ≠ 0)
    (h : At l d before (cs ++ (gap ++ ch :: rest))) :
    ∃ l', l.token = .ok l' ∧ At l' d (before ++ [.scalar (String.ofList cs) true]) (ch :: rest) := by
  obtain ⟨ms, hmark, hms, -⟩ := h.markKey
  have hne : cs ≠ [] := by
    obtain ⟨e, t, rfl, -⟩ := hcs.opens
    exact List.cons_ne_nil _ _
  have hinside : (l.depth != 0) = true := by rw [h.depth]; simpa using hd
  obtain ⟨broken, c, hread, hrest, hsize⟩ :=
    plainScalar_of_closes hgap hch hcs.all hne (by rw [h.rest]; exact h.size) h.rest l.indent
  have hsize' : (ch :: rest).length ≤ c.size := by
    have := h.size
    rw [List.length_append, List.length_append] at this
    rw [hsize]
    omega
  refine ⟨_, ?_, ((h.withMarks hms).allowing broken).push hrest hsize' (.scalar (String.ofList cs) true)⟩
  rw [token_of_isPlain hcs h, plain, hmark]
  simp only [bind, Except.bind, hinside, hread]
  rfl

/-! ### One round -/

/-- The lexer without the marks that have become stale. -/
def fresh (l : Lexer) : Lexer :=
  { l with
    marks := l.marks.filter fun (_, m) => !(m.line != l.cursor.line || l.cursor.index - m.index > 1024) }

theorem At.fresh (h : At l d before cs) : At l.fresh d before cs :=
  h.withMarks fun p hp => h.optional p (List.mem_filter.1 hp).1

theorem KeyBehind.fresh (h : KeyBehind l n) : KeyBehind l.fresh n := by
  obtain ⟨m, ms, hmarks, hpos, hline, hindex⟩ := h
  have hfresh : l.fresh.marks = (l.depth, m) :: ms.filter fun (_, m) =>
      !(m.line != l.cursor.line || l.cursor.index - m.index > 1024) := by
    change l.marks.filter _ = _
    rw [hmarks, List.filter_cons_of_pos]
    simp only [hline, bne_self_eq_false, Bool.false_or, Bool.not_eq_true', decide_eq_false_iff_not]
    omega
  exact ⟨m, _, hfresh, hpos, hline, hindex⟩

theorem At.dropStale (h : At l d before cs) : l.dropStale = .ok l.fresh := by
  rw [Lexer.dropStale, if_neg]
  · rfl
  · simp only [List.any_eq_true, Bool.and_eq_true, not_exists, not_and]
    intro p hp _
    rw [h.optional p hp]
    exact Bool.false_ne_true

theorem At.unwind (h : At l d before cs) (column : Int) : l.unwind column = l := by
  rw [Lexer.unwind, h.outer]
  exact ite_self _

/-- What stands between two tokens does not begin with this character. -/
def opensToken (ch : Char) : Bool := !isSpaceOrEnd ch && ch != '#'

theorem run_succ (fuel : Nat) (l : Lexer) :
    run (fuel + 1) l =
      match (skipGap (l.cursor.size + 1) l).dropStale with
      | .error e => (skipGap (l.cursor.size + 1) l).failAt e
      | .ok l =>
        let l := l.unwind l.cursor.column
        if l.cursor.peek == '\x00' then
          match l.finish with
          | .error e => l.failAt e
          | .ok l => l
        else
          match l.token with
          | .error e => l.failAt e
          | .ok l => run fuel l := by
  exact rfl

theorem run_of_token {fuel : Nat} {l₁ : Lexer} (hskip : skipGap (l.cursor.size + 1) l = l₁)
    (h : At l₁ d before (ch :: rest)) (hch : opensToken ch = true) (htoken : l₁.fresh.token = .ok l') :
    run (fuel + 1) l = run fuel l' := by
  have hzero : (l₁.fresh.cursor.peek == '\x00') = false := by
    rw [h.fresh.peek, beq_eq_false_iff_ne]
    rintro rfl
    exact absurd hch (by decide)
  rw [run_succ]
  simp only [hskip, h.dropStale, h.fresh.unwind, hzero, htoken]
  rfl

theorem At.moveTo (h : At l d before cs) (hpast : l.cursor.Past c rest) (hc : cs = rest ++ c.rest) :
    At (l.moveTo c) d before c.rest where
  rest := rfl
  size := by
    have := h.size
    rw [hc, List.length_append] at this
    have hsize := hpast.size
    change c.rest.length ≤ c.size
    omega
  depth := h.depth
  tokens := h.tokens
  count := h.count
  outer := h.outer
  indent := h.indent
  optional := h.optional

theorem skipGap_spaces {fuel k : Nat} (hch : opensToken ch = true)
    (h : l.cursor.rest = List.replicate k ' ' ++ ch :: rest) :
    skipGap (fuel + 1) l = l.moveTo (l.cursor.skip k) := by
  have hne {e : Char} (he : opensToken e = false) : ch ≠ e := by
    rintro rfl
    rw [hch] at he
    cases he
  have hspan : l.cursor.span (· == ' ') = (List.replicate k ' ', l.cursor.skip k) := by
    rw [Cursor.span_eq (p := (· == ' ')) h (fun ch hc => by rw [List.eq_of_mem_replicate hc]; rfl)
      (.cons (beq_eq_false_iff_ne.2 (hne rfl))), List.length_replicate]
  have hrest : (l.cursor.skip k).rest = ch :: rest := by
    have := (Cursor.past_skip h).2
    rwa [List.length_replicate] at this
  have hbreak : isBreak ch = false := by
    simp only [isBreak, isBreakOrEnd, beq_eq_false_iff_ne.2 (hne (show opensToken '\x00' = false from rfl)),
      beq_eq_false_iff_ne.2 (hne (show opensToken '\r' = false from rfl)),
      beq_eq_false_iff_ne.2 (hne (show opensToken '\n' = false from rfl)),
      beq_eq_false_iff_ne.2 (hne (show opensToken '\x85' = false from rfl)),
      beq_eq_false_iff_ne.2 (hne (show opensToken '\u2028' = false from rfl)),
      beq_eq_false_iff_ne.2 (hne (show opensToken '\u2029' = false from rfl)), Bool.or_false, Bool.false_and]
  have hcomment : (ch == '#') = false := beq_eq_false_iff_ne.2 (hne rfl)
  rw [skipGap, Cursor.skipWhile, hspan]
  simp only [Cursor.peek_eq hrest, hcomment, Bool.false_eq_true, if_false, hbreak]

/-- Blanks and line breaks before a token are skipped. -/
theorem skipGap_eq (hgap : IsGap gap) (hch : opensToken ch = true)
    (h : At l d before (gap ++ ch :: rest)) :
    ∃ l₁, skipGap (l.cursor.size + 1) l = l₁ ∧ At l₁ d before (ch :: rest) ∧
      (l.keyAllowed = true → l₁.keyAllowed = true) ∧ (gap = [] → l₁ = l) := by
  obtain ⟨k, rfl | rfl⟩ := hgap
  · obtain ⟨hpast, hrest⟩ := Cursor.past_skip h.rest
    rw [List.length_replicate] at hpast hrest
    refine ⟨_, skipGap_spaces hch h.rest, ?_, id, fun hk => ?_⟩
    · have := h.moveTo hpast (by rw [hrest])
      rwa [hrest] at this
    · obtain rfl := (List.replicate_eq_nil_iff ' ').1 hk
      rfl
  · obtain ⟨hpast, hrest⟩ := Cursor.past_next h.rest
    have hspan : l.cursor.span (· == ' ') = ([], l.cursor) :=
      Cursor.span_eq (show l.cursor.rest = [] ++ _ from h.rest) (fun _ hc => by cases hc) (.cons rfl)
    have hbreak : l.cursor.lineBreak.2 = l.cursor.next := by
      rw [Cursor.lineBreak, h.rest]
      rfl
    have hcomment : ('\n' == '#') = false := rfl
    have hline : isBreak '\n' = true := rfl
    have hnext : At (l.moveTo l.cursor.next) d before (List.replicate k ' ' ++ ch :: rest) := by
      have := h.moveTo hpast (by rw [hrest]; rfl)
      rwa [hrest] at this
    obtain ⟨hskip, hrest'⟩ := Cursor.past_skip hnext.rest
    rw [List.length_replicate] at hskip hrest'
    have hat := (hnext.allowing (l.keyAllowed || l.depth == 0)).moveTo hskip (by rw [hrest'])
    rw [hrest'] at hat
    obtain ⟨size, hsize⟩ : ∃ n, l.cursor.size = n + 1 := ⟨l.cursor.size - 1, by have := h.size; simp at this; omega⟩
    refine ⟨_, ?_, hat, fun hk => ?_, fun h => by cases h⟩
    · rw [hsize, skipGap, Cursor.skipWhile, hspan]
      simp only [Cursor.peek_eq h.rest, hcomment, Bool.false_eq_true, if_false, hline, if_true, hbreak]
      exact skipGap_spaces hch hnext.rest
    · change (l.keyAllowed || l.depth == 0) = true
      rw [hk]
      rfl

/-! ### Rounds -/

/-- With some rounds less the second lexer gives what the first one does. -/
def Leads (l l' : Lexer) : Prop :=
  ∃ n, n + l'.cursor.rest.length ≤ l.cursor.rest.length ∧ ∀ fuel, run (fuel + n) l = run fuel l'

theorem Leads.trans {l'' : Lexer} (h : Leads l l') (h' : Leads l' l'') : Leads l l'' := by
  obtain ⟨n, hn, hrun⟩ := h
  obtain ⟨n', hn', hrun'⟩ := h'
  refine ⟨n' + n, by omega, fun fuel => ?_⟩
  rw [← Nat.add_assoc, hrun, hrun']

/-- A round that reads a token. -/
theorem Leads.of_token (hgap : IsGap gap) (hch : opensToken ch = true) (h : At l d before (gap ++ ch :: rest))
    (hsuffix : rest' <:+ rest)
    (hstep : ∀ l₁, At l₁ d before (ch :: rest) → (l.keyAllowed = true → l₁.keyAllowed = true) →
      (∀ n, gap = [] → KeyBehind l n → KeyBehind l₁ n) →
      ∃ l', l₁.token = .ok l' ∧ At l' d' after rest' ∧ P l') :
    ∃ l', Leads l l' ∧ At l' d' after rest' ∧ P l' := by
  obtain ⟨l₁, hskip, hat, hallowed, hsame⟩ := skipGap_eq hgap hch h
  obtain ⟨l', htoken, hat', hp⟩ := hstep l₁.fresh hat.fresh hallowed fun n hnil hk => by
    rw [hsame hnil]
    exact hk.fresh
  refine ⟨l', ⟨1, ?_, fun fuel => run_of_token hskip hat hch htoken⟩, hat', hp⟩
  have := hsuffix.length_le
  rw [hat'.rest, h.rest, List.length_append, List.length_cons]
  omega

theorem isGap_nil : IsGap [] := ⟨0, .inl rfl⟩

theorem leads_opening (hb : IsOpening ch t) (hgap : IsGap gap) (h : At l d before (gap ++ ch :: rest)) :
    ∃ l', Leads l l' ∧ At l' (d + 1) (before ++ [t]) rest ∧ l'.keyAllowed = true := by
  refine Leads.of_token hgap ?_ h (List.suffix_refl _) fun l₁ hat _ _ => token_opening hb hat
  rcases hb with ⟨rfl, -⟩ | ⟨rfl, -⟩ <;> rfl

theorem leads_closing (hb : IsClosing ch t) (hgap : IsGap gap) (h : At l (d + 1) before (gap ++ ch :: rest)) :
    ∃ l', Leads l l' ∧ At l' d (before ++ [t]) rest := by
  have hch : opensToken ch = true := by rcases hb with ⟨rfl, -⟩ | ⟨rfl, -⟩ <;> rfl
  obtain ⟨l', hleads, hat, -⟩ := Leads.of_token (P := fun _ => True) hgap hch h (List.suffix_refl _)
    fun l₁ hat _ _ => by
      obtain ⟨l', htoken, hat'⟩ := token_closing hb hat
      exact ⟨l', htoken, hat', trivial⟩
  exact ⟨l', hleads, hat⟩

theorem leads_comma (hgap : IsGap gap) (h : At l d before (gap ++ ',' :: rest)) :
    ∃ l', Leads l l' ∧ At l' d (before ++ [.flowEntry]) rest ∧ l'.keyAllowed = true :=
  Leads.of_token hgap rfl h (List.suffix_refl _) fun _ hat _ _ => token_comma hat

theorem leads_text {s : String} (hb : ∀ ch ∈ Json.quotedChars s, isBreak ch = false) (hgap : IsGap gap)
    (h : At l d before (gap ++ (Json.quotedChars s ++ rest))) :
    ∃ l', Leads l l' ∧ At l' d (before ++ [.scalar s false]) rest ∧
      (l.keyAllowed = true → (Json.quotedChars s).length ≤ 1024 → KeyBehind l' before.length) := by
  have hquoted : Json.quotedChars s ++ rest = '"' :: ((s.toList.flatMap Json.escapeChar ++ ['"']) ++ rest) := rfl
  rw [hquoted] at h
  refine Leads.of_token hgap rfl h (List.suffix_append _ _) fun l₁ hat hallowed _ => ?_
  obtain ⟨l', htoken, hat', hbehind⟩ := token_text (hquoted ▸ hat) hb
  exact ⟨l', htoken, hat', fun hk => hbehind (hallowed hk)⟩

theorem leads_plain (hcs : IsPlain cs) (hgap : IsGap gap) (hgap' : IsGap gap') (hch : closes ch = true) (hd : d ≠ 0)
    (h : At l d before (gap ++ (cs ++ (gap' ++ ch :: rest)))) :
    ∃ l', Leads l l' ∧ At l' d (before ++ [.scalar (String.ofList cs) true]) (ch :: rest) := by
  obtain ⟨c, t, hct, hopens⟩ := hcs.opens
  have hc : opensToken c = true := by
    rcases hopens with halpha | ⟨rfl, -⟩
    · have hgap := isGapOrEnd_of_isAlphanum halpha
      rw [isGapOrEnd, Bool.or_eq_false_iff] at hgap
      rw [opensToken, hgap.2, bne, beq_of_isAlphanum halpha rfl]
      rfl
    · rfl
  have h' : At l d before (gap ++ c :: (t ++ (gap' ++ ch :: rest))) := by rwa [hct] at h
  obtain ⟨l', hleads, hat, -⟩ := Leads.of_token (P := fun _ => True) hgap hc h'
    (show ch :: rest <:+ _ from ⟨t ++ gap', List.append_assoc _ _ _⟩) fun l₁ hat _ _ => by
      obtain ⟨l', htoken, hat'⟩ := token_plain hcs hgap' hch hd (by rwa [hct])
      exact ⟨l', htoken, hat', trivial⟩
  exact ⟨l', hleads, hat⟩

/-- The colon behind a name makes it a key. -/
theorem leads_colon (h : At l (d + 1) (before ++ [t]) (':' :: rest)) (hk : KeyBehind l before.length) :
    ∃ l', Leads l l' ∧ At l' (d + 1) (before ++ [.key, t, .value]) rest := by
  obtain ⟨l', hleads, hat, -⟩ := Leads.of_token (P := fun _ => True) isGap_nil rfl h (List.suffix_refl _)
    fun l₁ hat _ hbehind => by
      obtain ⟨l', htoken, hat'⟩ := token_colon hat (hbehind _ rfl hk)
      exact ⟨l', htoken, hat', trivial⟩
  exact ⟨l', hleads, hat⟩

end Lexer

end Yaml

end Workflow
