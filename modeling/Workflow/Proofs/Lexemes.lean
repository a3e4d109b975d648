import Workflow.Proofs.Layout
import Workflow.Yaml.Lexer

/-!
# JSON texts and names as YAML scalars

What is a text or a plain scalar in an exported document is one for the lexer of YAML text too: a text in
quotes without line breaks gives the same text (`quotedScalar_quotedChars`), and a plain scalar ends where
the separator or the closing bracket stands (`plainScalar_of_closes`).
-/

namespace Workflow.Yaml

/-! ### Moving behind characters -/

namespace Cursor

/-- The second cursor stands behind the characters, which the first stands before. -/
structure Past (c c' : Cursor) (cs : List Char) : Prop where
  rest : c.rest = cs ++ c'.rest
  index : c'.index = c.index + cs.length
  size : c'.size = c.size
  line : (∀ ch ∈ cs, isBreak ch = false) → c'.line = c.line

namespace Past

variable {c c' c'' : Cursor} {cs ds : List Char}

theorem refl (c : Cursor) : Past c c [] := ⟨rfl, rfl, rfl, fun _ => rfl⟩

theorem trans (h : Past c c' cs) (h' : Past c' c'' ds) : Past c c'' (cs ++ ds) where
  rest := by rw [h.rest, h'.rest, List.append_assoc]
  index := by rw [h'.index, h.index, List.length_append, Nat.add_assoc]
  size := h'.size.trans h.size
  line hb :=
    (h'.line fun ch hc => hb ch (List.mem_append_right _ hc)).trans
      (h.line fun ch hc => hb ch (List.mem_append_left _ hc))

end Past

variable {c : Cursor} {ch : Char} {cs rest : List Char}

theorem past_next (h : c.rest = ch :: rest) : Past c c.next [ch] ∧ c.next.rest = rest := by
  rw [next]
  simp only [h]
  by_cases hbreak : (ch == '\n' || ch == '\x85' || ch == '\u2028' || ch == '\u2029' ||
      (ch == '\r' && rest.headD '\x00' != '\n')) = true
  · rw [if_pos hbreak]
    refine ⟨⟨h, rfl, rfl, fun hb => ?_⟩, rfl⟩
    have hplain := hb ch (List.mem_singleton_self ch)
    simp only [Bool.or_eq_true, Bool.and_eq_true, beq_iff_eq] at hbreak
    rcases hbreak with (((rfl | rfl) | rfl) | rfl) | ⟨rfl, -⟩ <;> cases hplain
  · rw [if_neg hbreak]
    split <;> exact ⟨⟨h, rfl, rfl, fun _ => rfl⟩, rfl⟩

theorem past_skip (h : c.rest = cs ++ rest) : Past c (c.skip cs.length) cs ∧ (c.skip cs.length).rest = rest := by
  induction cs generalizing c with
  | nil => exact ⟨.refl c, h⟩
  | cons ch cs ih =>
    obtain ⟨hnext, hrest⟩ := past_next h
    obtain ⟨hskip, hrest'⟩ := ih hrest
    exact ⟨hnext.trans hskip, hrest'⟩

theorem span_eq {p : Char → Bool} (h : c.rest = cs ++ rest) (hcs : ∀ ch ∈ cs, p ch = true) (hr : Stops p rest) :
    c.span p = (cs, c.skip cs.length) := by
  rw [span, h, hr.takeWhile_append hcs]

theorem peek_eq (h : c.rest = ch :: rest) : c.peek = ch := by rw [peek, h]; rfl

end Cursor

/-! ### Texts in quotes -/

theorem le_of_mem_escapeChar {c ch : Char} (h : ch ∈ Json.escapeChar c) : 0x20 ≤ ch.toNat := by
  have hhex : ∀ n < 0x20, ((Text.hex 4 n).toList.all fun ch => decide (0x20 ≤ ch.toNat)) = true := by decide
  unfold Json.escapeChar at h
  split_ifs at h with h1 h2 h3 h4 h5 h6 h7 h8
  any_goals
    refine forall_of_all (p := fun ch => 0x20 ≤ ch.toNat) ?_ ch h
    decide
  · have hfront : ∀ ch ∈ ['\\', 'u'], 0x20 ≤ ch.toNat := forall_of_all (by decide)
    exact (List.mem_append.1 h).elim (hfront ch) (forall_of_all (hhex _ h8) ch)
  · rw [List.mem_singleton.1 h]
    omega

/-- An escape, behind its backslash. -/
def IsEscape (c : Char) (t : List Char) : Prop :=
  ∀ (d : Cursor) (rest : List Char), d.rest = t ++ rest → quotedEscape d = .ok ([c], d.skip t.length)

theorem isEscape_letter {c l : Char} (h : escapeChar? l = some c) : IsEscape c [l] := by
  intro d rest hd
  rw [quotedEscape, Cursor.peek_eq hd, h]
  rfl

theorem isEscape_unicode {c : Char} (hc : c.toNat < 0x20) : IsEscape c ('u' :: (Text.hex 4 c.toNat).toList) := by
  have hhex : ∀ n < 0x20, hexNumber? (Text.hex 4 n).toList = some n ∧ (Text.hex 4 n).toList.length = 4 := by decide
  obtain ⟨hnumber, hlen⟩ := hhex _ hc
  intro d rest hd
  have hds : (d.rest.drop 1).take 4 = (Text.hex 4 c.toNat).toList := by
    rw [hd, List.cons_append, List.drop_succ_cons, List.drop_zero]
    exact List.take_left' hlen
  have hletter : escapeChar? 'u' = none := by decide
  have hdigits : escapeDigits? 'u' = some 4 := by decide
  rw [quotedEscape, Cursor.peek_eq hd, hletter, hdigits]
  simp only [hds, hnumber, hlen, Json.ofCode_toNat hc, List.length_cons]
  rw [if_neg (by decide), if_neg (by omega)]

/-- A character of a text in quotes is a space, a character that stands for itself, or an escape. -/
theorem escapeChar_cases (c : Char) : c = ' ' ∧ Json.escapeChar c = [' '] ∨
    (isGapOrEnd c = false ∨ isBreak c = true) ∧ c ≠ '"' ∧ c ≠ '\\' ∧ Json.escapeChar c = [c] ∨
    ∃ t, Json.escapeChar c = '\\' :: t ∧ IsEscape c t := by
  have hcode {d : Char} (h : (c.toNat == d.toNat) = true) : c = d := Char.toNat_inj.1 (beq_iff_eq.1 h)
  unfold Json.escapeChar
  split_ifs with h1 h2 h3 h4 h5 h6 h7 h8
  · exact .inr (.inr ⟨_, rfl, isEscape_letter (by rw [beq_iff_eq.1 h1]; rfl)⟩)
  · exact .inr (.inr ⟨_, rfl, isEscape_letter (by rw [beq_iff_eq.1 h2]; rfl)⟩)
  · exact .inr (.inr ⟨_, rfl, isEscape_letter (by rw [beq_iff_eq.1 h3]; rfl)⟩)
  · exact .inr (.inr ⟨_, rfl, isEscape_letter (by rw [beq_iff_eq.1 h4]; rfl)⟩)
  · exact .inr (.inr ⟨_, rfl, isEscape_letter (by rw [beq_iff_eq.1 h5]; rfl)⟩)
  · exact .inr (.inr ⟨_, rfl, isEscape_letter (by rw [show c = '\x08' from hcode h6]; rfl)⟩)
  · exact .inr (.inr ⟨_, rfl, isEscape_letter (by rw [show c = '\x0c' from hcode h7]; rfl)⟩)
  · exact .inr (.inr ⟨_, rfl, isEscape_unicode h8⟩)
  · by_cases hspace : c = ' '
    · exact .inl ⟨hspace, by rw [hspace]⟩
    · refine .inr (.inl ⟨?_, by simpa using h1, by simpa using h2, rfl⟩)
      by_contra! hne
      obtain ⟨hgap, hbreak⟩ := hne
      have hzero : c ≠ '\x00' := by
        rintro rfl
        exact h8 (by decide)
      simp only [isGapOrEnd, isSpaceOrEnd, isBreak] at hgap hbreak
      grind

/-- An escaped text goes on with an ordinary character, if the text does not with a space. -/
theorem head_escaped {s rest : List Char} {ch : Char} (hs : Stops (· == ' ') s)
    (hb : ∀ ch ∈ s.flatMap Json.escapeChar, isBreak ch = false)
    (h : ch ∈ (s.flatMap Json.escapeChar ++ '"' :: rest).head?) :
    ch ≠ ' ' ∧ 0x20 ≤ ch.toNat ∧ isBreak ch = false := by
  rcases s with _ | ⟨c, s⟩
  · obtain rfl := Option.some.inj h
    decide
  · have hmem : ch ∈ Json.escapeChar c ∧ ch ≠ ' ' := by
      rcases escapeChar_cases c with ⟨rfl, -⟩ | ⟨-, -, -, hesc⟩ | ⟨t, hesc, -⟩
      · cases hs ' ' rfl
      · rw [List.flatMap_cons, hesc] at h
        obtain rfl := Option.some.inj h
        rw [hesc]
        exact ⟨List.mem_singleton_self c, by simpa using hs c rfl⟩
      · rw [List.flatMap_cons, hesc] at h
        obtain rfl := Option.some.inj h
        rw [hesc]
        exact ⟨List.mem_cons_self, by decide⟩
    exact ⟨hmem.2, le_of_mem_escapeChar hmem.1, hb ch (List.mem_flatMap.2 ⟨c, List.mem_cons_self, hmem.1⟩)⟩

variable {c c' d : Cursor} {ch : Char} {cs s rest : List Char} {fuel : Nat}

theorem quotedText_raw (h : c.rest = ch :: rest) (hgap : isGapOrEnd ch = false) (hquote : ch ≠ '"')
    (hslash : ch ≠ '\\') (hread : quotedText true fuel c.next = .ok (s, c')) :
    quotedText true (fuel + 1) c = .ok (ch :: s, c') := by
  have hquote : (ch == '"') = false := by simpa using hquote
  have hslash : (ch == '\\') = false := by simpa using hslash
  rw [quotedText, Cursor.peek_eq h]
  simp only [hgap, hread, if_true, hquote, hslash]
  rfl

theorem quotedText_escape (h : c.rest = '\\' :: rest) (hescape : quotedEscape c.next = .ok (cs, d))
    (hread : quotedText true fuel d = .ok (s, c')) : quotedText true (fuel + 1) c = .ok (cs ++ s, c') := by
  rw [quotedText, Cursor.peek_eq h, hescape]
  change (quotedText true fuel d >>= fun r => .ok (cs ++ r.1, r.2)) = _
  rw [hread]
  rfl

theorem quotedText_gap (h : c.rest = ' ' :: rest) (hgap : quotedGap c = .ok (cs, d))
    (hread : quotedText true fuel d = .ok (s, c')) : quotedText true (fuel + 1) c = .ok (cs ++ s, c') := by
  rw [quotedText, Cursor.peek_eq h, hgap]
  change (quotedText true fuel d >>= fun r => .ok (cs ++ r.1, r.2)) = _
  rw [hread]
  rfl

/-- Spaces inside a line are kept. -/
theorem quotedGap_spaces {n : Nat} (h : c.rest = List.replicate n ' ' ++ rest)
    (hr : ∀ ch ∈ rest.head?, ch ≠ ' ' ∧ 0x20 ≤ ch.toNat ∧ isBreak ch = false) (hne : rest ≠ []) :
    quotedGap c = .ok (List.replicate n ' ', c.skip n) := by
  obtain ⟨e, es, rfl⟩ := List.exists_cons_of_ne_nil hne
  obtain ⟨hspace, hlow, hbreak⟩ := hr e rfl
  have htab : e ≠ '\t' := by
    rintro rfl
    exact absurd hlow (by decide)
  have hzero : e ≠ '\x00' := by
    rintro rfl
    exact absurd hlow (by decide)
  have hspan : c.span (fun ch => ch == ' ' || ch == '\t') = (List.replicate n ' ', c.skip n) := by
    rw [Cursor.span_eq h (fun ch hc => by rw [List.eq_of_mem_replicate hc]; rfl) (.cons (by simp [hspace, htab])),
      List.length_replicate]
  have hrest : (c.skip n).rest = e :: es := by
    have := (Cursor.past_skip h).2
    rwa [List.length_replicate] at this
  rw [quotedGap, hspan]
  simp only [Cursor.peek_eq hrest, hbreak, beq_eq_false_iff_ne.2 hzero]
  rfl

/-- The spaces at the front of a text. -/
theorem exists_spaces (s : List Char) : ∃ n s', s = List.replicate n ' ' ++ s' ∧ Stops (· == ' ') s' := by
  induction s with
  | nil => exact ⟨0, [], rfl, .nil⟩
  | cons ch s ih =>
    by_cases h : ch = ' '
    · obtain ⟨n, s', rfl, hs'⟩ := ih
      exact ⟨n + 1, s', by rw [h]; rfl, hs'⟩
    · exact ⟨0, ch :: s, rfl, .cons (by simpa using h)⟩

theorem escaped_spaces (n : Nat) : (List.replicate n ' ').flatMap Json.escapeChar = List.replicate n ' ' := by
  induction n with
  | zero => rfl
  | succ n ih => rw [List.replicate_succ, List.flatMap_cons, ih]; rfl

theorem quotedText_escaped {s rest : List Char} {c : Cursor} {fuel : Nat} (hf : s.length < fuel)
    (hb : ∀ ch ∈ s.flatMap Json.escapeChar, isBreak ch = false)
    (h : c.rest = s.flatMap Json.escapeChar ++ '"' :: rest) :
    ∃ c', quotedText true fuel c = .ok (s, c') ∧ c.Past c' (s.flatMap Json.escapeChar ++ ['"']) ∧ c'.rest = rest := by
  induction fuel generalizing s c with
  | zero => omega
  | succ fuel ih =>
    rcases s with _ | ⟨ch, s⟩
    · obtain ⟨hpast, hrest⟩ := Cursor.past_next h
      refine ⟨c.next, ?_, hpast, hrest⟩
      rw [quotedText, Cursor.peek_eq h]
      rfl
    · rw [List.flatMap_cons, List.append_assoc] at h
      rcases escapeChar_cases ch with ⟨rfl, hesc⟩ | ⟨hgap, hquote, hslash, hesc⟩ | ⟨t, hesc, hescape⟩
      · obtain ⟨n, s', rfl, hs'⟩ := exists_spaces s
        rw [List.flatMap_append, escaped_spaces] at h
        rw [List.flatMap_cons, List.flatMap_append, escaped_spaces] at hb
        have h' : c.rest = List.replicate (n + 1) ' ' ++ (s'.flatMap Json.escapeChar ++ '"' :: rest) := by
          rw [h, List.append_assoc]
          rfl
        have hb' : ∀ ch ∈ s'.flatMap Json.escapeChar, isBreak ch = false := fun ch hch => hb ch (by simp [hch])
        have hgap := quotedGap_spaces h' (fun ch hch => head_escaped hs' hb' hch) (by simp)
        obtain ⟨hpast, hrest⟩ := Cursor.past_skip h'
        rw [List.length_replicate] at hpast hrest
        have hlen : s'.length < fuel := by
          simp only [List.length_cons, List.length_append, List.length_replicate] at hf
          omega
        obtain ⟨c', hread, hpast', hrest'⟩ := ih hlen hb' hrest
        refine ⟨c', quotedText_gap h' hgap hread, ?_, hrest'⟩
        rw [List.flatMap_cons, List.flatMap_append, escaped_spaces, hesc]
        simpa [List.replicate_succ] using hpast.trans hpast'
      · have hgap : isGapOrEnd ch = false := hgap.resolve_right (by
          rw [hb ch (by rw [List.flatMap_cons, hesc]; exact List.mem_cons_self)]
          decide)
        rw [hesc, List.singleton_append] at h
        obtain ⟨hpast, hrest⟩ := Cursor.past_next h
        obtain ⟨c', hread, hpast', hrest'⟩ := ih (Nat.lt_of_succ_lt_succ hf) (fun d hd => hb d (by
          rw [List.flatMap_cons]
          exact List.mem_append_right _ hd)) hrest
        refine ⟨c', quotedText_raw h hgap hquote hslash hread, ?_, hrest'⟩
        rw [List.flatMap_cons, hesc]
        exact hpast.trans hpast'
      · rw [hesc, List.cons_append] at h
        obtain ⟨hpast, hrest⟩ := Cursor.past_next h
        obtain ⟨hskip, hrest'⟩ := Cursor.past_skip hrest
        obtain ⟨c', hread, hpast', hrest''⟩ := ih (Nat.lt_of_succ_lt_succ hf) (fun d hd => hb d (by
          rw [List.flatMap_cons]
          exact List.mem_append_right _ hd)) hrest'
        refine ⟨c', quotedText_escape h (hescape _ _ hrest) hread, ?_, hrest''⟩
        rw [List.flatMap_cons, hesc, List.append_assoc]
        exact (hpast.trans hskip).trans hpast'

theorem length_le_escaped (s : List Char) : s.length ≤ (s.flatMap Json.escapeChar).length := by
  induction s with
  | nil => exact Nat.le_refl _
  | cons ch s ih =>
    have : 1 ≤ (Json.escapeChar ch).length := by
      rcases escapeChar_cases ch with ⟨-, hesc⟩ | ⟨-, -, -, hesc⟩ | ⟨t, hesc, -⟩ <;> rw [hesc] <;> simp
    rw [List.flatMap_cons, List.length_append, List.length_cons]
    omega

/-- A text in quotes is read as it is. -/
theorem quotedScalar_quotedChars {t : String} (hsize : c.rest.length ≤ c.size)
    (hb : ∀ ch ∈ Json.quotedChars t, isBreak ch = false) (h : c.rest = Json.quotedChars t ++ rest) :
    ∃ c', quotedScalar true c = .ok (.scalar t false, c') ∧ c.Past c' (Json.quotedChars t) ∧ c'.rest = rest := by
  have h' : c.rest = '"' :: (t.toList.flatMap Json.escapeChar ++ '"' :: rest) := by
    rw [h, Json.quotedChars, List.cons_append, List.append_assoc]
    rfl
  have hlen := length_le_escaped t.toList
  have hfuel : t.toList.length < c.size + 1 := by
    rw [h', List.length_cons, List.length_append] at hsize
    omega
  have hb' : ∀ ch ∈ t.toList.flatMap Json.escapeChar, isBreak ch = false := fun ch hc =>
    hb ch (List.mem_cons_of_mem _ (List.mem_append_left _ hc))
  obtain ⟨hpast, hrest⟩ := Cursor.past_next h'
  obtain ⟨c', hread, hpast', hrest'⟩ := quotedText_escaped hfuel hb' hrest
  refine ⟨c', ?_, hpast.trans hpast', hrest'⟩
  rw [quotedScalar, hread]
  change Except.ok (Token.scalar (String.ofList t.toList) false, c') = _
  rw [String.ofList_toList]

/-! ### Plain scalars -/

/-- A character of a number or a name in JSON text. -/
def isPlainChar (c : Char) : Bool := c.isAlphanum || c == '.' || c == '-' || c == '+'

/-- What ends a part of a container: a separator, or a closing bracket. -/
def closes (c : Char) : Bool := c == ',' || c == ']' || c == '\x7d'

/-- What stands before a part of a container or its end: blanks, or a line break and blanks. -/
def IsGap (cs : List Char) : Prop := ∃ n, cs = List.replicate n ' ' ∨ cs = '\n' :: List.replicate n ' '

theorem plainRun_of_ends {e : Char} (he : isGapOrEnd e = true ∨ closes e = true) :
    plainRun true (e :: rest) = [] := by
  have hends : (isGapOrEnd e || (true && ",?[]\x7b\x7d".toList.contains e)) = true := by
    rcases he with he | he
    · rw [he]
      rfl
    · simp only [closes, Bool.or_eq_true, beq_iff_eq] at he
      rcases he with (rfl | rfl) | rfl <;> rfl
  rw [plainRun, hends]
  rfl

theorem plainRun_append {e : Char} (hcs : ∀ ch ∈ cs, isPlainChar ch = true)
    (he : isGapOrEnd e = true ∨ closes e = true) : plainRun true (cs ++ e :: rest) = cs := by
  induction cs with
  | nil => exact plainRun_of_ends he
  | cons ch cs ih =>
    obtain ⟨hch, hcs⟩ := List.forall_mem_cons.1 hcs
    have hne {d : Char} (hd : isPlainChar d = false) : (ch == d) = false := by
      rw [beq_eq_false_iff_ne]
      rintro rfl
      rw [hch] at hd
      cases hd
    have hgap : isGapOrEnd ch = false := by
      simp only [isGapOrEnd, isSpaceOrEnd, isBreakOrEnd, hne (show isPlainChar '\t' = false from rfl),
        hne (show isPlainChar ' ' = false from rfl), hne (show isPlainChar '\x00' = false from rfl),
        hne (show isPlainChar '\r' = false from rfl), hne (show isPlainChar '\n' = false from rfl),
        hne (show isPlainChar '\x85' = false from rfl), hne (show isPlainChar '\u2028' = false from rfl),
        hne (show isPlainChar '\u2029' = false from rfl), Bool.or_false]
    have hmark : ",?[]\x7b\x7d".toList.contains ch = false := by
      rw [List.contains_eq_any_beq, List.any_eq_false]
      intro d hd heq
      obtain rfl := beq_iff_eq.1 heq
      have : ∀ d ∈ ",?[]\x7b\x7d".toList, isPlainChar d = false := forall_of_all (by decide)
      rw [this ch hd] at hch
      cases hch
    rw [List.cons_append, plainRun]
    simp only [hgap, hmark, hne (show isPlainChar ':' = false from rfl), ih hcs]
    rfl

theorem isSeparator_eq_false (h : c.rest = ch :: rest) (hdash : ch ≠ '-') (hpoint : ch ≠ '.') :
    c.isSeparator = false := by
  rw [Cursor.isSeparator, Cursor.isMarker, Cursor.isMarker, Cursor.peek_eq h, beq_eq_false_iff_ne.2 hdash,
    beq_eq_false_iff_ne.2 hpoint]
  rfl

theorem plainBreaks_spaces {n : Nat} (hf : n < fuel) (hspace : ch ≠ ' ') (hbreak : isBreak ch = false)
    (h : c.rest = List.replicate n ' ' ++ ch :: rest) : plainBreaks fuel c = (some [], c.skip n) := by
  induction n generalizing c fuel with
  | zero =>
    obtain ⟨fuel, rfl⟩ : ∃ k, fuel = k + 1 := ⟨fuel - 1, by omega⟩
    rw [plainBreaks, Cursor.peek_eq h, if_neg (by simpa using hspace), if_neg (by rw [hbreak]; decide)]
    rfl
  | succ n ih =>
    obtain ⟨fuel, rfl⟩ : ∃ k, fuel = k + 1 := ⟨fuel - 1, by omega⟩
    rw [List.replicate_succ, List.cons_append] at h
    rw [plainBreaks, Cursor.peek_eq h, if_pos (show (' ' == ' ') = true from rfl),
      ih (by omega) (Cursor.past_next h).2]
    rfl

theorem ne_of_closes {d e : Char} (he : closes e = true) (hd : closes d = false) : e ≠ d := by
  rintro rfl
  rw [he] at hd
  cases hd

theorem isBreak_of_closes {e : Char} (he : closes e = true) : isBreak e = false := by
  simp only [closes, Bool.or_eq_true, beq_iff_eq] at he
  rcases he with (rfl | rfl) | rfl <;> rfl

/-- The gap behind a plain scalar goes up to what ends the part. -/
theorem plainGap_of_closes {gap : List Char} {e : Char} (hgap : IsGap gap) (he : closes e = true)
    (hsize : c.rest.length ≤ c.size) (h : c.rest = gap ++ e :: rest) :
    ∃ text broken c', plainGap c = (text, broken, c') ∧ c'.rest = e :: rest ∧ c'.size = c.size := by
  have hspace : e ≠ ' ' := ne_of_closes he rfl
  obtain ⟨n, rfl | rfl⟩ := hgap
  · have hspan : c.span (· == ' ') = (List.replicate n ' ', c.skip n) := by
      rw [Cursor.span_eq (p := (· == ' ')) h (fun ch hc => by rw [List.eq_of_mem_replicate hc]; rfl)
        (.cons (beq_eq_false_iff_ne.2 hspace)), List.length_replicate]
    obtain ⟨hpast, hrest⟩ := Cursor.past_skip h
    rw [List.length_replicate] at hpast hrest
    refine ⟨List.replicate n ' ', false, c.skip n, ?_, hrest, hpast.size⟩
    rw [plainGap, hspan]
    simp only [Cursor.peek_eq hrest, isBreak_of_closes he]
    rfl
  · have hspan : c.span (· == ' ') = ([], c) :=
      Cursor.span_eq (show c.rest = [] ++ _ from h) (fun _ hc => by cases hc) (.cons rfl)
    obtain ⟨hpast, hrest⟩ := Cursor.past_next h
    have hbreak : c.lineBreak = (['\n'], c.next) := by
      rw [Cursor.lineBreak, h]
      rfl
    have hsep : c.next.isSeparator = false := by
      cases n with
      | zero => exact isSeparator_eq_false hrest (ne_of_closes he rfl) (ne_of_closes he rfl)
      | succ n => exact isSeparator_eq_false hrest (by decide) (by decide)
    have hlen : n < c.next.size + 1 := by
      rw [h, List.length_append, List.length_cons, List.length_replicate] at hsize
      rw [hpast.size]
      omega
    obtain ⟨hskip, hrest'⟩ := Cursor.past_skip hrest
    rw [List.length_replicate] at hskip hrest'
    refine ⟨[' '], true, c.next.skip n, ?_, hrest', hskip.size.trans hpast.size⟩
    rw [plainGap, hspan]
    simp only [Cursor.peek_eq h, hbreak, hsep, plainBreaks_spaces hlen hspace (isBreak_of_closes he) hrest]
    rfl

theorem plainLines_of_closes {e : Char} (he : closes e = true) (h : c.rest = e :: rest) (indent : Int)
    (gap : List Char) (broken : Bool) : plainLines true indent fuel gap broken c = ([], broken, c) := by
  cases fuel with
  | zero => rfl
  | succ fuel =>
    rw [plainLines, h, plainRun_of_ends (.inr he)]
    exact ite_self _

/-- A number or a name ends where the part of its container ends. -/
theorem plainScalar_of_closes {gap : List Char} {e : Char} (hgap : IsGap gap) (he : closes e = true)
    (hcs : ∀ ch ∈ cs, isPlainChar ch = true) (hne : cs ≠ []) (hsize : c.rest.length ≤ c.size)
    (h : c.rest = cs ++ (gap ++ e :: rest)) (parent : Int) : ∃ broken c',
    plainScalar true parent c = (.scalar (String.ofList cs) true, broken, c') ∧ c'.rest = e :: rest ∧
      c'.size = c.size := by
  have hrun : plainRun true c.rest = cs := by
    rw [h]
    obtain ⟨n, rfl | rfl⟩ := hgap
    · cases n with
      | zero => exact plainRun_append hcs (.inr he)
      | succ n => exact plainRun_append hcs (.inl rfl)
    · exact plainRun_append hcs (.inl rfl)
  obtain ⟨hpast, hrest⟩ := Cursor.past_skip h
  have hsize' : (c.skip cs.length).rest.length ≤ (c.skip cs.length).size := by
    rw [h, List.length_append] at hsize
    rw [hpast.size, hrest]
    omega
  obtain ⟨text, broken, c', hread, hrest', hsize''⟩ := plainGap_of_closes hgap he hsize' hrest
  refine ⟨broken, c', ?_, hrest', hsize''.trans hpast.size⟩
  obtain ⟨ch, cs, rfl⟩ := List.exists_cons_of_ne_nil hne
  have hmark : (c.peek == '#') = false := by
    rw [Cursor.peek_eq h, beq_eq_false_iff_ne]
    rintro rfl
    cases hcs _ List.mem_cons_self
  have hlines : plainLines true (parent + 1) (c.size + 1) [] false c = (ch :: cs, broken, c') := by
    rw [plainLines, hmark, hrun]
    simp only [hread, plainLines_of_closes he hrest']
    rw [if_neg Bool.false_ne_true, if_neg (show ¬ (ch :: cs).isEmpty = true from Bool.false_ne_true)]
    split
    · rfl
    · rw [List.nil_append, List.append_nil]
  rw [plainScalar, hlines]

end Workflow.Yaml
