import Workflow.Proofs.Digits
import Workflow.Proofs.Rounding

/-!
# Texts of numbers

The text of a finite number is a numeral with a fraction or an exponent (`Numeral.Spelling`), and every
reader of such a numeral computes the same number from its parts (`Spelling.double`). So what a number
reads as follows from its text alone (`Double.reread`).
-/

namespace Workflow

/-! ### Numerals with a fraction or an exponent -/

namespace Numeral

/-- A numeral that is no integer, by its parts. -/
structure Spelling where
  negative : Bool
  whole : List Char
  fraction : List Char
  /-- Whether the exponent is negative, and its digits. -/
  exponent : Option (Bool × List Char)
  isDigits_whole : IsDigits whole
  whole_ne : whole ≠ []
  leading : whole = ['0'] ∨ whole.head? ≠ some '0'
  isDigits_fraction : IsDigits fraction
  isDigits_exponent : ∀ e ∈ exponent, IsDigits e.2
  exponent_ne : ∀ e ∈ exponent, e.2 ≠ []
  isFloat : fraction = [] → exponent ≠ none
  single : fraction = [] → ∃ c, whole = [c]

namespace Spelling

def fractionText (w : Spelling) : List Char := if w.fraction = [] then [] else '.' :: w.fraction

def exponentText (w : Spelling) : List Char :=
  match w.exponent with
  | none => []
  | some (negative, ds) => 'e' :: (if negative then '-' else '+') :: ds

/-- The numeral without its sign. -/
def body (w : Spelling) : List Char := w.whole ++ (w.fractionText ++ w.exponentText)

def chars (w : Spelling) : List Char := (if w.negative then ['-'] else []) ++ w.body

def exponentValue (w : Spelling) : Int :=
  match w.exponent with
  | none => 0
  | some (negative, ds) => if negative then -(ofDigits (digitValues ds) : Int) else ofDigits (digitValues ds)

/-- The number that is written. -/
def double (w : Spelling) : Double :=
  decimalOf w.negative (digitValues w.whole) (digitValues w.fraction) w.exponentValue

variable (w : Spelling)

theorem exists_whole : ∃ c cs, c.isDigit = true ∧ w.whole = c :: cs := by
  obtain ⟨c, cs, h⟩ := List.exists_cons_of_ne_nil w.whole_ne
  exact ⟨c, cs, w.isDigits_whole c (h ▸ List.mem_cons_self), h⟩

theorem exists_body : ∃ c cs, c.isDigit = true ∧ w.body = c :: cs := by
  obtain ⟨c, cs, hc, h⟩ := w.exists_whole
  exact ⟨c, _, hc, by rw [body, h, List.cons_append]⟩

theorem isChar_of_mem_body : ∀ c ∈ w.body, isChar c = true := by
  have hfraction : ∀ c ∈ w.fractionText, isChar c = true := by
    unfold fractionText
    split
    · exact fun c h => nomatch h
    · exact List.forall_mem_cons.2 ⟨rfl, isChar_of_isDigits w.isDigits_fraction⟩
  have hexponent : ∀ c ∈ w.exponentText, isChar c = true := by
    unfold exponentText
    split
    · exact fun c h => nomatch h
    next negative ds he =>
      refine List.forall_mem_cons.2 ⟨rfl, List.forall_mem_cons.2 ⟨by cases negative <;> rfl, ?_⟩⟩
      exact isChar_of_isDigits (w.isDigits_exponent _ he)
  intro c hc
  rcases List.mem_append.1 hc with hc | hc
  · exact isChar_of_isDigits w.isDigits_whole c hc
  · exact (List.mem_append.1 hc).elim (hfraction c) (hexponent c)

theorem isChar_of_mem : ∀ c ∈ w.chars, isChar c = true := by
  intro c hc
  rcases List.mem_append.1 hc with hc | hc
  · split at hc
    · rw [List.mem_singleton.1 hc]
      rfl
    · cases hc
  · exact w.isChar_of_mem_body c hc

theorem exists_chars : ∃ c cs, w.chars = c :: cs ∧ opensNumber c = true := by
  obtain ⟨d, ds, hd, hbody⟩ := w.exists_body
  rw [chars, hbody]
  split
  · exact ⟨_, _, rfl, rfl⟩
  · exact ⟨d, ds, rfl, by rw [opensNumber, hd]; rfl⟩

theorem sign_chars : sign w.chars = (w.negative, w.body) := by
  obtain ⟨c, cs, hc, h⟩ := w.exists_body
  rw [chars]
  cases w.negative with
  | true => rfl
  | false =>
    rw [if_neg (by decide), List.nil_append, h, sign_of_isDigit hc]

/-! #### As people write them -/

theorem stops_exponentText {p : Char → Bool} (h : p 'e' = false) : Stops p w.exponentText := by
  unfold exponentText
  split
  · exact .nil
  · exact .cons h

theorem stops_tail {p : Char → Bool} (h : p '.' = false) (h' : p 'e' = false) :
    Stops p (w.fractionText ++ w.exponentText) := by
  unfold fractionText
  split
  · exact w.stops_exponentText h'
  · exact .cons h

theorem exponent?_exponentText : Numeral.exponent? w.exponentText = some w.exponentValue := by
  unfold exponentText exponentValue
  cases he : w.exponent with
  | none => rfl
  | some e =>
    obtain ⟨negative, ds⟩ := e
    have hds := w.isDigits_exponent _ he
    have hne := w.exponent_ne _ he
    have hrun : digitRun [] ds = (digitValues ds, []) := by
      have := digitRun_append hds .nil []
      rwa [List.append_nil] at this
    have hsign : sign ((if negative then '-' else '+') :: ds) = (negative, ds) := by cases negative <;> rfl
    obtain ⟨d, ds, rfl⟩ := List.exists_cons_of_ne_nil hne
    simp only [Numeral.exponent?, hsign, hrun]
    rfl

theorem exists_exponentText (h : w.exponent ≠ none) : ∃ t, w.exponentText = 'e' :: t := by
  obtain ⟨⟨negative, ds⟩, he⟩ := Option.ne_none_iff_exists'.1 h
  exact ⟨_, by rw [exponentText, he]⟩

theorem isWord_body {word : String} (h : ∀ c ∈ word.toList.head?, c.isDigit = false)
    (hw : word.toList ≠ []) : isWord word w.body = false := by
  obtain ⟨c, cs, hc, hbody⟩ := w.exists_body
  rw [hbody]
  exact isWord_of_isDigit hc h hw

theorem unsignedDouble?_body (negative : Bool) : unsignedDouble? negative w.body =
    some (decimalOf negative (digitValues w.whole) (digitValues w.fraction) w.exponentValue) := by
  have hrun : digitRun [] w.body = (digitValues w.whole, w.fractionText ++ w.exponentText) :=
    digitRun_append w.isDigits_whole (w.stops_tail rfl rfl) []
  have hne : (digitValues w.whole).isEmpty = false := by simp [digitValues, w.whole_ne]
  have hinf : isWord "inf" w.body = false := w.isWord_body (by rintro c ⟨⟩; rfl) (by decide)
  have hinfinity : isWord "infinity" w.body = false := w.isWord_body (by rintro c ⟨⟩; rfl) (by decide)
  have hnan : isWord "nan" w.body = false := w.isWord_body (by rintro c ⟨⟩; rfl) (by decide)
  rw [unsignedDouble?, hinf, hinfinity, hnan, hrun]
  simp only [Bool.false_eq_true, Bool.or_self, if_false]
  by_cases hf : w.fraction = []
  · obtain ⟨t, ht⟩ := w.exists_exponentText (w.isFloat hf)
    have hexponent := w.exponent?_exponentText
    rw [ht] at hexponent
    rw [fractionText, if_pos hf, List.nil_append, hf, ht]
    simp only [hne, hexponent]
    rfl
  · obtain ⟨d, ds, hd⟩ := List.exists_cons_of_ne_nil hf
    have hdigit : d.isDigit = true := w.isDigits_fraction d (hd ▸ List.mem_cons_self)
    have hfraction : digitRun [] (w.fraction ++ w.exponentText) =
        (digitValues w.fraction, w.exponentText) :=
      digitRun_append w.isDigits_fraction (w.stops_exponentText rfl) []
    rw [fractionText, if_neg hf, List.cons_append]
    split
    next ht =>
      rw [hd] at ht
      exact absurd (List.cons.inj (List.cons.inj ht).2).1 (ne_of_isDigit hdigit rfl)
    next t _ ht =>
      obtain rfl := (List.cons.inj ht).2
      rw [hfraction]
      simp only [hne, Bool.false_and, Bool.false_eq_true, if_false, w.exponent?_exponentText]
      rfl
    next h => exact absurd rfl (h _)


theorem double?_chars : double? (String.ofList w.chars) = some w.double := by
  have htrim : Text.trimBy Text.isNumeralBlank w.chars = w.chars :=
    Text.trimBy_eq fun c hc => isNumeralBlank_of_isChar (w.isChar_of_mem c hc)
  rw [double?, String.toList_ofList, htrim, w.sign_chars]
  exact w.unsignedDouble?_body w.negative

/-- The numeral without its sign. -/
def unsigned : Spelling := { w with negative := false }

theorem chars_unsigned : w.unsigned.chars = w.body := rfl

theorem neg_unsigned : (if w.negative then w.unsigned.double.neg else w.unsigned.double) = w.double := by
  unfold double
  cases w.negative with
  | false => rfl
  | true => exact Double.neg_ofDecimal _ _

/-! #### In JSON text -/

variable {rest : List Char}

theorem jsonExponent? (hr : Stops continues rest) :
    Json.exponent? (w.exponentText ++ rest) = w.exponent.map fun _ => (w.exponentValue, rest) := by
  unfold exponentText exponentValue
  cases he : w.exponent with
  | none =>
    cases rest with
    | nil => rfl
    | cons c rest =>
      have hc := hr c rfl
      simp only [continues, Bool.or_eq_false_iff] at hc
      rw [List.nil_append, Json.exponent?, hc.1.2, hc.2]
      rfl
  | some e =>
    obtain ⟨negative, ds⟩ := e
    have hdigits : Json.digits (ds ++ rest) = (digitValues ds, rest) :=
      jsonDigits_append (w.isDigits_exponent _ he) (hr.mono isDigit_continues)
    have hsign : sign ((if negative then '-' else '+') :: (ds ++ rest)) = (negative, ds ++ rest) := by
      cases negative <;> rfl
    obtain ⟨d, ds, rfl⟩ := List.exists_cons_of_ne_nil (w.exponent_ne _ he)
    simp only [List.cons_append] at hdigits hsign
    simp only [Json.exponent?, List.cons_append, hsign, hdigits]
    rfl

theorem jsonFraction? (hr : Stops continues rest) :
    Json.fraction? (w.fractionText ++ (w.exponentText ++ rest)) =
      if w.fraction = [] then none else some (digitValues w.fraction, w.exponentText ++ rest) := by
  by_cases hf : w.fraction = []
  · obtain ⟨t, ht⟩ := w.exists_exponentText (w.isFloat hf)
    rw [fractionText, if_pos hf, if_pos hf, ht]
    rfl
  · obtain ⟨d, ds, hd⟩ := List.exists_cons_of_ne_nil hf
    have hdigit : d.isDigit = true := w.isDigits_fraction d (hd ▸ List.mem_cons_self)
    have hstops : Stops Char.isDigit (w.exponentText ++ rest) := by
      unfold exponentText
      split
      · exact hr.mono isDigit_continues
      · exact .cons rfl
    rw [fractionText, if_neg hf, if_neg hf, ← jsonDigits_append w.isDigits_fraction hstops, hd]
    simp only [List.cons_append, Json.fraction?, hdigit, if_true]

theorem number_body (limits : JsonLimits) (negative : Bool) (hr : Stops continues rest) :
    Json.number limits negative (w.body ++ rest) =
      .ok (.float (decimalOf negative (digitValues w.whole) (digitValues w.fraction) w.exponentValue), rest) := by
  have hstops : Stops Char.isDigit (w.fractionText ++ (w.exponentText ++ rest)) := by
    unfold fractionText exponentText
    split
    · split
      · exact hr.mono isDigit_continues
      · exact .cons rfl
    · exact .cons rfl
  have hbody : w.body ++ rest = w.whole ++ (w.fractionText ++ (w.exponentText ++ rest)) := by
    rw [body, List.append_assoc, List.append_assoc]
  unfold Json.number
  split
  next whole tail hw =>
  obtain ⟨rfl, rfl⟩ : digitValues w.whole = whole ∧ w.fractionText ++ (w.exponentText ++ rest) = tail := by
    rw [hbody] at hw
    rcases w.leading with h | h
    · rw [h] at hw ⊢
      cases hw
      exact ⟨rfl, rfl⟩
    · split at hw
      next ht =>
        obtain ⟨c, cs, -, hc⟩ := w.exists_whole
        rw [hc] at ht h
        exact absurd (congrArg some (List.cons.inj ht).1) h
      next =>
        rw [jsonDigits_append w.isDigits_whole hstops] at hw
        cases hw
        exact ⟨rfl, rfl⟩
  have hne : (digitValues w.whole).isEmpty = false := by simp [digitValues, w.whole_ne]
  rw [hne, if_neg (by decide), w.jsonFraction? hr]
  by_cases hf : w.fraction = []
  · obtain ⟨e, he⟩ := Option.ne_none_iff_exists'.1 (w.isFloat hf)
    rw [fractionText, if_pos hf, if_pos hf, List.nil_append, w.jsonExponent? hr, he, hf]
    rfl
  · rw [if_neg hf]
    simp only [w.jsonExponent? hr]
    unfold exponentValue
    cases he : w.exponent with
    | none => rw [exponentText, he]; rfl
    | some e => rfl

theorem scalar_chars (limits : JsonLimits) (hr : Stops continues rest) :
    Json.scalar limits (w.chars ++ rest) = .ok (.float w.double, rest) := by
  obtain ⟨c, cs, hc, hbody⟩ := w.exists_body
  rw [double, chars]
  cases w.negative with
  | true =>
    rw [if_pos rfl, List.singleton_append, List.cons_append, ← w.number_body limits true hr, hbody]
    exact Json.scalar_minus limits hc
  | false =>
    rw [if_neg (by decide), List.nil_append, ← w.number_body limits false hr, hbody]
    exact Json.scalar_of_isDigit limits hc


end Spelling

end Numeral

/-! ### The texts of finite numbers -/

namespace DecimalStyle

open Numeral

theorem isDigits_exponentText (e : Int) : ∃ ds, IsDigits ds ∧ ds ≠ [] ∧ ofDigits (digitValues ds) = e.natAbs ∧
    (exponentText e).toList = 'e' :: (if decide (e < 0) then '-' else '+') :: ds := by
  have hsign : (if e < 0 then "e-" else "e+").toList = ['e', if decide (e < 0) then '-' else '+'] := by
    by_cases h : e < 0 <;> simp [h]
  refine ⟨(if (toString e.natAbs).length < 2 then "0" ++ toString e.natAbs else toString e.natAbs).toList,
    ?_, ?_, ?_, ?_⟩
  · split
    · rw [String.toList_append, Json.toList_toString]
      exact (IsDigits.zeros 1).append (.toDigits _)
    · rw [Json.toList_toString]
      exact .toDigits _
  · split <;> simp [Nat.toDigits_ne_nil]
  · split
    · rw [String.toList_append, Json.toList_toString]
      exact ofDigits_toDigits e.natAbs
    · rw [Json.toList_toString, ofDigits_toDigits]
  · rw [exponentText, String.toList_append, hsign]
    rfl

theorem head?_take_toDigits {n k : Nat} (hn : 0 < n) (hk : 0 < k) :
    ((Nat.toDigits 10 n).take k).head? ≠ some '0' := by
  rw [List.head?_take, if_neg (by omega)]
  exact head?_toDigits hn

/-- The text of a decimal is a numeral that is no integer. Without a point it has a single digit. -/
theorem exists_spelling (negative : Bool) (d : Decimal) : ∃ w : Spelling, w.negative = negative ∧
    (document.layout d).toList = w.body ∧
    (w.fraction = [] → d.digits ≠ 0 ∧ w.double = .ofDecimal negative d.digits d.exponent) := by
  have hdigits := IsDigits.toDigits d.digits
  have hzero : IsDigits ['0'] := .zeros 1
  unfold layout
  simp only [Json.toList_toString, document]
  generalize htop :
    (if d.digits = 0 then (0 : Int) else d.exponent + ((Nat.toDigits 10 d.digits).length : Int) - 1) = top
  obtain ⟨c, cs, hds⟩ := List.exists_cons_of_ne_nil (Nat.toDigits_ne_nil : Nat.toDigits 10 d.digits ≠ [])
  split
  next hrange =>
    split
    next hneg =>
      refine ⟨⟨negative, ['0'], List.replicate (-top - 1).toNat '0' ++ Nat.toDigits 10 d.digits, none, hzero, by simp,
        .inl rfl, (IsDigits.zeros _).append hdigits, by simp, by simp, by simp [hds], by simp⟩, rfl, ?_,
        fun h => by simp [hds] at h⟩
      simp [Spelling.body, Spelling.fractionText, Spelling.exponentText, hds]
    next hpos =>
      have hwhole : ∃ n m, 0 < n ∧ (top + 1).toNat = n ∧
          (top + 1 - ((Nat.toDigits 10 d.digits).length : Int)).toNat = m ∧ (d.digits = 0 → n = 1 ∧ m = 0) := by
        refine ⟨_, _, by omega, rfl, rfl, fun h => ?_⟩
        rw [if_pos h] at htop
        rw [← htop, h]
        exact ⟨rfl, rfl⟩
      obtain ⟨n, m, hn, hn', hm, hz⟩ := hwhole
      have hfraction {p : Prop} (h : (if (Nat.toDigits 10 d.digits).drop n = [] then ['0']
          else (Nat.toDigits 10 d.digits).drop n) = []) : p := by
        split at h
        · cases h
        next hne => exact absurd h hne
      rw [hn', hm]
      refine ⟨⟨negative, (Nat.toDigits 10 d.digits).take n ++ List.replicate m '0',
        if (Nat.toDigits 10 d.digits).drop n = [] then ['0'] else (Nat.toDigits 10 d.digits).drop n, none,
        (hdigits.take n).append (.zeros m), ?_, ?_, ?_, by simp, by simp, hfraction, hfraction⟩, rfl, ?_,
        hfraction⟩
      · simp [hds, Nat.ne_of_gt hn]
      · rcases Nat.eq_zero_or_pos d.digits with h | h
        · obtain ⟨rfl, rfl⟩ := hz h
          rw [h]
          exact .inl rfl
        · refine .inr ?_
          rw [List.head?_append, Option.or_of_isSome]
          · exact head?_take_toDigits h hn
          · rw [hds, List.head?_take, if_neg (by omega)]
            rfl
      · split
        · exact hzero
        · exact hdigits.drop n
      · simp only [Spelling.body, Spelling.fractionText, Spelling.exponentText]
        by_cases hrest : (Nat.toDigits 10 d.digits).drop n = [] <;> simp [hrest]
  next hrange =>
    have hd : 0 < d.digits := by
      refine Nat.pos_of_ne_zero fun h => hrange ?_
      rw [if_pos h] at htop
      rw [← htop]
      decide
    obtain ⟨ds, hexponent, hne, hvalue, htext⟩ := isDigits_exponentText top
    refine ⟨⟨negative, (Nat.toDigits 10 d.digits).take 1, (Nat.toDigits 10 d.digits).drop 1,
      some (decide (top < 0), ds), hdigits.take 1, by simp [hds], .inr (head?_take_toDigits hd Nat.one_pos), hdigits.drop 1, ?_, ?_, by simp,
      fun _ => ⟨c, by rw [hds]; rfl⟩⟩, rfl, ?_, fun hrest => ⟨Nat.ne_of_gt hd, ?_⟩⟩
    · rintro e he
      cases he
      exact hexponent
    · rintro e he
      cases he
      exact hne
    · simp only [Spelling.body, Spelling.fractionText, Spelling.exponentText]
      by_cases hrest : (Nat.toDigits 10 d.digits).drop 1 = [] <;> simp [hrest, htext, -List.drop_one]
    · replace hrest : (Nat.toDigits 10 d.digits).drop 1 = [] := hrest
      obtain rfl : cs = [] := by rw [hds] at hrest; exact hrest
      have htop : top = d.exponent := by
        rw [if_neg (Nat.ne_of_gt hd), hds] at htop
        simpa using htop.symm
      have hdigit : ofDigits (digitValues [c]) = d.digits := by rw [← hds, ofDigits_toDigits]
      have hsign : (if decide (top < 0) = true then -(top.natAbs : Int) else top.natAbs) = top := by
        simp only [decide_eq_true_eq]
        omega
      simp only [Spelling.double, Spelling.exponentValue, hds, hvalue, hsign, decimalOf]
      rw [← hdigit, ← htop]
      simp [digitValues]

end DecimalStyle

/-- The text of a finite number is a numeral that is no integer. Without a point it is not zero. -/
theorem Double.exists_spelling {d : Double} (hd : d.isFinite = true) :
    ∃ w : Numeral.Spelling, d.text.toList = w.chars ∧ (w.fraction = [] → w.double.isZero = false) := by
  cases d with
  | nan => cases hd
  | number negative rank hr =>
    obtain ⟨w, hw, hbody, hdouble⟩ := DecimalStyle.exists_spelling negative (Decimal.shortest rank)
    have hne : (rank == infinityRank) = false := by
      have : rank < infinityRank := by simpa [isFinite] using hd
      simpa using Nat.ne_of_lt this
    refine ⟨w, ?_, fun h => ?_⟩
    · rw [text, textWith, hne, Numeral.Spelling.chars, hw, ← hbody]
      cases negative <;> simp
    · obtain ⟨hdigits, hdouble⟩ := hdouble h
      rw [hdouble]
      exact Decimal.not_isZero_shortest negative hdigits

/-! ### What the text of a number reads as -/

namespace Numeral.Spelling

variable (w : Spelling)

theorem contains_chars : w.chars.contains '.' = !w.fraction.isEmpty := by
  have hdigits {cs : List Char} (h : IsDigits cs) : '.' ∉ cs := fun hc => absurd (h _ hc) (by decide)
  have hexponent : '.' ∉ w.exponentText := by
    unfold exponentText
    split
    · simp
    next negative ds he =>
      have := hdigits (w.isDigits_exponent _ he)
      cases negative <;> simpa using this
  have hsign : '.' ∉ if w.negative then ['-'] else [] := by cases w.negative <;> simp
  have hwhole := hdigits w.isDigits_whole
  by_cases hf : w.fraction = [] <;> simp [chars, body, fractionText, hf, hexponent, hwhole, hsign]

end Numeral.Spelling

namespace Double

/-- The number that the text of a number reads as. -/
def reread (d : Double) : Double := (Numeral.double? (Json.floatText d)).getD d

/-- Whether the text of a number has a point. -/
def isPointed (d : Double) : Bool := (Json.floatText d).toList.contains '.'

/-- The text of a number is a numeral or a name. -/
theorem floatText_cases (d : Double) :
    (∃ w : Numeral.Spelling, (Json.floatText d).toList = w.chars ∧ w.double = d.reread ∧
      (w.fraction = [] → d.reread.isZero = false)) ∨
    Json.floatText d = "NaN" ∧ d.reread = nan ∨ Json.floatText d = "Infinity" ∧ d.reread = infinity ∨
      Json.floatText d = "-Infinity" ∧ d.reread = infinity.neg := by
  unfold reread
  by_cases hd : d.isFinite = true
  · have hnan : d.isNaN = false := by cases d <;> first | rfl | cases hd
    obtain ⟨w, hw, hzero⟩ := exists_spelling hd
    have htext : Json.floatText d = d.text := by rw [Json.floatText, hnan, hd]; rfl
    have hdouble : Numeral.double? d.text = some w.double := by
      rw [← w.double?_chars, ← hw, String.ofList_toList]
    rw [htext, hdouble]
    exact .inl ⟨w, hw, rfl, hzero⟩
  · cases d with
    | nan => exact .inr (.inl ⟨rfl, by decide⟩)
    | number negative rank hr =>
      have hinf : Json.floatText (number negative rank hr) = if negative then "-Infinity" else "Infinity" := by
        rw [Json.floatText, if_neg (show ¬ (number negative rank hr).isNaN = true from Bool.false_ne_true), if_neg hd]
        rfl
      have hpos : Numeral.double? "Infinity" = some infinity := by decide
      have hneg : Numeral.double? "-Infinity" = some infinity.neg := by decide
      cases negative with
      | false => exact .inr (.inr (.inl ⟨hinf, by rw [hinf, if_neg Bool.false_ne_true, hpos]; rfl⟩))
      | true => exact .inr (.inr (.inr ⟨hinf, by rw [hinf, if_pos rfl, hneg]; rfl⟩))

theorem double?_floatText (d : Double) : Numeral.double? (Json.floatText d) = some d.reread := by
  have hsome : (Numeral.double? (Json.floatText d)).isSome = true := by
    rcases d.floatText_cases with ⟨w, hw, -⟩ | ⟨h, -⟩ | ⟨h, -⟩ | ⟨h, -⟩
    · rw [← String.ofList_toList (s := Json.floatText d), hw, w.double?_chars]
      rfl
    all_goals
      rw [h]
      decide
  obtain ⟨x, hx⟩ := Option.isSome_iff_exists.1 hsome
  rw [reread, hx]
  rfl

theorem not_isZero_of_not_isPointed {d : Double} (h : d.isPointed = false) : d.reread.isZero = false := by
  rcases d.floatText_cases with ⟨w, hw, -, hzero⟩ | ⟨-, h⟩ | ⟨-, h⟩ | ⟨-, h⟩
  · rw [isPointed, hw, w.contains_chars] at h
    exact hzero (by simpa using h)
  all_goals
    rw [h]
    decide

end Double

namespace Json

variable {rest : List Char}

theorem scalar_floatText (limits : JsonLimits) (d : Double)
    (hr : Stops Numeral.continues rest) :
    scalar limits ((floatText d).toList ++ rest) = .ok (.float d.reread, rest) := by
  rcases d.floatText_cases with ⟨w, hw, hd, -⟩ | ⟨h, hd⟩ | ⟨h, hd⟩ | ⟨h, hd⟩
  · rw [hw, w.scalar_chars limits hr, hd]
  all_goals
    rw [h, hd]
    rfl

end Json

end Workflow
