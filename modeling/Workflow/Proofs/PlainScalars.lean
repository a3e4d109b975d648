import Workflow.Proofs.Spelling
import Workflow.Yaml.Document

/-!
# Numbers in YAML text

A plain scalar with the text of an integer is that integer. The text of another number is the number it
reads as if it has a point, and else a text.
-/

namespace Workflow.Yaml

open Numeral

/-! ### Types of numerals -/

theorem Resolution.unsigned_eq (cs : List Char) : unsigned cs = (sign cs).2 := by
  unfold unsigned sign
  split <;> simp_all

theorem Scalar.signed_eq (cs : List Char) : signed cs = sign cs := rfl

namespace Resolution

variable {p : Char → Bool} {c : Char} {cs : List Char}

theorem isOneOf_eq_false {words : List String} (hc : p c = true) (h : ∀ w ∈ words, Stops p w.toList) :
    isOneOf words (c :: cs) = false := by
  rw [isOneOf, List.any_eq_false]
  intro w hw heq
  have := h w hw c (by rw [beq_iff_eq.1 heq]; rfl)
  rw [hc] at this
  cases this

theorem isBool_of_opens (hc : opensNumber c = true) : isBool (c :: cs) = false :=
  isOneOf_eq_false hc (by decide)

theorem isNull_of_opens (hc : opensNumber c = true) : isNull (c :: cs) = false :=
  isOneOf_eq_false hc (by decide)

theorem withoutFinalBreak_eq (h : '\n' ∉ cs) : withoutFinalBreak cs = cs := by
  induction cs with
  | nil => rfl
  | cons c cs ih =>
    rw [List.mem_cons, not_or] at h
    rw [withoutFinalBreak, ih h.2]
    rintro rfl -
    exact h.1 rfl

/-- The type of a text that begins like a number and has no line break. -/
theorem plainTag_of_opens (hc : opensNumber c = true) (hcs : '\n' ∉ c :: cs) :
    plainTag (String.ofList (c :: cs)) =
      if isFloat (c :: cs) then .float
      else if isInt (c :: cs) then .int
      else if isTimestamp (c :: cs) then .timestamp
      else .text := by
  have hbreak : (String.ofList (c :: cs) == "\n") = false := by
    rw [beq_eq_false_iff_ne]
    intro h
    have := congrArg String.toList h
    rw [String.toList_ofList] at this
    exact hcs (this ▸ List.mem_singleton_self _)
  have hmark {s : String} (hs : Stops opensNumber s.toList) : (String.ofList (c :: cs) == s) = false := by
    rw [beq_eq_false_iff_ne]
    rintro rfl
    rw [String.toList_ofList] at hs
    have := hs c rfl
    rw [hc] at this
    cases this
  rw [plainTag, hbreak]
  simp only [Bool.false_eq_true, if_false, String.toList_ofList, withoutFinalBreak_eq hcs, isBool_of_opens hc,
    isNull_of_opens hc, hmark (show Stops opensNumber "<<".toList by decide),
    hmark (show Stops opensNumber "=".toList by decide)]

theorem isFloat_of_opens {d : Char} {ds : List Char} (hc : opensNumber c = true)
    (hbody : unsigned (c :: cs) = d :: ds) (hd : d.isDigit = true) : isFloat (c :: cs) = isPointed (d :: ds) := by
  have hinf : isOneOf [".inf", ".Inf", ".INF"] (d :: ds) = false := isOneOf_eq_false hd (by decide)
  have hnan : isOneOf [".nan", ".NaN", ".NAN"] (c :: cs) = false := isOneOf_eq_false hc (by decide)
  have hpoint : c ≠ '.' := by
    rintro rfl
    cases hc
  rw [isFloat, hbody, hinf, hnan]
  · simp only [Bool.or_false]
  · rintro e t h
    exact absurd (List.cons.inj h).1 hpoint

theorem isExponent_exponentText (w : Spelling) : isExponent w.exponentText = true := by
  unfold Spelling.exponentText
  split
  · rfl
  next negative ds he =>
    obtain ⟨d, ds, rfl⟩ := List.exists_cons_of_ne_nil (w.exponent_ne _ he)
    have hds := w.isDigits_exponent _ he
    have hall : ds.all Char.isDigit = true := List.all_eq_true.2 fun c hc => hds c (List.mem_cons_of_mem _ hc)
    cases negative <;> simp [isExponent, hall, hds d List.mem_cons_self]

theorem isDigitOrBar_of_isDigits {cs : List Char} (h : IsDigits cs) : ∀ c ∈ cs, isDigitOrBar c = true :=
  fun c hc => by rw [isDigitOrBar, h c hc]; rfl

theorem isPointed_body (w : Spelling) : isPointed w.body = !w.fraction.isEmpty := by
  obtain ⟨c, cs, hc, hbody⟩ := w.exists_body
  have hdrop : w.body.dropWhile isDigitOrBar = w.fractionText ++ w.exponentText :=
    (w.stops_tail rfl rfl).dropWhile_append (isDigitOrBar_of_isDigits w.isDigits_whole)
  rw [hbody] at hdrop
  rw [hbody]
  simp only [isPointed, hc, Bool.true_and, hdrop]
  by_cases hf : w.fraction = []
  · obtain ⟨t, ht⟩ := w.exists_exponentText (w.isFloat hf)
    rw [Spelling.fractionText, if_pos hf, hf, List.nil_append, ht]
    rfl
  · have hrest : (w.fraction ++ w.exponentText).dropWhile isDigitOrBar = w.exponentText :=
      (w.stops_exponentText rfl).dropWhile_append (isDigitOrBar_of_isDigits w.isDigits_fraction)
    rw [Spelling.fractionText, if_neg hf, List.cons_append]
    simp only [hrest, isExponent_exponentText]
    simpa using hf

theorem exists_body_pointless {w : Spelling} (hf : w.fraction = []) :
    ∃ c t, c.isDigit = true ∧ w.body = c :: 'e' :: t := by
  obtain ⟨c, hw⟩ := w.single hf
  obtain ⟨t, ht⟩ := w.exists_exponentText (w.isFloat hf)
  refine ⟨c, t, w.isDigits_whole c (hw ▸ List.mem_singleton_self c), ?_⟩
  rw [Spelling.body, Spelling.fractionText, if_pos hf, hw, ht]
  rfl

theorem isInt_eq_false {w : Spelling} (hf : w.fraction = []) (h : unsigned cs = w.body) : isInt cs = false := by
  obtain ⟨c, t, hc, hbody⟩ := exists_body_pointless hf
  rw [isInt, h, hbody]
  split
  next ht => cases ht
  next ht => cases ht
  next ht =>
    cases ht
    rfl
  next ht =>
    cases ht
    rw [hc, List.dropWhile_cons_of_neg (by decide)]
    rfl
  next ht => cases ht

theorem isTimestamp_eq_false {w : Spelling} (hf : w.fraction = []) : isTimestamp w.chars = false := by
  obtain ⟨c, t, hc, hbody⟩ := exists_body_pointless hf
  have hwritten : written? w.chars = none := by
    have hpair : pairDigits? w.chars = none := by
      rw [Spelling.chars, hbody]
      cases w.negative with
      | true => rfl
      | false => simp [pairDigits?]
    rw [written?, hpair]
    rfl
  rw [isTimestamp, hwritten]

/-- A numeral without a point is a text. -/
theorem plainTag_chars (w : Spelling) :
    plainTag (String.ofList w.chars) = if w.fraction = [] then .text else .float := by
  obtain ⟨d, ds, hd, hbody⟩ := w.exists_body
  obtain ⟨c, cs, hchars, hc⟩ := w.exists_chars
  have hbreak : '\n' ∉ c :: cs := fun h => absurd (w.isChar_of_mem _ (hchars ▸ h)) (by decide)
  have hunsigned : unsigned (c :: cs) = d :: ds := by
    rw [unsigned_eq, ← hchars, w.sign_chars, hbody]
  rw [hchars, plainTag_of_opens hc hbreak, isFloat_of_opens hc hunsigned hd, ← hbody, isPointed_body]
  by_cases hf : w.fraction = []
  · rw [isInt_eq_false hf (hunsigned.trans hbody.symm), ← hchars, isTimestamp_eq_false hf, hf]
    rfl
  · simp [hf]

end Resolution


/-! ### Values of numerals -/

namespace Scalar

theorem filter_bar {cs : List Char} (h : '_' ∉ cs) : cs.filter (· != '_') = cs :=
  List.filter_eq_self.2 fun _ hc => bne_iff_ne.2 fun he => h (he ▸ hc)

theorem lowerFrom_eq {cs : List Char} (h : ∀ c ∈ cs, c.toNat < 0x80 ∧ c.toLower = c) (before : List Char) :
    Text.lowerFrom before cs = cs := by
  induction cs generalizing before with
  | nil => rfl
  | cons c cs ih =>
    obtain ⟨hc, hcs⟩ := List.forall_mem_cons.1 h
    rw [Text.lowerFrom, ih hcs, Text.lowerChar, if_pos hc.1, hc.2]
    rfl

theorem lower_isChar {c : Char} (h : isChar c = true) : c.toNat < 0x80 ∧ c.toLower = c := by
  simp only [isChar, Bool.or_eq_true, beq_iff_eq] at h
  rcases h with (((h | rfl) | rfl) | rfl) | rfl
  · have := toNat_of_isDigit h
    exact ⟨by omega, toLower_of_isDigit h⟩
  all_goals decide

theorem float_chars (w : Spelling) : float (String.ofList w.chars) = .ok (.float w.double) := by
  obtain ⟨c, cs, hc, hbody⟩ := w.exists_body
  have hbar : '_' ∉ w.chars := fun h => absurd (w.isChar_of_mem _ h) (by decide)
  have hlower : (Text.lower (String.ofList ((String.ofList w.chars).toList.filter (· != '_')))).toList = w.chars := by
    rw [String.toList_ofList, filter_bar hbar, Text.lower, String.toList_ofList, String.toList_ofList,
      lowerFrom_eq fun _ hc => lower_isChar (w.isChar_of_mem _ hc)]
  have hne : w.chars.isEmpty = false := by
    obtain ⟨c, cs, h, -⟩ := w.exists_chars
    rw [h]
    rfl
  have hcolon : w.body.contains ':' = false := by
    rw [Bool.eq_false_iff, Ne, List.contains_iff_mem]
    exact fun h => absurd (w.isChar_of_mem_body _ h) (by decide)
  have hname {name : String} (h : Stops Char.isDigit name.toList) : (w.body == name.toList) = false := by
    rw [beq_eq_false_iff_ne]
    intro he
    rw [← he, hbody] at h
    have := h c rfl
    rw [hc] at this
    cases this
  have hdouble : double w.body = .ok w.unsigned.double := by
    rw [double, ← w.chars_unsigned, w.unsigned.double?_chars]
  have hinf : (w.body == ".inf".toList) = false := hname (by decide)
  have hnan : (w.body == ".nan".toList) = false := hname (by decide)
  have hnan' : (w.body != ".nan".toList) = true := by rw [bne, hnan]; rfl
  rw [float]
  simp only [hlower, hne, signed_eq, w.sign_chars, hinf, hnan, hcolon, hdouble, hnan', Bool.and_true]
  rw [← w.neg_unsigned]
  cases w.negative <;> rfl

/-! ### Integers -/

variable {i : Int} {s : String}

theorem plainTag_intText (h : Json.intText i = .ok s) : Resolution.plainTag s = .int := by
  obtain ⟨c, cs, hs, hc, hchars⟩ := Json.exists_intChars h
  obtain ⟨d, ds, hd, hds, hzero⟩ := exists_toDigits i.natAbs
  have hdrop : (d :: ds).dropWhile Resolution.isDigitOrBar = [] := by
    rw [← hds, ← List.append_nil (Nat.toDigits 10 i.natAbs)]
    exact Stops.nil.dropWhile_append (Resolution.isDigitOrBar_of_isDigits (IsDigits.toDigits i.natAbs))
  have hunsigned : Resolution.unsigned (c :: cs) = d :: ds := by
    rw [Resolution.unsigned_eq, ← hs, Json.sign_intText h, hds]
  have hfloat : Resolution.isFloat (c :: cs) = false := by
    rw [Resolution.isFloat_of_opens hc hunsigned hd, Resolution.isPointed, hdrop]
    simp
  have hint : Resolution.isInt (c :: cs) = true := by
    rw [List.dropWhile_cons_of_pos (by rw [Resolution.isDigitOrBar, hd]; rfl)] at hdrop
    rw [Resolution.isInt, hunsigned]
    split
    next he => cases (hzero (List.cons.inj he).1).2.symm.trans (List.cons.inj he).2
    next he => cases (hzero (List.cons.inj he).1).2.symm.trans (List.cons.inj he).2
    next he =>
      rw [← (List.cons.inj he).2, (hzero (List.cons.inj he).1).2]
      rfl
    next he =>
      cases he
      rw [hd, hdrop]
      rfl
    next he => cases he
  have hbreak : '\n' ∉ c :: cs := fun h => absurd (hchars _ h) (by decide)
  rw [← String.ofList_toList (s := s), hs, Resolution.plainTag_of_opens hc hbreak, hfloat, hint]
  rfl

theorem decimal_toDigits {n : Nat} (hn : (Nat.toDigits 10 n).length ≤ digitLimit) :
    decimal (Nat.toDigits 10 n) = .ok n := by
  obtain ⟨d, ds, hd, hds, -⟩ := exists_toDigits n
  have hdigits := IsDigits.toDigits n
  have htrim : Text.trimBy Text.isNumeralBlank (Nat.toDigits 10 n) = Nat.toDigits 10 n :=
    Text.trimBy_eq fun c hc => isNumeralBlank_of_isChar (isChar_of_isDigits hdigits c hc)
  have hrun : digitRun [] (Nat.toDigits 10 n) = (digitValues (Nat.toDigits 10 n), []) := by
    have := digitRun_append hdigits .nil []
    rwa [List.append_nil] at this
  have hv : digitValues (Nat.toDigits 10 n) = (d.toNat - 0x30) :: digitValues ds := by rw [hds]; rfl
  have hlength : ¬ (digitValues (Nat.toDigits 10 n)).length > digitLimit := by simpa [digitValues] using hn
  have hsign : sign (Nat.toDigits 10 n) = (false, Nat.toDigits 10 n) := by rw [hds, sign_of_isDigit hd]
  have hread : readInt (String.ofList (Nat.toDigits 10 n)) = .ok n := by
    rw [readInt, String.toList_ofList, htrim, hsign]
    simp only [hrun]
    rw [hv] at hlength ⊢
    simp only [if_neg hlength]
    rw [← hv, ofDigits_toDigits]
    rfl
  rw [decimal, hread]

theorem magnitude_toDigits {n : Nat} (hn : (Nat.toDigits 10 n).length ≤ digitLimit) :
    magnitude (Nat.toDigits 10 n) = .ok n := by
  obtain ⟨d, ds, hd, hds, hzero⟩ := exists_toDigits n
  have hcolon : (Nat.toDigits 10 n).contains ':' = false := by
    rw [Bool.eq_false_iff, Ne, List.contains_iff_mem]
    exact fun h => absurd (IsDigits.toDigits n _ h) (by decide)
  have hlead {cs : List Char} {p : Prop} (he : Nat.toDigits 10 n = '0' :: cs) (hcs : cs ≠ []) : p := by
    rw [hds] at he
    exact absurd ((List.cons.inj he).2.symm.trans (hzero (List.cons.inj he).1).2) hcs
  unfold magnitude
  split
  next he => exact absurd he Nat.toDigits_ne_nil
  next he =>
    rw [hds] at he
    rw [(hzero (List.cons.inj he).1).1]
    rfl
  next he => exact hlead he (by simp)
  next he => exact hlead he (by simp)
  next hne _ _ he => exact hlead he hne
  next => rw [hcolon, if_neg Bool.false_ne_true, decimal_toDigits hn]

theorem int_intText (h : Json.intText i = .ok s) : int s = .ok (.int i) := by
  obtain ⟨c, cs, hs, -, hchars⟩ := Json.exists_intChars h
  have hbar : '_' ∉ s.toList := fun h => absurd (hchars _ (hs ▸ h)) (by decide)
  have hne : s.toList.isEmpty = false := by rw [hs]; rfl
  rw [int]
  simp only [filter_bar hbar, hne, signed_eq, Json.sign_intText h, magnitude_toDigits (Json.toList_intText h).2]
  change Except.ok (Value.int (if decide (i < 0) = true then -(i.natAbs : Int) else i.natAbs)) = _
  have hi : (if decide (i < 0) = true then -(i.natAbs : Int) else i.natAbs) = i := by
    simp only [decide_eq_true_eq]
    omega
  rw [hi]

end Scalar

end Workflow.Yaml
