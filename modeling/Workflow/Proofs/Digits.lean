import Mathlib.Algebra.Order.Ring.Nat
import Workflow.Json.Writer
import Workflow.Proofs.Json

/-!
# Digits and integers

Runs of characters of a class, the digits of a number, and that the text of an integer reads as the
integer in JSON text (`Json.scalar_intText`).
-/

namespace Workflow

/-! ### Runs of characters -/

/-- A text that does not begin with a character of the class. -/
def Stops (p : Char → Bool) (rest : List Char) : Prop := ∀ c ∈ rest.head?, p c = false

namespace Stops

variable {p : Char → Bool} {cs rest : List Char}

theorem nil : Stops p [] := fun _ h => nomatch h

theorem cons {c : Char} (h : p c = false) : Stops p (c :: rest) := fun _ hd => Option.some.inj hd ▸ h

instance decidable : (rest : List Char) → Decidable (Stops p rest)
  | [] => .isTrue .nil
  | c :: _ => decidable_of_iff (p c = false) ⟨.cons, fun h => h c rfl⟩

theorem mono {q : Char → Bool} (hr : Stops p rest) (h : ∀ c, q c = true → p c = true) : Stops q rest := by
  intro c hc
  by_contra hq
  have := hr c hc
  rw [h c (by simpa using hq)] at this
  cases this

theorem dropWhile_eq (hr : Stops p rest) : rest.dropWhile p = rest := by
  cases rest with
  | nil => rfl
  | cons c rest => rw [List.dropWhile_cons_of_neg (by rw [hr c rfl]; decide)]

theorem takeWhile_eq (hr : Stops p rest) : rest.takeWhile p = [] := by
  cases rest with
  | nil => rfl
  | cons c rest => rw [List.takeWhile_cons_of_neg (by rw [hr c rfl]; decide)]

theorem takeWhile_append (hr : Stops p rest) (h : ∀ c ∈ cs, p c = true) :
    (cs ++ rest).takeWhile p = cs := by
  rw [List.takeWhile_append_of_pos h, hr.takeWhile_eq, List.append_nil]

theorem dropWhile_append (hr : Stops p rest) (h : ∀ c ∈ cs, p c = true) :
    (cs ++ rest).dropWhile p = rest := by
  rw [List.dropWhile_append_of_pos h, hr.dropWhile_eq]

end Stops

/-- What is decided of each character of a text. -/
theorem forall_of_all {p : Char → Prop} [DecidablePred p] {cs : List Char}
    (h : (cs.all fun c => decide (p c)) = true) : ∀ c ∈ cs, p c :=
  fun c hc => of_decide_eq_true (List.all_eq_true.1 h c hc)

/-! ### Digits -/

/-- A text of ASCII digits. -/
def IsDigits (cs : List Char) : Prop := ∀ c ∈ cs, c.isDigit = true

/-- The values of digits. -/
def digitValues (cs : List Char) : List Nat := cs.map fun c => c.toNat - 0x30

namespace IsDigits

variable {cs ds : List Char}

theorem append (hc : IsDigits cs) (hd : IsDigits ds) : IsDigits (cs ++ ds) :=
  fun c h => (List.mem_append.1 h).elim (hc c) (hd c)

theorem toDigits (n : Nat) : IsDigits (Nat.toDigits 10 n) :=
  fun _ => Nat.isDigit_of_mem_toDigits (by decide) (by decide)

theorem zeros (n : Nat) : IsDigits (List.replicate n '0') :=
  fun c h => by rw [List.eq_of_mem_replicate h]; decide

theorem take (h : IsDigits cs) (n : Nat) : IsDigits (cs.take n) := fun c hc => h c (List.mem_of_mem_take hc)

theorem drop (h : IsDigits cs) (n : Nat) : IsDigits (cs.drop n) := fun c hc => h c (List.mem_of_mem_drop hc)

end IsDigits

/-- A digit is a character between two others. -/
theorem toNat_of_isDigit {c : Char} (h : c.isDigit = true) : 0x30 ≤ c.toNat ∧ c.toNat ≤ 0x39 := by
  simp only [Char.isDigit, Bool.and_eq_true, decide_eq_true_eq] at h
  exact ⟨h.1, h.2⟩

theorem ne_of_isDigit {c d : Char} (h : c.isDigit = true) (hd : d.isDigit = false) : c ≠ d := by
  rintro rfl
  rw [h] at hd
  cases hd

theorem toLower_of_isDigit {c : Char} (h : c.isDigit = true) : c.toLower = c := by
  have := toNat_of_isDigit h
  refine dif_neg ?_
  rintro ⟨h, -⟩
  have : 'A'.toNat ≤ c.toNat := h
  have : 'A'.toNat = 65 := rfl
  omega

theorem digit?_of_isDigit {c : Char} (h : c.isDigit = true) : Text.digit? c = some (c.toNat - 0x30) := by
  have := toNat_of_isDigit h
  rw [Text.digit?, if_pos (by omega), if_pos h]

theorem head?_toDigits {n : Nat} (hn : 0 < n) : (Nat.toDigits 10 n).head? ≠ some '0' := by
  induction n using Nat.strongRecOn with
  | ind n ih =>
    rw [Nat.toDigits_eq_if (by decide)]
    split
    next h =>
      rw [List.head?_cons, Ne, Option.some.injEq, Nat.digitChar_eq_zero]
      omega
    next h =>
      rw [List.head?_append, Option.or_of_isSome (by simp [Nat.toDigits_ne_nil])]
      exact ih _ (by omega) (by omega)

theorem exists_toDigits (n : Nat) : ∃ d ds, d.isDigit = true ∧ Nat.toDigits 10 n = d :: ds ∧
    (d = '0' → n = 0 ∧ ds = []) := by
  obtain ⟨d, ds, h⟩ := List.exists_cons_of_ne_nil (Nat.toDigits_ne_nil : Nat.toDigits 10 n ≠ [])
  refine ⟨d, ds, IsDigits.toDigits n d (h ▸ List.mem_cons_self), h, ?_⟩
  rintro rfl
  rcases Nat.eq_zero_or_pos n with rfl | hn
  · exact ⟨rfl, (List.cons.inj h).2.symm⟩
  · exact absurd (by rw [h]; rfl) (head?_toDigits hn)

theorem length_toDigits_le {n k : Nat} (hk : 0 < k) (hn : n < tenTo k) : (Nat.toDigits 10 n).length ≤ k :=
  (Nat.length_toDigits_le_iff (by decide) hk).2 hn

theorem ofDigits_eq_ofDigitChars (cs : List Char) :
    Numeral.ofDigits (digitValues cs) = Nat.ofDigitChars 10 cs 0 := by
  rw [Numeral.ofDigits, digitValues, List.foldl_map, Nat.ofDigitChars_eq_foldl]
  exact congrArg (fun f => List.foldl f 0 cs) (funext₂ fun n c => by rw [Nat.mul_comm]; rfl)

theorem ofDigits_toDigits (n : Nat) : Numeral.ofDigits (digitValues (Nat.toDigits 10 n)) = n := by
  rw [ofDigits_eq_ofDigitChars, Nat.ofDigitChars_ten_toDigits]

theorem Numeral.sign_of_isDigit {c : Char} {cs : List Char} (h : c.isDigit = true) :
    sign (c :: cs) = (false, c :: cs) := by
  rw [sign]
  · rintro t ht
    exact absurd (List.cons.inj ht).1 (ne_of_isDigit h rfl)
  · rintro t ht
    exact absurd (List.cons.inj ht).1 (ne_of_isDigit h rfl)

/-- Digits are read up to what is neither a digit of any script nor an underscore. -/
theorem digitRun_append {cs rest : List Char} (h : IsDigits cs)
    (hr : Stops (fun c => c == '_' || (Text.digit? c).isSome) rest) (seen : List Nat) :
    Numeral.digitRun seen (cs ++ rest) = (seen.reverse ++ digitValues cs, rest) := by
  induction cs generalizing seen with
  | nil =>
    rw [List.nil_append, digitValues, List.map_nil, List.append_nil]
    cases rest with
    | nil => rw [Numeral.digitRun]
    | cons c rest =>
      have hc := hr c rfl
      rw [Bool.or_eq_false_iff, Option.isSome_eq_false_iff, Option.isNone_iff_eq_none] at hc
      rw [Numeral.digitRun]
      · rw [hc.2]
      · rintro d t rfl
        exact absurd hc.1 (by decide)
  | cons c cs ih =>
    have hc : c.isDigit = true := h c List.mem_cons_self
    rw [List.cons_append, Numeral.digitRun]
    · rw [digit?_of_isDigit hc]
      simp only
      rw [ih fun d hd => h d (List.mem_cons_of_mem _ hd), List.reverse_cons, List.append_assoc]
      rfl
    · rintro d t rfl
      exact absurd hc (by decide)

theorem jsonDigits_append {cs rest : List Char} (h : IsDigits cs) (hr : Stops Char.isDigit rest) :
    Json.digits (cs ++ rest) = (digitValues cs, rest) := by
  rw [Json.digits, hr.takeWhile_append h, hr.dropWhile_append h]
  rfl

/-- Nothing is removed from a text with other characters at both ends. -/
theorem Text.trimBy_eq_of_ends {p : Char → Bool} {cs : List Char} (h : Stops p cs) (hr : Stops p cs.reverse) :
    Text.trimBy p cs = cs := by
  rw [Text.trimBy, h.dropWhile_eq, hr.dropWhile_eq, List.reverse_reverse]

theorem Text.trimBy_eq {p : Char → Bool} {cs : List Char} (h : ∀ c ∈ cs, p c = false) : Text.trimBy p cs = cs :=
  Text.trimBy_eq_of_ends (fun c hc => h c (List.mem_of_mem_head? hc))
    fun c hc => h c (List.mem_reverse.1 (List.mem_of_mem_head? hc))

/-! ### Characters of numbers -/

namespace Numeral

/-- A character that a number begins with. -/
def opensNumber (c : Char) : Bool := c.isDigit || c == '-'

/-- A character of a numeral. -/
def isChar (c : Char) : Bool := c.isDigit || c == '.' || c == 'e' || c == '-' || c == '+'

theorem isChar_of_isDigits {cs : List Char} (h : IsDigits cs) : ∀ c ∈ cs, isChar c = true :=
  fun c hc => by rw [isChar, h c hc]; rfl

theorem isWord_of_isDigit {word : String} {c : Char} {cs : List Char} (hc : c.isDigit = true)
    (h : ∀ d ∈ word.toList.head?, d.isDigit = false) (hw : word.toList ≠ []) :
    isWord word (c :: cs) = false := by
  obtain ⟨d, ds, hd⟩ := List.exists_cons_of_ne_nil hw
  rw [isWord, hd, List.map_cons, toLower_of_isDigit hc, beq_eq_false_iff_ne]
  intro he
  exact ne_of_isDigit hc (h d (by rw [hd]; rfl)) (List.cons.inj he).1

/-- A character that may continue a number. -/
def continues (c : Char) : Bool := c.isDigit || c == '.' || c == 'e' || c == 'E'

theorem isDigit_continues (c : Char) (h : c.isDigit = true) : continues c = true := by rw [continues, h]; rfl

theorem isBlank_of_isChar {c : Char} (h : isChar c = true) : Text.isBlank c = false := by
  simp only [isChar, Bool.or_eq_true, beq_iff_eq] at h
  rcases h with (((h | rfl) | rfl) | rfl) | rfl
  · have := toNat_of_isDigit h
    simp only [Text.isBlank]
    grind
  all_goals rfl

theorem isNumeralBlank_of_isChar {c : Char} (h : isChar c = true) : Text.isNumeralBlank c = false := by
  rw [Text.isNumeralBlank, isBlank_of_isChar h, Bool.false_and]

end Numeral

/-! ### Integers in JSON text -/

namespace Json

variable (limits : JsonLimits) {c : Char} {cs rest : List Char}

theorem scalar_of_isDigit (hc : c.isDigit = true) : scalar limits (c :: cs) = number limits false (c :: cs) := by
  unfold scalar
  split
  case h_7 => rfl
  all_goals
    rename_i h
    rw [(List.cons.inj h).1] at hc
    exact absurd hc (by decide)

theorem scalar_minus (hc : c.isDigit = true) :
    scalar limits ('-' :: c :: cs) = number limits true (c :: cs) := by
  have hne : ('I' == c) = false := beq_eq_false_iff_ne.2 (ne_of_isDigit hc rfl).symm
  have hword : word? "Infinity" (c :: cs) = none := by
    have hprefix : "Infinity".toList.isPrefixOf (c :: cs) = false := by simp [List.isPrefixOf, hne]
    rw [word?, hprefix]
    rfl
  rw [scalar, hword]

theorem toList_toString (n : Nat) : (toString n).toList = Nat.toDigits 10 n := by
  rw [Nat.toString_eq_ofList_toDigits, String.toList_ofList]

theorem toList_toString_int (i : Int) :
    (toString i).toList = (if i < 0 then ['-'] else []) ++ Nat.toDigits 10 i.natAbs := by
  cases i with
  | ofNat n =>
    rw [if_neg (show ¬ Int.ofNat n < 0 from Int.not_lt.2 (Int.natCast_nonneg n))]
    exact toList_toString n
  | negSucc n =>
    rw [if_pos (Int.negSucc_lt_zero n)]
    change ("-" ++ toString (n + 1)).toList = ['-'] ++ Nat.toDigits 10 (n + 1)
    rw [String.toList_append, toList_toString]
    rfl

theorem sign_toString (i : Int) :
    Numeral.sign (toString i).toList = (decide (i < 0), Nat.toDigits 10 i.natAbs) := by
  obtain ⟨d, ds, hd, hds, -⟩ := exists_toDigits i.natAbs
  rw [toList_toString_int, hds]
  split
  next hi =>
    rw [decide_eq_true hi]
    rfl
  next hi => rw [decide_eq_false hi, List.nil_append, Numeral.sign_of_isDigit hd]

theorem isChar_of_mem_toString {i : Int} : ∀ c ∈ (toString i).toList, Numeral.isChar c = true := by
  intro c hc
  rw [toList_toString_int, List.mem_append] at hc
  rcases hc with hc | hc
  · split at hc
    · rw [List.mem_singleton.1 hc]
      rfl
    · cases hc
  · exact Numeral.isChar_of_isDigits (IsDigits.toDigits _) c hc

theorem intText_eq {i : Int} {s : String} (h : intText i = .ok s) :
    s = toString i ∧ i.natAbs < tenTo Numeral.digitLimit := by
  unfold intText at h
  split at h <;> cases h
  next hs =>
  unfold intText? at hs
  split at hs <;> cases hs
  next hlt => exact ⟨rfl, hlt⟩

theorem toList_intText {i : Int} {s : String} (h : intText i = .ok s) :
    s.toList = (if i < 0 then ['-'] else []) ++ Nat.toDigits 10 i.natAbs ∧
      (Nat.toDigits 10 i.natAbs).length ≤ Numeral.digitLimit := by
  obtain ⟨rfl, hlt⟩ := intText_eq h
  exact ⟨toList_toString_int i, length_toDigits_le (by decide) hlt⟩

theorem sign_intText {i : Int} {s : String} (h : intText i = .ok s) :
    Numeral.sign s.toList = (decide (i < 0), Nat.toDigits 10 i.natAbs) := by
  rw [(intText_eq h).1, sign_toString]

theorem exists_intChars {i : Int} {s : String} (h : intText i = .ok s) :
    ∃ c cs, s.toList = c :: cs ∧ Numeral.opensNumber c = true ∧ ∀ e ∈ c :: cs, Numeral.isChar e = true := by
  obtain ⟨d, ds, hd, hds, -⟩ := exists_toDigits i.natAbs
  obtain ⟨rfl, -⟩ := intText_eq h
  obtain ⟨c, cs, hc, hopens⟩ : ∃ c cs, (toString i).toList = c :: cs ∧ Numeral.opensNumber c = true := by
    rw [toList_toString_int, hds]
    split
    · exact ⟨'-', d :: ds, rfl, rfl⟩
    · exact ⟨d, ds, rfl, by rw [Numeral.opensNumber, hd]; rfl⟩
  exact ⟨c, cs, hc, hopens, hc ▸ isChar_of_mem_toString⟩

theorem number_toDigits {n : Nat} (negative : Bool) (hn : (Nat.toDigits 10 n).length ≤ Numeral.digitLimit)
    (hr : Stops Numeral.continues rest) :
    number .document negative (Nat.toDigits 10 n ++ rest) = .ok (.int (if negative then -n else n), rest) := by
  have hdigits := IsDigits.toDigits n
  have hfraction : fraction? rest = none := by
    cases rest with
    | nil => rfl
    | cons c rest =>
      have hc := hr c rfl
      unfold fraction?
      split
      next h => rw [(List.cons.inj h).1] at hc; cases hc
      next => rfl
  have hexponent : exponent? rest = none := by
    cases rest with
    | nil => rfl
    | cons c rest =>
      have hc := hr c rfl
      simp only [Numeral.continues, Bool.or_eq_false_iff] at hc
      rw [exponent?, hc.1.2, hc.2]
      rfl
  unfold number
  split
  next whole tail hw =>
  obtain ⟨rfl, rfl⟩ : digitValues (Nat.toDigits 10 n) = whole ∧ rest = tail := by
    rcases Nat.eq_zero_or_pos n with rfl | hn
    · cases hw
      exact ⟨rfl, rfl⟩
    · split at hw
      next ht =>
        obtain ⟨c, cs, -, hc, hzero⟩ := exists_toDigits n
        rw [hc] at ht
        exact absurd (hzero (List.cons.inj ht).1).1 (Nat.ne_of_gt hn)
      next =>
        rw [jsonDigits_append hdigits (hr.mono Numeral.isDigit_continues)] at hw
        cases hw
        exact ⟨rfl, rfl⟩
  have hne : (digitValues (Nat.toDigits 10 n)).isEmpty = false := by simp [digitValues, Nat.toDigits_ne_nil]
  have hlimit : JsonLimits.document.digits.any ((digitValues (Nat.toDigits 10 n)).length > ·) = false := by
    simpa [JsonLimits.document, digitValues] using hn
  simp only [hne, hfraction, hexponent, hlimit, ofDigits_toDigits]
  rfl

theorem scalar_intText {i : Int} {s : String} (h : intText i = .ok s)
    (hr : Stops Numeral.continues rest) :
    scalar .document (s.toList ++ rest) = .ok (.int i, rest) := by
  obtain ⟨hs, hlen⟩ := toList_intText h
  obtain ⟨c, cs, hdigit, hc, -⟩ := exists_toDigits i.natAbs
  rw [hs]
  split
  next hi =>
    have hnumber := number_toDigits true hlen hr
    rw [if_pos rfl, show -(i.natAbs : Int) = i by omega] at hnumber
    rw [← hnumber, hc]
    exact scalar_minus .document hdigit
  next hi =>
    have hnumber := number_toDigits false hlen hr
    rw [if_neg Bool.false_ne_true, show (i.natAbs : Int) = i by omega] at hnumber
    rw [← hnumber, hc]
    exact scalar_of_isDigit .document hdigit

end Json

end Workflow
