import Workflow.Proofs.Rounds

/-!
# The tokens of an exported document

The lexer of YAML text gives for an exported document the tokens of its values (`tokens_of_json`): brackets,
separators and scalars, and before each name of a field that it is a key.
-/

namespace Workflow

/-! ### The tokens of values -/

namespace Yaml

/-- The tokens behind the first part in brackets: the other parts and the closing bracket. -/
def otherTokens (closing : Token) : List (List Token) → List Token
  | [] => [closing]
  | p :: ps => .flowEntry :: (p ++ otherTokens closing ps)

/-- The tokens of the parts of a container in brackets. -/
def enclosedTokens (opening closing : Token) : List (List Token) → List Token
  | [] => [opening, closing]
  | p :: ps => opening :: (p ++ otherTokens closing ps)

/-- The name of a field. -/
def nameOf : Key → String
  | .text name => name
  | _ => ""

/-- Whether the name of a field in its quotes is short enough to be a key. -/
def isShort (key : Key) : Bool := (Json.quotedChars (nameOf key)).length ≤ 1024

/-- The tokens of a field. -/
def fieldTokens (key : Key) (value : List Token) : List Token :=
  .key :: .scalar (nameOf key) false :: .value :: value

/-- The text of a number or a name. -/
def plainText (v : Value) : String := (v.json .indented).toOption.getD ""

theorem plainText_int {i : Int} {s : String} (h : Json.intText i = .ok s) : plainText (.int i) = s := by
  rw [plainText, Value.json, Json.write, Json.writeAt, h]
  rfl

end Yaml

namespace Value

mutual

/-- The tokens of a value in brackets and quotes. -/
def tokens : Value → List Yaml.Token
  | .null => [.scalar (Yaml.plainText .null) true]
  | .bool b => [.scalar (Yaml.plainText (.bool b)) true]
  | .int i => [.scalar (Yaml.plainText (.int i)) true]
  | .float d => [.scalar (Yaml.plainText (.float d)) true]
  | .text s => [.scalar s false]
  | .list items => Yaml.enclosedTokens .flowSequenceStart .flowSequenceEnd (itemsTokens items)
  | .object fields => Yaml.enclosedTokens .flowMappingStart .flowMappingEnd (fieldsTokens fields)
  | .pair _ _ => []
  | .foreign _ => []

def itemsTokens : List Value → List (List Yaml.Token)
  | [] => []
  | v :: rest => v.tokens :: itemsTokens rest

def fieldsTokens : List (Key × Value) → List (List Yaml.Token)
  | [] => []
  | (key, v) :: rest => Yaml.fieldTokens key v.tokens :: fieldsTokens rest

end

/-- Whether the names of fields are short enough to be keys. -/
def hasShortNames (v : Value) : Bool := v.every Yaml.isShort fun _ => true

theorem itemsTokens_eq (items : List Value) : itemsTokens items = items.map tokens := by
  induction items with
  | nil => rfl
  | cons v rest ih => rw [itemsTokens, ih, List.map_cons]

theorem fieldsTokens_eq (fields : Fields) :
    fieldsTokens fields = fields.map fun f => Yaml.fieldTokens f.1 f.2.tokens := by
  induction fields with
  | nil => rfl
  | cons f rest ih => rw [fieldsTokens, ih, List.map_cons]

end Value

namespace Yaml

namespace Lexer

/-! ### Parts of containers -/

variable {l : Lexer} {d level : Nat} {key : Bool} {before ts : List Token} {opening closing : Token} {ch o c : Char}
  {cs gap rest : List Char} {ps : List (List Char)} {tss : List (List Token)}

/-- The characters of a part of a container become tokens, whatever ends the part; of a key if one may begin. -/
structure Lexes (key : Bool) (d : Nat) (cs : List Char) (ts : List Token) : Prop where
  lead : ∀ {l : Lexer} {before : List Token} {gap gap' rest : List Char} {e : Char}, IsGap gap → IsGap gap' →
    closes e = true → (key = true → l.keyAllowed = true) → At l d before (gap ++ (cs ++ (gap' ++ e :: rest))) →
    ∃ l' gap'', IsGap gap'' ∧ Leads l l' ∧ At l' d (before ++ ts) (gap'' ++ e :: rest)

theorem isGap_gap (level : Nat) : IsGap (Json.gap level) := ⟨2 * level, .inr rfl⟩

theorem lexes_text {s : String} (hb : ∀ ch ∈ Json.quotedChars s, isBreak ch = false) :
    Lexes key d (Json.quotedChars s) [.scalar s false] := by
  refine ⟨fun {l before gap gap' rest e} hgap hgap' _ _ h => ?_⟩
  obtain ⟨l', hleads, hat, -⟩ := leads_text hb hgap h
  exact ⟨l', gap', hgap', hleads, hat⟩

theorem lexes_plain (hcs : IsPlain cs) (hd : d ≠ 0) : Lexes key d cs [.scalar (String.ofList cs) true] := by
  refine ⟨fun {l before gap gap' rest e} hgap hgap' he _ h => ?_⟩
  obtain ⟨l', hleads, hat⟩ := leads_plain hcs hgap hgap' he hd h
  exact ⟨l', [], isGap_nil, hleads, hat⟩

theorem lexes_field {name : String} (hb : ∀ ch ∈ Json.quotedChars name, isBreak ch = false)
    (hlen : (Json.quotedChars name).length ≤ 1024) (hv : Lexes false (d + 1) cs ts) :
    Lexes true (d + 1) (Json.quotedChars name ++ (':' :: ' ' :: cs)) (fieldTokens (.text name) ts) := by
  refine ⟨fun {l before gap gap' rest e} hgap hgap' he hk h => ?_⟩
  rw [List.append_assoc] at h
  obtain ⟨l₁, hleads₁, hat₁, hkey⟩ := leads_text hb hgap h
  obtain ⟨l₂, hleads₂, hat₂⟩ := leads_colon hat₁ (hkey (hk rfl) hlen)
  have hat₂ : At l₂ (d + 1) _ ([' '] ++ (cs ++ (gap' ++ e :: rest))) := hat₂
  obtain ⟨l₃, gap'', hgap'', hleads₃, hat₃⟩ := hv.lead ⟨1, .inl rfl⟩ hgap' he (by simp) hat₂
  rw [List.append_assoc] at hat₃
  exact ⟨l₃, gap'', hgap'', (hleads₁.trans hleads₂).trans hleads₃, hat₃⟩

theorem closes_of_isClosing (hc : IsClosing c closing) : closes c = true := by
  rcases hc with ⟨rfl, -⟩ | ⟨rfl, -⟩ <;> rfl

theorem leads_others {p : List Char} (hc : IsClosing c closing)
    (hparts : List.Forall₂ (Lexes true (d + 1)) ps tss) (hp : Lexes true (d + 1) p ts) (hgap : IsGap gap)
    (hk : l.keyAllowed = true) (h : At l (d + 1) before (gap ++ (p ++ (Json.others level c ps ++ rest)))) :
    ∃ l', Leads l l' ∧ At l' d (before ++ (ts ++ otherTokens closing tss)) rest := by
  induction hparts generalizing p ts l before gap with
  | nil =>
    rw [Json.others, List.append_assoc] at h
    obtain ⟨l₁, gap', hgap', hleads₁, hat₁⟩ :=
      hp.lead hgap (isGap_gap level) (closes_of_isClosing hc) (fun _ => hk) h
    obtain ⟨l₂, hleads₂, hat₂⟩ := leads_closing hc hgap' hat₁
    rw [List.append_assoc] at hat₂
    exact ⟨l₂, hleads₁.trans hleads₂, hat₂⟩
  | @cons q us ps tss hq _ ih =>
    have h : At l (d + 1) before (gap ++ (p ++ ([] ++ Json.others level c (q :: ps) ++ rest))) := h
    obtain ⟨l₁, gap', hgap', hleads₁, hat₁⟩ := hp.lead hgap isGap_nil rfl (fun _ => hk) h
    obtain ⟨l₂, hleads₂, hat₂, hk₂⟩ := leads_comma hgap' hat₁
    have hat₂ : At l₂ (d + 1) (before ++ (ts ++ [.flowEntry]))
        (Json.gap (level + 1) ++ (q ++ (Json.others level c ps ++ rest))) := by simpa using hat₂
    obtain ⟨l₃, hleads₃, hat₃⟩ := ih hq (isGap_gap (level + 1)) hk₂ hat₂
    refine ⟨l₃, (hleads₁.trans hleads₂).trans hleads₃, ?_⟩
    rw [otherTokens]
    simpa using hat₃

theorem leads_enclosed (ho : IsOpening o opening) (hc : IsClosing c closing)
    (hparts : List.Forall₂ (Lexes true (d + 1)) ps tss) (hgap : IsGap gap)
    (h : At l d before (gap ++ (Json.enclosed level o c ps ++ rest))) :
    ∃ l', Leads l l' ∧ At l' d (before ++ enclosedTokens opening closing tss) rest := by
  cases hparts with
  | nil =>
    obtain ⟨l₁, hleads₁, hat₁, -⟩ := leads_opening ho hgap h
    obtain ⟨l₂, hleads₂, hat₂⟩ := leads_closing hc isGap_nil hat₁
    rw [List.append_assoc] at hat₂
    exact ⟨l₂, hleads₁.trans hleads₂, hat₂⟩
  | @cons p ts ps tss hp hparts =>
    obtain ⟨l₁, hleads₁, hat₁, hk₁⟩ := leads_opening ho hgap h
    have hat₁ : At l₁ (d + 1) (before ++ [opening])
        (Json.gap (level + 1) ++ (p ++ (Json.others level c ps ++ rest))) := by simpa using hat₁
    obtain ⟨l₂, hleads₂, hat₂⟩ := leads_others hc hparts hp (isGap_gap (level + 1)) hk₁ hat₁
    rw [List.append_assoc] at hat₂
    exact ⟨l₂, hleads₁.trans hleads₂, hat₂⟩

theorem lexes_enclosed (ho : IsOpening o opening) (hc : IsClosing c closing)
    (hparts : List.Forall₂ (Lexes true (d + 1)) ps tss) :
    Lexes key d (Json.enclosed level o c ps) (enclosedTokens opening closing tss) := by
  refine ⟨fun {l before gap gap' rest e} hgap hgap' _ _ h => ?_⟩
  obtain ⟨l', hleads, hat⟩ := leads_enclosed ho hc hparts hgap h
  exact ⟨l', gap', hgap', hleads, hat⟩

/-! ### Values -/

theorem isPlain_signed {negative : Bool} {c : Char} {cs : List Char} (hc : c.isDigit = true)
    (hcs : ∀ ch ∈ c :: cs, Numeral.isChar ch = true) :
    IsPlain ((if negative then ['-'] else []) ++ c :: cs) := by
  have hplain : ∀ ch ∈ c :: cs, isPlainChar ch = true := fun ch hch => by
    have := hcs ch hch
    simp only [Numeral.isChar, Bool.or_eq_true, beq_iff_eq] at this
    rw [isPlainChar, Char.isAlphanum]
    rcases this with (((h | rfl) | rfl) | rfl) | rfl
    · rw [h, Bool.or_true]
      rfl
    all_goals rfl
  have halpha : c.isAlphanum = true := by rw [Char.isAlphanum, hc, Bool.or_true]
  cases negative with
  | false => exact ⟨hplain, c, cs, rfl, .inl halpha⟩
  | true => exact ⟨List.forall_mem_cons.2 ⟨rfl, hplain⟩, '-', c :: cs, rfl, .inr ⟨rfl, c, cs, rfl, halpha⟩⟩

theorem isPlain_intText {i : Int} {s : String} (h : Json.intText i = .ok s) : IsPlain s.toList := by
  obtain ⟨c, cs, hc, hcs, -⟩ := exists_toDigits i.natAbs
  have hchars : ∀ ch ∈ c :: cs, Numeral.isChar ch = true :=
    Numeral.isChar_of_isDigits (hcs ▸ IsDigits.toDigits i.natAbs)
  have : IsPlain ((if decide (i < 0) then ['-'] else []) ++ c :: cs) := isPlain_signed hc hchars
  rw [(Json.toList_intText h).1, hcs]
  simpa using this

theorem isPlain_floatText (x : Double) : IsPlain (Json.floatText x).toList := by
  rcases x.floatText_cases with ⟨w, hw, -⟩ | ⟨h, -⟩ | ⟨h, -⟩ | ⟨h, -⟩
  · obtain ⟨c, cs, hc, hbody⟩ := w.exists_body
    rw [hw, Numeral.Spelling.chars, hbody]
    exact isPlain_signed hc (hbody ▸ w.isChar_of_mem_body)
  all_goals rw [h]
  · exact ⟨forall_of_all (by decide), _, _, rfl, .inl rfl⟩
  · exact ⟨forall_of_all (by decide), _, _, rfl, .inl rfl⟩
  · exact ⟨forall_of_all (by decide), _, _, rfl, .inr ⟨rfl, _, _, rfl, rfl⟩⟩

theorem not_mem_quotedChars (s : String) : '\n' ∉ Json.quotedChars s := by
  intro h
  rcases List.mem_cons.1 h with h | h
  · cases h
  · rcases List.mem_append.1 h with h | h
    · obtain ⟨c, -, hc⟩ := List.mem_flatMap.1 h
      exact absurd (le_of_mem_escapeChar hc) (by decide)
    · cases List.mem_singleton.1 h

/-- Whether the only line breaks among characters are line feeds. -/
def IsBroken (cs : List Char) : Prop := ∀ ch ∈ cs, isBreak ch = true → ch = '\n'

theorem isBreak_quotedChars {s : String} (h : IsBroken (Json.quotedChars s)) :
    ∀ ch ∈ Json.quotedChars s, isBreak ch = false := by
  intro ch hch
  by_contra hne
  have := h ch hch (by simpa using hne)
  exact not_mem_quotedChars s (this ▸ hch)

theorem Lexes.anyway (h : Lexes false d cs ts) : Lexes key d cs ts :=
  ⟨fun hgap hgap' he _ hat => h.lead hgap hgap' he (fun hf => by cases hf) hat⟩

theorem mem_others {p : List Char} (hp : p ∈ ps) (h : ch ∈ p) : ch ∈ Json.others level c ps := by
  induction ps with
  | nil => cases hp
  | cons q ps ih =>
    rw [Json.others]
    rcases List.mem_cons.1 hp with rfl | hp
    · simp [h]
    · simp [ih hp]

theorem mem_enclosed {p : List Char} (hp : p ∈ ps) (h : ch ∈ p) : ch ∈ Json.enclosed level o c ps := by
  cases ps with
  | nil => cases hp
  | cons q ps =>
    rw [Json.enclosed]
    rcases List.mem_cons.1 hp with rfl | hp
    · simp [h]
    · simp [mem_others hp h]

theorem exists_fieldParts {fields : Fields} {s : String} (hj : Value.fieldsJson fields = true)
    (hn : (Value.object fields).hasShortNames = true) (h : Json.writeAt .indented level (.object fields) = .ok s)
    (hb : IsBroken s.toList)
    (hvalues : ∀ f ∈ fields, ∀ t : String, Json.writeAt .indented (level + 1) f.2 = .ok t → IsBroken t.toList →
      Lexes false (d + 1) t.toList f.2.tokens) : ∃ parts : List (List Char),
    s.toList = Json.enclosed level '\x7b' '\x7d' parts ∧
      List.Forall₂ (Lexes true (d + 1)) parts (Value.fieldsTokens fields) := by
  obtain ⟨parts, hparts, hforall⟩ := Json.object_layout hj h
  rw [hparts] at hb
  refine ⟨parts, hparts, ?_⟩
  rw [Value.fieldsTokens_eq, List.forall₂_map_right_iff]
  have hfields := ((List.forall₂_and_left _ _).2 ⟨fun _ hf => hf, hforall⟩).flip
  refine ((List.forall₂_and_left _ _).2 ⟨fun _ hp => hp, hfields⟩).imp
    fun p f ⟨hp, hf, name, t, hk, ht, hpt⟩ => ?_
  have hshort := (Value.fieldsEvery_iff.1 hn f hf).1
  have hname : IsBroken (Json.quotedChars name) := fun ch hch =>
    hb ch (mem_enclosed hp (hpt ▸ List.mem_append_left _ hch))
  have hbroken : IsBroken t.toList := fun ch hch => hb ch (mem_enclosed hp (by rw [hpt]; simp [hch]))
  rw [hk] at hshort ⊢
  rw [hpt]
  exact lexes_field (isBreak_quotedChars hname) (of_decide_eq_true hshort) (hvalues f hf t ht hbroken)

/-- What is written as a value in a document becomes the tokens of the value. -/
theorem lexes_of_writeAt {v : Value} {s : String} (hj : v.isJson = true) (hn : v.hasShortNames = true)
    (h : Json.writeAt .indented level v = .ok s) (hb : IsBroken s.toList) : Lexes false (d + 1) s.toList v.tokens := by
  induction v using Value.byParts generalizing level s d with
  | null =>
    cases h
    exact lexes_plain ⟨forall_of_all (by decide), _, _, rfl, .inl rfl⟩ (by omega)
  | bool b =>
    cases h
    cases b <;> exact lexes_plain ⟨forall_of_all (by decide), _, _, rfl, .inl rfl⟩ (by omega)
  | int i =>
    rw [Json.writeAt] at h
    rw [Value.tokens, plainText_int h]
    have : Lexes false (d + 1) s.toList _ := lexes_plain (isPlain_intText h) (Nat.succ_ne_zero d)
    rwa [String.ofList_toList] at this
  | float x =>
    cases h
    have : Lexes false (d + 1) (Json.floatText x).toList _ := lexes_plain (isPlain_floatText x) (Nat.succ_ne_zero d)
    rwa [String.ofList_toList] at this
  | text t =>
    cases h
    rw [Json.toList_string] at hb ⊢
    exact lexes_text (isBreak_quotedChars hb)
  | list items ih =>
    obtain ⟨parts, hparts, hforall⟩ := Json.list_layout h
    rw [hparts] at hb ⊢
    rw [Value.tokens, Value.itemsTokens_eq]
    refine lexes_enclosed (.inl ⟨rfl, rfl⟩) (.inl ⟨rfl, rfl⟩) (List.forall₂_map_right_iff.2 ?_)
    have hitems := ((List.forall₂_and_left _ _).2 ⟨fun _ hv => hv, hforall⟩).flip
    refine ((List.forall₂_and_left _ _).2 ⟨fun _ hp => hp, hitems⟩).imp fun p v ⟨hp, hv, t, ht, hpt⟩ => ?_
    have hbroken : IsBroken t.toList := fun ch hch => hb ch (mem_enclosed (hpt ▸ hp) hch)
    rw [hpt]
    exact (ih v hv (Value.itemsJson_iff.1 hj v hv) (Value.itemsEvery_iff.1 hn v hv) ht hbroken).anyway
  | object fields ih =>
    obtain ⟨parts, hparts, hforall⟩ := exists_fieldParts (d := d + 1) hj hn h hb fun f hf t ht hbroken =>
      ih f hf (Value.fieldsJson_iff.1 hj f hf).2 (Value.fieldsEvery_iff.1 hn f hf).2 ht hbroken
    rw [hparts]
    exact lexes_enclosed (.inr ⟨rfl, rfl⟩) (.inr ⟨rfl, rfl⟩) hforall
  | pair a b => cases hj
  | foreign f => cases hj

theorem At.run_nil {fuel : Nat} (h : At l d before []) : (run (fuel + 1) l).tokens = .streamEnd :: before.reverse := by
  have hskip : skipGap (l.cursor.size + 1) l = l := by
    have hspan : l.cursor.skipWhile (· == ' ') = l.cursor := by
      rw [Cursor.skipWhile, Cursor.span, h.rest]
      rfl
    have hpeek : l.cursor.peek = '\x00' := by rw [Cursor.peek, h.rest]; rfl
    have hcomment : ('\x00' == '#') = false := rfl
    have hbreak : isBreak '\x00' = false := rfl
    rw [skipGap, hspan]
    simp only [hpeek, hcomment, hbreak, Bool.false_eq_true, if_false]
    rfl
  have hpeek : l.fresh.cursor.peek = '\x00' := by rw [Cursor.peek, h.fresh.rest]; rfl
  obtain ⟨ms, hdrop, -⟩ := h.fresh.dropMark
  have hfinish : l.fresh.finish = .ok ({ l.fresh with marks := ms }.push .streamEnd) := by
    rw [finish, h.fresh.unwind, hdrop]
    rfl
  rw [run_succ, hskip, h.dropStale]
  simp only [h.fresh.unwind, hpeek, hfinish]
  change .streamEnd :: l.tokens = _
  rw [h.tokens]

end Lexer

/-- The tokens of an exported document, if YAML text may contain its characters. -/
theorem tokens_of_json {fields : Fields} {text : String} (hj : (Value.object fields).isJson = true)
    (hn : (Value.object fields).hasShortNames = true) (h : (Value.object fields).json .indented = .ok text)
    (hallowed : (Text.codes text.toList).all isAllowed = true) (hb : Lexer.IsBroken text.toList) :
    tokens text = (Value.object fields).tokens ++ [.streamEnd] := by
  have hwrite := Json.writeAt_of_json h
  obtain ⟨parts, hparts, hforall⟩ := Lexer.exists_fieldParts (d := 0) hj hn hwrite hb fun f hf t ht hbroken =>
    Lexer.lexes_of_writeAt (Value.fieldsJson_iff.1 hj f hf).2 (Value.fieldsEvery_iff.1 hn f hf).2 ht hbroken
  have hstart : Lexer.At (Lexer.start text.toList) 0 [] ([] ++ (Json.enclosed 0 '\x7b' '\x7d' parts ++ [])) := by
    rw [List.nil_append, List.append_nil, ← hparts]
    exact ⟨rfl, le_rfl, rfl, rfl, rfl, rfl, rfl, fun _ hp => by cases hp⟩
  have hmark : (Lexer.start text.toList).skipMark = Lexer.start text.toList := by
    have hpeek : (Lexer.start text.toList).cursor.peek = '\x7b' := by
      rw [Cursor.peek, hstart.rest]
      cases parts <;> rfl
    rw [Lexer.skipMark, hpeek]
    rfl
  obtain ⟨l, ⟨n, hn, hrun⟩, hat⟩ := Lexer.leads_enclosed (.inr ⟨rfl, rfl⟩) (.inr ⟨rfl, rfl⟩) hforall
    Lexer.isGap_nil hstart
  have hn : n ≤ text.toList.length := Nat.le_of_add_right_le hn
  have htokens : (Lexer.run (text.toList.length + 2) (Lexer.start text.toList)).tokens.reverse =
      (Value.object fields).tokens ++ [.streamEnd] := by
    rw [show text.toList.length + 2 = (text.toList.length - n + 1) + 1 + n by omega, hrun, hat.run_nil]
    rw [List.reverse_cons, List.reverse_reverse]
    rfl
  rw [tokens]
  simp only [hallowed, hmark]
  exact htokens

end Yaml

end Workflow
