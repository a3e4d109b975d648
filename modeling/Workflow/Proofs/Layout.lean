import Workflow.Proofs.Spelling
import Workflow.Proofs.Unwritable

/-!
# Reading JSON text that was written

What stands between the brackets of a list or an object in exported documents, and that JSON text of every
style with commas, colons and blanks (`JsonStyle.Separates`) reads as the values that were written, numbers
being read from their texts (`Json.read_of_write`).
-/

namespace Workflow

namespace Value

mutual

/-- The greatest count of containers around a place in a value. -/
def nesting : Value → Nat
  | .list items => itemsNesting items + 1
  | .object fields => fieldsNesting fields + 1
  | .pair a b => max a.nesting b.nesting + 1
  | _ => 0

def itemsNesting : List Value → Nat
  | [] => 0
  | v :: rest => max v.nesting (itemsNesting rest)

def fieldsNesting : List (Key × Value) → Nat
  | [] => 0
  | (_, v) :: rest => max v.nesting (fieldsNesting rest)

end

mutual

/-- A value with other numbers, and of the fields with one key the last one in the place of the first. -/
def withFloats (f : Double → Value) : Value → Value
  | .float d => f d
  | .list items => .list (itemsWithFloats f items)
  | .object fields => .object (Fields.ofList (fieldsWithFloats f fields))
  | v => v

def itemsWithFloats (f : Double → Value) : List Value → List Value
  | [] => []
  | v :: rest => v.withFloats f :: itemsWithFloats f rest

def fieldsWithFloats (f : Double → Value) : List (Key × Value) → List (Key × Value)
  | [] => []
  | (key, v) :: rest => (key, v.withFloats f) :: fieldsWithFloats f rest

end

mutual

/-- Whether the names of fields and the numbers in a value have properties. -/
def every (name : Key → Bool) (number : Double → Bool) : Value → Bool
  | .float d => number d
  | .list items => itemsEvery name number items
  | .object fields => fieldsEvery name number fields
  | _ => true

def itemsEvery (name : Key → Bool) (number : Double → Bool) : List Value → Bool
  | [] => true
  | v :: rest => v.every name number && itemsEvery name number rest

def fieldsEvery (name : Key → Bool) (number : Double → Bool) : List (Key × Value) → Bool
  | [] => true
  | (key, v) :: rest => name key && v.every name number && fieldsEvery name number rest

end

/-- A value as its JSON text reads. -/
def reread (v : Value) : Value := v.withFloats fun d => .float d.reread

theorem itemsWithFloats_eq (f : Double → Value) (items : List Value) :
    itemsWithFloats f items = items.map (withFloats f) := by
  induction items with
  | nil => rfl
  | cons v rest ih => rw [itemsWithFloats, ih, List.map_cons]

theorem fieldsWithFloats_eq (f : Double → Value) (fields : Fields) :
    fieldsWithFloats f fields = fields.map fun p => (p.1, p.2.withFloats f) := by
  induction fields with
  | nil => rfl
  | cons p rest ih => rw [fieldsWithFloats, ih, List.map_cons]

section Every

variable {name : Key → Bool} {number : Double → Bool}

theorem itemsEvery_iff {items : List Value} :
    itemsEvery name number items = true ↔ ∀ v ∈ items, v.every name number = true := by
  induction items with
  | nil => simp [itemsEvery]
  | cons v rest ih => simp [itemsEvery, ih]

theorem fieldsEvery_iff {fields : Fields} :
    fieldsEvery name number fields = true ↔ ∀ f ∈ fields, name f.1 = true ∧ f.2.every name number = true := by
  induction fields with
  | nil => simp [fieldsEvery]
  | cons f rest ih => simp [fieldsEvery, ih, and_assoc]

theorem withFloats_congr {f g : Double → Value} {v : Value} (hv : v.every name number = true)
    (h : ∀ d, number d = true → f d = g d) : v.withFloats f = v.withFloats g := by
  induction v using Value.byParts with
  | float d => exact h d hv
  | list items ih =>
    rw [withFloats, withFloats, itemsWithFloats_eq, itemsWithFloats_eq,
      List.map_congr_left fun v hv' => ih v hv' (itemsEvery_iff.1 hv v hv')]
  | object fields ih =>
    have hfields : (fields.map fun p => (p.1, p.2.withFloats f)) = fields.map fun p => (p.1, p.2.withFloats g) :=
      List.map_congr_left fun p hp => Prod.ext rfl (ih p hp (fieldsEvery_iff.1 hv p hp).2)
    rw [withFloats, withFloats, fieldsWithFloats_eq, fieldsWithFloats_eq, hfields]
  | _ => rfl

end Every

theorem itemsNesting_le {items : List Value} {n : Nat} (h : ∀ v ∈ items, v.nesting ≤ n) : itemsNesting items ≤ n := by
  induction items with
  | nil => exact Nat.zero_le n
  | cons v rest ih =>
    rw [List.forall_mem_cons] at h
    exact Nat.max_le.2 ⟨h.1, ih h.2⟩

theorem fieldsNesting_le {fields : Fields} {n : Nat} (h : ∀ f ∈ fields, f.2.nesting ≤ n) :
    fieldsNesting fields ≤ n := by
  induction fields with
  | nil => exact Nat.zero_le n
  | cons f rest ih =>
    rw [List.forall_mem_cons] at h
    exact Nat.max_le.2 ⟨h.1, ih h.2⟩

theorem nesting_lt_of_mem {items : List Value} {v : Value} (hv : v ∈ items) :
    v.nesting < (Value.list items).nesting := by
  rw [nesting, Nat.lt_succ_iff]
  induction items with
  | nil => cases hv
  | cons w rest ih =>
    rw [itemsNesting]
    rcases List.mem_cons.1 hv with rfl | hv
    · exact Nat.le_max_left _ _
    · exact Nat.le_trans (ih hv) (Nat.le_max_right _ _)

theorem nesting_lt_of_mem_fields {fields : Fields} {p : Key × Value} (hp : p ∈ fields) :
    p.2.nesting < (Value.object fields).nesting := by
  rw [nesting, Nat.lt_succ_iff]
  induction fields with
  | nil => cases hp
  | cons q rest ih =>
    rw [fieldsNesting]
    rcases List.mem_cons.1 hp with rfl | hp
    · exact Nat.le_max_left _ _
    · exact Nat.le_trans (ih hp) (Nat.le_max_right _ _)

end Value

/-! ### Fields with different keys -/

theorem Fields.set_new {name : String} {v : Value} {fields : Fields}
    (h : ∀ p ∈ fields, ∃ other, p.1 = .text other ∧ other ≠ name) :
    Fields.set (.text name) v fields = fields ++ [(.text name, v)] := by
  induction fields with
  | nil => rfl
  | cons p rest ih =>
    obtain ⟨k, w⟩ := p
    rw [List.forall_mem_cons] at h
    obtain ⟨⟨other, hk, hne⟩, hrest⟩ := h
    obtain rfl : k = .text other := hk
    have hsame : (Key.text other).same (.text name) = false := by
      change (Key.text other == Key.text name) = false
      simpa using hne
    rw [Fields.set, hsame, if_neg Bool.false_ne_true, ih hrest]
    rfl

theorem Fields.ofList_of_nodup {entries : List (String × Value)} (h : (entries.map Prod.fst).Nodup) :
    Fields.ofList (entries.map fun e => (Key.text e.1, e.2)) = entries.map fun e => (Key.text e.1, e.2) := by
  suffices ∀ front : List (String × Value), (∀ p ∈ front, ∀ e ∈ entries, p.1 ≠ e.1) →
      (entries.map fun e => (Key.text e.1, e.2)).foldl (fun fields (p : Key × Value) => Fields.set p.1 p.2 fields)
        (front.map fun e => (Key.text e.1, e.2)) = (front ++ entries).map fun e => (Key.text e.1, e.2) from
    this [] (fun _ hp => by cases hp)
  induction entries with
  | nil => exact fun front _ => by simp
  | cons e rest ih =>
    intro front hfront
    rw [List.map_cons, List.nodup_cons] at h
    rw [List.map_cons, List.foldl_cons, Fields.set_new]
    · have hnext : ∀ p ∈ front ++ [e], ∀ e' ∈ rest, p.1 ≠ e'.1 := by
        intro p hp e' he'
        rcases List.mem_append.1 hp with hp | hp
        · exact hfront p hp e' (List.mem_cons_of_mem _ he')
        · rw [List.mem_singleton.1 hp]
          rintro heq
          exact h.1 (heq ▸ List.mem_map_of_mem he')
      have := ih h.2 (front ++ [e]) hnext
      simpa using this
    · intro p hp
      obtain ⟨q, hq, rfl⟩ := List.mem_map.1 hp
      exact ⟨q.1, rfl, hfront q hq e List.mem_cons_self⟩

/-- An object with different texts as keys is what its fields make, one after the other. -/
theorem Fields.ofList_of_texts {fields : Fields} (ht : ∀ p ∈ fields, p.1.isText = true)
    (hn : (fields.map Prod.fst).Nodup) : Fields.ofList fields = fields := by
  obtain ⟨entries, rfl⟩ : ∃ entries : List (String × Value), fields = entries.map fun e => (Key.text e.1, e.2) := by
    clear hn
    induction fields with
    | nil => exact ⟨[], rfl⟩
    | cons p rest ih =>
      obtain ⟨key, v⟩ := p
      rw [List.forall_mem_cons] at ht
      obtain ⟨entries, rfl⟩ := ih ht.2
      cases key with
      | text name => exact ⟨(name, v) :: entries, rfl⟩
      | _ => cases ht.1
  rw [List.map_map] at hn
  have hkeys : (entries.map Prod.fst).Nodup := List.Nodup.of_map Key.text (by rwa [List.map_map])
  exact Fields.ofList_of_nodup hkeys

namespace Json

/-! ### The layout -/

/-- A line break and the indentation of a level. -/
def gap (level : Nat) : List Char := '\n' :: List.replicate (2 * level) ' '

/-- A text in quotes. -/
def quotedChars (s : String) : List Char := '"' :: (s.toList.flatMap escapeChar ++ ['"'])

/-- What follows the first part inside brackets: the other parts and the closing bracket. -/
def others (level : Nat) (closing : Char) : List (List Char) → List Char
  | [] => gap level ++ [closing]
  | p :: ps => ',' :: (gap (level + 1) ++ (p ++ others level closing ps))

/-- The parts of a container in its brackets. -/
def enclosed (level : Nat) (opening closing : Char) : List (List Char) → List Char
  | [] => [opening, closing]
  | p :: ps => opening :: (gap (level + 1) ++ (p ++ others level closing ps))

theorem toList_lineBreak (level : Nat) : (lineBreak .indented level).toList = gap level := by
  simp [lineBreak, JsonStyle.indented, gap]

theorem intercalate_cons {α : Type} (sep p : List α) (ps : List (List α)) :
    sep.intercalate (p :: ps) = p ++ ps.flatMap (sep ++ ·) := by
  induction ps generalizing p with
  | nil => simp [List.intercalate]
  | cons q qs ih =>
    rw [List.flatMap_cons, List.append_assoc, ← ih q]
    simp [List.intercalate]

theorem others_eq (level : Nat) (closing : Char) (ps : List (List Char)) : others level closing ps =
    ps.flatMap ((',' :: gap (level + 1)) ++ ·) ++ (gap level ++ [closing]) := by
  induction ps with
  | nil => rfl
  | cons p ps ih => rw [others, ih, List.flatMap_cons]; simp

theorem toList_bracket (level : Nat) {opening closing : String} {o c : Char} (ho : opening.toList = [o])
    (hc : closing.toList = [c]) (parts : List String) :
    (bracket .indented level opening closing parts).toList = enclosed level o c (parts.map String.toList) := by
  have hcomma : JsonStyle.indented.comma.toList = [','] := rfl
  cases parts with
  | nil =>
    rw [bracket, if_pos (by rfl), String.toList_append, ho, hc]
    rfl
  | cons p ps =>
    rw [bracket, if_neg (by simp), List.map_cons, enclosed, others_eq]
    simp only [String.toList_append, String.toList_intercalate, toList_lineBreak, ho, hc, List.map_cons,
      intercalate_cons, hcomma]
    simp

theorem toList_string (s : String) : (string s).toList = quotedChars s := by
  rw [string, String.toList_ofList, quotedChars, List.cons_append]

variable {level : Nat} {items : List Value} {fields : Fields} {parts : List String} {s : String}

theorem forall₂_of_writeItems {style : JsonStyle} (h : writeItems style level items = .ok parts) :
    List.Forall₂ (fun v p => writeAt style level v = .ok p) items parts := by
  induction items generalizing parts with
  | nil => cases h; exact .nil
  | cons v rest ih =>
    rw [writeItems] at h
    cases hv : writeAt style level v with
    | error f => rw [hv] at h; cases h
    | ok p =>
      cases hr : writeItems style level rest with
      | error f => rw [hv, hr] at h; cases h
      | ok ps =>
        rw [hv, hr] at h
        cases h
        exact .cons hv (ih hr)

theorem forall₂_of_writeFields {style : JsonStyle} (hj : Value.fieldsJson fields = true)
    (h : writeFields style level fields = .ok parts) :
    List.Forall₂ (fun f p => ∃ name s, f.1 = .text name ∧ writeAt style level f.2 = .ok s ∧
      p = string name ++ style.colon ++ s) fields parts := by
  induction fields generalizing parts with
  | nil => cases h; exact .nil
  | cons f rest ih =>
    obtain ⟨key, v⟩ := f
    rw [Value.fieldsJson, Bool.and_eq_true, Bool.and_eq_true] at hj
    obtain ⟨name, rfl⟩ : ∃ name, key = .text name := by
      cases key with
      | text name => exact ⟨name, rfl⟩
      | _ => exact absurd hj.1.1 Bool.false_ne_true
    rw [writeFields, keyText] at h
    cases hv : writeAt style level v with
    | error f => rw [hv] at h; cases h
    | ok s =>
      cases hr : writeFields style level rest with
      | error f => rw [hv, hr] at h; cases h
      | ok ps =>
        rw [hv, hr] at h
        cases h
        exact .cons ⟨name, s, rfl, hv, rfl⟩ (ih hj.2 hr)

theorem bracket_of_list {style : JsonStyle} (h : writeAt style level (.list items) = .ok s) : ∃ parts : List String,
    s = bracket style level "[" "]" parts ∧
    List.Forall₂ (fun v p => writeAt style (level + 1) v = .ok p) items parts := by
  rw [writeAt] at h
  cases hw : writeItems style (level + 1) items with
  | error f => rw [hw] at h; cases h
  | ok parts =>
    rw [hw] at h
    cases h
    exact ⟨parts, rfl, forall₂_of_writeItems hw⟩

theorem bracket_of_object {style : JsonStyle} (hj : Value.fieldsJson fields = true)
    (h : writeAt style level (.object fields) = .ok s) : ∃ parts : List String,
    s = bracket style level "\x7b" "\x7d" parts ∧
    List.Forall₂ (fun f p => ∃ name t, f.1 = .text name ∧ writeAt style (level + 1) f.2 = .ok t ∧
      p = string name ++ style.colon ++ t) fields parts := by
  rw [writeAt] at h
  cases hw : writeFields style (level + 1) fields with
  | error f => rw [hw] at h; cases h
  | ok parts =>
    rw [hw] at h
    cases h
    exact ⟨parts, rfl, forall₂_of_writeFields hj hw⟩

theorem list_layout (h : writeAt .indented level (.list items) = .ok s) : ∃ parts : List (List Char),
    s.toList = enclosed level '[' ']' parts ∧
    List.Forall₂ (fun v p => ∃ t, writeAt .indented (level + 1) v = .ok t ∧ p = t.toList) items parts := by
  obtain ⟨parts, rfl, hw⟩ := bracket_of_list h
  refine ⟨_, toList_bracket level rfl rfl parts, List.forall₂_map_right_iff.2 ?_⟩
  exact hw.imp fun v p hp => ⟨p, hp, rfl⟩

theorem object_layout (hj : Value.fieldsJson fields = true)
    (h : writeAt .indented level (.object fields) = .ok s) : ∃ parts : List (List Char),
    s.toList = enclosed level '\x7b' '\x7d' parts ∧
    List.Forall₂ (fun f p => ∃ name t, f.1 = .text name ∧ writeAt .indented (level + 1) f.2 = .ok t ∧
      p = quotedChars name ++ (':' :: ' ' :: t.toList)) fields parts := by
  obtain ⟨parts, rfl, hw⟩ := bracket_of_object hj h
  refine ⟨_, toList_bracket level rfl rfl parts, List.forall₂_map_right_iff.2 (hw.imp fun f p hp => ?_)⟩
  obtain ⟨name, t, hk, ht, rfl⟩ := hp
  refine ⟨name, t, hk, ht, ?_⟩
  rw [String.toList_append, String.toList_append, toList_string, List.append_assoc]
  rfl

/-! ### Any layout -/

/-- Characters that may stand between tokens. -/
def Blank (cs : List Char) : Prop := ∀ c ∈ cs, c = ' ' ∨ c = '\t' ∨ c = '\n' ∨ c = '\r'

/-- What follows the first part inside brackets: the other parts, each behind a comma, and the closing bracket. -/
inductive Trails (closing : Char) : List (List Char) → List Char → Prop where
  | nil {blank : List Char} (hb : Blank blank) : Trails closing [] (blank ++ [closing])
  | cons {blank p cs : List Char} {ps : List (List Char)} (hb : Blank blank) (h : Trails closing ps cs) :
      Trails closing (p :: ps) (',' :: (blank ++ (p ++ cs)))

/-- The parts of a container in its brackets. -/
inductive Laid (opening closing : Char) : List (List Char) → List Char → Prop where
  | nil : Laid opening closing [] [opening, closing]
  | cons {blank p cs : List Char} {ps : List (List Char)} (hb : Blank blank) (h : Trails closing ps cs) :
      Laid opening closing (p :: ps) (opening :: (blank ++ (p ++ cs)))

end Json

/-- A style in which a comma separates parts and a colon a key from its value, with blanks behind them. -/
structure JsonStyle.Separates (style : JsonStyle) : Prop where
  comma : ∃ blank, style.comma.toList = ',' :: blank ∧ Json.Blank blank
  colon : ∃ blank, style.colon.toList = ':' :: blank ∧ Json.Blank blank

namespace Json

theorem blank_nil : Blank [] := by simp [Blank]

theorem blank_space : Blank [' '] := by simp [Blank]

theorem Blank.append {a b : List Char} (ha : Blank a) (hb : Blank b) : Blank (a ++ b) := fun c hc =>
  (List.mem_append.1 hc).elim (ha c) (hb c)

theorem separates_indented : JsonStyle.indented.Separates := ⟨⟨[], rfl, blank_nil⟩, ⟨[' '], rfl, blank_space⟩⟩

theorem separates_spaced : JsonStyle.spaced.Separates := ⟨⟨[' '], rfl, blank_space⟩, ⟨[' '], rfl, blank_space⟩⟩

theorem blank_lineBreak (style : JsonStyle) (level : Nat) : Blank (lineBreak style level).toList := by
  unfold lineBreak
  split
  · simp [Blank]
  · intro c hc
    simp only [String.toList_append, List.mem_append, String.toList_ofList] at hc
    rcases hc with hc | hc
    · exact .inr (.inr (.inl (List.mem_singleton.1 hc)))
    · exact .inl (List.eq_of_mem_replicate hc)

theorem trails_flatMap (closing : Char) {blank stop : List Char} (hb : Blank blank) (hs : Blank stop)
    (ps : List (List Char)) :
    Trails closing ps (ps.flatMap ((',' :: blank) ++ ·) ++ (stop ++ [closing])) := by
  induction ps with
  | nil => exact .nil hs
  | cons p ps ih =>
    rw [List.flatMap_cons, List.append_assoc, List.append_assoc]
    exact .cons hb ih

theorem laid_bracket {style : JsonStyle} (hs : style.Separates) (level : Nat) {opening closing : String} {o c : Char}
    (ho : opening.toList = [o]) (hc : closing.toList = [c]) (parts : List String) :
    Laid o c (parts.map String.toList) (bracket style level opening closing parts).toList := by
  obtain ⟨blank, hcomma, hblank⟩ := hs.comma
  cases parts with
  | nil =>
    rw [bracket, if_pos (by rfl), String.toList_append, ho, hc]
    exact .nil
  | cons p ps =>
    have hbreak := blank_lineBreak style (level + 1)
    have htrails := trails_flatMap c (hblank.append hbreak) (blank_lineBreak style level) (ps.map String.toList)
    have hlaid : Laid o c (p.toList :: ps.map String.toList) _ := .cons hbreak htrails
    rw [bracket, if_neg (by simp), List.map_cons]
    simp only [String.toList_append, String.toList_intercalate, ho, hc, List.map_cons, intercalate_cons, hcomma]
    simpa using hlaid

/-- A character that a number or a name begins with. -/
def opensScalar (c : Char) : Bool :=
  Numeral.opensNumber c || c == 'n' || c == 't' || c == 'f' || c == 'N' || c == 'I'

/-- A character that a value begins with. -/
def opens (c : Char) : Bool := opensScalar c || c == '"' || c == '[' || c == '\x7b'

theorem exists_floatChars (d : Double) : ∃ c cs, (floatText d).toList = c :: cs ∧ opensScalar c = true := by
  rcases d.floatText_cases with ⟨w, hw, -⟩ | ⟨h, -⟩ | ⟨h, -⟩ | ⟨h, -⟩
  · obtain ⟨c, cs, hs, hc⟩ := w.exists_chars
    exact ⟨c, cs, hw.trans hs, by rw [opensScalar, hc]; rfl⟩
  all_goals
    rw [h]
    exact ⟨_, _, rfl, rfl⟩

/-! ### Strings -/

theorem hex4?_hex {n : Nat} (hn : n < 0x20) :
    ∃ a b c d, (Text.hex 4 n).toList = [a, b, c, d] ∧ hex4? a b c d = some n := by
  have h : ∀ n < 0x20, (Text.hex 4 n).toList = [(Text.hex 4 n).toList.getD 0 ' ', (Text.hex 4 n).toList.getD 1 ' ',
      (Text.hex 4 n).toList.getD 2 ' ', (Text.hex 4 n).toList.getD 3 ' '] ∧
        hex4? ((Text.hex 4 n).toList.getD 0 ' ') ((Text.hex 4 n).toList.getD 1 ' ')
          ((Text.hex 4 n).toList.getD 2 ' ') ((Text.hex 4 n).toList.getD 3 ' ') = some n := by decide
  exact ⟨_, _, _, _, h n hn⟩

theorem stringBody?_unicode {a b c d : Char} {n : Nat} {seen rest : List Char} (h : hex4? a b c d = some n)
    (hn : isHighSurrogate n = false) :
    stringBody? seen ('\\' :: 'u' :: a :: b :: c :: d :: rest) = stringBody? (seeCode n seen) rest := by
  conv_lhs => unfold stringBody?
  split
  next he => cases he
  next he => cases he
  next he =>
    cases he
    rw [h]
    simp only [hn, Bool.false_and, Bool.false_eq_true, if_false]
    split <;> rfl
  next he =>
    cases he
    rw [h]
  next hne he =>
    cases he
    exact (hne _ _ _ _ _ rfl rfl).elim
  next hne he =>
    cases he
    exact (hne _ _ rfl rfl).elim

theorem stringBody?_plain {c : Char} {seen rest : List Char} (hquote : c ≠ '"') (hslash : c ≠ '\\')
    (hc : ¬ c.toNat < 0x20) : stringBody? seen (c :: rest) = stringBody? (c :: seen) rest := by
  conv_lhs => unfold stringBody?
  split
  next he => cases he
  next he => exact absurd (List.cons.inj he).1 hquote
  next he => exact absurd (List.cons.inj he).1 hslash
  next he => exact absurd (List.cons.inj he).1 hslash
  next he => exact absurd (List.cons.inj he).1 hslash
  next he =>
    cases he
    rw [if_neg hc]

theorem ofCode_toNat {c : Char} (hc : c.toNat < 0x20) : Text.ofCode c.toNat = [c] := by
  have hhalf : Text.isHalf c.toNat = false := by
    simp only [Text.isHalf, Bool.and_eq_false_iff, decide_eq_false_iff_not]
    omega
  have hmarked : Text.marked c = [c] := by
    have : (Text.surrogateBlock ≤ c.toNat) = False := eq_false (by rw [Text.surrogateBlock]; omega)
    simp [Text.marked, this]
  rw [Text.ofCode, hhalf, if_neg Bool.false_ne_true, Char.ofNat_toNat, hmarked]

theorem stringBody?_escapeChar (c : Char) (seen rest : List Char) :
    stringBody? seen (escapeChar c ++ rest) = stringBody? (c :: seen) rest := by
  have hcode {d : Char} (h : (c.toNat == d.toNat) = true) : c = d := Char.toNat_inj.1 (beq_iff_eq.1 h)
  unfold escapeChar
  split_ifs with h1 h2 h3 h4 h5 h6 h7 h8
  · obtain rfl := beq_iff_eq.1 h1
    rfl
  · obtain rfl := beq_iff_eq.1 h2
    rfl
  · obtain rfl := beq_iff_eq.1 h3
    rfl
  · obtain rfl := beq_iff_eq.1 h4
    rfl
  · obtain rfl := beq_iff_eq.1 h5
    rfl
  · obtain rfl : c = '\x08' := hcode h6
    rfl
  · obtain rfl : c = '\x0c' := hcode h7
    rfl
  · obtain ⟨x, y, z, w, hhex, hn⟩ := hex4?_hex h8
    have hhigh : isHighSurrogate c.toNat = false := by
      simp only [isHighSurrogate, Bool.and_eq_false_iff, decide_eq_false_iff_not]
      omega
    rw [hhex]
    exact (stringBody?_unicode hn hhigh).trans (by rw [seeCode, ofCode_toNat h8]; rfl)
  · rw [List.singleton_append, stringBody?_plain (by simpa using h1) (by simpa using h2) h8]

/-- A text in quotes is read as it is. -/
theorem stringBody?_escaped (cs seen rest : List Char) :
    stringBody? seen (cs.flatMap escapeChar ++ '"' :: rest) = some (String.ofList (seen.reverse ++ cs), rest) := by
  induction cs generalizing seen with
  | nil =>
    rw [List.flatMap_nil, List.nil_append, stringBody?, List.append_nil]
  | cons c cs ih =>
    rw [List.flatMap_cons, List.append_assoc, stringBody?_escapeChar, ih, List.reverse_cons, List.append_assoc]
    rfl

/-! ### Values -/

/-- Whether characters of JSON text read as a value, inside so many containers. -/
structure Reads (depth : Nat) (v : Value) (cs : List Char) : Prop where
  opens : ∃ c t, cs = c :: t ∧ opens c = true
  read : ∀ {fuel : Nat} {rest : List Char}, cs.length ≤ fuel → Stops Numeral.continues rest →
    valueAt .document fuel depth (cs ++ rest) = .ok (v, rest)

theorem skip_of_not_blank {c : Char} {cs : List Char}
    (h : (c == ' ' || c == '\t' || c == '\n' || c == '\r') = false) : skip (c :: cs) = c :: cs :=
  List.dropWhile_cons_of_neg (by rw [h]; decide)

theorem skip_of_opens {c : Char} {cs : List Char} (h : opens c = true) : skip (c :: cs) = c :: cs := by
  refine skip_of_not_blank ?_
  by_contra hblank
  simp only [Bool.not_eq_false, Bool.or_eq_true, beq_iff_eq] at hblank
  rcases hblank with ((rfl | rfl) | rfl) | rfl <;> cases h

theorem skip_blank {blank : List Char} (hb : Blank blank) (cs : List Char) : skip (blank ++ cs) = skip cs := by
  refine List.dropWhile_append_of_pos fun c hc => ?_
  rcases hb c hc with rfl | rfl | rfl | rfl <;> rfl

variable {depth fuel : Nat} {v : Value} {p cs rest : List Char} {ps : List (List Char)} {closing : Char}

theorem Trails.stops (h : Trails closing ps cs) (hc : Numeral.continues closing = false) :
    Stops Numeral.continues (cs ++ rest) := by
  cases h with
  | @nil blank hb =>
    cases blank with
    | nil => exact .cons hc
    | cons d blank =>
      refine .cons ?_
      rcases hb d List.mem_cons_self with rfl | rfl | rfl | rfl <;> rfl
  | cons => exact .cons rfl

theorem itemsAt_trails {values : List Value} (h : List.Forall₂ (Reads depth) values ps) (ht : Trails ']' ps cs)
    {seen : List Value} (hv : Reads depth v p) (hf : (p ++ cs).length ≤ fuel) :
    itemsAt .document fuel depth seen (p ++ (cs ++ rest)) = .ok (.list (seen.reverse ++ v :: values), rest) := by
  induction h generalizing v p seen fuel cs with
  | nil =>
    cases ht with
    | @nil blank hb =>
      rw [List.length_append, List.length_append, List.length_singleton] at hf
      obtain ⟨fuel, rfl⟩ : ∃ n, fuel = n + 1 := ⟨fuel - 1, by omega⟩
      have hskip : skip (blank ++ [']'] ++ rest) = ']' :: rest := by
        rw [List.append_assoc, skip_blank hb]
        rfl
      rw [itemsAt, hv.read (by omega) ((Trails.nil hb).stops rfl)]
      simp only [hskip, List.reverse_cons]
  | @cons w q values ps hw _ ih =>
    cases ht with
    | @cons blank _ cs _ hb ht =>
      rw [List.length_append, List.length_cons, List.length_append] at hf
      obtain ⟨fuel, rfl⟩ : ∃ n, fuel = n + 1 := ⟨fuel - 1, by omega⟩
      obtain ⟨c, t, hq, hc⟩ := hw.opens
      have hskip : skip (blank ++ (q ++ cs) ++ rest) = q ++ (cs ++ rest) := by
        rw [List.append_assoc, skip_blank hb, List.append_assoc, hq]
        exact skip_of_opens hc
      have hcomma : skip (',' :: (blank ++ (q ++ cs)) ++ rest) = ',' :: (blank ++ (q ++ cs) ++ rest) := rfl
      rw [itemsAt, hv.read (by omega) ((Trails.cons hb ht).stops rfl)]
      simp only [hcomma, hskip]
      rw [ih ht hw (by omega), List.reverse_cons, List.append_assoc]
      rfl

/-- Whether characters of JSON text read as a field, inside so many containers. -/
structure ReadsField (depth : Nat) (f : Key × Value) (cs : List Char) : Prop where
  split : ∃ name blank t, f.1 = .text name ∧ cs = quotedChars name ++ (':' :: (blank ++ t)) ∧ Blank blank ∧
    Reads depth f.2 t

theorem stringBody?_quotedChars (s : String) (rest : List Char) :
    ∃ t, quotedChars s ++ rest = '"' :: t ∧ stringBody? [] t = some (s, rest) := by
  refine ⟨s.toList.flatMap escapeChar ++ '"' :: rest, ?_, ?_⟩
  · rw [quotedChars, List.cons_append, List.append_assoc]
    rfl
  · rw [stringBody?_escaped, List.reverse_nil, List.nil_append, String.ofList_toList]

/-- A field is read, and then what separates it from the next or ends the object. -/
theorem fieldsAt_field {f : Key × Value} {seen : Fields} (hf : ReadsField depth f p) (hlen : p.length ≤ fuel)
    (hr : Stops Numeral.continues rest) :
    fieldsAt .document (fuel + 1) depth seen (p ++ rest) =
      match skip rest with
      | ',' :: tail => fieldsAt .document fuel depth (f :: seen) (skip tail)
      | '\x7d' :: tail => .ok (.object (Fields.ofList (f :: seen).reverse), tail)
      | _ => .error .malformed := by
  obtain ⟨⟨name, blank, t, hk, rfl, hb, ht⟩⟩ := hf
  obtain ⟨key, v⟩ := f
  obtain rfl : key = .text name := hk
  obtain ⟨body, hbody, hstring⟩ := stringBody?_quotedChars name (':' :: (blank ++ t) ++ rest)
  obtain ⟨c, cs, hc, hopens⟩ := ht.opens
  have hskip : skip (blank ++ t ++ rest) = t ++ rest := by
    rw [List.append_assoc, skip_blank hb, hc]
    exact skip_of_opens hopens
  rw [List.length_append, List.length_cons, List.length_append] at hlen
  have hvalue : valueAt .document fuel depth (skip (blank ++ t ++ rest)) = .ok (v, rest) := by
    rw [hskip]
    exact ht.read (by omega) hr
  rw [List.append_assoc, hbody, fieldsAt]
  have hcolon : skip (':' :: (blank ++ t) ++ rest) = ':' :: (blank ++ t ++ rest) := rfl
  simp only [hstring, hcolon]
  exact hvalue ▸ rfl

theorem ReadsField.skip_eq {f : Key × Value} (hf : ReadsField depth f p) (cs : List Char) :
    skip (p ++ cs) = p ++ cs := by
  obtain ⟨⟨name, blank, t, -, rfl, -⟩⟩ := hf
  rfl

theorem fieldsAt_trails {values : Fields} (h : List.Forall₂ (ReadsField depth) values ps)
    (ht : Trails '\x7d' ps cs) {seen : Fields} {f : Key × Value} (hv : ReadsField depth f p)
    (hf : (p ++ cs).length ≤ fuel) :
    fieldsAt .document fuel depth seen (p ++ (cs ++ rest)) =
      .ok (.object (Fields.ofList (seen.reverse ++ f :: values)), rest) := by
  induction h generalizing f p seen fuel cs with
  | nil =>
    cases ht with
    | @nil blank hb =>
      rw [List.length_append, List.length_append, List.length_singleton] at hf
      obtain ⟨fuel, rfl⟩ : ∃ n, fuel = n + 1 := ⟨fuel - 1, by omega⟩
      have hskip : skip (blank ++ ['\x7d'] ++ rest) = '\x7d' :: rest := by
        rw [List.append_assoc, skip_blank hb]
        rfl
      rw [fieldsAt_field hv (by omega) ((Trails.nil hb).stops rfl)]
      simp only [hskip, List.reverse_cons]
  | @cons w q values ps hw _ ih =>
    cases ht with
    | @cons blank _ cs _ hb ht =>
      rw [List.length_append, List.length_cons, List.length_append] at hf
      obtain ⟨fuel, rfl⟩ : ∃ n, fuel = n + 1 := ⟨fuel - 1, by omega⟩
      have hskip : skip (blank ++ (q ++ cs) ++ rest) = q ++ (cs ++ rest) := by
        rw [List.append_assoc, skip_blank hb, List.append_assoc]
        exact hw.skip_eq _
      have hcomma : skip (',' :: (blank ++ (q ++ cs)) ++ rest) = ',' :: (blank ++ (q ++ cs) ++ rest) := rfl
      rw [fieldsAt_field hv (by omega) ((Trails.cons hb ht).stops rfl)]
      simp only [hcomma, hskip]
      rw [ih ht hw (by omega), List.reverse_cons, List.append_assoc]
      rfl

/-- The count of containers that may stand around a place in a document. -/
def depthLimit : Nat := 985

theorem admits_document (h : depth < depthLimit) : admits .document depth = true := by
  simpa [admits, JsonLimits.document, depthLimit] using h

theorem reads_of_scalar {cs : List Char} (hopens : ∃ c t, cs = c :: t ∧ opensScalar c = true)
    (h : ∀ {rest}, Stops Numeral.continues rest → scalar .document (cs ++ rest) = .ok (v, rest)) :
    Reads depth v cs := by
  obtain ⟨c, t, rfl, hc⟩ := hopens
  refine ⟨⟨c, t, rfl, by rw [opens, hc]; rfl⟩, fun {fuel rest} hf hr => ?_⟩
  obtain ⟨fuel, rfl⟩ : ∃ n, fuel = n + 1 := ⟨fuel - 1, by rw [List.length_cons] at hf; omega⟩
  have hne {d : Char} (hd : opensScalar d = false) : c ≠ d := by
    rintro rfl
    rw [hc] at hd
    cases hd
  rw [← h hr, List.cons_append]
  unfold valueAt
  split
  next he => exact absurd (List.cons.inj he).1 (hne rfl)
  next he => exact absurd (List.cons.inj he).1 (hne rfl)
  next he => exact absurd (List.cons.inj he).1 (hne rfl)
  next => rfl

theorem reads_text (s : String) : Reads depth (.text s) (quotedChars s) := by
  refine ⟨⟨_, _, rfl, rfl⟩, fun {fuel rest} hf _ => ?_⟩
  obtain ⟨fuel, rfl⟩ : ∃ n, fuel = n + 1 := ⟨fuel - 1, by rw [quotedChars, List.length_cons] at hf; omega⟩
  obtain ⟨body, hbody, hstring⟩ := stringBody?_quotedChars s rest
  rw [hbody, valueAt]
  simp only [hstring]

theorem Laid.opens {o : Char} (h : Laid o closing ps cs) (ho : opens o = true) :
    ∃ c t, cs = c :: t ∧ opens c = true := by
  cases h <;> exact ⟨_, _, rfl, ho⟩

theorem reads_list {values : List Value} (h : List.Forall₂ (Reads (depth + 1)) values ps)
    (hl : Laid '[' ']' ps cs) (hd : depth < depthLimit) : Reads depth (.list values) cs := by
  refine ⟨hl.opens rfl, fun {fuel rest} hf _ => ?_⟩
  cases h with
  | nil =>
    cases hl
    obtain ⟨fuel, rfl⟩ : ∃ n, fuel = n + 1 := ⟨fuel - 1, by simp at hf; omega⟩
    rw [List.cons_append, valueAt, admits_document hd]
    rfl
  | @cons v p values ps hv hvs =>
    cases hl with
    | @cons blank _ cs _ hb ht =>
      rw [List.length_cons, List.length_append] at hf
      obtain ⟨fuel, rfl⟩ : ∃ n, fuel = n + 1 := ⟨fuel - 1, by omega⟩
      obtain ⟨c, t, rfl, hc⟩ := hv.opens
      have hskip : skip (blank ++ (c :: t ++ cs) ++ rest) = c :: t ++ (cs ++ rest) := by
        rw [List.append_assoc, skip_blank hb, List.append_assoc]
        exact skip_of_opens hc
      have hne : c ≠ ']' := by
        rintro rfl
        cases hc
      have hitems : itemsAt .document fuel (depth + 1) [] (c :: t ++ (cs ++ rest)) = .ok (.list (v :: values), rest) :=
        itemsAt_trails hvs ht hv (by omega)
      rw [List.cons_append, valueAt, admits_document hd]
      simp only [hskip]
      rw [if_neg (by decide)]
      split
      next he => exact absurd (List.cons.inj he).1 hne
      next => exact hitems

theorem reads_object {values : Fields} (h : List.Forall₂ (ReadsField (depth + 1)) values ps)
    (hl : Laid '\x7b' '\x7d' ps cs) (hd : depth < depthLimit) : Reads depth (.object (Fields.ofList values)) cs := by
  refine ⟨hl.opens rfl, fun {fuel rest} hf _ => ?_⟩
  cases h with
  | nil =>
    cases hl
    obtain ⟨fuel, rfl⟩ : ∃ n, fuel = n + 1 := ⟨fuel - 1, by simp at hf; omega⟩
    rw [List.cons_append, valueAt, admits_document hd]
    rfl
  | @cons f p values ps hv hvs =>
    cases hl with
    | @cons blank _ cs _ hb ht =>
      rw [List.length_cons, List.length_append] at hf
      obtain ⟨fuel, rfl⟩ : ∃ n, fuel = n + 1 := ⟨fuel - 1, by omega⟩
      have hfields : fieldsAt .document fuel (depth + 1) [] (p ++ (cs ++ rest)) =
          .ok (.object (Fields.ofList (f :: values)), rest) := fieldsAt_trails hvs ht hv (by omega)
      have hskip : skip (blank ++ (p ++ cs) ++ rest) = p ++ (cs ++ rest) := by
        rw [List.append_assoc, skip_blank hb, List.append_assoc]
        exact hv.skip_eq _
      obtain ⟨⟨name, _, t, -, rfl, -⟩⟩ := hv
      rw [List.cons_append, valueAt, admits_document hd]
      simp only [hskip]
      exact hfields

/-- What is written as a value reads as the value with its numbers read from their texts. -/
theorem reads_of_writeAt {style : JsonStyle} (hs : style.Separates) {v : Value} (hj : v.isJson = true)
    (h : writeAt style level v = .ok s) (hd : depth + v.nesting ≤ depthLimit) : Reads depth v.reread s.toList := by
  induction v using Value.byParts generalizing level s depth with
  | null =>
    cases h
    exact reads_of_scalar ⟨_, _, rfl, rfl⟩ fun _ => rfl
  | bool b =>
    cases h
    cases b <;> exact reads_of_scalar ⟨_, _, rfl, rfl⟩ fun _ => rfl
  | int i =>
    rw [writeAt] at h
    obtain ⟨c, t, hs, hc, -⟩ := exists_intChars h
    exact reads_of_scalar ⟨c, t, hs, by rw [opensScalar, hc]; rfl⟩ fun hr => scalar_intText h hr
  | float d =>
    cases h
    exact reads_of_scalar (exists_floatChars d) fun hr => scalar_floatText .document d hr
  | text t =>
    cases h
    rw [toList_string]
    exact reads_text t
  | list items ih =>
    obtain ⟨parts, rfl, hforall⟩ := bracket_of_list h
    have hparts : List.Forall₂ (Reads (depth + 1)) (items.map Value.reread) (parts.map String.toList) := by
      rw [List.forall₂_map_left_iff, List.forall₂_map_right_iff]
      refine ((List.forall₂_and_left _ _).2 ⟨fun _ hv => hv, hforall⟩).imp fun v p ⟨hv, ht⟩ => ?_
      have := Value.nesting_lt_of_mem hv
      exact ih v hv (Value.itemsJson_iff.1 hj v hv) ht (by omega)
    rw [Value.reread, Value.withFloats, Value.itemsWithFloats_eq]
    exact reads_list hparts (laid_bracket hs level rfl rfl parts) (by rw [Value.nesting] at hd; omega)
  | object fields ih =>
    obtain ⟨blank, hcolon, hblank⟩ := hs.colon
    obtain ⟨parts, rfl, hforall⟩ := bracket_of_object hj h
    have hparts : List.Forall₂ (ReadsField (depth + 1)) (fields.map fun p => (p.1, p.2.reread))
        (parts.map String.toList) := by
      rw [List.forall₂_map_left_iff, List.forall₂_map_right_iff]
      refine ((List.forall₂_and_left _ _).2 ⟨fun _ hv => hv, hforall⟩).imp fun f p ⟨hf, name, t, hk, ht, hp⟩ => ?_
      have := Value.nesting_lt_of_mem_fields hf
      refine ⟨name, blank, t.toList, hk, ?_, hblank, ih f hf (Value.fieldsJson_iff.1 hj f hf).2 ht (by omega)⟩
      rw [hp, String.toList_append, String.toList_append, toList_string, hcolon, List.append_assoc]
      rfl
    rw [Value.reread, Value.withFloats, Value.fieldsWithFloats_eq]
    exact reads_object hparts (laid_bracket hs level rfl rfl parts) (by rw [Value.nesting] at hd; omega)
  | pair a b => cases hj
  | foreign f => cases hj

theorem writeAt_of_json {style : JsonStyle} (h : v.json style = .ok s) : writeAt style 0 v = .ok s := by
  unfold Value.json write at h
  cases hw : writeAt style 0 v <;> rw [hw] at h <;> cases h
  rfl

/-- The JSON text of a value reads as the value with its numbers read from their texts. -/
theorem read_of_write {style : JsonStyle} (hs : style.Separates) {v : Value} (hj : v.isJson = true)
    (h : v.json style = .ok s) (hd : v.nesting ≤ depthLimit) : Json.read s = .ok v.reread := by
  have hreads : Reads 0 v.reread s.toList := reads_of_writeAt hs hj (writeAt_of_json h) (by omega)
  obtain ⟨c, t, hs, hc⟩ := hreads.opens
  have hskip : skip s.toList = s.toList ++ [] := by rw [hs, skip_of_opens hc, List.append_nil]
  rw [read_of_toList rfl, hskip, hreads.read (by omega) .nil]
  rfl

end Json

end Workflow
