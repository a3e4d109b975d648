import Mathlib.Data.List.TakeWhile
import Workflow.Action.Surroundings
import Workflow.Proofs.Stateful
import Workflow.Proofs.Unwritable

/-!
# What executors answer

An executor is to answer with a result whatever it is given. Each of the built-in ones does, but for a few
conversions that nothing guards (`Shell.Lapse`, `Http.Lapse`, `FileRead.Lapse`): if one of these is asked for,
its failure is the answer, and if none is there is a result (`answers_of_builtin`). Plugin actions fail only
if the run is cancelled.
-/

namespace Workflow

/-! ### Failures and their reasons -/

namespace Outcome

variable {α β : Type} {r : Outcome α} {P Q : Failure → Prop}

/-- A failure has a reason, and there is no reason if there is a result. -/
structure FailsBy (r : Outcome α) (P : Failure → Prop) : Prop where
  error : ∀ {f}, r = .error f → P f
  ok : ∀ {a}, r = .ok a → ∀ f, ¬ P f

theorem FailsBy.congr (h : FailsBy r P) (hiff : ∀ f, P f ↔ Q f) : FailsBy r Q where
  error he := (hiff _).1 (h.error he)
  ok ho f hf := h.ok ho f ((hiff f).2 hf)

theorem FailsBy.of_ok (a : α) (h : ∀ f, ¬ P f) : FailsBy (.ok a) P where
  error he := by cases he
  ok _ := h

theorem FailsBy.pure (a : α) : FailsBy (.ok a) fun _ => False := .of_ok a fun _ => id

theorem FailsBy.of_error {f : Failure} (h : P f) : FailsBy (.error f : Outcome α) P where
  error he := by
    cases he
    exact h
  ok ho := by cases ho

theorem FailsBy.of_iff (h : ∀ f, r = .error f ↔ P f) : FailsBy r P where
  error he := (h _).1 he
  ok ho f hf := by cases ((h f).2 hf).symm.trans ho

theorem FailsBy.bind {k : α → Outcome β} (h : FailsBy r P) (hk : ∀ a, r = .ok a → FailsBy (k a) Q) :
    FailsBy (r >>= k) fun f => P f ∨ Q f := by
  cases hr : r with
  | error f => exact .of_error (.inl (h.error hr))
  | ok a =>
    exact ⟨fun he => .inr ((hk a hr).error he), fun ho f hf => hf.elim (h.ok hr f) ((hk a hr).ok ho f)⟩

theorem FailsBy.map (g : α → β) (h : FailsBy r P) : FailsBy (r.map g) P := by
  cases hr : r with
  | error f => exact .of_error (h.error hr)
  | ok a => exact .of_ok _ (h.ok hr)

theorem FailsBy.mapM {γ : Type} {g : γ → Outcome β} {R : γ → Failure → Prop} {l : List γ}
    (h : ∀ v ∈ l, FailsBy (g v) (R v)) : FailsBy (l.mapM g) fun f => ∃ v ∈ l, R v f := by
  induction l with
  | nil => exact .of_ok [] (by simp)
  | cons v l ih =>
    rw [List.forall_mem_cons] at h
    rw [List.mapM_cons]
    refine (h.1.bind fun _ _ => (ih h.2).bind fun _ _ => .pure _).congr fun f => ?_
    rw [List.exists_mem_cons_iff, or_false]

end Outcome

open Outcome

/-- An integer that is too large for a floating-point number. -/
def Value.IsVast (v : Value) : Prop := ∃ i, v = .int i ∧ Double.ofInt? i = none

theorem failsBy_plain (v : Value) : FailsBy v.plain fun f => v.HoldsLong ∧ f = .longInteger :=
  .of_iff fun _ => Value.plain_error_iff

theorem TimeLimit.failsBy_seconds (v : Value) (usual : Int) :
    FailsBy (seconds v usual) fun f => v.IsVast ∧ f = .integerOverflow := by
  have hnumber : FailsBy v.asDouble? fun f => v.IsVast ∧ f = .integerOverflow := by
    refine .of_iff fun f => Value.asDouble?_error_iff.trans ⟨?_, ?_⟩
    · rintro ⟨i, hi, ho, hf⟩
      exact ⟨⟨i, hi, ho⟩, hf⟩
    · rintro ⟨⟨i, hi, ho⟩, hf⟩
      exact ⟨i, hi, ho, hf⟩
  refine (hnumber.bind (Q := fun _ => False) fun limit _ => ?_).congr fun f => iff_of_eq (or_false _)
  cases limit with
  | none => exact .pure _
  | some limit =>
    simp only
    split <;> exact .pure _

theorem Failure.ofPath?_empty : Failure.ofPath? "" = none := by
  have h : "".contains '\x00' = false := by simp
  rw [Failure.ofPath?, h]
  rfl

/-! ### Shell actions -/

namespace Shell

variable {host : Host} {usual : Int} {limit : Nat} {params : Fields} {files : FileTree} {text : String}

/-- Why parameters with a command describe none that could be run. -/
inductive CommandLapse (params : Fields) (text : String) : Failure → Prop where
  | timeout (h : ((Value.object params).field "timeout").IsVast) : CommandLapse params text .integerOverflow
  /-- No system can take the text as an argument. -/
  | text {f : Failure} (h : Failure.ofPath? text = some f) : CommandLapse params text f
  /-- The directory is no text. -/
  | directory {v : Value} (hv : (Value.object params).field "workingDirectory" = v) (hg : v.isGiven = true)
    (ht : v.text? = none) :
    CommandLapse params text ⟨.wrongType, "expected str, bytes or os.PathLike object, not " ++ v.typeName⟩
  /-- No system has a directory of the name. -/
  | directoryName {name : String} {f : Failure} (hv : (Value.object params).field "workingDirectory" = .text name)
    (h : Failure.ofPath? name = some f) : CommandLapse params text f

/-- Why a shell action has no result. -/
inductive Lapse (host : Host) (usual : Int) (params : Fields) (files : FileTree) : Failure → Prop where
  | command {text : String} {f : Failure} (hc : command? params = some text) (h : CommandLapse params text f) :
    Lapse host usual params files f
  /-- The host fails, and not as systems do. -/
  | host {text : String} {c : Command} {f : Failure} (hc : command? params = some text)
    (hcommand : commandOf usual params text = .ok c) (h : host c files = .error f) (hf : f.kind.isOfSystem = false) :
    Lapse host usual params files f

theorem failsBy_systemText (s : String) : FailsBy (systemText s) fun f => Failure.ofPath? s = some f := by
  unfold systemText
  cases h : Failure.ofPath? s with
  | some f => exact .of_error rfl
  | none => exact .of_ok _ nofun

theorem failsBy_directory (v : Value) : FailsBy (Shell.directory v) fun f =>
    (v.isGiven = true ∧ v.text? = none ∧
      f = ⟨.wrongType, "expected str, bytes or os.PathLike object, not " ++ v.typeName⟩) ∨
    ∃ name, v = .text name ∧ Failure.ofPath? name = some f := by
  unfold Shell.directory
  cases hg : v.isGiven with
  | false =>
    refine .of_ok none fun f => ?_
    rintro (⟨h, -⟩ | ⟨name, rfl, h⟩)
    · cases h
    · obtain rfl : name = "" := by simpa [Value.isGiven] using hg
      cases Failure.ofPath?_empty.symm.trans h
  | true =>
    cases v with
    | text s => exact ((failsBy_systemText s).map some).congr fun f => by simp [Value.text?]
    | _ => exact .of_error (.inl ⟨rfl, rfl, rfl⟩)

theorem failsBy_commandOf (usual : Int) (params : Fields) (text : String) :
    FailsBy (commandOf usual params text) (CommandLapse params text) := by
  refine ((TimeLimit.failsBy_seconds _ _).bind fun _ _ => (failsBy_systemText text).bind fun _ _ =>
    (failsBy_directory _).bind fun _ _ => .pure _).congr fun f => ⟨?_, ?_⟩
  · rintro (⟨h, rfl⟩ | h | (⟨hg, ht, rfl⟩ | ⟨name, hv, h⟩) | h)
    · exact .timeout h
    · exact .text h
    · exact .directory rfl hg ht
    · exact .directoryName hv h
    · exact h.elim
  · rintro (h | h | ⟨rfl, hg, ht⟩ | ⟨hv, h⟩)
    · exact .inl ⟨h, rfl⟩
    · exact .inr (.inl h)
    · exact .inr (.inr (.inl (.inl ⟨hg, ht, rfl⟩)))
    · exact .inr (.inr (.inl (.inr ⟨_, hv, h⟩)))

/-- A shell action has no result just if there is a lapse. -/
theorem failsBy_perform (host : Host) (usual : Int) (limit : Nat) (params : Fields) (files : FileTree) :
    FailsBy (perform host usual limit params files).1 (Lapse host usual params files) := by
  cases hc : command? params with
  | none =>
    simp only [perform, hc]
    refine .of_ok _ fun f h => ?_
    cases h <;> cases hc.symm.trans ‹command? params = some _›
  | some text =>
    cases hr : commandOf usual params text with
    | error f =>
      simp only [perform, hc, hr]
      exact .of_error (.command hc ((failsBy_commandOf usual params text).error hr))
    | ok c =>
      -- The parameters are not at fault, so only the host can be.
      have hlapse : ∀ f, Lapse host usual params files f →
          host c files = .error f ∧ f.kind.isOfSystem = false := by
        rintro f (⟨htext, h⟩ | ⟨htext, hc', h, hf⟩) <;> obtain rfl := Option.some.inj (hc.symm.trans htext)
        · exact ((failsBy_commandOf usual params text).ok hr f h).elim
        · obtain rfl := Except.ok.inj (hr.symm.trans hc')
          exact ⟨h, hf⟩
      cases hh : host c files with
      | ok p =>
        simp only [perform, hc, hr, hh]
        exact .of_ok _ fun f h => by cases (hlapse f h).1.symm.trans hh
      | error f =>
        simp only [perform, hc, hr, hh]
        split
        next hf =>
          refine .of_ok _ fun f' h => ?_
          obtain ⟨h, hf'⟩ := hlapse f' h
          cases hh.symm.trans h
          cases hf.symm.trans hf'
        next hf => exact .of_error (.host hc hr hh (Bool.eq_false_iff.2 hf))

end Shell

/-! ### HTTP actions -/

namespace Http

/-- Why parameters describe no request that could be sent. -/
inductive DraftLapse (params : Fields) : Failure → Prop where
  /-- The method is or holds an integer with too many digits. -/
  | method (h : ((Value.object params).field "method").HoldsLong) : DraftLapse params .longInteger
  | timeout (h : ((Value.object params).field "timeout").IsVast) : DraftLapse params .integerOverflow
  /-- The body of a request with one has no JSON text. -/
  | body {method : String} {e : JsonFault}
    (hm : (((Value.object params).field "method").orElse (.text "GET")).plain = .ok method)
    (hget : Text.upper method ≠ "GET") (h : ((Value.object params).field "body").Unwritable .spaced e) :
    DraftLapse params e.toFailure

/-- Why an HTTP action has no result. -/
inductive Lapse (transport : Transport) (usual : Int) (params : Fields) : Failure → Prop where
  | draft {f : Failure} (h : DraftLapse params f) : Lapse transport usual params f
  /-- The transport fails, and not as requests do. -/
  | transport {d : Draft} {headers : List (String × String)} {f : Failure} (hd : Http.draft usual params = .ok d)
    (hh : headerTexts d.headers = .ok headers)
    (h : transport ⟨d.method, d.url, headers, d.body, d.timeLimit⟩ = .error f) (ht : f.kind ≠ .timeout)
    (hf : isShown f.kind = false) : Lapse transport usual params f

theorem not_unwritable_null {style : JsonStyle} (e : JsonFault) : ¬ Value.Unwritable style e .null := fun h => by
  cases h with
  | self h => exact h

theorem not_unwritable_text {style : JsonStyle} (s : String) (e : JsonFault) :
    ¬ Value.Unwritable style e (.text s) := fun h => by
  cases h with
  | self h => exact h

theorem failsBy_bodyText (v : Value) :
    FailsBy (bodyText v) fun f => ∃ e, v.Unwritable .spaced e ∧ f = e.toFailure := by
  unfold bodyText
  split
  next => exact .of_ok _ fun f ⟨e, h, _⟩ => not_unwritable_null e h
  next s => exact .of_ok _ fun f ⟨e, h, _⟩ => not_unwritable_text s e h
  next =>
    cases hw : v.json .spaced with
    | ok s => exact .of_ok _ fun f ⟨e, h, _⟩ => h.json_ne_ok s hw
    | error f => exact .of_error (Value.unwritable_of_json hw)

theorem failsBy_draft (usual : Int) (params : Fields) : FailsBy (draft usual params) (DraftLapse params) := by
  have hmethod : FailsBy (((Value.object params).field "method").orElse (.text "GET")).plain fun f =>
      ((Value.object params).field "method").HoldsLong ∧ f = .longInteger := by
    refine (failsBy_plain _).congr fun f => and_congr_left fun _ => ?_
    unfold Value.orElse
    split
    next => rfl
    next hg => exact ⟨fun h => absurd h (Value.not_holdsLong_text _), fun h => absurd h.isGiven hg⟩
  unfold draft
  refine (hmethod.bind (Q := fun f => (((Value.object params).field "timeout").IsVast ∧ f = .integerOverflow) ∨
    ∃ method e, (((Value.object params).field "method").orElse (.text "GET")).plain = .ok method ∧
      Text.upper method ≠ "GET" ∧ ((Value.object params).field "body").Unwritable .spaced e ∧ f = e.toFailure)
    fun method hm => (TimeLimit.failsBy_seconds _ _).bind fun _ _ => ?_).congr fun f => ⟨?_, ?_⟩
  · split
    next hget =>
      refine .of_ok _ fun f ⟨method', e, hm', hne, _⟩ => ?_
      obtain rfl := Except.ok.inj (hm.symm.trans hm')
      exact hne (beq_iff_eq.1 hget)
    next hget =>
      refine ((failsBy_bodyText _).bind fun _ _ => .pure _).congr fun f => ⟨?_, ?_⟩
      · rintro (⟨e, h, rfl⟩ | h)
        · exact ⟨method, e, hm, fun he => hget (beq_iff_eq.2 he), h, rfl⟩
        · exact h.elim
      · rintro ⟨-, e, -, -, h, rfl⟩
        exact .inl ⟨e, h, rfl⟩
  · rintro (⟨h, rfl⟩ | ⟨h, rfl⟩ | ⟨method, e, hm, hget, h, rfl⟩)
    · exact .method h
    · exact .timeout h
    · exact .body hm hget h
  · rintro (h | h | ⟨hm, hget, h⟩)
    · exact .inl ⟨h, rfl⟩
    · exact .inr (.inl ⟨h, rfl⟩)
    · exact .inr (.inr ⟨_, _, hm, hget, h, rfl⟩)

theorem headerTexts_error {headers : Fields} {f : Failure} (h : headerTexts headers = .error f) :
    f = .longInteger := by
  have hfold : ∀ texts, headers.foldlM (fun texts header => do
      return setHeader texts header.1.plain (← header.2.plain)) texts = .error f → f = .longInteger := by
    clear h
    induction headers with
    | nil => exact fun _ h => by cases h
    | cons header headers ih =>
      intro texts h
      rw [List.foldlM_cons] at h
      cases hv : header.2.plain with
      | error f' =>
        obtain ⟨-, rfl⟩ := Value.plain_error_iff.1 hv
        simp only [hv] at h
        exact (Except.error.inj h).symm
      | ok s =>
        simp only [hv] at h
        exact ih _ h
  exact hfold [] h

theorem failsBy_shown (timeLimit : Double) (f : Failure) :
    FailsBy (shown timeLimit f) fun f' => f' = f ∧ f.kind ≠ .timeout ∧ isShown f.kind = false := by
  unfold shown
  split
  next ht => exact .of_ok _ fun f' h => h.2.1 (beq_iff_eq.1 ht)
  next ht =>
    split
    next hs => exact .of_ok _ fun f' h => by cases hs.symm.trans h.2.2
    next hs => exact .of_error ⟨rfl, fun h => ht (beq_iff_eq.2 h), Bool.eq_false_iff.2 hs⟩

/-- An HTTP action has no result just if there is a lapse. -/
theorem failsBy_perform (transport : Transport) (usual : Int) (params : Fields) :
    FailsBy (perform transport usual params).1 (Lapse transport usual params) := by
  cases hd : draft usual params with
  | error f =>
    simp only [perform, hd]
    exact .of_error (.draft ((failsBy_draft usual params).error hd))
  | ok d =>
    have hlapse : ∀ f, Lapse transport usual params f → ∃ headers, headerTexts d.headers = .ok headers ∧
        transport ⟨d.method, d.url, headers, d.body, d.timeLimit⟩ = .error f ∧ f.kind ≠ .timeout ∧
        isShown f.kind = false := by
      rintro f (h | ⟨hd', hh, h, ht, hf⟩)
      · exact ((failsBy_draft usual params).ok hd f h).elim
      · obtain rfl := Except.ok.inj (hd.symm.trans hd')
        exact ⟨_, hh, h, ht, hf⟩
    cases hh : headerTexts d.headers with
    | error f =>
      -- An integer with too many digits is an error of values, which is shown.
      simp only [perform, hd, hh]
      refine (failsBy_shown _ _).congr fun f' => ⟨fun h => ?_, fun h => ?_⟩
      · rw [headerTexts_error hh] at h
        cases h.2.2
      · obtain ⟨headers, hh', -⟩ := hlapse f' h
        cases hh.symm.trans hh'
    | ok headers =>
      cases ht : transport ⟨d.method, d.url, headers, d.body, d.timeLimit⟩ with
      | ok response =>
        simp only [perform, hd, hh, ht]
        refine .of_ok _ fun f h => ?_
        obtain ⟨headers', hh', h, -⟩ := hlapse f h
        obtain rfl := Except.ok.inj (hh.symm.trans hh')
        cases ht.symm.trans h
      | error f =>
        simp only [perform, hd, hh, ht]
        refine (failsBy_shown _ _).congr fun f' => ⟨?_, fun h => ?_⟩
        · rintro ⟨rfl, hne, hf⟩
          exact .transport hd hh ht hne hf
        · obtain ⟨headers', hh', h, hne, hf⟩ := hlapse f' h
          obtain rfl := Except.ok.inj (hh.symm.trans hh')
          cases ht.symm.trans h
          exact ⟨rfl, hne, hf⟩

end Http

/-! ### Reading files -/

namespace FileRead

variable {files : FileTree} {usual : List FilePath} {params : Fields} {p : FilePath}

/-- Whether a value lists anything. -/
def isListing : Value → Bool
  | .text _ => true
  | .list _ => true
  | .pair _ _ => true
  | .object _ => true
  | .foreign (.bytes _) => true
  | _ => false

theorem failsBy_entries (v : Value) : FailsBy (entries v) fun f =>
    isListing v = false ∧ f = ⟨.wrongType, "'" ++ v.typeName ++ "' object is not iterable"⟩ := by
  cases v with
  | null => exact .of_error ⟨rfl, rfl⟩
  | bool b => exact .of_error ⟨rfl, rfl⟩
  | int i => exact .of_error ⟨rfl, rfl⟩
  | float d => exact .of_error ⟨rfl, rfl⟩
  | foreign f =>
    cases f with
    | bytes b => exact .of_ok _ fun _ h => by cases h.1
    | _ => exact .of_error ⟨rfl, rfl⟩
  | _ => exact .of_ok _ fun _ h => by cases h.1

/-- A directory is among those that are allowed. -/
inductive Allows (usual : List FilePath) (allowed : Value) : FilePath → Prop where
  | usual {p : FilePath} (hg : allowed.isGiven = false) (hp : p ∈ usual) : Allows usual allowed p
  | named {vs : List Value} {s : String} (hg : allowed.isGiven = true) (hvs : entries allowed = .ok vs)
    (hs : .text s ∈ vs) : Allows usual allowed (.ofText s)

/-- No system has a name for a segment of the path, and the segments before it lead somewhere. -/
def Unnameable (files : FileTree) (p : FilePath) (f : Failure) : Prop :=
  ∃ front part rest place, p.parts = front ++ part :: rest ∧ (∀ s ∈ front, Failure.ofPath? s = none) ∧
    Failure.ofPath? part ≠ none ∧ files.resolve ⟨p.root, front⟩ = .ok place ∧
    Failure.ofPath? (FilePath.text ⟨"/", place.parts ++ [part]⟩) = some f

/-- The parameters name a path that is looked at. -/
def Tries (params : Fields) (path : String) : Prop :=
  (Value.object params).field "path" = .text path ∧ Text.allBlank path = false ∧ hasTraversal path = false

/-- Why an action that reads a file has no result. -/
inductive Lapse (files : FileTree) (usual : List FilePath) (params : Fields) : Failure → Prop where
  /-- What is given as the directories that are allowed lists nothing. -/
  | unlisted {path : String} {v : Value} (hp : Tries params path) (hv : (Value.object params).field "allowedDirs" = v)
    (hg : v.isGiven = true) (h : isListing v = false) :
    Lapse files usual params ⟨.wrongType, "'" ++ v.typeName ++ "' object is not iterable"⟩
  /-- What is listed as a directory is no text. -/
  | entry {path : String} {v w : Value} {vs : List Value} (hp : Tries params path)
    (hv : (Value.object params).field "allowedDirs" = v) (hg : v.isGiven = true) (hvs : entries v = .ok vs)
    (hw : w ∈ vs) (ht : w.text? = none) : Lapse files usual params (notPath w)
  | place {path : String} {p : FilePath} {f : Failure} (hp : Tries params path)
    (h : p = .ofText path ∨ Allows usual ((Value.object params).field "allowedDirs") p) (hf : Unnameable files p f) :
    Lapse files usual params f

theorem takeWhile_named {parts front rest : List String} {part : String} (hparts : parts = front ++ part :: rest)
    (hfront : ∀ s ∈ front, Failure.ofPath? s = none) (hpart : Failure.ofPath? part ≠ none) :
    (parts.takeWhile fun s => (Failure.ofPath? s).isNone) = front := by
  rw [hparts, List.takeWhile_append_of_pos fun s hs => Option.isNone_iff_eq_none.2 (hfront s hs),
    List.takeWhile_cons_of_neg, List.append_nil]
  exact fun h => hpart (Option.isNone_iff_eq_none.1 h)

theorem failsBy_realPlace (files : FileTree) (p : FilePath) : FailsBy (realPlace files p) (Unnameable files p) := by
  have hsplit := List.takeWhile_append_dropWhile (p := fun part => (Failure.ofPath? part).isNone) (l := p.parts)
  have hfront : ∀ s ∈ p.parts.takeWhile (fun part => (Failure.ofPath? part).isNone), Failure.ofPath? s = none :=
    fun s hs => Option.isNone_iff_eq_none.1
      (List.mem_takeWhile_imp (p := fun part => (Failure.ofPath? part).isNone) hs)
  have hrest := congrArg (List.drop (p.parts.takeWhile fun part => (Failure.ofPath? part).isNone).length) hsplit
  rw [List.drop_left] at hrest
  unfold realPlace
  simp only [← hrest]
  split
  next part rest place hdrop hres =>
    have hpart : Failure.ofPath? part ≠ none := by
      have := List.head?_dropWhile_not (fun part => (Failure.ofPath? part).isNone) p.parts
      rw [hdrop] at this
      exact fun h => by simp [h] at this
    rw [hdrop] at hsplit
    split
    next f hf => exact .of_error ⟨_, part, rest, place, hsplit.symm, hfront, hpart, hres, hf⟩
    next hf =>
      refine .of_ok _ fun f ⟨front, part', rest', place', hparts, hfront', hpart', hres', hf'⟩ => ?_
      obtain rfl := takeWhile_named hparts hfront' hpart'
      obtain ⟨rfl, rfl⟩ := List.cons.inj (List.append_cancel_left (hsplit.trans hparts))
      cases hres.symm.trans hres'
      cases hf.symm.trans hf'
  next hno =>
    refine .of_ok _ fun f ⟨front, part, rest, place, hparts, hfront', hpart, hres, _⟩ => ?_
    obtain rfl := takeWhile_named hparts hfront' hpart
    exact hno part rest place (List.append_cancel_left (hsplit.trans hparts)) hres

theorem failsBy_pathOf (v : Value) : FailsBy (pathOf v) fun f => v.text? = none ∧ f = notPath v := by
  cases v with
  | text s => exact .of_ok _ fun _ h => by cases h.1
  | _ => exact .of_error ⟨rfl, rfl⟩

/-- The directories that are allowed have places unless one is no text or has a segment without a name. -/
theorem failsBy_listed (files : FileTree) (usual : List FilePath) (allowed : Value) :
    FailsBy (listed usual allowed >>= fun roots => roots.mapM (· >>= realPlace files)) fun f =>
      (allowed.isGiven = true ∧ isListing allowed = false ∧
        f = ⟨.wrongType, "'" ++ allowed.typeName ++ "' object is not iterable"⟩) ∨
      (∃ vs, allowed.isGiven = true ∧ entries allowed = .ok vs ∧ ∃ w ∈ vs, w.text? = none ∧ f = notPath w) ∨
      ∃ p, Allows usual allowed p ∧ Unnameable files p f := by
  have hplace : ∀ v : Value, FailsBy (pathOf v >>= realPlace files) fun f => (v.text? = none ∧ f = notPath v) ∨
      ∃ s, v = .text s ∧ Unnameable files (.ofText s) f := by
    intro v
    refine (failsBy_pathOf v).bind fun p hp => ?_
    cases v with
    | text s =>
      obtain rfl := Except.ok.inj hp
      exact (failsBy_realPlace files _).congr fun f => by simp
    | _ => cases hp
  unfold listed
  cases hg : allowed.isGiven with
  | false =>
    rw [if_neg Bool.false_ne_true]
    change FailsBy ((usual.map Except.ok).mapM fun root => root >>= realPlace files) _
    rw [List.mapM_map]
    refine (FailsBy.mapM fun p _ => failsBy_realPlace files p).congr fun f => ⟨?_, ?_⟩
    · rintro ⟨p, hp, hf⟩
      exact .inr (.inr ⟨p, .usual hg hp, hf⟩)
    · rintro (⟨h, -⟩ | ⟨_, h, -⟩ | ⟨p, h | ⟨h, -⟩, hf⟩)
      · cases h
      · cases h
      · exact ⟨p, ‹_›, hf⟩
      · cases hg.symm.trans h
  | true =>
    rw [if_pos rfl]
    cases hvs : entries allowed with
    | error f =>
      obtain ⟨h, rfl⟩ := (failsBy_entries allowed).error hvs
      exact .of_error (.inl ⟨rfl, h, rfl⟩)
    | ok vs =>
      change FailsBy ((vs.map pathOf).mapM fun root => root >>= realPlace files) _
      rw [List.mapM_map]
      refine (FailsBy.mapM fun v _ => hplace v).congr fun f => ⟨?_, ?_⟩
      · rintro ⟨v, hv, ⟨ht, hf⟩ | ⟨s, rfl, hf⟩⟩
        · exact .inr (.inl ⟨vs, rfl, rfl, v, hv, ht, hf⟩)
        · exact .inr (.inr ⟨_, .named hg hvs hv, hf⟩)
      · rintro (⟨-, h⟩ | ⟨vs', -, hvs', w, hw, h⟩ | ⟨p, ⟨h, -⟩ | ⟨-, hvs', hs⟩, hf⟩)
        · exact ((failsBy_entries allowed).ok hvs _ h).elim
        · obtain rfl := Except.ok.inj hvs'
          exact ⟨w, hw, .inl h⟩
        · cases hg.symm.trans h
        · obtain rfl := Except.ok.inj (hvs.symm.trans hvs')
          exact ⟨_, hs, .inr ⟨_, rfl, hf⟩⟩

/-- An action that reads a file has no result just if there is a lapse. -/
theorem failsBy_perform (files : FileTree) (usual : List FilePath) (params : Fields) :
    FailsBy (perform files usual params) (Lapse files usual params) := by
  have htries : ∀ {f}, Lapse files usual params f → ∃ path, Tries params path := by
    rintro f (⟨hp, -⟩ | ⟨hp, -⟩ | ⟨hp, -⟩) <;> exact ⟨_, hp⟩
  unfold perform
  simp only
  split
  next path hpath =>
    have hpath' : ∀ {path'}, Tries params path' → path = path' := fun h => Value.text.inj (hpath.symm.trans h.1)
    split
    next hblank =>
      refine .of_ok _ fun f h => ?_
      obtain ⟨path', h⟩ := htries h
      obtain rfl := hpath' h
      cases hblank.symm.trans h.2.1
    next hblank =>
      split
      next htraversal =>
        refine .of_ok _ fun f h => ?_
        obtain ⟨path', h⟩ := htries h
        obtain rfl := hpath' h
        cases htraversal.symm.trans h.2.2
      next htraversal =>
        have htry : Tries params path := ⟨hpath, Bool.eq_false_iff.2 hblank, Bool.eq_false_iff.2 htraversal⟩
        rw [← bind_assoc]
        refine ((failsBy_listed files usual _).bind fun roots _ =>
          (failsBy_realPlace files (.ofText path)).bind (Q := fun _ => False) fun place _ => ?_).congr
          fun f => ⟨?_, ?_⟩
        · split
          next => split <;> exact .pure _
          next => exact .pure _
        · rintro ((⟨hg, h, rfl⟩ | ⟨vs, hg, hvs, w, hw, ht, rfl⟩ | ⟨p, hp, hf⟩) | hf | h)
          · exact .unlisted htry rfl hg h
          · exact .entry htry rfl hg hvs hw ht
          · exact .place htry (.inr hp) hf
          · exact .place htry (.inl rfl) hf
          · exact h.elim
        · rintro (⟨-, rfl, hg, h⟩ | ⟨-, rfl, hg, hvs, hw, ht⟩ | ⟨hp, rfl | h, hf⟩)
          · exact .inl (.inl ⟨hg, h, rfl⟩)
          · exact .inl (.inr (.inl ⟨_, hg, hvs, _, hw, ht, rfl⟩))
          · obtain rfl := hpath' hp
            exact .inr (.inl hf)
          · exact .inl (.inr (.inr ⟨_, h, hf⟩))
  next hno =>
    refine .of_ok _ fun f h => ?_
    obtain ⟨path, h⟩ := htries h
    exact hno path h.1

end FileRead

/-! ### Plugin actions -/

namespace Plugin

/-- Why a plugin action has no result: the manager was broken off because the run is cancelled. -/
inductive Lapse (manager : Option Manager) (params : Fields) : Failure → Prop where
  | cancelled {m : Manager} {c : Call} {f : Failure} (hm : manager = some m) (hc : call? params = some c)
    (h : m c = .error f) (hf : f.kind = .cancelled) : Lapse manager params f

/-- A plugin action has no result just if there is a lapse. -/
theorem failsBy_perform (manager : Option Manager) (params : Fields) :
    FailsBy (perform manager params).1 (Lapse manager params) := by
  cases manager with
  | none =>
    exact .of_ok _ fun f ⟨hm, _, _, _⟩ => by cases hm
  | some m =>
    cases hc : call? params with
    | none =>
      simp only [perform, hc]
      exact .of_ok _ fun f ⟨_, hc', _, _⟩ => by cases hc.symm.trans hc'
    | some c =>
      simp only [perform, hc, answer]
      cases hr : m c with
      | ok v =>
        refine .of_ok _ fun f ⟨hm, hc', h, _⟩ => ?_
        cases hm
        cases hc.symm.trans hc'
        cases hr.symm.trans h
      | error f =>
        simp only
        split
        next hf => exact .of_error (.cancelled rfl hc hr hf)
        next hf =>
          refine .of_ok _ fun f' ⟨hm, hc', h, hf'⟩ => ?_
          cases hm
          cases hc.symm.trans hc'
          cases hr.symm.trans h
          exact hf hf'

end Plugin

/-! ### Built-in executors -/

namespace Surroundings

/-- An executor answers with a result or with a failure that has a reason; with a result only if there is no
reason for a failure. -/
def Settles (e : Executor Surroundings) (params : Fields) (s : Surroundings) (P : Failure → Prop) : Prop :=
  (∃ r, (e.perform params s).1.reply = .result r ∧ ∀ f, ¬ P f) ∨
    ∃ f, (e.perform params s).1.reply = .failure f ∧ P f

theorem reply_ofOutcome {r : Outcome ActionResult} {P : Failure → Prop} (h : FailsBy r P) :
    (∃ a, (Performance.ofOutcome r).reply = .result a ∧ ∀ f, ¬ P f) ∨
      ∃ f, (Performance.ofOutcome r).reply = .failure f ∧ P f := by
  cases hr : r with
  | ok a => exact .inl ⟨a, rfl, h.ok hr⟩
  | error f => exact .inr ⟨f, rfl, h.error hr⟩

/-- Each built-in executor answers any parameters, in any surroundings: with a result if there is no lapse of
its kind, else with the failure of one. -/
theorem answers_of_builtin (usual : Int) (allowed : List FilePath) (params : Fields) (s : Surroundings) :
    Settles (shellExecutor usual) params s (Shell.Lapse s.host usual params s.files) ∧
    Settles (httpExecutor usual) params s (Http.Lapse s.transport usual params) ∧
    Settles (fileExecutor allowed) params s (FileRead.Lapse s.files allowed params) ∧
    Settles pluginExecutor params s (Plugin.Lapse s.manager params) :=
  ⟨reply_ofOutcome (Shell.failsBy_perform _ _ _ _ _), reply_ofOutcome (Http.failsBy_perform _ _ _),
    reply_ofOutcome (FileRead.failsBy_perform _ _ _), reply_ofOutcome (Plugin.failsBy_perform _ _)⟩

end Surroundings

end Workflow
