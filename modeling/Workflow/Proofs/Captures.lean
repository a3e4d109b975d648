import Mathlib.Data.List.Basic
import Workflow.Shell.Host

/-!
# What is kept of an output

An output is read to its end, and of all its bytes the first ones are kept, as many as the limit allows. How
the bytes come in chunks does not show: neither in what is kept nor in the result of a shell action
(`kept_of_chunks`).
-/

namespace Workflow.Shell

variable {limit : Nat} {chunks : List (List UInt8)}

/-! ### Reading -/

/-- Of what was read by now the buffer holds the first bytes, and still does with a chunk more: below the
limit the chunk is added, from the limit on it is dropped, and the chunk that crosses it is cut. -/
theorem addChunk_take (limit : Nat) (bytes chunk : List UInt8) :
    addChunk limit (bytes.take limit) chunk = (bytes ++ chunk).take limit := by
  have hroom : limit - (bytes.take limit).length = limit - bytes.length := by
    rw [List.length_take]
    omega
  rw [addChunk, hroom, List.take_append]

theorem readCapped_cons {chunk : List UInt8} (h : chunk ≠ []) (buffer : List UInt8)
    (rest : List (List UInt8)) :
    readCapped limit buffer (chunk :: rest) = readCapped limit (addChunk limit buffer chunk) rest := by
  cases chunk with
  | nil => exact (h rfl).elim
  | cons => rfl

/-- Nothing is left of the stream, and of all bytes the buffer holds the first ones. -/
theorem readCapped_take (limit : Nat) (h : ∀ chunk ∈ chunks, chunk ≠ []) (bytes : List UInt8) :
    readCapped limit (bytes.take limit) chunks = ((bytes ++ chunks.flatten).take limit, []) := by
  -- What was read by now grows by a chunk with each turn.
  induction chunks generalizing bytes with
  | nil => rw [readCapped, List.flatten_nil, List.append_nil]
  | cons chunk rest ih =>
    obtain ⟨hchunk, hrest⟩ := List.forall_mem_cons.1 h
    rw [readCapped_cons hchunk, addChunk_take, ih hrest, List.flatten_cons, List.append_assoc]

theorem readCapped_flatten (h : ∀ chunk ∈ chunks, chunk ≠ []) :
    readCapped limit [] chunks = (chunks.flatten.take limit, []) := by
  simpa using readCapped_take limit h []

/-- The text of an output is that of its first bytes. -/
theorem shown_eq (h : ∀ chunk ∈ chunks, chunk ≠ []) :
    shown limit chunks = .text (String.ofList (Text.decodeReplacing (chunks.flatten.take limit))) := by
  rw [shown, readCapped_flatten h]

/-! ### Results -/

namespace Process

/-- There are bytes in every chunk that a process writes. -/
structure InChunks (p : Process) : Prop where
  output : ∀ chunk ∈ p.output, chunk ≠ []
  errors : ∀ chunk ∈ p.errors, chunk ≠ []

/-- Two processes write the same bytes, each in chunks of its own, and end in the same way. -/
structure SameBytes (p q : Process) : Prop where
  left : p.InChunks
  right : q.InChunks
  output : p.output.flatten = q.output.flatten
  errors : p.errors.flatten = q.errors.flatten
  code : p.code = q.code
  isLate : p.isLate = q.isLate

theorem SameBytes.toResult_eq {p q : Process} (h : p.SameBytes q) : p.toResult limit = q.toResult limit := by
  have houtput : shown limit p.output = shown limit q.output := by
    rw [shown_eq h.left.output, shown_eq h.right.output, h.output]
  have herrors : shown limit p.errors = shown limit q.errors := by
    rw [shown_eq h.left.errors, shown_eq h.right.errors, h.errors]
  rw [toResult, toResult, houtput, herrors, h.code, h.isLate]

end Process

/-- Two hosts that were given one command: neither starts it, or the processes differ in their chunks alone. -/
inductive Host.Alike : Outcome (Process × FileTree) → Outcome (Process × FileTree) → Prop where
  | refused (f : Failure) : Alike (.error f) (.error f)
  | started {p q : Process} (files : FileTree) (h : p.SameBytes q) : Alike (.ok (p, files)) (.ok (q, files))

theorem perform_congr {host host' : Host}
    (hhosts : ∀ command files, Host.Alike (host command files) (host' command files))
    (usual : Int) (limit : Nat) (params : Fields) (files : FileTree) :
    perform host usual limit params files = perform host' usual limit params files := by
  unfold perform
  cases command? params with
  | none => rfl
  | some text =>
    dsimp only
    cases commandOf usual params text with
    | error f => rfl
    | ok command =>
      have halike := hhosts command files
      dsimp only
      generalize host command files = a at halike ⊢
      generalize host' command files = b at halike ⊢
      cases halike with
      | refused f => rfl
      | started files h => simp only [h.toResult_eq]

theorem ne_nil_of_chunks {s : Option Source} {chunk : List UInt8}
    (h : chunk ∈ (s.map Source.chunks).getD []) : chunk ≠ [] := by
  rintro rfl
  cases s with
  | none => exact absurd h List.not_mem_nil
  | some s => exact absurd (List.mem_filter.1 h).2 (by decide)

/-- The host of commands gives no chunk without bytes. -/
theorem inChunks_of_host {environment : List (String × String)} {command : Command} {files after : FileTree}
    {p : Process} (h : host environment command files = .ok (p, after)) : p.InChunks := by
  unfold host at h
  cases hd : startDirectory files command.directory with
  | error f =>
    rw [hd] at h
    cases h
  | ok directory =>
    rw [hd] at h
    simp only [bind, Except.bind, pure, Except.pure, throw, throwThe, MonadExceptOf.throw] at h
    split at h
    · cases h
    · split at h
      · cases h
        exact ⟨fun _ h => absurd h List.not_mem_nil, fun _ h => absurd h List.not_mem_nil⟩
      · cases h
        exact ⟨fun _ => ne_nil_of_chunks, fun _ => ne_nil_of_chunks⟩

/-- A stream of chunks with bytes in them is read to its end, and what is kept and shown of it are the first
bytes, up to the limit or all that there are. So two hosts that differ in the chunks alone leave the same
result and the same files. -/
theorem kept_of_chunks {host host' : Host}
    (hhosts : ∀ command files, Host.Alike (host command files) (host' command files))
    (usual : Int) (limit : Nat) (params : Fields) (files : FileTree) :
    (∀ chunks : List (List UInt8), (∀ chunk ∈ chunks, chunk ≠ []) →
      readCapped limit [] chunks = (chunks.flatten.take (min limit chunks.flatten.length), []) ∧
      shown limit chunks = .text (String.ofList (Text.decodeReplacing
        (chunks.flatten.take (min limit chunks.flatten.length))))) ∧
    perform host usual limit params files = perform host' usual limit params files := by
  have hmin (bytes : List UInt8) : bytes.take (min limit bytes.length) = bytes.take limit :=
    List.take_eq_take_iff.2 (by omega)
  refine ⟨fun chunks h => ?_, perform_congr hhosts usual limit params files⟩
  rw [hmin]
  exact ⟨readCapped_flatten h, shown_eq h⟩

/-- The first four of five bytes are kept and shown, whether they come in two chunks or in three. -/
theorem kept_of_hello :
    let host : Host := fun _ files => .ok ({ output := [[104, 101], [108, 108, 111]], code := some 0 }, files)
    let host' : Host := fun _ files => .ok ({ output := [[104], [101, 108, 108], [111]], code := some 0 }, files)
    let params : Fields := [(.text "command", .text "greet")]
    (∀ command files, Host.Alike (host command files) (host' command files)) ∧
    readCapped 4 [] [[104], [101, 108, 108], [111]] = ([104, 101, 108, 108], []) ∧
    shown 4 [[104], [101, 108, 108], [111]] = .text "hell" ∧
    perform host 30000 4 params ⟨[], ⟨"/", []⟩⟩ = perform host' 30000 4 params ⟨[], ⟨"/", []⟩⟩ := by
  intro host host' params
  have hhosts : ∀ command files, Host.Alike (host command files) (host' command files) := fun _ files =>
    .started files ⟨⟨by decide, by decide⟩, ⟨by decide, by decide⟩, rfl, rfl, rfl, rfl⟩
  have h := kept_of_chunks hhosts 30000 4 params ⟨[], ⟨"/", []⟩⟩
  have hchunks := h.1 [[104], [101, 108, 108], [111]] (by decide)
  exact ⟨hhosts, hchunks.1, hchunks.2.trans (congrArg Value.text (by decide +kernel)), h.2⟩

end Workflow.Shell
